import LedgerCourier.Account.Address
import LedgerCourier.Account.Base58
import LedgerCourier.Balance
import LedgerCourier.Bytes.Basic
import LedgerCourier.Bytes.Compact
import LedgerCourier.Bytes.Hex
import LedgerCourier.Collection
import LedgerCourier.CommandLine.Invocation
import LedgerCourier.CommandLine.Option
import LedgerCourier.CommandLine.Parser
import LedgerCourier.CommandLine.Program
import LedgerCourier.CommandLine.Settings
import LedgerCourier.CommandLine.Url
import LedgerCourier.Delivery
import LedgerCourier.Desk
import LedgerCourier.Digest.Blake2b
import LedgerCourier.Digest.Sha256
import LedgerCourier.Error
import LedgerCourier.Event
import LedgerCourier.Failure
import LedgerCourier.History
import LedgerCourier.Json.Basic
import LedgerCourier.Json.Reader
import LedgerCourier.Json.Writer
import LedgerCourier.Keys.Flaw
import LedgerCourier.Keys.Mnemonic
import LedgerCourier.Keys.Secret
import LedgerCourier.Keys.Source
import LedgerCourier.Keys.WordList
import LedgerCourier.Ledger
import LedgerCourier.Main
import LedgerCourier.Node.Basic
import LedgerCourier.Node.Extrinsic
import LedgerCourier.Node.Field
import LedgerCourier.Node.Report
import LedgerCourier.Node.Runtime
import LedgerCourier.Node.Setup
import LedgerCourier.Nonce.Allocator
import LedgerCourier.Nonce.Errand
import LedgerCourier.Nonce.Sequencer
import LedgerCourier.Nonce.Stale
import LedgerCourier.Operation.Arguments
import LedgerCourier.Operation.Basic
import LedgerCourier.Operation.CallData
import LedgerCourier.Operation.Reader
import LedgerCourier.Outcome
import LedgerCourier.Progress
import LedgerCourier.Proofs.Account.Address
import LedgerCourier.Proofs.Account.Base58
import LedgerCourier.Proofs.Bytes.Compact
import LedgerCourier.Proofs.Bytes.Hex
import LedgerCourier.Proofs.Bytes.Spelling
import LedgerCourier.Proofs.Call.Disclosure
import LedgerCourier.Proofs.Call.Handover
import LedgerCourier.Proofs.Call.Retries
import LedgerCourier.Proofs.Call.Stopping
import LedgerCourier.Proofs.Call.Story
import LedgerCourier.Proofs.Call.Timeout
import LedgerCourier.Proofs.Delivery.BlockContent
import LedgerCourier.Proofs.Delivery.Chronicle
import LedgerCourier.Proofs.Delivery.Deal
import LedgerCourier.Proofs.Delivery.Moves
import LedgerCourier.Proofs.Delivery.Observed
import LedgerCourier.Proofs.Delivery.Sound
import LedgerCourier.Proofs.Desk.Archive
import LedgerCourier.Proofs.Desk.Pursuit
import LedgerCourier.Proofs.Desk.Register
import LedgerCourier.Proofs.Desk.Subscriptions
import LedgerCourier.Proofs.Digest.Blake2b
import LedgerCourier.Proofs.History.Roll
import LedgerCourier.Proofs.History.Room
import LedgerCourier.Proofs.Keys.Source
import LedgerCourier.Proofs.Node.Translation
import LedgerCourier.Proofs.Nonce.Allocation
import LedgerCourier.Proofs.Nonce.Hall
import LedgerCourier.Proofs.Nonce.Isolation
import LedgerCourier.Proofs.Nonce.Line
import LedgerCourier.Proofs.Nonce.Office
import LedgerCourier.Proofs.Nonce.Outstanding
import LedgerCourier.Proofs.Nonce.Renewal
import LedgerCourier.Proofs.Nonce.Stale
import LedgerCourier.Proofs.Nonce.Succession
import LedgerCourier.Proofs.Operation.Acceptance
import LedgerCourier.Proofs.Operation.Composition
import LedgerCourier.Proofs.Operation.Decoding
import LedgerCourier.Proofs.Operation.Form
import LedgerCourier.Proofs.Operation.Grammar
import LedgerCourier.Proofs.Operation.Headers
import LedgerCourier.Proofs.Operation.Nesting
import LedgerCourier.Proofs.Operation.Rendering
import LedgerCourier.Proofs.Operation.Writing
import LedgerCourier.Proofs.Status.Disorder
import LedgerCourier.Proofs.Status.Lifecycle
import LedgerCourier.Proofs.Status.Replay
import LedgerCourier.Proofs.Submission.Passage
import LedgerCourier.Proofs.Submission.Undoing
import LedgerCourier.Proofs.Text.Balance
import LedgerCourier.Proofs.Text.Blank
import LedgerCourier.Proofs.Text.Decimal
import LedgerCourier.Proofs.Text.Utf8
import LedgerCourier.Proofs.Traffic.Basic
import LedgerCourier.Proofs.Traffic.Books
import LedgerCourier.Proofs.Traffic.Clearing
import LedgerCourier.Proofs.Traffic.Conservation
import LedgerCourier.Proofs.Traffic.Narration
import LedgerCourier.Proofs.Traffic.OwnEvents
import LedgerCourier.Proofs.Traffic.Resubmission
import LedgerCourier.Proofs.Traffic.Success
import LedgerCourier.Proofs.Watch.Batches
import LedgerCourier.Proofs.Watch.Moves
import LedgerCourier.Proofs.Watch.Queue
import LedgerCourier.Rehearsal.Machines
import LedgerCourier.Rehearsal.Scheduler
import LedgerCourier.Rehearsal.ScriptedLedger
import LedgerCourier.Rehearsal.Session
import LedgerCourier.Settings
import LedgerCourier.Status.Basic
import LedgerCourier.Status.Tracker
import LedgerCourier.Submission
import LedgerCourier.Table
import LedgerCourier.Text.Binary64
import LedgerCourier.Text.Blank
import LedgerCourier.Text.Decimal
import LedgerCourier.Text.LatinForms
import LedgerCourier.Text.Printable
import LedgerCourier.Text.Quoted
import LedgerCourier.Text.Utf8
import LedgerCourier.Text.WordChar
import LedgerCourier.Watch
