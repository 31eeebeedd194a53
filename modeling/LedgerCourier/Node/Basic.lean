import LedgerCourier.Node.Extrinsic
import LedgerCourier.Node.Report
import LedgerCourier.Json.Basic
import LedgerCourier.Rehearsal.Scheduler
import LedgerCourier.Table

/-!
An ordinary node in memory.

The node keeps accounts, blocks and properties, answers at once, and accepts every extrinsic
that it is sent. Its requests go by name. Each one is written down when it arrives, and any
of them can be set to fail. What takes several requests ends with the first that fails.
-/

namespace LedgerCourier

set_option autoImplicit false

inductive Method where
  | finalizedHead | stateCall | storage | properties | header | block | submit
  | blockHash | runtimeVersion
deriving DecidableEq

def Method.name : Method → String
  | .finalizedHead => "chain_getFinalizedHead"
  | .stateCall => "state_call"
  | .storage => "state_getStorage"
  | .properties => "system_properties"
  | .header => "chain_getHeader"
  | .block => "chain_getBlock"
  | .submit => "author_submitAndWatchExtrinsic"
  | .blockHash => "chain_getBlockHash"
  | .runtimeVersion => "state_getRuntimeVersion"

inductive AccountShape where
  | numeric
  /-- There is a record, but no free balance in it, or none that is a number. -/
  | unusable
  | missing
deriving DecidableEq

structure Block where
  extrinsics : List Bytes
  events : List Event

structure Node where
  facts : ChainFacts
  /-- Whether failures come over a connection, which shows more than their message. -/
  remote : Bool
  nonceBytes : Bytes
  balances : Table AccountId Amount
  shape : AccountShape
  properties : Json
  failures : Table String (Option String)
  blocks : Table Hash Block
  inclusion : Option Hash
  /-- The reports on the extrinsics that are accepted next, and whether they go on after that. -/
  reports : List (List NodeReport × Bool)
  accepted : List Bytes
  requests : List String

namespace Node

def blank (facts : ChainFacts) (remote : Bool) : Node where
  facts := facts
  remote := remote
  nonceBytes := [0, 0, 0, 0]
  balances := Table.empty
  shape := .numeric
  properties := .object []
  failures := Table.empty
  blocks := Table.empty
  inclusion := none
  reports := []
  accepted := []
  requests := []

def failure (node : Node) (message : String) : Failure :=
  .request (if node.remote then
    "ErrorObject \x7b code: ServerError(1010), message: " ++ Quoted.text message ++
      ", data: None \x7d"
    else message)

def request (node : Node) (method : Method) : Node × Except Failure Unit :=
  ({ node with requests := node.requests ++ [method.name] },
    match (node.failures.get? method.name).join with
    | some message => .error (node.failure message)
    | none => .ok ())

def requestAll (node : Node) : List Method → Node × Except Failure Unit
  | [] => (node, .ok ())
  | method :: rest =>
      match node.request method with
      | (node, .error cause) => (node, .error cause)
      | (node, .ok _) => node.requestAll rest

def after {Value : Type} (node : Node) (methods : List Method)
    (answer : Node → Except Failure Value) : Node × Except Failure Value :=
  match node.requestAll methods with
  | (node, .error cause) => (node, .error cause)
  | (node, .ok _) => (node, answer node)

/-- The next nonce of an account, which is written in two, four or eight bytes. -/
def accountNonce (node : Node) : Node × Except Failure Nat :=
  node.after [.finalizedHead, .stateCall] fun node =>
    if [2, 4, 8].contains node.nonceBytes.length then .ok (ofLittleEndian node.nonceBytes)
    else .error (.nonceWidth node.nonceBytes.length)

def freeBalance (node : Node) (account : AccountId) : Node × Except Failure Amount :=
  if node.shape = .missing then
    node.after [.finalizedHead] fun _ => .error (.noStorage "System")
  else
    node.after [.finalizedHead, .storage] fun node =>
      match node.balances.get? account with
      | none => .ok Amount.zero
      | some amount =>
          if node.shape = .numeric then .ok amount
          else .error (.other ("No free balance in account info of " ++ account.text))

/-- A number of decimals that properties advertise: one number, or the first of several. -/
def decimalsOf (properties : Json) : Option Nat :=
  let value := match properties.field? "tokenDecimals" with
    | some (.array items) => items.head?
    | other => other
  match value with
  | some (.integer number) =>
      if 0 ≤ number && number < (UInt32.size : Int) then some number.toNat else none
  | _ => none

def tokenDecimals (node : Node) : Node × Except Failure (Option Nat) :=
  node.after [.properties] fun node => .ok (decimalsOf node.properties)

def usualDecimals : Nat := 12

def displayDecimals (node : Node) : Node × Except Error Nat :=
  match node.tokenDecimals with
  | (node, .ok decimals) => (node, .ok (decimals.getD usualDecimals))
  | (node, .error cause) => (node, .error (.queryFailed cause))

def position (node : Node) (block extrinsic : Hash) : Node × Except Failure (Option Nat) :=
  match node.request .header with
  | (node, .error cause) => (node, .error cause)
  | (node, .ok _) =>
      match node.blocks.get? block with
      | none => (node, .error (.unknownBlock block))
      | some held =>
          node.after [.block] fun _ =>
            .ok (held.extrinsics.findIdx? fun bytes => Blake2b.digest256 bytes == extrinsic)

/-- The events of a block. A block that is unknown has none. -/
def eventsAt (node : Node) (block : Hash) : Node × Except Failure (List Event) :=
  node.after [.storage] fun node =>
    .ok (((node.blocks.get? block).map Block.events).getD [])

def accept (node : Node) (extrinsic : Bytes) : Node :=
  let node := { node with accepted := node.accepted ++ [extrinsic] }
  match node.inclusion with
  | none => node
  | some block =>
      let held := (node.blocks.get? block).getD ⟨[], []⟩
      { node with
        blocks := node.blocks.insert block
          { held with extrinsics := held.extrinsics ++ [extrinsic] } }

def takeReports (node : Node) : Node × Rehearsal.Subscription :=
  let (reports, staysOpen) := node.reports.head?.getD ([], true)
  let (notices, ended) := NodeReport.notices reports
  ({ node with reports := node.reports.tail },
    ⟨notices.map fun notice => (notice, 0), staysOpen && !ended⟩)

def submitAndWatch (node : Node) (extrinsic : Bytes) :
    Node × Except Failure Rehearsal.Subscription :=
  match node.request .submit with
  | (node, .error cause) => (node, .error cause)
  | (node, .ok _) =>
      let (node, subscription) := (node.accept extrinsic).takeReports
      (node, .ok subscription)

def answer (node : Node) : Request → Node × Answer × Option Rehearsal.Subscription
  | .nonce _ =>
      let (node, result) := node.accountNonce
      (node, .nonce result, none)
  | .send extrinsic =>
      match node.submitAndWatch extrinsic with
      | (node, .ok subscription) => (node, .sent (.ok ()), some subscription)
      | (node, .error cause) => (node, .sent (.error cause), none)
  | .position block extrinsic =>
      let (node, result) := node.position block extrinsic
      (node, .position result, none)
  | .events block =>
      let (node, result) := node.eventsAt block
      (node, .events result, none)

def backend : Rehearsal.Backend Node Request where
  channel := fun node => Extrinsic.channel node.facts
  ask := fun node request => (node, request, some 0)
  answer := answer

end Node

end LedgerCourier
