import LedgerCourier.Desk
import LedgerCourier.Digest.Blake2b
import LedgerCourier.Nonce.Errand
import LedgerCourier.Nonce.Stale

/-!
Signing a call and handing it to the ledger.

A submission reserves a number, has the payload signed, puts the extrinsic together and
sends it. If anything after the reservation fails, the number is not lost: it is given back,
or, if the text of the error says that the number is out of date, what is known about the
account is forgotten. An accepted extrinsic is being watched from that step on.
-/

namespace LedgerCourier

set_option autoImplicit false

structure SignedTransaction where
  call : EncodedCall
  nonce : Nat
  origin : AccountId
  signature : Signature
  extrinsic : Bytes
  /-- The hash of those bytes, by which the ledger knows the transaction. -/
  hash : Hash

namespace SignedTransaction

def prepare (channel : Channel) (signer : Signer) (call : EncodedCall) (nonce : Nat) :
    Except Error SignedTransaction :=
  match channel.payload call nonce with
  | .error cause => .error (.build nonce cause)
  | .ok payload =>
      match signer.sign payload with
      | .error message => .error (.sign nonce message)
      | .ok signature =>
          match channel.assemble call nonce signer.account signature with
          | .error cause => .error (.build nonce cause)
          | .ok extrinsic =>
              .ok ⟨call, nonce, signer.account, signature, extrinsic,
                Blake2b.digest256 extrinsic⟩

end SignedTransaction

inductive Submission.Stage where
  | reserving (errand : Errand)
  | preparing (nonce : Nat)
  /-- The ledger has the extrinsic and has not answered. -/
  | sending (transaction : SignedTransaction)
  | undoing (nonce : Nat) (errand : Errand) (error : Error)

structure Submission where
  call : EncodedCall
  signer : Signer
  stage : Submission.Stage

namespace Submission

def start (call : EncodedCall) (signer : Signer) : Submission :=
  ⟨call, signer, .reserving (Errand.start signer.account .reserve)⟩

def startWith (call : EncodedCall) (signer : Signer) (nonce : Nat) : Submission :=
  ⟨call, signer, .preparing nonce⟩

def nonce? (submission : Submission) : Option Nat :=
  match submission.stage with
  | .reserving _ => none
  | .preparing nonce => some nonce
  | .sending transaction => some transaction.nonce
  | .undoing nonce _ _ => some nonce

/-- What is done about the number of a submission that failed. -/
def remedy (error : Error) (nonce : Nat) : Errand.Purpose :=
  if Stale.isStale error.message then .forget else .giveBack nonce

def undo (submission : Submission) (nonce : Nat) (error : Error) : Submission :=
  { submission with
    stage := .undoing nonce (Errand.start submission.signer.account (remedy error nonce)) error }

def advance (task : TaskId) (desk : Desk) (moment : Moment) (submission : Submission) :
    Desk × Progress Submission (Verdict SignedTransaction) :=
  match submission.stage with
  | .reserving errand =>
      let (sequencer, progress) := errand.advance task desk.sequencer moment.answer
      ({ desk with sequencer := sequencer },
        progress.lift (fun errand => { submission with stage := .reserving errand })
          fun
          | .reserved nonce => .goesOn { submission with stage := .preparing nonce } none
          | .exhausted => .ends .overflow
          | .failed cause => .ends (.failure (.nonceInit errand.account cause))
          | .done => .waits)
  | .preparing nonce =>
      (desk,
        match SignedTransaction.prepare moment.channel submission.signer submission.call nonce with
        | .ok transaction =>
            .goesOn { submission with stage := .sending transaction }
              (some (.send transaction.extrinsic))
        | .error error => .goesOn (submission.undo nonce error) none)
  | .sending transaction =>
      match moment.answer with
      | some (.sent (.ok _)) =>
          ({ desk with watches := desk.watches + 1 }, .ends (.success transaction))
      | some (.sent (.error cause)) =>
          (desk,
            .goesOn (submission.undo transaction.nonce (.submit transaction.nonce cause)) none)
      | _ => (desk, .waits)
  | .undoing nonce errand error =>
      let (sequencer, progress) := errand.advance task desk.sequencer moment.answer
      ({ desk with sequencer := sequencer },
        progress.lift (fun errand => { submission with stage := .undoing nonce errand error })
          fun _ => .ends (.failure error))

def abandon (task : TaskId) (desk : Desk) (submission : Submission) : Desk :=
  match submission.stage with
  | .reserving errand | .undoing _ errand _ =>
      { desk with sequencer := errand.abandon task desk.sequencer }
  | _ => desk

end Submission

end LedgerCourier
