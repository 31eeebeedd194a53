import LedgerCourier.Settings
import LedgerCourier.Watch

/-!
Delivering a call: attempts, pauses, the deadline and the caller's token.

A delivery submits a call and watches the transaction. If the ledger dropped it or refused
to take it, the delivery pauses and tries once more, as often as the settings allow and as
long as the pause ends before the deadline. The deadline and the caller's token are looked
at before each step, the token first, and both before anything that has arrived. Nothing
new is started once one of them has struck. An extrinsic that was already sent is not
recalled, and its number stays used.
-/

namespace LedgerCourier

set_option autoImplicit false

inductive Interruption where
  | cancelled
  | timedOut
deriving DecidableEq

def Interruption.toError (interruption : Interruption) (nonce : Option Nat) (hash : Option Hash)
    (lastStatus : Option Status) : Error :=
  match interruption with
  | .cancelled => .cancelled nonce hash
  | .timedOut => .timeout nonce hash lastStatus

inductive Delivery.Stage where
  | submitting (submission : Submission)
  | watching (watch : Watch)
  /-- The last attempt failed with this error, and the next one starts at this time. -/
  | pausing (wakeAt : Nat) (error : Error)

structure Delivery where
  call : EncodedCall
  signer : Signer
  depth : Depth
  deadline : Option Nat
  settings : Settings
  repetitions : Nat
  stage : Delivery.Stage

namespace Delivery

def start (now : Nat) (settings : Settings) (options : WaitOptions) (call : EncodedCall)
    (signer : Signer) : Delivery where
  call := call
  signer := signer
  depth := options.depth
  deadline := options.timeout.map (now + ·)
  settings := settings
  repetitions := 0
  stage := .submitting (Submission.start call signer)

def isLate (delivery : Delivery) (time : Nat) : Bool :=
  delivery.deadline.any fun deadline => deadline ≤ time

/-- What strikes at this moment. A pause is not struck by the deadline, behind which it would not
have begun. -/
def interruption? (delivery : Delivery) (moment : Moment) : Option Interruption :=
  match delivery.stage with
  | .pausing _ _ => none
  | _ =>
      if moment.cancelled then some .cancelled
      else if delivery.isLate moment.now then some .timedOut
      else none

def interruptedError (delivery : Delivery) (interruption : Interruption) : Error :=
  match delivery.stage with
  | .submitting submission => interruption.toError submission.nonce? none none
  | .watching watch =>
      interruption.toError (some watch.transaction.nonce) (some watch.transaction.hash)
        watch.tracker.current
  | .pausing _ error => error

/-- A delivery that is given up leaves the line that it stands in and stops watching. -/
def abandon (task : TaskId) (desk : Desk) (delivery : Delivery) : Desk :=
  match delivery.stage with
  | .submitting submission => submission.abandon task desk
  | .watching watch =>
      let desk := watch.abandon task desk
      { desk with watches := desk.watches - 1 }
  | .pausing _ _ => desk

def afterFailure (delivery : Delivery) (now : Nat) (error : Error) :
    Progress Delivery (Verdict Outcome) :=
  if error.isRetryable && delivery.repetitions < delivery.settings.maxRetries then
    let repetitions := delivery.repetitions + 1
    let wakeAt := now + delivery.settings.pause repetitions
    if delivery.isLate wakeAt then .ends (.failure error)
    else .goesOn { delivery with repetitions := repetitions, stage := .pausing wakeAt error } none
  else .ends (.failure error)

def proceed (task : TaskId) (desk : Desk) (moment : Moment) (delivery : Delivery) :
    Desk × Progress Delivery (Verdict Outcome) :=
  match delivery.stage with
  | .submitting submission =>
      let (desk, progress) := submission.advance task desk moment
      (desk, progress.lift (fun submission => { delivery with stage := .submitting submission })
        fun
        | .success transaction =>
            .goesOn { delivery with stage := .watching (Watch.start transaction delivery.depth) }
              none
        | .failure error => delivery.afterFailure moment.now error
        | .overflow => .ends .overflow)
  | .watching watch =>
      let (desk, progress) := watch.advance task desk moment
      match progress with
      | .waits => (desk, .waits)
      | .goesOn watch request => (desk, .goesOn { delivery with stage := .watching watch } request)
      | .ends verdict =>
          ({ desk with watches := desk.watches - 1 },
            match verdict with
            | .failure error => delivery.afterFailure moment.now error
            | other => .ends other)
  | .pausing wakeAt error =>
      if moment.cancelled then (desk, .ends (.failure error))
      else if wakeAt ≤ moment.now then
        (desk, .goesOn { delivery with
          stage := .submitting (Submission.start delivery.call delivery.signer) } none)
      else (desk, .waits)

def advance (task : TaskId) (desk : Desk) (moment : Moment) (delivery : Delivery) :
    Desk × Progress Delivery (Verdict Outcome) :=
  match delivery.interruption? moment with
  | some interruption =>
      (delivery.abandon task desk, .ends (.failure (delivery.interruptedError interruption)))
  | none => delivery.proceed task desk moment

def deliver (delivery : Delivery) (notice : Notice) : Delivery :=
  match delivery.stage with
  | .watching watch => { delivery with stage := .watching (watch.deliver notice) }
  | _ => delivery

def close (delivery : Delivery) : Delivery :=
  match delivery.stage with
  | .watching watch => { delivery with stage := .watching watch.close }
  | _ => delivery

def alarms (delivery : Delivery) : List Nat :=
  match delivery.stage with
  | .pausing wakeAt _ => [wakeAt]
  | _ => delivery.deadline.toList

end Delivery

end LedgerCourier
