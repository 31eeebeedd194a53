import LedgerCourier.Collection
import LedgerCourier.Outcome
import LedgerCourier.Status.Tracker
import LedgerCourier.Submission

/-!
Following a transaction until it settles.

Notices about a transaction arrive in an inbox and are taken from it one by one. A report
that counts goes into the history, which others use as well and which has to be waited for if
it is not free. After each notice the current state of the transaction decides. A failure ends
the watch, and the number of the transaction is taken care of if the ledger cannot use it any
more. A state that is deep enough ends it with success, after the transaction's events have
been collected as far as they can be. Success at a block that may still be abandoned is only
reported while the inbox is empty, both before and after the events are collected, so that a
retraction which has already arrived is never passed over.
-/

namespace LedgerCourier

set_option autoImplicit false

inductive Watch.Stage where
  | awaiting
  /-- The tracker has accepted a report, and the history was not free to keep it. -/
  | recording (status : Status)
  /-- The state is deep enough, and the transaction's events are collected from its block. -/
  | collecting (status : Status) (block : Hash) (collection : Collection)
  | settling (errand : Errand) (error : Error)

structure Watch where
  transaction : SignedTransaction
  depth : Depth
  tracker : Tracker
  inbox : List Notice
  closed : Bool
  stage : Watch.Stage

namespace Watch

def start (transaction : SignedTransaction) (depth : Depth) : Watch :=
  ⟨transaction, depth, Tracker.start, [], false, .awaiting⟩

def deliver (watch : Watch) (notice : Notice) : Watch :=
  { watch with inbox := watch.inbox ++ [notice] }

def close (watch : Watch) : Watch := { watch with closed := true }

def settle (watch : Watch) (purpose : Errand.Purpose) (error : Error) : Watch :=
  { watch with stage := .settling (Errand.start watch.transaction.origin purpose) error }

/-- Whether a state can still be taken back by a notice that has already arrived. -/
def isOvertaken (watch : Watch) (status : Status) : Bool :=
  !status.isTerminal && !watch.inbox.isEmpty

def examine (watch : Watch) : Progress Watch (Verdict Outcome) :=
  let nonce := watch.transaction.nonce
  let hash := watch.transaction.hash
  match watch.tracker.current with
  | none => .goesOn { watch with stage := .awaiting } none
  | some (.invalid reason) =>
      let purpose : Errand.Purpose := if Stale.isStale reason then .forget else .giveBack nonce
      .goesOn (watch.settle purpose (.rejected nonce hash reason)) none
  | some .dropped => .goesOn (watch.settle (.giveBack nonce) (.dropped nonce hash)) none
  | some .usurped => .ends (.failure (.usurped nonce hash))
  | some status =>
      match status.block? with
      | none => .goesOn { watch with stage := .awaiting } none
      | some block =>
          if !watch.depth.isSatisfiedBy status || watch.isOvertaken status then
            .goesOn { watch with stage := .awaiting } none
          else
            .goesOn { watch with stage := .collecting status block (.starting block hash) } none

/-- Whether the history takes a report at once. One that keeps nothing is not waited for. -/
def canRecord (desk : Desk) (moment : Moment) : Bool :=
  moment.historyFree || desk.history.capacity == 0

def record (desk : Desk) (watch : Watch) (status : Status) :
    Desk × Progress Watch (Verdict Outcome) :=
  ({ desk with history := desk.history.record watch.transaction.hash status }, watch.examine)

/-- Takes a state report: the tracker judges it, and the history keeps it if it counts, as soon
as it is free. -/
def takeStatus (desk : Desk) (moment : Moment) (watch : Watch) (status : Status) :
    Desk × Progress Watch (Verdict Outcome) :=
  let (tracker, applied) := watch.tracker.apply status
  let watch := { watch with tracker := tracker }
  if applied = .ignored then (desk, watch.examine)
  else if canRecord desk moment then record desk watch status
  else (desk, .goesOn { watch with stage := .recording status } none)

def outcome (watch : Watch) (status : Status) (block : Hash) (events : List Event) : Outcome where
  status := status
  block := block
  events := events
  nonce := watch.transaction.nonce
  hash := watch.transaction.hash
  history := watch.tracker.history
  dispatch := Dispatch.ofEvents events

/-- Ends the watch with the events that could be collected, unless a notice has arrived
meanwhile that may take the state back. -/
def conclude (watch : Watch) (status : Status) (block : Hash) (events : List Event) :
    Progress Watch (Verdict Outcome) :=
  if watch.isOvertaken status then .goesOn { watch with stage := .awaiting } none
  else .ends (.success (watch.outcome status block events))

def advance (task : TaskId) (desk : Desk) (moment : Moment) (watch : Watch) :
    Desk × Progress Watch (Verdict Outcome) :=
  let nonce := watch.transaction.nonce
  let hash := watch.transaction.hash
  match watch.stage with
  | .awaiting =>
      match watch.inbox with
      | .status status :: rest => takeStatus desk moment { watch with inbox := rest } status
      | .failure cause :: _ => (desk, .ends (.failure (.watch nonce hash cause)))
      | [] =>
          if watch.closed then (desk, .ends (.failure (.subscriptionClosed nonce hash)))
          else (desk, .waits)
  | .recording status =>
      if canRecord desk moment then record desk watch status else (desk, .waits)
  | .collecting status block collection =>
      (desk, (collection.advance moment.answer).lift
        (fun collection => { watch with stage := .collecting status block collection })
        fun
        | .ok events => watch.conclude status block events
        | .error _ => watch.conclude status block [])
  | .settling errand error =>
      let (sequencer, progress) := errand.advance task desk.sequencer moment.answer
      ({ desk with sequencer := sequencer },
        progress.lift (fun errand => { watch with stage := .settling errand error })
          fun _ => .ends (.failure error))

def abandon (task : TaskId) (desk : Desk) (watch : Watch) : Desk :=
  match watch.stage with
  | .settling errand _ => { desk with sequencer := errand.abandon task desk.sequencer }
  | _ => desk

end Watch

end LedgerCourier
