import LedgerCourier.Status.Basic

/-!
The lifecycle of one transaction.

A tracker takes the reports about one transaction as they come and keeps those that make
sense: repetitions and reports that came too late are ignored, the only way back leads from
a block to retraction, and nothing follows a terminal state. After a retraction the way to
success begins anew.
-/

namespace LedgerCourier

set_option autoImplicit false

inductive Applied where
  | advanced
  /-- The report was a repetition, came too late or did not fit. -/
  | ignored
  | terminal
deriving DecidableEq

structure Tracker where
  current : Option Status
  history : List Status
deriving DecidableEq

namespace Tracker

def start : Tracker := ⟨none, []⟩

def isTerminal (tracker : Tracker) : Bool := tracker.current.any Status.isTerminal

/-- Whether a report may follow a state that is not terminal and is not that report. -/
def follows (current : Option Status) (status : Status) : Bool :=
  match current, status with
  | some (.inBlock _), .retracted => true
  | _, .retracted => false
  | _, .invalid _ | _, .dropped | _, .usurped => true
  | some (.inBlock _), .inBlock _ => true
  | current, next =>
      let reached := (current.bind Status.rank?).getD 0
      next.rank?.any fun rank => reached < rank

def accepts (tracker : Tracker) (status : Status) : Bool :=
  !tracker.isTerminal && tracker.current != some status && follows tracker.current status

def apply (tracker : Tracker) (status : Status) : Tracker × Applied :=
  if tracker.accepts status then
    (⟨some status, tracker.history ++ [status]⟩,
      if status.isTerminal then .terminal else .advanced)
  else (tracker, .ignored)

def feed (tracker : Tracker) (statuses : List Status) : Tracker :=
  statuses.foldl (fun tracker status => (tracker.apply status).1) tracker

end Tracker

end LedgerCourier
