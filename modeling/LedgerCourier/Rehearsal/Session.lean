import LedgerCourier.Rehearsal.Machines

/-!
Sessions with a ledger in memory.

A session keeps the clock, the ledger and the courier's desk between rehearsals. It runs one
task alone or several together, and hands out the subscriptions of accepted extrinsics so
that their notices can be taken one at a time.
-/

namespace LedgerCourier.Rehearsal

set_option autoImplicit false

structure Session (World : Type) where
  now : Nat
  world : World
  desk : Desk

/-- How many steps of the scheduler a rehearsal may take, which is more than any needs. -/
def patience : Nat := 0x1000000000000

/-- How a task ended, and how long it took. A task that was abandoned has no result. -/
abbrev Report (Result : Type) := Option (Result × Nat)

structure Feed where
  upcoming : List (Notice × Nat)
  closes : Bool

inductive Glance where
  | notice (notice : Notice)
  | silence
  | over

def Feed.take (feed : Feed) (now : Nat) : Glance × Feed :=
  match feed.upcoming with
  | [] => (if feed.closes then .over else .silence, feed)
  | (notice, time) :: rest =>
      if time ≤ now then (.notice notice, { feed with upcoming := rest }) else (.silence, feed)

def Runner.report {Task Result Ticket : Type} (runner : Runner Task Result Ticket) :
    Report Result :=
  match runner.fate with
  | .ended result time => some (result, time - runner.begins)
  | _ => none

def Runner.feed {Task Result Ticket : Type} (runner : Runner Task Result Ticket) : Feed :=
  ⟨runner.upcoming, runner.closes⟩

namespace Session

variable {World Ticket Task Result : Type}

def start (world : World) (historyCapacity : Nat) : Session World :=
  ⟨0, world, Desk.start historyCapacity⟩

def configure (session : Session World) (change : World → World) : Session World :=
  { session with world := change session.world }

def wait (session : Session World) (duration : Nat) : Session World :=
  { session with now := session.now + duration }

def rehearse (session : Session World) (backend : Backend World Ticket)
    (machine : Machine Task Result) (runners : List (Runner Task Result Ticket))
    (probes : List Nat) : Session World × State World Ticket Task Result :=
  let state := State.run backend machine patience
    (State.start session.now session.world session.desk runners probes)
  (⟨state.now, state.world, state.desk⟩, state)

def together (session : Session World) (backend : Backend World Ticket)
    (machine : Machine Task Result) (tasks : List Task) :
    Session World × List (Report Result) :=
  let (session, state) := session.rehearse backend machine
    (tasks.zipIdx.map fun (task, index) => Runner.ofTask index session.now none task) []
  (session, state.runners.toList.map Runner.report)

def alone (session : Session World) (backend : Backend World Ticket)
    (machine : Machine Task Result) (task : Task) :
    Session World × Report Result × Feed :=
  let (session, state) := session.rehearse backend machine
    [Runner.ofTask 0 session.now none task] []
  match state.runners[0]? with
  | some runner => (session, runner.report, runner.feed)
  | none => (session, none, ⟨[], false⟩)

end Session

end LedgerCourier.Rehearsal
