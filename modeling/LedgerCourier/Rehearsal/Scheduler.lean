import LedgerCourier.Desk
import LedgerCourier.Progress

/-!
Rehearsing tasks on a virtual clock.

A rehearsal runs tasks together against a ledger that lives in memory. Code takes no time.
At each instant the tasks run in the order in which they are listed, each until it has to
wait, and again from the first as long as one of them could move. When none can, the clock
jumps to the next time at which something is due. A task that has not ended a day after it
began is abandoned. Probes look at the number of watches when everything at their instant
has come to rest.

The scheduler moves in small steps, of which each either lets one task advance, turns to
the next task, or moves the clock.
-/

namespace LedgerCourier.Rehearsal

set_option autoImplicit false

structure Subscription where
  notices : List (Notice × Nat)
  staysOpen : Bool

structure Backend (World Ticket : Type) where
  channel : World → Channel
  /-- Takes a request, and tells after how many milliseconds it will be answered, if ever. -/
  ask : World → Request → World × Ticket × Option Nat
  /-- Answers a request. With the acceptance of an extrinsic a subscription begins. -/
  answer : World → Ticket → World × Answer × Option Subscription

structure Machine (Task Result : Type) where
  advance : TaskId → Desk → Moment → Task → Desk × Progress Task Result
  /-- Whether the next step will end the task without looking at what has arrived. -/
  isStruck : Moment → Task → Bool
  abandon : TaskId → Desk → Task → Desk
  deliver : Task → Notice → Task
  close : Task → Task
  alarms : Task → List Nat

inductive Fate (Task Result : Type) where
  | running (task : Task)
  | ended (result : Result) (time : Nat)
  | abandoned

structure Runner (Task Result Ticket : Type) where
  id : TaskId
  begins : Nat
  cancelsAt : Option Nat
  fate : Fate Task Result
  pending : Option (Ticket × Option Nat)
  upcoming : List (Notice × Nat)
  /-- Whether the reports end after the upcoming notices. -/
  closes : Bool

structure State (World Ticket Task Result : Type) where
  now : Nat
  world : World
  desk : Desk
  runners : Array (Runner Task Result Ticket)
  turn : Nat
  moved : Bool
  probes : List Nat
  probed : List (Nat × Nat)

def dayLength : Nat := 86400000

variable {World Ticket Task Result : Type}

namespace Runner

def ofTask (id : TaskId) (begins : Nat) (cancelsAt : Option Nat) (task : Task) :
    Runner Task Result Ticket :=
  ⟨id, begins, cancelsAt, .running task, none, [], false⟩

/-- What the runner finds at this time, without an answer. Code takes no time, so the history is
always free. -/
def moment (runner : Runner Task Result Ticket) (now : Nat) (channel : Channel) : Moment where
  now := now
  cancelled := runner.cancelsAt.any fun time => time ≤ now
  channel := channel
  answer := none
  historyFree := true

def receive (machine : Machine Task Result) (now : Nat) (runner : Runner Task Result Ticket)
    (task : Task) : Runner Task Result Ticket × Task :=
  let due := runner.upcoming.takeWhile fun notice => notice.2 ≤ now
  let rest := runner.upcoming.dropWhile fun notice => notice.2 ≤ now
  let task := due.foldl (fun task notice => machine.deliver task notice.1) task
  let ends := rest.isEmpty && runner.closes
  ({ runner with upcoming := rest, closes := runner.closes && !ends },
    if ends then machine.close task else task)

def dueTicket? (runner : Runner Task Result Ticket) (now : Nat) : Option Ticket :=
  match runner.pending with
  | some (ticket, some time) => if time ≤ now then some ticket else none
  | _ => none

def subscribe (runner : Runner Task Result Ticket) (now : Nat) :
    Option Subscription → Runner Task Result Ticket
  | none => runner
  | some subscription =>
      { runner with
        upcoming := subscription.notices.map fun notice => (notice.1, now + notice.2)
        closes := !subscription.staysOpen }

def dueTimes (machine : Machine Task Result) (runner : Runner Task Result Ticket) : List Nat :=
  match runner.fate with
  | .running task =>
      machine.alarms task ++ [runner.begins, runner.begins + dayLength] ++
        runner.cancelsAt.toList ++ (runner.upcoming.head?.map Prod.snd).toList ++
        (runner.pending.bind Prod.snd).toList
  | _ => []

end Runner

namespace State

def start (now : Nat) (world : World) (desk : Desk) (runners : List (Runner Task Result Ticket))
    (probes : List Nat) : State World Ticket Task Result where
  now := now
  world := world
  desk := desk
  runners := runners.toArray
  turn := 0
  moved := false
  probes := probes
  probed := []

def turnOver (state : State World Ticket Task Result) : State World Ticket Task Result :=
  { state with turn := state.turn + 1 }

def put (state : State World Ticket Task Result) (runner : Runner Task Result Ticket) :
    State World Ticket Task Result :=
  { state with runners := state.runners.setIfInBounds state.turn runner, moved := true }

def advanceTask (backend : Backend World Ticket) (machine : Machine Task Result)
    (state : State World Ticket Task Result) (runner : Runner Task Result Ticket) (task : Task) :
    State World Ticket Task Result :=
  let (runner, task) := runner.receive machine state.now task
  let moment := runner.moment state.now (backend.channel state.world)
  let ticket := if machine.isStruck moment task then none else runner.dueTicket? state.now
  let (world, moment, runner) := match ticket with
    | none => (state.world, moment, runner)
    | some ticket =>
        let (world, answer, subscription) := backend.answer state.world ticket
        (world, { moment with answer := some answer },
          { runner with pending := none }.subscribe state.now subscription)
  let (desk, progress) := machine.advance runner.id state.desk moment task
  let state := { state with world := world, desk := desk }
  match progress with
  | .ends result => state.put { runner with fate := .ended result state.now, pending := none }
  | .goesOn task none => state.put { runner with fate := .running task }
  | .goesOn task (some request) =>
      let (world, ticket, delay) := backend.ask state.world request
      { state with world := world }.put
        { runner with fate := .running task, pending := some (ticket, delay.map (state.now + ·)) }
  | .waits =>
      if runner.begins + dayLength ≤ state.now then
        { state with desk := machine.abandon runner.id state.desk task }.put
          { runner with fate := .abandoned }
      else
        turnOver { state with
          runners := state.runners.setIfInBounds state.turn { runner with fate := .running task } }

def nextTime? (machine : Machine Task Result) (state : State World Ticket Task Result) :
    Option Nat :=
  let times := state.probes ++ state.runners.toList.flatMap (Runner.dueTimes machine)
  (times.filter fun time => state.now < time).min?

def probe (state : State World Ticket Task Result) : State World Ticket Task Result :=
  let due := state.probes.takeWhile fun time => time ≤ state.now
  { state with
    probes := state.probes.dropWhile fun time => time ≤ state.now
    probed := state.probed ++ due.map fun time => (time, state.desk.watches) }

/-- One step of the scheduler. There is none once nothing is due any more. -/
def step (backend : Backend World Ticket) (machine : Machine Task Result)
    (state : State World Ticket Task Result) : Option (State World Ticket Task Result) :=
  match state.runners[state.turn]? with
  | some runner =>
      match runner.fate with
      | .running task =>
          if state.now < runner.begins then some state.turnOver
          else some (state.advanceTask backend machine runner task)
      | _ => some state.turnOver
  | none =>
      if state.moved then some { state with turn := 0, moved := false }
      else
        let state := state.probe
        match state.nextTime? machine with
        | none => none
        | some time => some { state with now := time, turn := 0 }

def run (backend : Backend World Ticket) (machine : Machine Task Result) :
    Nat → State World Ticket Task Result → State World Ticket Task Result
  | 0, state => state
  | steps + 1, state =>
      match state.step backend machine with
      | none => state.probe
      | some next => run backend machine steps next

end State

end LedgerCourier.Rehearsal
