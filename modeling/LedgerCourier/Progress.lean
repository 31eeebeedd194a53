import LedgerCourier.Error
import LedgerCourier.Ledger

/-!
Tasks as machines that advance step by step.

A task that waits for something outside of it cannot run in one go. It is therefore a value
that says where the task stands, and a step is a function from that value and the present
moment to what follows. Between two steps anything else may happen. Time passes, tokens are
cancelled and answers arrive between steps only.
-/

namespace LedgerCourier

set_option autoImplicit false

/-- What a task finds when it is its turn. -/
structure Moment where
  now : Nat
  cancelled : Bool
  channel : Channel
  answer : Option Answer
  /-- Whether nobody else holds the history, be it another task or a reader. -/
  historyFree : Bool

inductive Progress (Task Result : Type) where
  | waits
  /-- The task goes on from here, and may have asked the node something. -/
  | goesOn (task : Task) (request : Option Request)
  | ends (result : Result)

inductive Verdict (Value : Type) where
  | success (value : Value)
  | failure (error : Error)
  /-- The numbers of the account are used up, so no arithmetic can go on. -/
  | overflow

def Progress.lift {Inner Outer Result End : Type} (wrap : Inner → Outer)
    (finish : Result → Progress Outer End) : Progress Inner Result → Progress Outer End
  | .waits => .waits
  | .goesOn task request => .goesOn (wrap task) request
  | .ends result => finish result

end LedgerCourier
