import LedgerCourier.Delivery
import LedgerCourier.Rehearsal.Scheduler

/-!
The tasks that can be rehearsed: errands, submissions, collections and deliveries.
-/

namespace LedgerCourier.Rehearsal

set_option autoImplicit false

def errands : Machine Errand Errand.Result where
  advance := fun id desk moment errand =>
    let (sequencer, progress) := errand.advance id desk.sequencer moment.answer
    ({ desk with sequencer := sequencer }, progress)
  isStruck := fun _ _ => false
  abandon := fun id desk errand =>
    { desk with sequencer := errand.abandon id desk.sequencer }
  deliver := fun errand _ => errand
  close := fun errand => errand
  alarms := fun _ => []

def submissions : Machine Submission (Verdict SignedTransaction) where
  advance := fun id desk moment submission => submission.advance id desk moment
  isStruck := fun _ _ => false
  abandon := fun id desk submission => submission.abandon id desk
  deliver := fun submission _ => submission
  close := fun submission => submission
  alarms := fun _ => []

def collections : Machine Collection (Except Error (List Event)) where
  advance := fun _ desk moment collection => (desk, collection.advance moment.answer)
  isStruck := fun _ _ => false
  abandon := fun _ desk _ => desk
  deliver := fun collection _ => collection
  close := fun collection => collection
  alarms := fun _ => []

/-- The first millisecond that the clock of a rehearsal cannot express: it counts seconds with
63 bits. -/
def clockLimit : Nat := 0x8000000000000000 * 1000

/-- Deliveries. One whose deadline the clock cannot express does not begin. -/
def deliveries : Machine Delivery (Verdict Outcome) where
  advance := fun id desk moment delivery =>
    if delivery.deadline.any (fun deadline => clockLimit ≤ deadline) then (desk, .ends .overflow)
    else delivery.advance id desk moment
  isStruck := fun moment delivery => (delivery.interruption? moment).isSome
  abandon := fun id desk delivery => delivery.abandon id desk
  deliver := Delivery.deliver
  close := Delivery.close
  alarms := Delivery.alarms

end LedgerCourier.Rehearsal
