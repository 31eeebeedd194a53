import LedgerCourier.Proofs.Call.Disclosure
import Mathlib.Algebra.Order.BigOperators.Group.List
import Mathlib.Algebra.Order.Group.Nat

/-!
# One extrinsic for each attempt

An attempt hands an extrinsic to the ledger when it has signed it, and then never signs another.
So each attempt hands over one extrinsic at most, and the ledger accepts no more than one of it.
-/

namespace LedgerCourier

set_option autoImplicit false

theorem Errand.Moves.sends_nothing {task : TaskId} {before after : Sequencer}
    {answer : Option Answer} {errand next : Errand} {request : Option Request}
    (moves : errand.Moves task before answer (after, .goesOn next request)) :
    (request.map Undertaking.asks).bind Undertaking.sent? = none := by
  cases moves <;> rfl

theorem Watch.Moves.sends_nothing {task : TaskId} {desk after : Desk} {moment : Moment}
    {watch next : Watch} {request : Option Request}
    (moves : watch.Moves task desk moment (after, .goesOn next request)) :
    (request.map Undertaking.asks).bind Undertaking.sent? = none := by
  cases moves with
  | takes status rest progress stage inbox decides => cases decides <;> rfl
  | holds => rfl
  | records status progress stage decides => cases decides <;> rfl
  | collects status block collection following request stage advances =>
      have other := collection_sends_nothing advances
      cases request with
      | none => rfl
      | some request =>
          cases request with
          | send extrinsic => exact absurd rfl (other extrinsic)
          | nonce account => rfl
          | position block extrinsic => rfl
          | events block => rfl
  | resumes => rfl
  | attends errand following error sequencer request stage moves => exact moves.sends_nothing

def Submission.sendsLeft (submission : Submission) : Nat :=
  match submission.stage with
  | .reserving _ | .preparing _ => 1
  | .sending _ | .undoing _ _ _ => 0

theorem Submission.Moves.sends_left {task : TaskId} {desk after : Desk} {moment : Moment}
    {submission next : Submission} {request : Option Request}
    (moves : submission.Moves task desk moment (after, .goesOn next request)) :
    ((request.map Undertaking.asks).bind Undertaking.sent?).toList.length + next.sendsLeft ≤
      submission.sendsLeft := by
  cases moves with
  | attends errand following sequencer request stage moves =>
      simp [sendsLeft, stage, moves.sends_nothing]
  | reserves errand number sequencer stage moves => simp [sendsLeft, stage]
  | signs nonce transaction stage prepared => simp [sendsLeft, stage, Undertaking.sent?]
  | declines nonce error stage refused => simp [sendsLeft, stage, undo]
  | bounces transaction cause stage answer => simp [sendsLeft, stage, undo]
  | undoes nonce errand following error sequencer request stage moves =>
      simp [sendsLeft, stage, moves.sends_nothing]

namespace Delivery

variable {task : TaskId} {desk after : Desk} {moment : Moment} {delivery next : Delivery}
  {request : Option Request}

def sendsLeft (delivery : Delivery) : Nat :=
  match delivery.stage with
  | .submitting submission => submission.sendsLeft
  | .watching _ | .pausing _ _ => 0

theorem Moves.sends_left (moves : delivery.Moves task desk moment (after, .goesOn next request))
    (active : delivery.IsActive) :
    ((request.map Undertaking.asks).bind Undertaking.sent?).toList.length + next.sendsLeft ≤
      delivery.sendsLeft := by
  cases moves with
  | submits submission following after request stage undisturbed moves =>
      simpa only [sendsLeft, stage] using moves.sends_left
  | isAccepted submission transaction after stage undisturbed moves => simp [sendsLeft]
  | isRefused submission error after progress stage undisturbed moves follows =>
      cases follows
      simp [sendsLeft]
  | watches watch following after request stage undisturbed moves =>
      simp [sendsLeft, moves.sends_nothing]
  | fails watch error after progress stage undisturbed moves follows =>
      cases follows
      simp [sendsLeft]
  | repeats wakeAt error stage awake wanted => exact absurd stage (active wakeAt error)

theorem Receives.sends_left (receives : delivery.Receives next) :
    next.sendsLeft = delivery.sendsLeft := by
  cases receives with
  | unmoved => rfl
  | watches watch other stage => simp [sendsLeft, stage]

end Delivery

theorem Attempt.extend_sent {task : TaskId} {desk : Desk} {moment : Moment} {delivery : Delivery}
    {progress : Progress Delivery (Verdict Outcome)} (attempt : Attempt)
    (own : (delivery.advance task desk moment).2 = progress) :
    (attempt.extend task desk moment delivery).sent =
      attempt.sent ++
        ((progress.request?.map Undertaking.asks).bind Undertaking.sent?).toList := by
  simp only [sent, extend, Delivery.undertakings, own, List.filterMap_append]
  rw [Delivery.filter_map_silent _ _ fun _ => rfl, Delivery.filter_map_silent _ _ fun _ => rfl,
    List.nil_append, List.nil_append]
  cases progress.request? with
  | none => rfl
  | some request => cases request <;> rfl

namespace Story

variable {story : Story} {task : TaskId}

/-- What the present attempt has handed over and may still hand over is one extrinsic at most. -/
def Spares (story : Story) : Prop :=
  story.present.sent.length + story.call.delivery.sendsLeft ≤ 1

theorem Spares.turn (spares : story.Spares) {delivery : Delivery}
    (underWay : story.call = ⟨delivery, none⟩) (desk : Desk) (moment : Moment) :
    (story.turn task desk moment delivery).Spares := by
  have before : story.present.sent.length + delivery.sendsLeft ≤ 1 := by
    simpa only [Spares, underWay] using spares
  by_cases active : delivery.IsActive
  · rw [turn_active underWay active, Spares]
    have moves := delivery.advance_moves task desk moment
    generalize known : delivery.advance task desk moment = step at moves
    obtain ⟨after, progress⟩ := step
    rw [story.present.extend_sent (congrArg Prod.snd known), List.length_append]
    cases progress with
    | waits => exact before
    | ends verdict => exact before
    | goesOn next request =>
        have left := moves.sends_left active
        dsimp only [Call.after, Progress.request?]
        omega
  · obtain ⟨wakeAt, error, stage⟩ := Delivery.pausing_of_inactive active
    rw [turn_pausing underWay stage]
    split
    · exact before
    · split
      · simp [Spares, Attempt.fresh, Attempt.sent, Delivery.sendsLeft, Submission.start,
          Submission.sendsLeft]
      · exact spares

theorem Spares.next (spares : story.Spares) (happening : Happening) :
    (story.next task happening).Spares := by
  obtain ⟨⟨delivery, decided⟩, past, present⟩ := story
  cases decided with
  | some verdict =>
      rw [next_of_over task rfl]
      exact spares
  | none =>
      cases happening with
      | turn desk moment => exact spares.turn rfl desk moment
      | arrives notice =>
          have same := (delivery.deliver_receives notice).sends_left
          simpa only [Spares, Story.next, Call.next, same] using spares
      | closes =>
          have same := delivery.close_receives.sends_left
          simpa only [Spares, Story.next, Call.next, same] using spares

end Story

end LedgerCourier
