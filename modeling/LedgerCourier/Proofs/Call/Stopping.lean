import LedgerCourier.Proofs.Call.Retries

/-!
# What a call does once it is to stop

From the moment at which the caller has given up or the time is up, no turn of a call asks the
ledger anything, has a number handed out or anything signed, and none changes an allocator. The
first turn outside a pause ends the call with an error. In a pause the end of the pause may be
noticed before the reason to stop: the attempt that begins then ends in its first turn.
-/

namespace LedgerCourier

set_option autoImplicit false

def Happening.isTurn : Happening → Bool
  | .turn _ _ => true
  | _ => false

/-- Whoever has a turn finds that the caller has given up, that the time is up, or, in a pause,
that the pause is over. -/
def Happening.IsStopped (story : Story) : Happening → Prop
  | .turn _ moment => moment.cancelled = true ∨ story.call.delivery.isLate moment.now = true ∨
      (story.call.delivery.wakeAt?.any fun wakeAt => wakeAt ≤ moment.now) = true
  | _ => True

instance (story : Story) (happening : Happening) : Decidable (happening.IsStopped story) :=
  match happening with
  | .turn _ _ => inferInstanceAs (Decidable (_ ∨ _))
  | .arrives _ => inferInstanceAs (Decidable True)
  | .closes => inferInstanceAs (Decidable True)

namespace Delivery

variable {task : TaskId} {desk after : Desk} {moment : Moment} {delivery next : Delivery}
  {request : Option Request}

/-- No pause reaches up to the deadline. -/
def IsTimely (delivery : Delivery) : Prop :=
  ∀ wakeAt error, delivery.stage = .pausing wakeAt error → delivery.isLate wakeAt = false

theorem IsActive.timely (active : delivery.IsActive) : delivery.IsTimely :=
  fun wakeAt error stage => absurd stage (active wakeAt error)

theorem Moves.timely (moves : delivery.Moves task desk moment (after, .goesOn next request))
    (active : delivery.IsActive) : next.IsTimely := by
  rcases moves.leads_on active with ⟨remains, -⟩ | ⟨error, follows⟩
  · exact remains.timely
  · cases follows with
    | pauses wakeAt retryable left scheduled early =>
        intro other told stage
        obtain ⟨rfl, -⟩ : wakeAt = other ∧ error = told := by simpa using stage
        exact early

theorem IsTimely.received (timely : delivery.IsTimely) (receives : delivery.Receives next) :
    next.IsTimely := by
  cases receives with
  | unmoved => exact timely
  | watches watch other stage => simp [IsTimely]

theorem interruption_active (active : delivery.IsActive) (moment : Moment) :
    delivery.interruption? moment =
      if moment.cancelled then some .cancelled
      else if delivery.isLate moment.now then some .timedOut else none := by
  unfold interruption?
  cases stage : delivery.stage with
  | submitting submission => rfl
  | watching watch => rfl
  | pausing wakeAt error => exact absurd stage (active wakeAt error)

theorem struck (active : delivery.IsActive)
    (reason : moment.cancelled = true ∨ delivery.isLate moment.now = true) :
    ∃ interruption, delivery.interruption? moment = some interruption := by
  rw [interruption_active active]
  rcases reason with cancelled | late
  · exact ⟨.cancelled, by simp [cancelled]⟩
  · by_cases cancelled : moment.cancelled = true
    · exact ⟨.cancelled, by simp [cancelled]⟩
    · exact ⟨.timedOut, by simp [cancelled, late]⟩

theorem undertakings_struck {interruption : Interruption}
    (strikes : delivery.interruption? moment = some interruption) (task : TaskId) (desk : Desk) :
    delivery.undertakings task desk moment = [] := by
  simp [undertakings, handedOut?, signing?, strikes, advance_struck strikes, Progress.request?]

theorem allocator_abandoned (delivery : Delivery) (task : TaskId) (desk : Desk)
    (account : AccountId) :
    (delivery.abandon task desk).sequencer.allocator account =
      desk.sequencer.allocator account := by
  have errand : ∀ errand : Errand, (errand.abandon task desk.sequencer).allocator account =
      desk.sequencer.allocator account := by
    intro errand
    unfold Errand.abandon
    split
    · rfl
    · exact Sequencer.allocator_leave _ _ _ _
  unfold abandon
  cases delivery.stage with
  | submitting submission =>
      simp only [Submission.abandon]
      split
      · exact errand _
      · exact errand _
      · rfl
  | watching watch =>
      simp only [Watch.abandon]
      split
      · exact errand _
      · rfl
  | pausing wakeAt error => rfl

end Delivery

namespace Story

variable {story : Story} {task : TaskId} {desk : Desk} {moment : Moment} {delivery : Delivery}

def undertaken (story : Story) : List Undertaking := story.attempts.flatMap Attempt.undertaken

def deskAfter (task : TaskId) (story : Story) (desk : Desk) (moment : Moment) : Desk :=
  match story.call with
  | ⟨delivery, none⟩ => (delivery.advance task desk moment).1
  | _ => desk

/-- How many turns a call that is to stop has before it. -/
def turnsLeft (story : Story) : Nat :=
  match story.call with
  | ⟨delivery, none⟩ => if delivery.wakeAt?.isSome then 2 else 1
  | _ => 0

/-- A turn of a call that is to stop ends the call with an error, or the end of its pause. -/
inductive Stops (story : Story) (delivery : Delivery) : Story → Prop where
  | ends (error : Error) (present : Attempt)
      (nothing : present.undertaken = story.present.undertaken) :
      Stops story delivery ⟨⟨delivery, some (.failure error)⟩, story.past, present⟩
  | wakes (now wakeAt : Nat) (next : Delivery) (asleep : delivery.wakeAt? = some wakeAt)
      (active : next.IsActive) :
      Stops story delivery ⟨⟨next, none⟩, story.past ++ [story.present], Attempt.fresh now⟩

theorem turn_stops (task : TaskId) (underWay : story.call = ⟨delivery, none⟩)
    (timely : delivery.IsTimely) (stopped : (Happening.turn desk moment).IsStopped story) :
    story.Stops delivery (story.turn task desk moment delivery) := by
  have reason : moment.cancelled = true ∨ delivery.isLate moment.now = true ∨
      (delivery.wakeAt?.any fun wakeAt => wakeAt ≤ moment.now) = true := by
    simpa [Happening.IsStopped, underWay] using stopped
  by_cases active : delivery.IsActive
  · obtain ⟨interruption, strikes⟩ :=
      Delivery.struck active (by simpa [active.awake] using reason)
    rw [turn_active underWay active, Delivery.advance_struck strikes]
    refine .ends _ _ ?_
    simp [Attempt.extend, Delivery.undertakings_struck strikes]
  · obtain ⟨wakeAt, error, stage⟩ := Delivery.pausing_of_inactive active
    have asleep : delivery.wakeAt? = some wakeAt := by simp [Delivery.wakeAt?, stage]
    rw [turn_pausing underWay stage]
    by_cases cancelled : moment.cancelled = true
    · rw [if_pos cancelled]
      exact .ends error story.present rfl
    · have awake : wakeAt ≤ moment.now := by
        rcases reason with given | late | awake
        · exact absurd given cancelled
        · -- The pause was over before the deadline came.
          obtain ⟨limit, same, passed⟩ := (Delivery.late_iff delivery _).mp late
          have early := timely wakeAt error stage
          rw [Bool.eq_false_iff, Ne, Delivery.late_iff] at early
          by_contra sleeping
          exact early ⟨limit, same, by omega⟩
        · simpa [asleep] using awake
      rw [if_neg cancelled, if_pos awake]
      exact .wakes moment.now wakeAt _ asleep (by simp [Delivery.IsActive])

theorem Stops.undertaken {after : Story} (stops : story.Stops delivery after) :
    after.undertaken = story.undertaken := by
  cases stops with
  | ends error present nothing => simp [Story.undertaken, attempts, nothing]
  | wakes now wakeAt next asleep active => simp [Story.undertaken, attempts, Attempt.fresh]

theorem Stops.turns_left {after : Story} (stops : story.Stops delivery after)
    (underWay : story.call = ⟨delivery, none⟩) : after.turnsLeft + 1 ≤ story.turnsLeft := by
  cases stops with
  | ends error present nothing =>
      simp only [turnsLeft, underWay]
      split <;> omega
  | wakes now wakeAt next asleep active => simp [turnsLeft, underWay, asleep, active.awake]

theorem Stops.fails {after : Story} (stops : story.Stops delivery after)
    {verdict : Verdict Outcome} (finished : after.call.verdict = some verdict) :
    ∃ error, verdict = .failure error := by
  cases stops with
  | ends error present nothing => exact ⟨error, (Option.some.inj finished).symm⟩
  | wakes now wakeAt next asleep active => cases finished

theorem over_of_no_turns_left (nothing : story.turnsLeft = 0) : story.call.verdict ≠ none := by
  unfold turnsLeft at nothing
  split at nothing
  · split at nothing <;> cases nothing
  next running =>
    intro underWay
    exact running story.call.delivery (by rw [← underWay])

theorem turns_left_bounded (story : Story) : story.turnsLeft ≤ 2 := by
  unfold turnsLeft
  split
  · split <;> omega
  · omega

theorem next_timely (timely : story.call.delivery.IsTimely) (happening : Happening) :
    (story.next task happening).call.delivery.IsTimely := by
  obtain ⟨⟨delivery, decided⟩, past, present⟩ := story
  cases decided with
  | some verdict =>
      rw [next_of_over task rfl]
      exact timely
  | none =>
      rw [next_call]
      cases happening with
      | arrives notice => exact timely.received (delivery.deliver_receives notice)
      | closes => exact timely.received delivery.close_receives
      | turn desk moment =>
          simp only [Call.next]
          by_cases active : delivery.IsActive
          · have moves := delivery.advance_moves task desk moment
            generalize delivery.advance task desk moment = step at moves
            obtain ⟨after, progress⟩ := step
            cases progress with
            | waits => exact timely
            | goesOn next request => exact moves.timely active
            | ends verdict => exact timely
          · obtain ⟨wakeAt, error, stage⟩ := Delivery.pausing_of_inactive active
            rw [Delivery.advance_pausing stage]
            dsimp only
            split
            · exact timely
            · split
              · simp [Call.after, Delivery.IsTimely]
              · exact timely

theorem next_without_turn (story : Story) (task : TaskId) {happening : Happening}
    (noTurn : happening.isTurn = false) :
    (story.next task happening).attempts = story.attempts ∧
      (story.next task happening).call.verdict = story.call.verdict ∧
        (story.next task happening).turnsLeft = story.turnsLeft := by
  obtain ⟨⟨delivery, decided⟩, past, present⟩ := story
  cases decided with
  | some verdict =>
      rw [next_of_over task rfl]
      exact ⟨rfl, rfl, rfl⟩
  | none =>
      cases happening with
      | turn desk moment => cases noTurn
      | arrives notice =>
          refine ⟨rfl, rfl, ?_⟩
          simp [turnsLeft, next, Call.next, (delivery.deliver_receives notice).same_wake]
      | closes =>
          refine ⟨rfl, rfl, ?_⟩
          simp [turnsLeft, next, Call.next, delivery.close_receives.same_wake]

/-- What holds of a call that is to stop, before and after something happens to it. -/
theorem next_stopped (task : TaskId) (timely : story.call.delivery.IsTimely) {happening : Happening}
    (stopped : happening.IsStopped story) :
    (story.next task happening).undertaken = story.undertaken ∧
      (story.next task happening).turnsLeft ≤
        story.turnsLeft - [happening].countP Happening.isTurn ∧
      (story.call.verdict = none → ∀ verdict,
        (story.next task happening).call.verdict = some verdict →
          ∃ error, verdict = .failure error) := by
  cases turns : happening.isTurn with
  | false =>
      obtain ⟨attempts, verdict, left⟩ := story.next_without_turn task turns
      refine ⟨by rw [undertaken, undertaken, attempts], by simp [turns, left], ?_⟩
      intro underWay other finished
      rw [verdict, underWay] at finished
      cases finished
  | true =>
      cases happening with
      | arrives notice => cases turns
      | closes => cases turns
      | turn desk moment =>
          obtain ⟨⟨delivery, decided⟩, past, present⟩ := story
          cases decided with
          | some verdict =>
              rw [next_of_over task rfl]
              exact ⟨rfl, by simp [turnsLeft, Happening.isTurn], by simp⟩
          | none =>
              have stops := turn_stops task (show _ = (⟨delivery, none⟩ : Call) from rfl) timely
                stopped
              have left := stops.turns_left rfl
              rw [next_turn rfl]
              refine ⟨stops.undertaken, ?_, fun _ verdict finished => stops.fails finished⟩
              simp [Happening.isTurn]
              omega

/-- What remains to be said of a call that is to stop. -/
structure StartsNothing (task : TaskId) (story : Story) (happenings : List Happening) : Prop where
  undertaken : (story.tell task happenings).undertaken = story.undertaken
  allocators : ∀ earlier desk moment later, happenings = earlier ++ .turn desk moment :: later →
    ∀ account, ((story.tell task earlier).deskAfter task desk moment).sequencer.allocator account =
      desk.sequencer.allocator account
  decided : ∀ verdict, story.call.verdict = some verdict →
    (story.tell task happenings).call.verdict = some verdict
  fails : story.call.verdict = none → ∀ verdict,
    (story.tell task happenings).call.verdict = some verdict → ∃ error, verdict = .failure error
  ends : 2 ≤ happenings.countP Happening.isTurn →
    (story.tell task happenings).call.verdict ≠ none

theorem stopped_desk (timely : story.call.delivery.IsTimely)
    (stopped : (Happening.turn desk moment).IsStopped story) (account : AccountId) :
    (story.deskAfter task desk moment).sequencer.allocator account =
      desk.sequencer.allocator account := by
  obtain ⟨⟨delivery, decided⟩, past, present⟩ := story
  cases decided with
  | some verdict => rfl
  | none =>
      simp only [deskAfter]
      by_cases active : delivery.IsActive
      · have reason : moment.cancelled = true ∨ delivery.isLate moment.now = true := by
          simpa [Happening.IsStopped, active.awake] using stopped
        obtain ⟨interruption, strikes⟩ := Delivery.struck active reason
        rw [Delivery.advance_struck strikes]
        exact delivery.allocator_abandoned task desk account
      · obtain ⟨wakeAt, error, stage⟩ := Delivery.pausing_of_inactive active
        rw [Delivery.advance_pausing stage]

theorem tell_timely (timely : story.call.delivery.IsTimely) (happenings : List Happening) :
    (story.tell task happenings).call.delivery.IsTimely :=
  tell_induction (motive := fun story => story.call.delivery.IsTimely) task
    (fun _ happening still => next_timely still happening) timely happenings

theorem tell_stopped (timely : story.call.delivery.IsTimely) {happenings : List Happening}
    (stopped : story.Throughout Happening.IsStopped task happenings) :
    (story.tell task happenings).undertaken = story.undertaken ∧
      (story.tell task happenings).turnsLeft ≤
        story.turnsLeft - happenings.countP Happening.isTurn ∧
      (story.call.verdict = none → ∀ verdict,
        (story.tell task happenings).call.verdict = some verdict →
          ∃ error, verdict = .failure error) := by
  induction happenings generalizing story with
  | nil =>
      refine ⟨rfl, Nat.le_refl _, ?_⟩
      intro underWay verdict finished
      cases underWay.symm.trans finished
  | cons happening happenings induction =>
      obtain ⟨same, fewer, fails⟩ := next_stopped task timely stopped.1
      obtain ⟨later, left, ends⟩ := induction (next_timely timely happening) stopped.2
      refine ⟨later.trans same, ?_, ?_⟩
      · have count : (happening :: happenings).countP Happening.isTurn =
            [happening].countP Happening.isTurn + happenings.countP Happening.isTurn := by
          simp [List.countP_cons, Nat.add_comm]
        rw [count]
        exact Nat.le_trans left (by omega)
      · intro underWay verdict finished
        cases known : (story.next task happening).call.verdict with
        | none => exact ends known verdict finished
        | some other =>
            have finished : ((story.next task happening).tell task happenings).call.verdict =
                some verdict := finished
            rw [tell_of_over task known, known] at finished
            exact fails underWay verdict (finished ▸ known)

theorem stopped_starts_nothing (timely : story.call.delivery.IsTimely)
    {happenings : List Happening}
    (stopped : story.Throughout Happening.IsStopped task happenings) :
    StartsNothing task story happenings := by
  obtain ⟨undertaken, left, fails⟩ := tell_stopped timely stopped
  refine ⟨undertaken, ?_, ?_, fails, ?_⟩
  · rintro earlier desk moment later rfl account
    exact stopped_desk (tell_timely timely earlier) stopped.at_split account
  · intro verdict finished
    rw [tell_of_over task finished, finished]
  · intro enough
    have bounded := story.turns_left_bounded
    exact over_of_no_turns_left (by omega)

/-- Once its caller has given up or its time is up, a call starts nothing, changes no allocator and
ends with an error in its next turn, or in the one after that if its pause ends first. One that
was given up before it began ends at once, without a number, and leaves the desk as it was. -/
theorem call_stops (task : TaskId) (now : Nat) (settings : Settings) (options : WaitOptions)
    (call : EncodedCall) (signer : Signer) (before after : List Happening)
    (stopped : ((start now settings options call signer).tell task before).Throughout
      Happening.IsStopped task after) :
    StartsNothing task ((start now settings options call signer).tell task before) after ∧
      ∀ desk moment, moment.cancelled = true →
        let story := start now settings options call signer
        let ended := story.next task (.turn desk moment)
        ended.call.verdict = some (.failure (.cancelled none none)) ∧ ended.undertaken = [] ∧
          story.deskAfter task desk moment = desk := by
  have timely : (start now settings options call signer).call.delivery.IsTimely := by
    simp [start, Delivery.start, Delivery.IsTimely]
  refine ⟨stopped_starts_nothing (tell_timely timely before) stopped, ?_⟩
  intro desk moment cancelled story ended
  have strikes : (Delivery.start now settings options call signer).interruption? moment =
      some .cancelled := by
    simp [Delivery.interruption?, Delivery.start, cancelled]
  have stops : (Delivery.start now settings options call signer).advance task desk moment = _ :=
    Delivery.advance_struck strikes
  have quiet := Delivery.undertakings_struck strikes task desk
  refine ⟨?_, ?_, ?_⟩
  · simp only [ended, story, next_call, start, Call.next, stops]
    rfl
  · have active : (Delivery.start now settings options call signer).IsActive := by
      simp [Delivery.start, Delivery.IsActive]
    simp only [ended, story]
    rw [next_turn rfl, turn_active rfl active]
    simp [undertaken, attempts, start, Attempt.extend, quiet, Attempt.fresh]
  · simp only [deskAfter, story, start, stops]
    rfl

/-- The caller gives up during the pause after a refusal, but the end of the pause is noticed
first. -/
def givenUpCall : List Happening :=
  let finds (cancelled : Bool) : Happening :=
    .turn (Desk.start 1) ⟨507, cancelled, ⟨fun _ _ => .ok [], fun _ _ _ _ => .ok []⟩, none, true⟩
  [finds false, finds true]

theorem given_up_call_stops :
    ∃ story, (start 0 { maxRetries := 1 } ⟨.finalized, some 2000⟩ ⟨"lock", [], []⟩
        ⟨Bytes32.fill 1, fun _ => .ok (.sr25519 [])⟩).tell 0 (refusedCall.take 6) = story ∧
      (story.tell 0 givenUpCall).call.verdict = some (.failure (.cancelled none none)) ∧
        StartsNothing 0 story givenUpCall :=
  ⟨_, rfl, rfl, (call_stops 0 0 { maxRetries := 1 } ⟨.finalized, some 2000⟩ ⟨"lock", [], []⟩
    ⟨Bytes32.fill 1, fun _ => .ok (.sr25519 [])⟩ (refusedCall.take 6) givenUpCall
    (by decide)).1⟩

end Story

end LedgerCourier
