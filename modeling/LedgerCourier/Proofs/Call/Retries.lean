import LedgerCourier.Proofs.Call.Handover

/-!
# How often a call is repeated, and when

The caller does not give up, and a call that pauses is looked after no later than when its pause
ends. Then each attempt but the last has failed in a way that allows another one, the next attempt
begins exactly when the pause is over, and the result of the call is that of the attempt after
which none may follow. One deadline is set for all attempts together.
-/

namespace LedgerCourier

set_option autoImplicit false

/-- Results after which the ledger does not have the transaction and may take it once more. -/
inductive Verdict.IsTransient : Verdict Outcome → Prop where
  | dropped (number : Nat) (hash : Hash) : IsTransient (.failure (.dropped number hash))
  | submit (number : Nat) (cause : Failure) : IsTransient (.failure (.submit number cause))

theorem Verdict.transient_iff (error : Error) :
    Verdict.IsTransient (.failure error) ↔ error.isRetryable = true := by
  constructor
  · intro transient
    cases transient <;> rfl
  · intro retryable
    unfold Error.isRetryable at retryable
    split at retryable
    · exact .dropped _ _
    · exact .submit _ _
    · cases retryable

/-- No attempt follows upon the one with this number, the first one having number one, if it ended
at this time with this result. -/
def Settings.IsLast (settings : Settings) (deadline : Option Nat) (number ended : Nat)
    (verdict : Verdict Outcome) : Prop :=
  ¬verdict.IsTransient ∨ number = settings.maxRetries + 1 ∨
    ∃ limit, deadline = some limit ∧ limit ≤ ended + settings.pause number

/-- The attempt with this number has failed, and another one began when its pause was over. -/
def Attempt.IsRepeated (settings : Settings) (deadline : Option Nat) (number : Nat)
    (attempt : Attempt) (next : Nat) : Prop :=
  ∃ ended verdict, attempt.ended = some (ended, verdict) ∧ verdict.IsTransient ∧
    ¬settings.IsLast deadline number ended verdict ∧ next = ended + settings.pause number ∧
      ∀ limit, deadline = some limit → next < limit

namespace Delivery

variable {task : TaskId} {desk after : Desk} {moment : Moment} {delivery next : Delivery}
  {request : Option Request} {now : Nat} {error : Error}

theorem late_iff (delivery : Delivery) (time : Nat) :
    delivery.isLate time = true ↔ ∃ limit, delivery.deadline = some limit ∧ limit ≤ time := by
  unfold isLate
  cases delivery.deadline <;> simp

theorem FollowsUp.is_last
    (follows : delivery.FollowsUp now error (.ends (.failure error)))
    (counted : delivery.repetitions ≤ delivery.settings.maxRetries) :
    delivery.settings.IsLast delivery.deadline (delivery.repetitions + 1) now
      (.failure error) := by
  cases follows with
  | surrenders final =>
      by_cases transient : Verdict.IsTransient (.failure error)
      · by_cases left : delivery.repetitions < delivery.settings.maxRetries
        · have retryable := (Verdict.transient_iff error).mp transient
          exact Or.inr (Or.inr ((late_iff delivery _).mp (final retryable left)))
        · exact Or.inr (Or.inl (by omega))
      · exact Or.inl transient

theorem FollowsUp.is_not_last (follows : delivery.FollowsUp now error (.goesOn next request)) :
    Verdict.IsTransient (.failure error) ∧
      ¬delivery.settings.IsLast delivery.deadline (delivery.repetitions + 1) now
        (.failure error) := by
  cases follows with
  | pauses wakeAt retryable left scheduled early =>
      have transient := (Verdict.transient_iff error).mpr retryable
      refine ⟨transient, ?_⟩
      rintro (final | exhausted | late)
      · exact final transient
      · omega
      · rw [scheduled, Bool.eq_false_iff, Ne, late_iff] at early
        exact early late

theorem Moves.leads_on (moves : delivery.Moves task desk moment (after, .goesOn next request))
    (active : delivery.IsActive) :
    (next.IsActive ∧ next.settings = delivery.settings ∧ next.deadline = delivery.deadline ∧
        next.repetitions = delivery.repetitions) ∨
      ∃ error, delivery.FollowsUp moment.now error (.goesOn next request) := by
  cases moves with
  | submits submission following after request stage undisturbed moves =>
      exact Or.inl ⟨by simp [IsActive], rfl, rfl, rfl⟩
  | isAccepted submission transaction after stage undisturbed moves =>
      exact Or.inl ⟨by simp [IsActive], rfl, rfl, rfl⟩
  | isRefused submission error after _ stage undisturbed moves follows =>
      exact Or.inr ⟨error, follows⟩
  | watches watch following after request stage undisturbed moves =>
      exact Or.inl ⟨by simp [IsActive], rfl, rfl, rfl⟩
  | fails watch error after _ stage undisturbed moves follows => exact Or.inr ⟨error, follows⟩
  | repeats wakeAt error stage awake wanted => exact absurd stage (active wakeAt error)

theorem interrupted_permanent (interruption : Interruption) (active : delivery.IsActive) :
    ¬Verdict.IsTransient (.failure (delivery.interruptedError interruption)) := by
  rw [Verdict.transient_iff]
  unfold interruptedError
  cases stage : delivery.stage with
  | submitting submission => cases interruption <;> exact Bool.false_ne_true
  | watching watch => cases interruption <;> exact Bool.false_ne_true
  | pausing wakeAt error => exact absurd stage (active wakeAt error)

theorem Moves.ends_with_last {verdict : Verdict Outcome}
    (moves : delivery.Moves task desk moment (after, .ends verdict)) (active : delivery.IsActive)
    (counted : delivery.repetitions ≤ delivery.settings.maxRetries) :
    delivery.settings.IsLast delivery.deadline (delivery.repetitions + 1) moment.now verdict := by
  cases moves with
  | stops interruption _ strikes => exact Or.inl (interrupted_permanent interruption active)
  | isRefused submission error after _ stage undisturbed moves follows =>
      cases follows with
      | surrenders final => exact FollowsUp.is_last (.surrenders final) counted
  | overflows submission after stage undisturbed moves =>
      left
      intro transient
      cases transient
  | succeeds watch outcome after stage undisturbed moves =>
      left
      intro transient
      cases transient
  | fails watch error after _ stage undisturbed moves follows =>
      cases follows with
      | surrenders final => exact FollowsUp.is_last (.surrenders final) counted
  | givesUp wakeAt error stage cancelled => exact absurd stage (active wakeAt error)

theorem attempt_waiting (delivery : Delivery) : delivery.attemptOver? .waits = none := by
  unfold attemptOver?
  cases delivery.stage <;> rfl

theorem attempt_unfinished (active : next.IsActive) :
    delivery.attemptOver? (.goesOn next request) = none := by
  unfold attemptOver?
  cases delivery.stage with
  | pausing wakeAt error => rfl
  | submitting submission =>
      cases stage : next.stage with
      | pausing wakeAt error => exact absurd stage (active wakeAt error)
      | submitting submission => simp [stage]
      | watching watch => simp [stage]
  | watching watch =>
      cases stage : next.stage with
      | pausing wakeAt error => exact absurd stage (active wakeAt error)
      | submitting submission => simp [stage]
      | watching watch => simp [stage]

theorem attempt_finished (active : delivery.IsActive) (verdict : Verdict Outcome) :
    delivery.attemptOver? (.ends verdict) = some verdict := by
  unfold attemptOver?
  cases stage : delivery.stage with
  | submitting submission => rfl
  | watching watch => rfl
  | pausing wakeAt error => exact absurd stage (active wakeAt error)

end Delivery

namespace Attempt

variable {task : TaskId} {desk : Desk} {moment : Moment} {delivery : Delivery}
  {progress : Progress Delivery (Verdict Outcome)}

theorem extend_unfinished (attempt : Attempt)
    (own : (delivery.advance task desk moment).2 = progress)
    (unfinished : delivery.attemptOver? progress = none) :
    (attempt.extend task desk moment delivery).ended = attempt.ended := by
  simp [extend, own, unfinished]

theorem extend_finished (attempt : Attempt) {verdict : Verdict Outcome}
    (own : (delivery.advance task desk moment).2 = progress)
    (finished : delivery.attemptOver? progress = some verdict) :
    (attempt.extend task desk moment delivery).ended = some (moment.now, verdict) := by
  simp [extend, own, finished]

end Attempt

def Repeats (settings : Settings) (deadline : Option Nat) (attempts : List Attempt) : Prop :=
  ∀ (number : Nat) (earlier later : Attempt), attempts[number]? = some earlier →
    attempts[number + 1]? = some later →
      earlier.IsRepeated settings deadline (number + 1) later.began

namespace Repeats

variable {settings : Settings} {deadline : Option Nat} {past : List Attempt}
  {last other : Attempt}

theorem replace (repeats : Repeats settings deadline (past ++ [last]))
    (same : other.began = last.began) : Repeats settings deadline (past ++ [other]) := by
  intro number earlier later before after
  have inside : number < past.length := by
    obtain ⟨bound, -⟩ := List.getElem?_eq_some_iff.mp after
    simp at bound
    omega
  rw [List.getElem?_append_left inside] at before
  have kept : (past ++ [last])[number]? = some earlier := by
    rw [List.getElem?_append_left inside, before]
  by_cases within : number + 1 < past.length
  · rw [List.getElem?_append_left within] at after
    refine repeats number earlier later kept ?_
    rw [List.getElem?_append_left within, after]
  · have border : number + 1 = past.length := by omega
    obtain rfl : other = later := by simpa [border] using after
    rw [same]
    exact repeats number earlier last kept (by simp [border])

theorem snoc (repeats : Repeats settings deadline (past ++ [last]))
    (repeated : last.IsRepeated settings deadline (past.length + 1) other.began) :
    Repeats settings deadline (past ++ [last] ++ [other]) := by
  intro number earlier later before after
  by_cases within : number + 1 < (past ++ [last]).length
  · rw [List.getElem?_append_left (by omega)] at before
    rw [List.getElem?_append_left within] at after
    exact repeats number earlier later before after
  · obtain ⟨bound, -⟩ := List.getElem?_eq_some_iff.mp after
    obtain rfl : number = past.length := by
      simp at bound within
      omega
    obtain rfl : last = earlier := by simpa using before
    obtain rfl : other = later := by simpa using after
    exact repeated

end Repeats

/-- The caller does not give up, and nobody sleeps longer than the pause. -/
def Happening.IsPunctual (story : Story) : Happening → Prop
  | .turn _ moment => moment.cancelled = false ∧
      ∀ wakeAt ∈ story.call.delivery.wakeAt?, moment.now ≤ wakeAt
  | .arrives _ => True
  | .closes => True

instance (story : Story) (happening : Happening) : Decidable (happening.IsPunctual story) :=
  match happening with
  | .turn _ _ => inferInstanceAs (Decidable (_ ∧ _))
  | .arrives _ => inferInstanceAs (Decidable True)
  | .closes => inferInstanceAs (Decidable True)

namespace Story

variable {story : Story} {task : TaskId} {settings : Settings} {deadline : Option Nat}

/-- What a call that is under way says about its attempts. -/
structure Keeping (settings : Settings) (deadline : Option Nat) (delivery : Delivery)
    (past : List Attempt) (present : Attempt) : Prop where
  sameSettings : delivery.settings = settings
  sameDeadline : delivery.deadline = deadline
  counted : delivery.repetitions ≤ settings.maxRetries
  active : delivery.IsActive → present.ended = none ∧ delivery.repetitions = past.length
  pausing : ∀ wakeAt error, delivery.stage = .pausing wakeAt error →
    delivery.repetitions = past.length + 1 ∧ ∃ ended,
      present.ended = some (ended, .failure error) ∧
        wakeAt = ended + settings.pause (past.length + 1) ∧
          Verdict.IsTransient (.failure error) ∧
            ¬settings.IsLast deadline (past.length + 1) ended (.failure error)

structure OnSchedule (settings : Settings) (deadline : Option Nat) (story : Story) : Prop where
  repeated : Repeats settings deadline story.attempts
  within : story.past.length ≤ settings.maxRetries
  counted : story.call.delivery.repetitions ≤ settings.maxRetries
  underWay : story.call.verdict = none →
    Keeping settings deadline story.call.delivery story.past story.present
  finished : ∀ verdict, story.call.verdict = some verdict → ∃ ended,
    story.present.ended = some (ended, verdict) ∧
      settings.IsLast deadline (story.past.length + 1) ended verdict

theorem Keeping.turn {delivery : Delivery} {past : List Attempt} {present : Attempt}
    (keeping : Keeping settings deadline delivery past present)
    (repeated : Repeats settings deadline (past ++ [present]))
    (within : past.length ≤ settings.maxRetries) (active : delivery.IsActive)
    (desk : Desk) (moment : Moment) :
    OnSchedule settings deadline
      ⟨Call.after ⟨delivery, none⟩ (delivery.advance task desk moment).2, past,
        present.extend task desk moment delivery⟩ := by
  obtain ⟨unfinished, repetitions⟩ := keeping.active active
  have still : Repeats settings deadline
      (past ++ [present.extend task desk moment delivery]) := repeated.replace rfl
  have moves := delivery.advance_moves task desk moment
  generalize known : delivery.advance task desk moment = step at moves
  obtain ⟨after, progress⟩ := step
  have own : (delivery.advance task desk moment).2 = progress := congrArg Prod.snd known
  cases progress with
  | waits =>
      have ended := present.extend_unfinished own delivery.attempt_waiting
      refine ⟨still, within, keeping.counted, fun _ => ?_, by simp [Call.after]⟩
      exact ⟨keeping.sameSettings, keeping.sameDeadline, keeping.counted,
        fun _ => ⟨ended.trans unfinished, repetitions⟩,
        fun wakeAt error stage => absurd stage (active wakeAt error)⟩
  | goesOn next request =>
      rcases moves.leads_on active with ⟨remains, settled, limited, same⟩ |
        ⟨error, follows⟩
      · have ended := present.extend_unfinished own
          (Delivery.attempt_unfinished remains)
        have counted : next.repetitions ≤ settings.maxRetries := same ▸ keeping.counted
        refine ⟨still, within, counted, fun _ => ?_, by simp [Call.after]⟩
        exact ⟨settled.trans keeping.sameSettings, limited.trans keeping.sameDeadline, counted,
          fun _ => ⟨ended.trans unfinished, same.trans repetitions⟩,
          fun wakeAt error stage => absurd stage (remains wakeAt error)⟩
      · have ended := present.extend_finished own
          (follows.attempt_over active)
        obtain ⟨transient, more⟩ := follows.is_not_last
        rw [keeping.sameSettings, keeping.sameDeadline, repetitions] at more
        cases follows with
        | pauses wakeAt retryable left scheduled early =>
            have counted : delivery.repetitions + 1 ≤ settings.maxRetries :=
              keeping.sameSettings ▸ left
            refine ⟨still, within, counted, fun _ => ?_, by simp [Call.after]⟩
            refine ⟨keeping.sameSettings, keeping.sameDeadline, counted, ?_, ?_⟩
            · intro remains
              exact absurd rfl (remains wakeAt error)
            · intro other told stage
              obtain ⟨rfl, rfl⟩ : wakeAt = other ∧ error = told := by
                simpa [Call.after] using stage
              refine ⟨congrArg (· + 1) repetitions, moment.now, ended, ?_, transient, more⟩
              rw [scheduled, keeping.sameSettings, repetitions]
  | ends verdict =>
      have ended := present.extend_finished own
        (Delivery.attempt_finished active verdict)
      have last := moves.ends_with_last active (keeping.sameSettings ▸ keeping.counted)
      rw [keeping.sameSettings, keeping.sameDeadline, repetitions] at last
      refine ⟨still, within, keeping.counted, by simp [Call.after], ?_⟩
      intro other same
      obtain rfl : verdict = other := by simpa [Call.after] using same
      exact ⟨moment.now, ended, last⟩

theorem Keeping.awakes {delivery : Delivery} {past : List Attempt} {present : Attempt}
    (keeping : Keeping settings deadline delivery past present)
    (repeated : Repeats settings deadline (past ++ [present])) {wakeAt : Nat} {error : Error}
    (stage : delivery.stage = .pausing wakeAt error) :
    OnSchedule settings deadline
      ⟨⟨{ delivery with
            stage := .submitting (Submission.start delivery.call delivery.signer) }, none⟩,
        past ++ [present], Attempt.fresh wakeAt⟩ := by
  obtain ⟨repetitions, ended, finished, scheduled, transient, more⟩ :=
    keeping.pausing wakeAt error stage
  have length : (past ++ [present]).length = past.length + 1 := by simp
  have counted := keeping.counted
  refine ⟨repeated.snoc ⟨ended, _, finished, transient, more, scheduled, ?_⟩, ?_, counted, ?_,
    by simp⟩
  · intro limit same
    by_contra late
    refine more (Or.inr (Or.inr ⟨limit, same, ?_⟩))
    rw [← scheduled]
    exact Nat.le_of_not_lt late
  · simp only [length]
    omega
  · intro _
    refine ⟨keeping.sameSettings, keeping.sameDeadline, counted, ?_, by simp⟩
    intro _
    exact ⟨rfl, repetitions.trans length.symm⟩

theorem Keeping.received {delivery next : Delivery} {past : List Attempt} {present : Attempt}
    (keeping : Keeping settings deadline delivery past present)
    (receives : delivery.Receives next) : Keeping settings deadline next past present := by
  cases receives with
  | unmoved => exact keeping
  | watches watch other stage transaction tracker =>
      exact ⟨keeping.sameSettings, keeping.sameDeadline, keeping.counted,
        fun _ => keeping.active (by simp [Delivery.IsActive, stage]), by simp⟩

theorem OnSchedule.next (scheduled : OnSchedule settings deadline story) {happening : Happening}
    (punctual : happening.IsPunctual story) :
    OnSchedule settings deadline (story.next task happening) := by
  obtain ⟨⟨delivery, decided⟩, past, present⟩ := story
  cases decided with
  | some verdict =>
      rw [next_of_over task rfl]
      exact scheduled
  | none =>
      have keeping := scheduled.underWay rfl
      cases happening with
      | turn desk moment =>
          rw [next_turn rfl]
          by_cases active : delivery.IsActive
          · rw [turn_active rfl active]
            exact keeping.turn scheduled.repeated scheduled.within active desk moment
          · obtain ⟨wakeAt, error, stage⟩ := Delivery.pausing_of_inactive active
            obtain ⟨wanted, early⟩ := punctual
            rw [turn_pausing rfl stage, if_neg (by simp [wanted])]
            split
            next awake =>
              have exactly : moment.now = wakeAt :=
                Nat.le_antisymm (early wakeAt (by simp [Delivery.wakeAt?, stage])) awake
              rw [exactly]
              exact keeping.awakes scheduled.repeated stage
            next => exact scheduled
      | arrives notice =>
          have delivered := keeping.received (delivery.deliver_receives notice)
          exact ⟨scheduled.repeated, scheduled.within, delivered.counted, fun _ => delivered,
            by simp [next, Call.next]⟩
      | closes =>
          have closed := keeping.received delivery.close_receives
          exact ⟨scheduled.repeated, scheduled.within, closed.counted, fun _ => closed,
            by simp [next, Call.next]⟩

theorem OnSchedule.pauses (scheduled : OnSchedule settings deadline story)
    (underWay : story.call.verdict = none) {ended : Nat} {verdict : Verdict Outcome}
    (finished : story.present.ended = some (ended, verdict)) :
    ¬settings.IsLast deadline (story.past.length + 1) ended verdict ∧ ∃ error,
      story.call.delivery.stage =
        .pausing (ended + settings.pause (story.past.length + 1)) error := by
  have keeping := scheduled.underWay underWay
  by_cases active : story.call.delivery.IsActive
  · cases finished.symm.trans (keeping.active active).1
  · obtain ⟨wakeAt, error, stage⟩ := Delivery.pausing_of_inactive active
    obtain ⟨-, other, same, rfl, -, more⟩ := keeping.pausing wakeAt error stage
    obtain ⟨rfl, rfl⟩ : ended = other ∧ verdict = .failure error := by
      simpa using finished.symm.trans same
    exact ⟨more, error, stage⟩

theorem OnSchedule.decided (scheduled : OnSchedule settings deadline story)
    (verdict : Verdict Outcome) :
    story.call.verdict = some verdict ↔ ∃ ended,
      story.present.ended = some (ended, verdict) ∧
        settings.IsLast deadline (story.past.length + 1) ended verdict := by
  constructor
  · exact scheduled.finished verdict
  · rintro ⟨ended, finished, last⟩
    cases known : story.call.verdict with
    | none => exact absurd last (scheduled.pauses known finished).1
    | some other =>
        obtain ⟨time, same, -⟩ := scheduled.finished other known
        obtain ⟨-, rfl⟩ : ended = time ∧ verdict = other := by simpa using finished.symm.trans same
        rfl

theorem OnSchedule.resumes (scheduled : OnSchedule settings deadline story)
    (underWay : story.call.verdict = none) {ended : Nat} {verdict : Verdict Outcome}
    (finished : story.present.ended = some (ended, verdict)) (desk : Desk) {moment : Moment}
    (wanted : moment.cancelled = false) :
    (story.next task (.turn desk moment)).attempts =
      if ended + settings.pause (story.past.length + 1) ≤ moment.now
      then story.attempts ++ [Attempt.fresh moment.now] else story.attempts := by
  obtain ⟨-, error, stage⟩ := scheduled.pauses underWay finished
  have running : story.call = ⟨story.call.delivery, none⟩ := by rw [← underWay]
  rw [next_turn running, turn_pausing running stage, if_neg (by simp [wanted])]
  split <;> rfl

/-- A call that may be repeated once, and that the ledger refuses to take twice. -/
def refusedCall : List Happening :=
  let finds (now : Nat) (line : List TaskId) (answer : Option Answer) : Happening :=
    .turn ⟨⟨⟨[(Bytes32.fill 1, ⟨⟨some 5, []⟩, line⟩)]⟩⟩, 0, History.withCapacity 1⟩
      ⟨now, false, ⟨fun _ _ => .ok [], fun _ _ _ _ => .ok []⟩, answer, true⟩
  let attempt (now : Nat) : List Happening :=
    [finds now [] none, finds now [0] none, finds now [] none,
      finds now [] (some (.sent (.error (.other "pool is full")))), finds now [] none,
      finds (now + 7) [0] none]
  attempt 0 ++ [finds 100 [] none, finds 507 [] none] ++ attempt 507

end Story

end LedgerCourier
