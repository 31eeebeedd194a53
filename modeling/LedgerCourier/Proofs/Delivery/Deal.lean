import LedgerCourier.Proofs.Delivery.Observed

/-!
# What a step of a delivery does about its number

Whatever a delivery does in one step, its number and its errand change in one of seven ways. The
proof goes through the cases of a step once, and what is proved about the numbers of all
deliveries together rests on the seven ways only.
-/

namespace LedgerCourier

set_option autoImplicit false

structure Standing where
  errand : Option Errand
  number : Option Nat

namespace Delivery

def standing (delivery : Delivery) : Standing := ⟨delivery.errand?, delivery.number?⟩

def standingAfter (delivery : Delivery) : Progress Delivery (Verdict Outcome) → Standing
  | .waits => delivery.standing
  | .goesOn next _ => next.standing
  | .ends _ => ⟨none, none⟩

end Delivery

/-- What a step does about the number of an attempt, with what it shows. A count is forgotten only
for words that were heard just now or are still to be decided upon. -/
inductive Deal (task : TaskId) (sequencer : Sequencer) (answer : Option Answer)
    (recalled : List Observation) (before : Standing) (shown : List Observation) :
    Sequencer → Standing → Prop where
  | rests (told : shown.filterMap Observation.told? = [])
      (kept : shown.filterMap Observation.kept? = []) :
      Deal task sequencer answer recalled before shown sequencer before
  | setsOut (account : AccountId) (purpose : Errand.Purpose) (idle : before.errand = none)
      (told : shown.filterMap Observation.told? = [])
      (kept : shown.filterMap Observation.kept? = [])
      (stale : purpose = .forget → ∃ observation ∈ recalled ++ shown, ¬observation.IsFresh) :
      Deal task sequencer answer recalled before shown sequencer
        ⟨some (Errand.start account purpose), before.number⟩
  | attends (errand next : Errand) (request : Option Request) (after : Sequencer)
      (held : before.errand = some errand)
      (moves : errand.Moves task sequencer answer (after, .goesOn next request))
      (told : shown.filterMap Observation.told? = [])
      (kept : shown.filterMap Observation.kept? = []) :
      Deal task sequencer answer recalled before shown after ⟨some next, before.number⟩
  | obtains (errand : Errand) (number : Nat) (after : Sequencer)
      (held : before.errand = some errand) (empty : before.number = none)
      (moves : errand.Moves task sequencer answer (after, .ends (.reserved number)))
      (told : shown.filterMap Observation.told? = (errand.told? answer).toList)
      (kept : shown.filterMap Observation.kept? = []) :
      Deal task sequencer answer recalled before shown after ⟨none, some number⟩
  | misses (errand : Errand) (result : Errand.Result) (after : Sequencer)
      (held : before.errand = some errand) (empty : before.number = none)
      (moves : errand.Moves task sequencer answer (after, .ends result))
      (missed : result = .exhausted ∨ ∃ cause, result = .failed cause)
      (told : shown.filterMap Observation.told? = (errand.told? answer).toList)
      (kept : shown.filterMap Observation.kept? = []) :
      Deal task sequencer answer recalled before shown after ⟨none, none⟩
  | settles (errand : Errand) (number : Nat) (result : Errand.Result) (after : Sequencer)
      (held : before.errand = some errand) (filled : before.number = some number)
      (purpose : errand.purpose = .giveBack number ∨ errand.purpose = .forget)
      (moves : errand.Moves task sequencer answer (after, .ends result))
      (told : shown.filterMap Observation.told? = (errand.told? answer).toList)
      (kept : shown.filterMap Observation.kept? = []) :
      Deal task sequencer answer recalled before shown after ⟨none, none⟩
  | stops (told : shown.filterMap Observation.told? = [])
      (kept : shown.filterMap Observation.kept? = before.number.toList) :
      Deal task sequencer answer recalled before shown
        (before.errand.elim sequencer fun errand => errand.abandon task sequencer) ⟨none, none⟩

theorem Errand.Moves.untold {task : TaskId} {sequencer after : Sequencer}
    {answer : Option Answer} {errand next : Errand} {request : Option Request}
    (moves : errand.Moves task sequencer answer (after, .goesOn next request)) :
    errand.told? answer = none := by
  cases moves with
  | arrives stage => simp [Errand.told?, stage]
  | asks stage => simp [Errand.told?, stage]

theorem Errand.Moves.done_purpose {task : TaskId} {sequencer after : Sequencer}
    {answer : Option Answer} {errand : Errand}
    (moves : errand.Moves task sequencer answer (after, .ends .done)) :
    errand.purpose ≠ .reserve := by
  cases moves with
  | givesBack number stage purpose head => simp [purpose]
  | forgets stage purpose head => simp [purpose]

def Errand.Purpose.applied (count : Allocator) : Errand.Purpose → Allocator
  | .reserve => count
  | .giveBack number => count.giveBack number
  | .forget => Allocator.start

theorem Errand.Moves.settled {task : TaskId} {sequencer after : Sequencer}
    {answer : Option Answer} {errand : Errand} {result : Errand.Result}
    (moves : errand.Moves task sequencer answer (after, .ends result))
    (waits : errand.stage ≠ .asking) (settles : errand.purpose ≠ .reserve) :
    after.allocator errand.account =
      errand.purpose.applied (sequencer.allocator errand.account) := by
  cases moves with
  | takesKnown next number count stage reserve => exact absurd reserve settles
  | takesTold next number count stage => exact absurd stage waits
  | exhausts next stage source reserve refused =>
      cases position : errand.stage with
      | arriving => exact absurd position stage
      | inLine => exact absurd (reserve position) settles
      | asking => exact absurd position waits
  | fails cause stage => exact absurd stage waits
  | givesBack number stage purpose head => simp [purpose, Errand.Purpose.applied]
  | forgets stage purpose head => simp [purpose, Errand.Purpose.applied]

theorem Error.refusal_unkept {error : Error} (refusal : error.refusal? ≠ none) :
    Verdict.kept? (.failure error) = none := by
  unfold Error.refusal? at refusal
  split at refusal <;> first | rfl | exact absurd rfl refusal

theorem Tracker.terminal_is_last {tracker : Tracker} {status current : Status}
    (lives : tracker.isTerminal = false)
    (reached : (tracker.apply status).1.current = some current)
    (terminal : current.isTerminal = true) : current = status := by
  unfold Tracker.apply at reached
  split at reached
  · exact (Option.some.inj reached).symm
  · simp only at reached
    simp [Tracker.isTerminal, reached, terminal] at lives

/-- Only words that call a number stale make an attempt forget the count. -/
theorem SignedTransaction.outdated_setback {transaction : SignedTransaction} {status : Status}
    {error : Error} (setback : transaction.setback? status = some (.forget, error)) :
    ¬(Observation.took (.status status)).IsFresh := by
  intro fresh
  unfold setback? at setback
  split at setback
  next reason =>
    have plain := fresh reason rfl
    simp [plain] at setback
  next => simp at setback
  next => cases setback

theorem Watch.Moves.recalls {task : TaskId} {desk after : Desk} {moment : Moment}
    {watch next : Watch} {request : Option Request}
    (moves : watch.Moves task desk moment (after, .goesOn next request)) :
    next.recalled = [] ∨ Watch.canRecord desk moment = false ∧
      ∃ status, watch.notice? = some (.status status) ∧
        next.recalled = [.took (.status status)] := by
  cases moves with
  | takes status rest progress stage inbox decides => cases decides <;> exact Or.inl rfl
  | holds status rest stage inbox counts held =>
      exact Or.inr ⟨held, status, by simp [notice?, stage, inbox], rfl⟩
  | records status progress stage decides => cases decides <;> exact Or.inl rfl
  | collects => exact Or.inl rfl
  | resumes => exact Or.inl rfl
  | attends => exact Or.inl rfl

namespace Delivery

variable {task : TaskId} {desk after : Desk} {moment : Moment} {delivery : Delivery}

theorem FollowsUp.standing {progress : Progress Delivery (Verdict Outcome)} {now : Nat}
    {error : Error}
    (follows : delivery.FollowsUp now error progress) :
    delivery.standingAfter progress = ⟨none, none⟩ := by
  cases follows <;> rfl

theorem stale_remedy {error : Error} {nonce : Nat} (refusal : error.refusal? ≠ none)
    (forgets : Submission.remedy error nonce = .forget) :
    ∃ text, error.refusal? = some text ∧ Stale.isStale text = true := by
  obtain ⟨text, same⟩ := Option.ne_none_iff_exists'.mp refusal
  refine ⟨text, same, ?_⟩
  unfold Submission.remedy at forgets
  split at forgets
  next stale => rwa [Error.message_stale_iff same] at stale
  next => cases forgets

theorem submission_deals {submission next : Submission} {request : Option Request}
    (stage : delivery.stage = .submitting submission)
    (undisturbed : delivery.interruption? moment = none)
    (moves : submission.Moves task desk moment (after, .goesOn next request)) :
    Deal task desk.sequencer moment.answer delivery.recalled delivery.standing
      (delivery.observations moment
        (.goesOn { delivery with stage := .submitting next } request))
      after.sequencer ⟨next.errand?, next.nonce?⟩ := by
  have moving : Progress.goesOn { delivery with stage := .submitting next } request ≠
      (.waits : Progress Delivery (Verdict Outcome)) := by simp
  have unfinished : delivery.attemptOver?
      (.goesOn { delivery with stage := .submitting next } request) = none := by
    simp [attemptOver?, stage]
  have kept := kept_by_attempt moment moving none (by rw [unfinished]; rfl)
  have standing : delivery.standing = ⟨submission.errand?, submission.nonce?⟩ := by
    simp [Delivery.standing, errand?, number?, stage]
  have held : delivery.errand? = submission.errand? := by simp [errand?, stage]
  rw [standing]
  cases moves with
  | attends errand following sequencer request position moves =>
      have own : submission.errand? = some errand := by simp [Submission.errand?, position]
      have none : submission.nonce? = none := by simp [Submission.nonce?, position]
      have told := told_by_errand moving undisturbed (held.trans own)
      rw [moves.untold] at told
      rw [own, none]
      exact .attends errand following request sequencer rfl moves told kept
  | reserves errand number sequencer position moves =>
      have own : submission.errand? = some errand := by simp [Submission.errand?, position]
      have none : submission.nonce? = none := by simp [Submission.nonce?, position]
      have told := told_by_errand moving undisturbed (held.trans own)
      rw [own, none]
      exact .obtains errand number sequencer rfl rfl moves told kept
  | signs nonce transaction position prepared =>
      have idle : submission.errand? = none := by simp [Submission.errand?, position]
      have number : submission.nonce? = some transaction.nonce := by
        simp [Submission.nonce?, position, (SignedTransaction.prepare_spec prepared).1]
      have quiet := silent moment moving (held.trans idle) unfinished
      rw [idle, number]
      exact .rests quiet.1 quiet.2
  | declines nonce error position refused =>
      have idle : submission.errand? = none := by simp [Submission.errand?, position]
      have number : submission.nonce? = some nonce := by simp [Submission.nonce?, position]
      have quiet := silent moment moving (held.trans idle) unfinished
      rw [idle, number]
      refine .setsOut submission.signer.account (Submission.remedy error nonce) rfl quiet.1
        quiet.2 ?_
      intro forgets
      obtain ⟨refusal, -⟩ := SignedTransaction.prepare_refuses refused
      obtain ⟨text, same, stale⟩ := stale_remedy refusal forgets
      refine ⟨.refused error, List.mem_append_right _ (consumed_shown moving
        (refusal_consumed undisturbed ?_)), ?_⟩
      · simp [refusal?, stage, Submission.refusal?, position, refused]
      · intro fresh
        rw [fresh text same] at stale
        cases stale
  | bounces transaction cause position answer =>
      have idle : submission.errand? = none := by simp [Submission.errand?, position]
      have number : submission.nonce? = some transaction.nonce := by
        simp [Submission.nonce?, position]
      have quiet := silent moment moving (held.trans idle) unfinished
      rw [idle, number]
      refine .setsOut submission.signer.account
        (Submission.remedy (.submit transaction.nonce cause) transaction.nonce) rfl quiet.1
        quiet.2 ?_
      intro forgets
      obtain ⟨text, same, stale⟩ := stale_remedy (by simp [Error.refusal?]) forgets
      have question : delivery.question? = some (.send transaction.extrinsic) := by
        simp [question?, stage, Submission.question?, position]
      refine ⟨_, List.mem_append_right _ (consumed_shown moving
        (heard_consumed undisturbed question answer rfl)), ?_⟩
      intro fresh
      rw [fresh text same] at stale
      cases stale
  | undoes nonce errand following error sequencer request position moves =>
      have own : submission.errand? = some errand := by simp [Submission.errand?, position]
      have number : submission.nonce? = some nonce := by simp [Submission.nonce?, position]
      have told := told_by_errand moving undisturbed (held.trans own)
      rw [moves.untold] at told
      rw [own, number]
      exact .attends errand following request sequencer rfl moves told kept

theorem watch_deals {watch next : Watch} {request : Option Request}
    (stage : delivery.stage = .watching watch)
    (undisturbed : delivery.interruption? moment = none) (sound : watch.Sound)
    (moves : watch.Moves task desk moment (after, .goesOn next request)) :
    Deal task desk.sequencer moment.answer delivery.recalled delivery.standing
      (delivery.observations moment (.goesOn { delivery with stage := .watching next } request))
      after.sequencer ⟨next.errand?, some next.transaction.nonce⟩ := by
  have moving : Progress.goesOn { delivery with stage := .watching next } request ≠
      (.waits : Progress Delivery (Verdict Outcome)) := by simp
  have unfinished : delivery.attemptOver?
      (.goesOn { delivery with stage := .watching next } request) = none := by
    simp [attemptOver?, stage]
  have kept := kept_by_attempt moment moving none (by rw [unfinished]; rfl)
  have standing : delivery.standing = ⟨watch.errand?, some watch.transaction.nonce⟩ := by
    simp [Delivery.standing, errand?, number?, stage]
  have held : delivery.errand? = watch.errand? := by simp [errand?, stage]
  rw [standing]
  cases moves with
  | takes status rest progress position inbox decides =>
      have idle : watch.errand? = none := by simp [Watch.errand?, position]
      have quiet := silent moment moving (held.trans idle) unfinished
      rw [idle]
      cases decides with
      | keepsOn lives shallow => exact .rests quiet.1 quiet.2
      | fails reached purpose error current setback =>
          refine .setsOut watch.transaction.origin purpose rfl quiet.1 quiet.2 ?_
          rintro rfl
          obtain rfl : reached = status :=
            Tracker.terminal_is_last (sound.lives position) current
              (Watch.setback_terminal setback)
          have notice : delivery.notice? = some (.status reached) := by
            simp [notice?, stage, Watch.notice?, position, inbox]
          exact ⟨_, List.mem_append_right _ (consumed_shown moving
            (notice_consumed undisturbed notice)), SignedTransaction.outdated_setback setback⟩
      | collects reached block current included deep latest => exact .rests quiet.1 quiet.2
  | holds status rest position inbox counts free =>
      have idle : watch.errand? = none := by simp [Watch.errand?, position]
      have quiet := silent moment moving (held.trans idle) unfinished
      rw [idle]
      exact .rests quiet.1 quiet.2
  | records status progress position decides =>
      have idle : watch.errand? = none := by simp [Watch.errand?, position]
      have quiet := silent moment moving (held.trans idle) unfinished
      rw [idle]
      cases decides with
      | keepsOn lives shallow => exact .rests quiet.1 quiet.2
      | fails reached purpose error current setback =>
          refine .setsOut watch.transaction.origin purpose rfl quiet.1 quiet.2 ?_
          rintro rfl
          obtain rfl : reached = status :=
            Option.some.inj (current.symm.trans (sound.recording status position))
          have recalled : delivery.recalled = [.took (.status reached)] := by
            simp [Delivery.recalled, stage, Watch.recalled, position]
          exact ⟨_, List.mem_append_left _ (recalled ▸ List.mem_singleton_self _),
            SignedTransaction.outdated_setback setback⟩
      | collects reached block current included deep latest => exact .rests quiet.1 quiet.2
  | collects status block collection following request position advances =>
      have idle : watch.errand? = none := by simp [Watch.errand?, position]
      have quiet := silent moment moving (held.trans idle) unfinished
      rw [idle]
      exact .rests quiet.1 quiet.2
  | resumes status block collection found position advances overtaken =>
      have idle : watch.errand? = none := by simp [Watch.errand?, position]
      have quiet := silent moment moving (held.trans idle) unfinished
      rw [idle]
      exact .rests quiet.1 quiet.2
  | attends errand following error sequencer request position moves =>
      have own : watch.errand? = some errand := by simp [Watch.errand?, position]
      have told := told_by_errand moving undisturbed (held.trans own)
      rw [moves.untold] at told
      rw [own]
      exact .attends errand following request sequencer rfl moves told kept

theorem interrupted_deals {interruption : Interruption}
    (active : ∀ wakeAt error, delivery.stage ≠ .pausing wakeAt error)
    (strikes : delivery.interruption? moment = some interruption) :
    Deal task desk.sequencer moment.answer delivery.recalled delivery.standing
      (delivery.observations moment
        (.ends (.failure (delivery.interruptedError interruption))))
      (delivery.abandon task desk).sequencer ⟨none, none⟩ := by
  have moving : Progress.ends (.failure (delivery.interruptedError interruption)) ≠
      (.waits : Progress Delivery (Verdict Outcome)) := by simp
  have told : (delivery.observations moment
      (.ends (.failure (delivery.interruptedError interruption)))).filterMap
        Observation.told? = [] := by
    rw [told_shown delivery moment moving, strikes]
    rfl
  have finished : delivery.attemptOver?
      (.ends (.failure (delivery.interruptedError interruption))) =
      some (.failure (delivery.interruptedError interruption)) := by
    unfold attemptOver?
    cases stage : delivery.stage with
    | submitting submission => rfl
    | watching watch => rfl
    | pausing wakeAt error => exact absurd stage (active wakeAt error)
  have known : Verdict.kept? (.failure (delivery.interruptedError interruption)) =
      delivery.number? := by
    unfold interruptedError number?
    cases stage : delivery.stage with
    | submitting submission => cases interruption <;> rfl
    | watching watch => cases interruption <;> rfl
    | pausing wakeAt error => exact absurd stage (active wakeAt error)
  have left : (delivery.abandon task desk).sequencer =
      delivery.errand?.elim desk.sequencer fun errand => errand.abandon task desk.sequencer := by
    unfold Delivery.abandon errand?
    cases stage : delivery.stage with
    | submitting submission =>
        cases position : submission.stage <;>
          simp [Submission.abandon, Submission.errand?, position]
    | watching watch =>
        cases position : watch.stage <;> simp [Watch.abandon, Watch.errand?, position]
    | pausing wakeAt error => rfl
  rw [left]
  exact .stops told (kept_by_attempt moment moving delivery.number? (by rw [finished]; exact known))

theorem refusal_deals {submission : Submission} {error : Error}
    {progress : Progress Delivery (Verdict Outcome)}
    (stage : delivery.stage = .submitting submission)
    (undisturbed : delivery.interruption? moment = none) (sound : submission.Sound)
    (moves : submission.Moves task desk moment (after, .ends (.failure error)))
    (follows : delivery.FollowsUp moment.now error progress) :
    Deal task desk.sequencer moment.answer delivery.recalled delivery.standing
      (delivery.observations moment progress) after.sequencer ⟨none, none⟩ := by
  have finished := follows.attempt_over (by simp [stage])
  have standing : delivery.standing = ⟨submission.errand?, submission.nonce?⟩ := by
    simp [Delivery.standing, errand?, number?, stage]
  have held : delivery.errand? = submission.errand? := by simp [errand?, stage]
  rw [standing]
  cases moves with
  | misses errand cause sequencer position moves =>
      have own : submission.errand? = some errand := by simp [Submission.errand?, position]
      have number : submission.nonce? = none := by simp [Submission.nonce?, position]
      have told := told_by_errand follows.moving undisturbed (held.trans own)
      have kept := kept_by_attempt moment follows.moving none
        (by rw [finished]; rfl)
      rw [own, number]
      exact .misses errand (.failed cause) sequencer rfl rfl moves (Or.inr ⟨cause, rfl⟩) told kept
  | undone nonce errand error sequencer result position moves =>
      obtain ⟨-, purpose, refusal, -⟩ := sound.undoing nonce errand error position
      have own : submission.errand? = some errand := by simp [Submission.errand?, position]
      have number : submission.nonce? = some nonce := by simp [Submission.nonce?, position]
      have told := told_by_errand follows.moving undisturbed (held.trans own)
      have kept := kept_by_attempt moment follows.moving none
        (by rw [finished]; exact Error.refusal_unkept refusal)
      have either : errand.purpose = .giveBack nonce ∨ errand.purpose = .forget := by
        rw [purpose, Submission.remedy]
        split <;> simp
      rw [own, number]
      exact .settles errand nonce result sequencer rfl rfl either moves told kept

theorem failure_deals {watch : Watch} {error : Error}
    {progress : Progress Delivery (Verdict Outcome)} (stage : delivery.stage = .watching watch)
    (undisturbed : delivery.interruption? moment = none) (sound : watch.Sound)
    (moves : watch.Moves task desk moment (after, .ends (.failure error)))
    (follows : delivery.FollowsUp moment.now error progress) :
    Deal task desk.sequencer moment.answer delivery.recalled delivery.standing
      (delivery.observations moment progress) after.sequencer ⟨none, none⟩ := by
  have finished := follows.attempt_over (by simp [stage])
  have standing : delivery.standing = ⟨watch.errand?, some watch.transaction.nonce⟩ := by
    simp [Delivery.standing, errand?, number?, stage]
  have held : delivery.errand? = watch.errand? := by simp [errand?, stage]
  rw [standing]
  have keeps : watch.errand? = none →
      Verdict.kept? (.failure error) = some watch.transaction.nonce →
        Deal task desk.sequencer moment.answer delivery.recalled
          ⟨watch.errand?, some watch.transaction.nonce⟩
          (delivery.observations moment progress) desk.sequencer ⟨none, none⟩ := by
    intro idle known
    have told := told_shown delivery moment follows.moving
    rw [held, idle] at told
    have kept := kept_by_attempt moment follows.moving
      (some watch.transaction.nonce) (by rw [finished]; exact known)
    rw [idle]
    exact .stops (by simpa using told) kept
  cases moves with
  | breaks cause rest position inbox => exact keeps (by simp [Watch.errand?, position]) rfl
  | runsDry position inbox closed => exact keeps (by simp [Watch.errand?, position]) rfl
  | takes status rest progress position inbox decides =>
      cases decides with
      | usurped current => exact keeps (by simp [Watch.errand?, position]) rfl
  | records status progress position decides =>
      cases decides with
      | usurped current => exact keeps (by simp [Watch.errand?, position]) rfl
  | settles errand error sequencer result position moves =>
      obtain ⟨-, status, -, setback⟩ := sound.settling errand error position
      have own : watch.errand? = some errand := by simp [Watch.errand?, position]
      have told := told_by_errand follows.moving undisturbed (held.trans own)
      have settled : Verdict.kept? (.failure error) = none ∧
          (errand.purpose = .giveBack watch.transaction.nonce ∨ errand.purpose = .forget) := by
        unfold SignedTransaction.setback? at setback
        split at setback
        · obtain ⟨purpose, rfl⟩ := Prod.ext_iff.mp (Option.some.inj setback)
          refine ⟨rfl, ?_⟩
          simp only at purpose
          rw [← purpose]
          split <;> simp
        · obtain ⟨purpose, rfl⟩ := Prod.ext_iff.mp (Option.some.inj setback)
          exact ⟨rfl, Or.inl purpose.symm⟩
        · cases setback
      have kept := kept_by_attempt moment follows.moving none
        (by rw [finished]; exact settled.1)
      rw [own]
      exact .settles errand watch.transaction.nonce result sequencer rfl rfl settled.2 moves told
        kept

/-- A report is only left to be decided upon by the step that took it, where that step found the
history held. -/
theorem Moves.recalls {next : Delivery} {request : Option Request}
    (moves : delivery.Moves task desk moment (after, .goesOn next request)) :
    next.recalled = [] ∨ Watch.canRecord desk moment = false ∧
      ∀ observation ∈ next.recalled,
        observation ∈ delivery.observations moment (.goesOn next request) := by
  cases moves with
  | submits => exact Or.inl rfl
  | isAccepted => exact Or.inl rfl
  | isRefused submission error after progress stage undisturbed moves follows =>
      cases follows
      exact Or.inl rfl
  | watches watch following after request stage undisturbed moves =>
      rcases moves.recalls with nothing | ⟨held, status, taken, left⟩
      · exact Or.inl nothing
      · refine Or.inr ⟨held, ?_⟩
        have notice : delivery.notice? = some (.status status) := by simp [notice?, stage, taken]
        simpa [recalled, left] using consumed_shown (by simp) (notice_consumed undisturbed notice)
  | fails watch error after progress stage undisturbed moves follows =>
      cases follows
      exact Or.inl rfl
  | repeats => exact Or.inl rfl

/-- Every step of a delivery is one of the seven deals. -/
theorem Moves.deals {progress : Progress Delivery (Verdict Outcome)}
    (moves : delivery.Moves task desk moment (after, progress)) (sound : delivery.Sound) :
    Deal task desk.sequencer moment.answer delivery.recalled delivery.standing
      (delivery.observations moment progress) after.sequencer
      (delivery.standingAfter progress) := by
  cases moves with
  | waits undisturbed => exact .rests rfl rfl
  | idles submission after stage undisturbed moves =>
      cases moves with
      | waits => exact .rests rfl rfl
      | strays errand sequencer position moves =>
          obtain ⟨-, -, still⟩ := sound.submitting submission stage
          exact absurd (still.reserving errand position).2 moves.done_purpose
  | stops interruption active strikes => exact interrupted_deals active strikes
  | submits submission next after request stage undisturbed moves =>
      exact submission_deals stage undisturbed moves
  | isAccepted submission transaction after stage undisturbed moves =>
      cases moves with
      | succeeds transaction position answer =>
          have standing : delivery.standing = ⟨none, some transaction.nonce⟩ := by
            simp [Delivery.standing, errand?, number?, stage, Submission.errand?,
              Submission.nonce?, position]
          have moving : Progress.goesOn { delivery with
              stage := .watching (Watch.start transaction delivery.depth) } none ≠
              (.waits : Progress Delivery (Verdict Outcome)) := by simp
          have quiet := silent moment moving (congrArg Standing.errand standing)
            (by simp [attemptOver?, stage])
          rw [standing]
          exact .rests quiet.1 quiet.2
  | isRefused submission error after progress stage undisturbed moves follows =>
      rw [follows.standing]
      exact refusal_deals stage undisturbed (sound.submitting submission stage).2.2 moves follows
  | overflows submission after stage undisturbed moves =>
      cases moves with
      | exhausts errand sequencer position moves =>
          have held : delivery.errand? = some errand := by
            simp [errand?, stage, Submission.errand?, position]
          have standing : delivery.standing = ⟨some errand, none⟩ := by
            simp [Delivery.standing, held, number?, stage, Submission.nonce?, position]
          have moving : Progress.ends .overflow ≠
              (.waits : Progress Delivery (Verdict Outcome)) := by simp
          have finished : delivery.attemptOver? (.ends .overflow) = some .overflow := by
            simp [attemptOver?, stage]
          have told := told_by_errand moving undisturbed held
          have kept := kept_by_attempt moment moving none (by rw [finished]; rfl)
          rw [standing]
          exact .misses errand .exhausted sequencer rfl rfl moves (Or.inl rfl) told kept
  | watches watch next after request stage undisturbed moves =>
      exact watch_deals stage undisturbed (sound.watching watch stage).2.2 moves
  | succeeds watch outcome after stage undisturbed moves =>
      cases moves with
      | concludes status block collection found position advances latest =>
          have standing : delivery.standing = ⟨none, some watch.transaction.nonce⟩ := by
            simp [Delivery.standing, errand?, number?, stage, Watch.errand?, position]
          have idle : delivery.errand? = none := congrArg Standing.errand standing
          have moving :
              Progress.ends (.success (watch.outcome status block (found.toOption.getD []))) ≠
                (.waits : Progress Delivery (Verdict Outcome)) := by simp
          have finished : delivery.attemptOver?
              (.ends (.success (watch.outcome status block (found.toOption.getD [])))) =
                some (.success (watch.outcome status block (found.toOption.getD []))) := by
            simp [attemptOver?, stage]
          have told := told_shown delivery moment moving
          rw [idle] at told
          have kept := kept_by_attempt moment moving (some watch.transaction.nonce)
            (by rw [finished]; rfl)
          rw [standing]
          exact .stops (by simpa using told) kept
      | takes status rest progress position inbox decides => cases decides
      | records status progress position decides => cases decides
  | fails watch error after progress stage undisturbed moves follows =>
      have deals := failure_deals stage undisturbed (sound.watching watch stage).2.2 moves follows
      rw [follows.standing]
      exact deals
  | givesUp wakeAt error stage cancelled =>
      have standing : delivery.standing = ⟨none, none⟩ := by
        simp [Delivery.standing, errand?, number?, stage]
      have moving : Progress.ends (.failure error) ≠
          (.waits : Progress Delivery (Verdict Outcome)) := by simp
      have quiet := silent moment moving (congrArg Standing.errand standing)
        (by simp [attemptOver?, stage])
      rw [standing]
      exact .stops quiet.1 quiet.2
  | repeats wakeAt error stage awake wanted =>
      have standing : delivery.standing = ⟨none, none⟩ := by
        simp [Delivery.standing, errand?, number?, stage]
      have moving : Progress.goesOn { delivery with
          stage := .submitting (Submission.start delivery.call delivery.signer) } none ≠
          (.waits : Progress Delivery (Verdict Outcome)) := by simp
      have quiet := silent moment moving (congrArg Standing.errand standing)
        (by simp [attemptOver?, stage])
      rw [standing]
      exact .setsOut delivery.signer.account .reserve rfl quiet.1 quiet.2 (by simp)

end Delivery

end LedgerCourier
