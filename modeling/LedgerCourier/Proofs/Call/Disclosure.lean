import LedgerCourier.Proofs.Call.Story
import LedgerCourier.Proofs.Delivery.Chronicle
import LedgerCourier.Proofs.Watch.Queue

/-!
# What the result of a call tells

A result names the number that the last attempt was given, and none if it was given none. It names
a hash exactly if the call has learnt that the ledger accepted an extrinsic of the last attempt,
and then it is the hash of that extrinsic. If the time was up, it names the last report that the
tracker of the last attempt had accepted.

What the stage of a delivery says about its attempt is kept by every step, and each way in which
an attempt ends reads its result off that stage.
-/

namespace LedgerCourier

set_option autoImplicit false

def Error.hash? : Error → Option Hash
  | .rejected _ hash _ | .dropped _ hash | .usurped _ hash | .watch _ hash _
  | .subscriptionClosed _ hash | .extrinsicFailed _ hash _ => some hash
  | .timeout _ hash _ | .cancelled _ hash => hash
  | _ => none

namespace Verdict

def number? : Verdict Outcome → Option Nat
  | .success outcome => some outcome.nonce
  | .failure error => error.nonce?
  | .overflow => none

def hash? : Verdict Outcome → Option Hash
  | .success outcome => some outcome.hash
  | .failure error => error.hash?
  | .overflow => none

/-- What a result has to tell of an attempt. -/
structure TellsOf (verdict : Verdict Outcome) (attempt : Attempt) : Prop where
  number : verdict.number?.toList = attempt.reserved
  hash : verdict.hash?.toList = attempt.accepted.map Blake2b.digest256
  lastReport : ∀ nonce hash last, verdict = .failure (.timeout nonce hash last) →
    last = (Tracker.start.feed attempt.reports).history.getLast?

end Verdict

theorem Interruption.to_error_tells (interruption : Interruption) {number : Option Nat}
    {hash : Option Hash} {last : Option Status} {attempt : Attempt}
    (reserved : attempt.reserved = number.toList)
    (accepted : attempt.accepted.map Blake2b.digest256 = hash.toList)
    (reports : (Tracker.start.feed attempt.reports).history.getLast? = last) :
    Verdict.TellsOf (.failure (interruption.toError number hash last)) attempt := by
  have named : (interruption.toError number hash last).nonce? = number ∧
      (interruption.toError number hash last).hash? = hash := by
    cases interruption <;> exact ⟨rfl, rfl⟩
  constructor
  · rw [reserved]
    exact congrArg Option.toList named.1
  · rw [accepted]
    exact congrArg Option.toList named.2
  · intro otherNumber otherHash otherLast timeout
    cases interruption with
    | cancelled => cases timeout
    | timedOut =>
        cases timeout
        exact reports.symm

namespace Delivery

variable {task : TaskId} {desk after : Desk} {moment : Moment} {delivery : Delivery}
  {progress : Progress Delivery (Verdict Outcome)}

theorem advance_struck {interruption : Interruption}
    (strikes : delivery.interruption? moment = some interruption) :
    delivery.advance task desk moment =
      (delivery.abandon task desk,
        .ends (.failure (delivery.interruptedError interruption))) := by
  simp [advance, strikes]

theorem advance_undisturbed (undisturbed : delivery.interruption? moment = none) :
    delivery.advance task desk moment = delivery.proceed task desk moment := by
  simp [advance, undisturbed]

theorem Sound.errand_settles (sound : delivery.Sound) {number : Nat}
    (held : delivery.number? = some number) {errand : Errand}
    (own : delivery.errand? = some errand) : errand.purpose ≠ .reserve := by
  cases stage : delivery.stage with
  | submitting submission =>
      obtain ⟨-, -, still⟩ := sound.submitting submission stage
      cases position : submission.stage with
      | reserving other => simp [number?, stage, Submission.nonce?, position] at held
      | preparing nonce => simp [errand?, stage, Submission.errand?, position] at own
      | sending transaction => simp [errand?, stage, Submission.errand?, position] at own
      | undoing nonce other error =>
          obtain rfl : other = errand := by
            simpa [errand?, stage, Submission.errand?, position] using own
          rw [(still.undoing nonce other error position).2.1, Submission.remedy]
          split <;> simp
  | watching watch =>
      obtain ⟨-, -, still⟩ := sound.watching watch stage
      cases position : watch.stage with
      | awaiting => simp [errand?, stage, Watch.errand?, position] at own
      | recording status => simp [errand?, stage, Watch.errand?, position] at own
      | collecting status block collection =>
          simp [errand?, stage, Watch.errand?, position] at own
      | settling other error =>
          obtain rfl : other = errand := by
            simpa [errand?, stage, Watch.errand?, position] using own
          obtain ⟨-, status, -, setback⟩ := still.settling other error position
          exact Watch.setback_purpose setback
  | pausing wakeAt error => simp [errand?, stage] at own

theorem handed_out_reserving {submission : Submission} {errand : Errand}
    (stage : delivery.stage = .submitting submission)
    (position : submission.stage = .reserving errand) (purpose : errand.purpose = .reserve)
    (undisturbed : delivery.interruption? moment = none) (task : TaskId) (desk : Desk) :
    delivery.handedOut? task desk moment =
      (delivery.standingAfter (delivery.advance task desk moment).2).number := by
  rw [advance_undisturbed undisturbed]
  simp only [handedOut?, undisturbed, errand?, stage, Submission.errand?, position, purpose,
    proceed, Submission.advance]
  generalize errand.advance task desk.sequencer moment.answer = step
  obtain ⟨sequencer, progress⟩ := step
  have unchanged : delivery.standing.number = none := by
    simp [standing, number?, stage, Submission.nonce?, position]
  cases progress with
  | waits => simp [Progress.lift, standingAfter, unchanged]
  | goesOn next request => rfl
  | ends result =>
      cases result with
      | reserved number => rfl
      | exhausted => rfl
      | failed cause => simp [Progress.lift, afterFailure, Error.isRetryable, standingAfter]
      | done => simp [Progress.lift, standingAfter, unchanged]

theorem standing_pausing {wakeAt : Nat} {error : Error}
    (stage : delivery.stage = .pausing wakeAt error) (task : TaskId) (desk : Desk)
    (moment : Moment) :
    (delivery.standingAfter (delivery.advance task desk moment).2).number = none := by
  rw [advance_pausing stage]
  dsimp only
  split
  · rfl
  · split
    · rfl
    · simp [standingAfter, standing, number?, stage]

/-- An attempt that has no number yet gets the one that is handed out to it, and nothing is handed
out to an attempt that has one. -/
theorem handed_out_eq (sound : delivery.Sound) (task : TaskId) (desk : Desk) (moment : Moment) :
    delivery.handedOut? task desk moment =
      if delivery.number? = none
      then (delivery.standingAfter (delivery.advance task desk moment).2).number else none := by
  cases strikes : delivery.interruption? moment with
  | some interruption => simp [handedOut?, strikes, advance_struck strikes, standingAfter]
  | none =>
      cases held : delivery.number? with
      | some number =>
          rw [if_neg (by simp)]
          unfold handedOut?
          split
          next errand _ own =>
            split
            next reserves _ => exact absurd reserves (sound.errand_settles held own)
            next => rfl
          next => rfl
      | none =>
          rw [if_pos rfl]
          cases stage : delivery.stage with
          | submitting submission =>
              obtain ⟨-, -, still⟩ := sound.submitting submission stage
              cases position : submission.stage with
              | reserving errand =>
                  exact handed_out_reserving stage position (still.reserving errand position).2
                    strikes task desk
              | preparing nonce => simp [number?, stage, Submission.nonce?, position] at held
              | sending transaction =>
                  simp [number?, stage, Submission.nonce?, position] at held
              | undoing nonce errand error =>
                  simp [number?, stage, Submission.nonce?, position] at held
          | watching watch => simp [number?, stage] at held
          | pausing wakeAt error =>
              rw [standing_pausing stage]
              simp [handedOut?, errand?, stage]

/-- The extrinsic whose acceptance a turn learns of. -/
def acceptance? (delivery : Delivery) (moment : Moment) : Option Bytes :=
  match delivery.interruption? moment with
  | none =>
      (delivery.heard? moment).bind fun heard => Observation.accepted? (.answered heard.1 heard.2)
  | some _ => none

def reportTaken? (delivery : Delivery) (moment : Moment) : Option Status :=
  match delivery.interruption? moment with
  | none => delivery.notice?.bind fun notice => Observation.report? (.took notice)
  | some _ => none

theorem shown_of_consumed {Part : Type} (choose : Observation → Option Part)
    (asked : ∀ request, choose (.asked request) = none)
    (atEnd : ∀ verdict, choose (.attemptOver verdict) = none) (moment : Moment)
    (moving : progress ≠ .waits) :
    (delivery.observations moment progress).filterMap choose =
      (delivery.consumed moment).filterMap choose := by
  rw [observations_of_moving moving, List.filterMap_append, List.filterMap_append,
    filter_map_silent _ choose asked, filter_map_silent _ choose atEnd, List.append_nil,
    List.append_nil]

theorem accepted_shown (moment : Moment) (moving : progress ≠ .waits) :
    (delivery.observations moment progress).filterMap Observation.accepted? =
      (delivery.acceptance? moment).toList := by
  rw [shown_of_consumed _ (fun _ => rfl) (fun _ => rfl) moment moving, consumed, acceptance?]
  cases undisturbed : delivery.interruption? moment with
  | some interruption => rfl
  | none =>
      rw [if_pos rfl, List.filterMap_append, List.filterMap_append, filter_map_optional,
        filter_map_silent _ _ fun _ => rfl, filter_map_silent _ _ fun _ => rfl, List.append_nil,
        List.append_nil]

theorem reports_shown (moment : Moment) (moving : progress ≠ .waits) :
    (delivery.observations moment progress).filterMap Observation.report? =
      (delivery.reportTaken? moment).toList := by
  rw [shown_of_consumed _ (fun _ => rfl) (fun _ => rfl) moment moving, consumed, reportTaken?]
  cases undisturbed : delivery.interruption? moment with
  | some interruption => rfl
  | none =>
      rw [if_pos rfl, List.filterMap_append, List.filterMap_append, filter_map_silent,
        filter_map_optional, filter_map_silent _ _ fun _ => rfl, List.append_nil, List.nil_append]
      exact fun heard => rfl

end Delivery

namespace Attempt

variable {attempt : Attempt} {task : TaskId} {desk : Desk} {moment : Moment}
  {delivery : Delivery} {progress : Progress Delivery (Verdict Outcome)}

theorem extend_reserved (attempt : Attempt) (task : TaskId) (desk : Desk) (moment : Moment)
    (delivery : Delivery) :
    (attempt.extend task desk moment delivery).reserved =
      attempt.reserved ++ (delivery.handedOut? task desk moment).toList := by
  have own : ((delivery.handedOut? task desk moment).map .reserves).toList.filterMap
      Undertaking.reserved? = (delivery.handedOut? task desk moment).toList := by
    cases delivery.handedOut? task desk moment <;> rfl
  simp only [reserved, extend, Delivery.undertakings, List.filterMap_append, own]
  rw [Delivery.filter_map_silent _ _ fun _ => rfl, Delivery.filter_map_silent _ _ fun _ => rfl,
    List.append_nil, List.append_nil]

theorem extend_accepted (own : (delivery.advance task desk moment).2 = progress) :
    (attempt.extend task desk moment delivery).accepted =
      attempt.accepted ++
        (delivery.observations moment progress).filterMap Observation.accepted? := by
  simp only [accepted, extend, own, List.filterMap_append]

theorem extend_reports (own : (delivery.advance task desk moment).2 = progress) :
    (attempt.extend task desk moment delivery).reports =
      attempt.reports ++
        (delivery.observations moment progress).filterMap Observation.report? := by
  simp only [reports, extend, own, List.filterMap_append]

end Attempt

theorem Submission.Moves.number_kept {task : TaskId} {desk after : Desk} {moment : Moment}
    {submission next : Submission} {request : Option Request}
    (moves : submission.Moves task desk moment (after, .goesOn next request)) {number : Nat}
    (held : submission.nonce? = some number) : next.nonce? = some number := by
  cases moves with
  | attends errand following sequencer request stage moves =>
      simp [Submission.nonce?, stage] at held
  | reserves errand taken sequencer stage moves => simp [Submission.nonce?, stage] at held
  | signs nonce transaction stage prepared =>
      have same := (SignedTransaction.prepare_spec prepared).1
      simpa [Submission.nonce?, stage, same] using held
  | declines nonce error stage refused =>
      simpa [Submission.nonce?, stage, Submission.undo] using held
  | bounces transaction cause stage answer =>
      simpa [Submission.nonce?, stage, Submission.undo] using held
  | undoes nonce errand following error sequencer request stage moves =>
      simpa [Submission.nonce?, stage] using held

theorem Watch.Moves.end_names {task : TaskId} {desk after : Desk} {moment : Moment}
    {watch : Watch} {verdict : Verdict Outcome} (sound : watch.Sound)
    (moves : watch.Moves task desk moment (after, .ends verdict)) :
    verdict.number? = some watch.transaction.nonce ∧
      verdict.hash? = some watch.transaction.hash ∧
        ∀ number hash last, verdict ≠ .failure (.timeout number hash last) := by
  cases moves with
  | breaks cause rest stage inbox => exact ⟨rfl, rfl, by simp⟩
  | runsDry stage inbox closed => exact ⟨rfl, rfl, by simp⟩
  | takes status rest progress stage inbox decides =>
      cases decides
      exact ⟨rfl, rfl, by simp⟩
  | records status progress stage decides =>
      cases decides
      exact ⟨rfl, rfl, by simp⟩
  | concludes status block collection found stage advances latest => exact ⟨rfl, rfl, by simp⟩
  | settles errand error sequencer result stage moves =>
      obtain ⟨-, status, -, setback⟩ := sound.settling errand error stage
      unfold SignedTransaction.setback? at setback
      split at setback
      · obtain ⟨-, rfl⟩ := Prod.ext_iff.mp (Option.some.inj setback)
        exact ⟨rfl, rfl, by simp⟩
      · obtain ⟨-, rfl⟩ := Prod.ext_iff.mp (Option.some.inj setback)
        exact ⟨rfl, rfl, by simp⟩
      · cases setback

theorem Watch.Moves.feeds {task : TaskId} {desk after : Desk} {moment : Moment}
    {watch next : Watch} {request : Option Request}
    (moves : watch.Moves task desk moment (after, .goesOn next request)) :
    next.tracker = watch.tracker.feed
      (watch.notice?.bind fun notice => Observation.report? (.took notice)).toList := by
  cases moves with
  | takes status rest progress stage inbox decides =>
      have same := decides.keeps.2.1
      rw [same]
      simp [Watch.notice?, stage, inbox, Observation.report?, Watch.took, Tracker.feed]
  | holds status rest stage inbox counts held =>
      simp [Watch.notice?, stage, inbox, Observation.report?, Watch.took, Tracker.feed]
  | records status progress stage decides =>
      rw [decides.keeps.2.1]
      simp [Watch.notice?, stage, Tracker.feed]
  | collects status block collection following request stage advances =>
      simp [Watch.notice?, stage, Tracker.feed]
  | resumes status block collection found stage advances overtaken =>
      simp [Watch.notice?, stage, Tracker.feed]
  | attends errand following error sequencer request stage moves =>
      simp [Watch.notice?, stage, Tracker.feed]

namespace Delivery

variable {task : TaskId} {desk after : Desk} {moment : Moment} {delivery next : Delivery}
  {request : Option Request} {attempt : Attempt}

def IsActive (delivery : Delivery) : Prop :=
  ∀ wakeAt error, delivery.stage ≠ .pausing wakeAt error

theorem IsActive.awake (active : delivery.IsActive) : delivery.wakeAt? = none := by
  unfold wakeAt?
  split
  next wakeAt error stage => exact absurd stage (active wakeAt error)
  next => rfl

theorem pausing_of_inactive (inactive : ¬delivery.IsActive) :
    ∃ wakeAt error, delivery.stage = .pausing wakeAt error := by
  simpa [IsActive] using inactive

theorem Moves.number_kept
    (moves : delivery.Moves task desk moment (after, .goesOn next request)) {number : Nat}
    (held : delivery.number? = some number) (active : next.IsActive) :
    next.number? = some number := by
  cases moves with
  | submits submission following after request stage undisturbed moves =>
      exact moves.number_kept (by simpa [number?, stage] using held)
  | isAccepted submission transaction after stage undisturbed moves =>
      cases moves with
      | succeeds transaction position answer =>
          simpa [number?, stage, Submission.nonce?, position, Watch.start] using held
  | isRefused submission error after progress stage undisturbed moves follows =>
      cases follows
      exact absurd rfl (active _ _)
  | watches watch following after request stage undisturbed moves =>
      have same := moves.same_transaction.1
      simpa [number?, stage, same] using held
  | fails watch error after progress stage undisturbed moves follows =>
      cases follows
      exact absurd rfl (active _ _)
  | repeats wakeAt error stage awake wanted => simp [number?, stage] at held

/-- What the stage of a delivery says about its present attempt. -/
structure Continues (delivery : Delivery) (attempt : Attempt) : Prop where
  reserved : delivery.IsActive → attempt.reserved = delivery.number?.toList
  submitting : ∀ submission, delivery.stage = .submitting submission →
    attempt.accepted = [] ∧ attempt.reports = []
  watching : ∀ watch, delivery.stage = .watching watch →
    attempt.accepted = [watch.transaction.extrinsic] ∧
      watch.tracker = Tracker.start.feed attempt.reports
  pausing : ∀ wakeAt error, delivery.stage = .pausing wakeAt error →
    Verdict.TellsOf (.failure error) attempt

theorem reserved_kept (sound : delivery.Sound)
    (own : delivery.advance task desk moment = (after, .goesOn next request))
    (reserved : attempt.reserved = delivery.number?.toList) (active : next.IsActive) :
    (attempt.extend task desk moment delivery).reserved = next.number?.toList := by
  have moves := delivery.advance_moves task desk moment
  rw [own] at moves
  rw [Attempt.extend_reserved, reserved, handed_out_eq sound, own]
  cases held : delivery.number? with
  | none => simp [standingAfter, standing]
  | some number => simp [moves.number_kept held active]

theorem reserved_at_end (sound : delivery.Sound)
    (numberless : (delivery.standingAfter (delivery.advance task desk moment).2).number = none)
    (reserved : attempt.reserved = delivery.number?.toList) :
    (attempt.extend task desk moment delivery).reserved = delivery.number?.toList := by
  rw [Attempt.extend_reserved, reserved, handed_out_eq sound, numberless]
  split <;> simp

theorem unaccepted (moment : Moment)
    (other : ∀ extrinsic, delivery.question? ≠ some (.send extrinsic)) :
    delivery.acceptance? moment = none := by
  unfold acceptance? heard? Answer.settled?
  cases delivery.interruption? moment with
  | some interruption => rfl
  | none =>
      dsimp only
      split
      next request answer question answered =>
        split
        · cases request with
          | send extrinsic => exact absurd question (other extrinsic)
          | nonce account => rfl
          | position block extrinsic => rfl
          | events block => rfl
        · rfl
      next => rfl

theorem errand_question (errand : Errand) (extrinsic : Bytes) :
    errand.question? ≠ some (.send extrinsic) := by
  unfold Errand.question?
  split <;> simp

theorem unaccepted_watching {watch : Watch} (stage : delivery.stage = .watching watch)
    (moment : Moment) : delivery.acceptance? moment = none := by
  apply unaccepted moment
  intro extrinsic
  have same : delivery.question? = watch.question? := by simp [question?, stage]
  rw [same]
  unfold Watch.question?
  split
  · simp
  · simp
  next collection _ =>
    unfold Collection.question?
    split <;> simp
  next errand error _ => exact errand_question errand extrinsic

theorem no_report_submitting {submission : Submission}
    (stage : delivery.stage = .submitting submission) (moment : Moment) :
    delivery.reportTaken? moment = none := by
  unfold reportTaken? notice?
  rw [stage]
  split <;> rfl

/-- A submission has been accepted, or its step tells nothing about that. -/
theorem unaccepted_submitting {submission : Submission} {progress : Progress Submission
      (Verdict SignedTransaction)}
    (stage : delivery.stage = .submitting submission)
    (moves : submission.Moves task desk moment (after, progress))
    (pending : ∀ transaction, progress ≠ .ends (.success transaction))
    (moving : progress ≠ .waits) : delivery.acceptance? moment = none := by
  have same : delivery.question? = submission.question? := by simp [question?, stage]
  have quiet : (∀ extrinsic, submission.question? ≠ some (.send extrinsic)) →
      delivery.acceptance? moment = none := fun other => unaccepted moment (same ▸ other)
  cases moves with
  | waits => exact absurd rfl moving
  | strays => exact absurd rfl moving
  | attends errand following sequencer request position moves =>
      exact quiet (by simpa [Submission.question?, position] using errand_question errand)
  | reserves errand number sequencer position moves =>
      exact quiet (by simpa [Submission.question?, position] using errand_question errand)
  | exhausts errand sequencer position moves =>
      exact quiet (by simpa [Submission.question?, position] using errand_question errand)
  | misses errand cause sequencer position moves =>
      exact quiet (by simpa [Submission.question?, position] using errand_question errand)
  | signs nonce transaction position prepared =>
      exact quiet (by simp [Submission.question?, position])
  | declines nonce error position refused =>
      exact quiet (by simp [Submission.question?, position])
  | succeeds transaction position answer => exact absurd rfl (pending transaction)
  | bounces transaction cause position answer =>
      unfold acceptance? heard?
      rw [same, answer]
      cases delivery.interruption? moment <;>
        simp [Submission.question?, position, Answer.settled?, Answer.fits, Observation.accepted?]
  | undoes nonce errand following error sequencer request position moves =>
      exact quiet (by simpa [Submission.question?, position] using errand_question errand)
  | undone nonce errand error sequencer result position moves =>
      exact quiet (by simpa [Submission.question?, position] using errand_question errand)

theorem extend_seen (attempt : Attempt) {progress : Progress Delivery (Verdict Outcome)}
    (own : (delivery.advance task desk moment).2 = progress) (moving : progress ≠ .waits) :
    (attempt.extend task desk moment delivery).accepted =
        attempt.accepted ++ (delivery.acceptance? moment).toList ∧
      (attempt.extend task desk moment delivery).reports =
        attempt.reports ++ (delivery.reportTaken? moment).toList := by
  rw [Attempt.extend_accepted own, Attempt.extend_reports own, accepted_shown moment moving,
    reports_shown moment moving]
  exact ⟨rfl, rfl⟩

theorem extend_silent (attempt : Attempt) {progress : Progress Delivery (Verdict Outcome)}
    (own : (delivery.advance task desk moment).2 = progress) (moving : progress ≠ .waits)
    (unheard : delivery.acceptance? moment = none)
    (untaken : delivery.reportTaken? moment = none) :
    (attempt.extend task desk moment delivery).accepted = attempt.accepted ∧
      (attempt.extend task desk moment delivery).reports = attempt.reports := by
  obtain ⟨accepted, reports⟩ := extend_seen attempt own moving
  rw [unheard, Option.toList_none, List.append_nil] at accepted
  rw [untaken, Option.toList_none, List.append_nil] at reports
  exact ⟨accepted, reports⟩

theorem interrupted_tells (sound : delivery.Sound) (continues : delivery.Continues attempt)
    (active : delivery.IsActive) {interruption : Interruption}
    (strikes : delivery.interruption? moment = some interruption) :
    Verdict.TellsOf (.failure (delivery.interruptedError interruption))
      (attempt.extend task desk moment delivery) := by
  have own : (delivery.advance task desk moment).2 =
      .ends (.failure (delivery.interruptedError interruption)) := by
    rw [advance_struck strikes]
  have reserved : (attempt.extend task desk moment delivery).reserved = delivery.number?.toList :=
    reserved_at_end sound (by rw [own]; rfl) (continues.reserved active)
  obtain ⟨accepted, reports⟩ := extend_silent attempt own (by simp)
    (by simp [acceptance?, strikes]) (by simp [reportTaken?, strikes])
  unfold interruptedError
  cases stage : delivery.stage with
  | submitting submission =>
      obtain ⟨unsent, unreported⟩ := continues.submitting submission stage
      apply interruption.to_error_tells
      · simpa [number?, stage] using reserved
      · rw [accepted, unsent]
        rfl
      · rw [reports, unreported]
        rfl
  | watching watch =>
      obtain ⟨sent, tracked⟩ := continues.watching watch stage
      obtain ⟨⟨channel, prepared⟩, -, -⟩ := sound.watching watch stage
      have hash := (SignedTransaction.prepare_spec prepared).2.2
      apply interruption.to_error_tells
      · simpa [number?, stage] using reserved
      · rw [accepted, sent, hash]
        rfl
      · rw [reports, tracked, Tracker.current_is_last]
  | pausing wakeAt error => exact absurd stage (active wakeAt error)

theorem unsent_tells {submission : Submission} {verdict : Verdict Outcome}
    (stage : delivery.stage = .submitting submission) (sound : delivery.Sound)
    (continues : delivery.Continues attempt)
    {progress : Progress Submission (Verdict SignedTransaction)}
    (moves : submission.Moves task desk moment (after, progress))
    (pending : ∀ transaction, progress ≠ .ends (.success transaction))
    (acts : progress ≠ .waits) (moving : (delivery.advance task desk moment).2 ≠ .waits)
    (numberless : (delivery.standingAfter (delivery.advance task desk moment).2).number = none)
    (number : verdict.number? = submission.nonce?) (hash : verdict.hash? = none)
    (untimed : ∀ number hash last, verdict ≠ .failure (.timeout number hash last)) :
    verdict.TellsOf (attempt.extend task desk moment delivery) := by
  have active : delivery.IsActive := by simp [IsActive, stage]
  have reserved := reserved_at_end sound numberless (continues.reserved active)
  have unheard := unaccepted_submitting stage moves pending acts
  obtain ⟨accepted, -⟩ := extend_silent attempt rfl moving unheard
    (no_report_submitting stage moment)
  refine ⟨?_, ?_, fun number hash last same => absurd same (untimed number hash last)⟩
  · rw [reserved, number]
    simp [number?, stage]
  · rw [accepted, (continues.submitting submission stage).1, hash]
    rfl

theorem refusal_tells {submission : Submission} {error : Error}
    {progress : Progress Delivery (Verdict Outcome)}
    (stage : delivery.stage = .submitting submission) (sound : delivery.Sound)
    (continues : delivery.Continues attempt)
    (moves : submission.Moves task desk moment (after, .ends (.failure error)))
    (follows : delivery.FollowsUp moment.now error progress)
    (own : (delivery.advance task desk moment).2 = progress) :
    Verdict.TellsOf (.failure error) (attempt.extend task desk moment delivery) := by
  have numberless :
      (delivery.standingAfter (delivery.advance task desk moment).2).number = none := by
    rw [own, follows.standing]
  obtain ⟨number, hash, untimed⟩ : error.nonce? = submission.nonce? ∧ error.hash? = none ∧
      ∀ number hash last, error ≠ .timeout number hash last := by
    obtain ⟨-, -, still⟩ := sound.submitting submission stage
    cases moves with
    | misses errand cause sequencer position moves =>
        exact ⟨by simp [Error.nonce?, Submission.nonce?, position], rfl, by simp⟩
    | undone nonce errand error sequencer result position moves =>
        obtain ⟨-, -, refusal, number⟩ := still.undoing nonce errand error position
        rw [number, Submission.nonce?, position]
        unfold Error.refusal? at refusal
        split at refusal <;> first | exact ⟨rfl, rfl, by simp⟩ | exact absurd rfl refusal
  exact unsent_tells stage sound continues moves (by simp) (by simp) (own ▸ follows.moving)
    numberless number hash (by simpa using untimed)

theorem watch_tells {watch : Watch} {verdict : Verdict Outcome}
    {progress : Progress Delivery (Verdict Outcome)} (stage : delivery.stage = .watching watch)
    (sound : delivery.Sound) (continues : delivery.Continues attempt)
    (moves : watch.Moves task desk moment (after, .ends verdict))
    (own : (delivery.advance task desk moment).2 = progress) (moving : progress ≠ .waits)
    (numberless : (delivery.standingAfter progress).number = none) :
    verdict.TellsOf (attempt.extend task desk moment delivery) := by
  have active : delivery.IsActive := by simp [IsActive, stage]
  have ended : (delivery.standingAfter (delivery.advance task desk moment).2).number = none :=
    own ▸ numberless
  have reserved := reserved_at_end sound ended (continues.reserved active)
  obtain ⟨accepted, -⟩ := extend_seen attempt own moving
  obtain ⟨sent, -⟩ := continues.watching watch stage
  obtain ⟨⟨channel, prepared⟩, -, still⟩ := sound.watching watch stage
  have digest := (SignedTransaction.prepare_spec prepared).2.2
  obtain ⟨number, hash, untimed⟩ := moves.end_names still
  refine ⟨?_, ?_, fun number hash last same => absurd same (untimed number hash last)⟩
  · rw [reserved, number]
    simp [number?, stage]
  · rw [accepted, sent, unaccepted_watching stage, hash, digest]
    rfl

theorem extend_waiting (attempt : Attempt) (sound : delivery.Sound)
    (own : (delivery.advance task desk moment).2 = .waits) :
    (attempt.extend task desk moment delivery).reserved = attempt.reserved ∧
      (attempt.extend task desk moment delivery).accepted = attempt.accepted ∧
        (attempt.extend task desk moment delivery).reports = attempt.reports := by
  have nothing : delivery.handedOut? task desk moment = none := by
    rw [handed_out_eq sound, own]
    simp only [standingAfter, standing]
    split
    next absent => exact absent
    next => rfl
  refine ⟨?_, ?_, ?_⟩
  · rw [Attempt.extend_reserved, nothing, Option.toList_none, List.append_nil]
  · rw [Attempt.extend_accepted own]
    exact List.append_nil _
  · rw [Attempt.extend_reports own]
    exact List.append_nil _

theorem FollowsUp.continues {now : Nat} {error : Error}
    (follows : delivery.FollowsUp now error (.goesOn next request))
    (told : Verdict.TellsOf (.failure error) attempt) : next.Continues attempt := by
  cases follows with
  | pauses wakeAt retryable left scheduled early =>
      refine ⟨?_, by simp, by simp, ?_⟩
      · intro active
        exact absurd rfl (active wakeAt error)
      · intro other own stage
        obtain ⟨-, rfl⟩ : wakeAt = other ∧ error = own := by simpa using stage
        exact told

/-- A step of a delivery that is not pausing leads on in the present attempt. -/
theorem Continues.kept (continues : delivery.Continues attempt) (sound : delivery.Sound)
    (active : delivery.IsActive)
    (own : delivery.advance task desk moment = (after, .goesOn next request)) :
    next.Continues (attempt.extend task desk moment delivery) := by
  have progress : (delivery.advance task desk moment).2 = .goesOn next request := by rw [own]
  have reserved : next.IsActive →
      (attempt.extend task desk moment delivery).reserved = next.number?.toList :=
    reserved_kept sound own (continues.reserved active)
  have moves := delivery.advance_moves task desk moment
  rw [own] at moves
  cases moves with
  | submits submission following after request stage undisturbed moves =>
      obtain ⟨unsent, unreported⟩ := continues.submitting submission stage
      have unheard := unaccepted_submitting stage moves (by simp) (by simp)
      obtain ⟨accepted, reports⟩ := extend_silent attempt progress (by simp) unheard
        (no_report_submitting stage moment)
      refine ⟨reserved, ?_, by simp, by simp⟩
      intro other same
      exact ⟨accepted.trans unsent, reports.trans unreported⟩
  | isAccepted submission transaction after stage undisturbed moves =>
      obtain ⟨unsent, unreported⟩ := continues.submitting submission stage
      cases moves with
      | succeeds transaction position answer =>
          have shown := accepted_observations stage position undisturbed answer
          refine ⟨reserved, by simp, ?_, by simp⟩
          intro watch same
          obtain rfl : Watch.start transaction delivery.depth = watch := by simpa using same
          constructor
          · rw [Attempt.extend_accepted progress, shown, unsent]
            rfl
          · rw [Attempt.extend_reports progress, shown, unreported]
            rfl
  | isRefused submission error after _ stage undisturbed moves follows =>
      exact follows.continues (refusal_tells stage sound continues moves follows progress)
  | watches watch following after request stage undisturbed moves =>
      obtain ⟨sent, tracked⟩ := continues.watching watch stage
      obtain ⟨accepted, reports⟩ := extend_seen attempt progress (by simp)
      have taken : delivery.reportTaken? moment =
          watch.notice?.bind fun notice => Observation.report? (.took notice) := by
        simp [reportTaken?, undisturbed, notice?, stage]
      refine ⟨reserved, by simp, ?_, by simp⟩
      intro other same
      obtain rfl : following = other := by simpa using same
      constructor
      · rw [accepted, sent, unaccepted_watching stage, moves.same_transaction.1]
        rfl
      · rw [reports, taken, Tracker.feed_append, ← tracked]
        exact moves.feeds
  | fails watch error after _ stage undisturbed moves follows =>
      exact follows.continues (watch_tells stage sound continues moves progress (by simp)
        (congrArg Standing.number follows.standing))
  | repeats wakeAt error stage awake wanted => exact absurd stage (active wakeAt error)

theorem Continues.tells (continues : delivery.Continues attempt) (sound : delivery.Sound)
    (active : delivery.IsActive) {verdict : Verdict Outcome}
    (own : delivery.advance task desk moment = (after, .ends verdict)) :
    verdict.TellsOf (attempt.extend task desk moment delivery) := by
  have progress : (delivery.advance task desk moment).2 = .ends verdict := by rw [own]
  have moves := delivery.advance_moves task desk moment
  rw [own] at moves
  cases moves with
  | stops interruption _ strikes => exact interrupted_tells sound continues active strikes
  | isRefused submission error after _ stage undisturbed moves follows =>
      cases follows with
      | surrenders final =>
          exact refusal_tells stage sound continues moves (.surrenders final) progress
  | overflows submission after stage undisturbed moves =>
      have numberless :
          (delivery.standingAfter (delivery.advance task desk moment).2).number = none := by
        rw [progress]
        rfl
      have number : submission.nonce? = none := by
        cases moves with
        | exhausts errand sequencer position moves => simp [Submission.nonce?, position]
      exact unsent_tells stage sound continues moves (by simp) (by simp) (by simp [progress])
        numberless number.symm rfl (by simp)
  | succeeds watch outcome after stage undisturbed moves =>
      exact watch_tells stage sound continues moves progress (by simp) rfl
  | fails watch error after _ stage undisturbed moves follows =>
      cases follows with
      | surrenders final => exact watch_tells stage sound continues moves progress (by simp) rfl
  | givesUp wakeAt error stage cancelled => exact absurd stage (active wakeAt error)

theorem Continues.received (continues : delivery.Continues attempt)
    (receives : delivery.Receives next) : next.Continues attempt := by
  cases receives with
  | unmoved => exact continues
  | watches watch other stage transaction tracker =>
      obtain ⟨sent, tracked⟩ := continues.watching watch stage
      refine ⟨?_, by simp, ?_, by simp⟩
      · intro _
        rw [continues.reserved (by simp [IsActive, stage])]
        simp [number?, stage, transaction]
      · intro another same
        obtain rfl : other = another := by simpa using same
        rw [transaction, tracker]
        exact ⟨sent, tracked⟩

end Delivery

namespace Story

variable {story : Story} {task : TaskId}

/-- The present attempt agrees with the stage of the call, and with its result if it is over. -/
structure Disclosed (story : Story) : Prop where
  underWay : story.call.verdict = none →
    story.call.delivery.Sound ∧ story.call.delivery.Continues story.present
  finished : ∀ verdict, story.call.verdict = some verdict → verdict.TellsOf story.present

theorem disclosed_under_way {delivery : Delivery} {past : List Attempt} {present : Attempt}
    (sound : delivery.Sound) (continues : delivery.Continues present) :
    Disclosed ⟨⟨delivery, none⟩, past, present⟩ :=
  ⟨fun _ => ⟨sound, continues⟩, by simp⟩

theorem disclosed_over {delivery : Delivery} {past : List Attempt} {present : Attempt}
    {verdict : Verdict Outcome} (told : verdict.TellsOf present) :
    Disclosed ⟨⟨delivery, some verdict⟩, past, present⟩ := by
  refine ⟨by simp, ?_⟩
  intro other same
  obtain rfl : verdict = other := by simpa using same
  exact told

theorem fresh_continues {delivery : Delivery} (now : Nat)
    (stage : delivery.stage = .submitting (Submission.start delivery.call delivery.signer)) :
    delivery.Continues (Attempt.fresh now) := by
  refine ⟨?_, ?_, by simp [stage], by simp [stage]⟩
  · intro _
    simp [Attempt.fresh, Attempt.reserved, Delivery.number?, stage, Submission.start,
      Submission.nonce?]
  · intro submission same
    exact ⟨rfl, rfl⟩

theorem start_disclosed (now : Nat) (settings : Settings) (options : WaitOptions)
    (call : EncodedCall) (signer : Signer) :
    (start now settings options call signer).Disclosed :=
  disclosed_under_way (Delivery.start_sound now settings options call signer)
    (fresh_continues now rfl)

theorem Disclosed.turn (disclosed : story.Disclosed) {delivery : Delivery}
    (underWay : story.call = ⟨delivery, none⟩) (desk : Desk) (moment : Moment) :
    (story.turn task desk moment delivery).Disclosed := by
  obtain ⟨sound, continues⟩ : delivery.Sound ∧ delivery.Continues story.present := by
    have kept := disclosed.underWay (by rw [underWay])
    rwa [underWay] at kept
  by_cases active : delivery.IsActive
  · rw [turn_active underWay active]
    have moves := delivery.advance_moves task desk moment
    generalize known : delivery.advance task desk moment = step at moves
    obtain ⟨after, progress⟩ := step
    cases progress with
    | waits =>
        obtain ⟨reserved, accepted, reports⟩ :=
          Delivery.extend_waiting story.present sound (congrArg Prod.snd known)
        refine disclosed_under_way sound ⟨?_, ?_, ?_, ?_⟩
        · exact fun active => reserved.trans (continues.reserved active)
        · rw [accepted, reports]
          exact continues.submitting
        · rw [accepted, reports]
          exact continues.watching
        · intro wakeAt error stage
          exact absurd stage (active wakeAt error)
    | goesOn next request =>
        exact disclosed_under_way (moves.sound sound) (continues.kept sound active known)
    | ends verdict => exact disclosed_over (continues.tells sound active known)
  · obtain ⟨wakeAt, error, stage⟩ := Delivery.pausing_of_inactive active
    rw [turn_pausing underWay stage]
    split
    · exact disclosed_over (continues.pausing wakeAt error stage)
    · split
      · exact disclosed_under_way (Delivery.resubmitted_sound rfl) (fresh_continues _ rfl)
      · exact disclosed

theorem Disclosed.next (disclosed : story.Disclosed) (happening : Happening) :
    (story.next task happening).Disclosed := by
  obtain ⟨⟨delivery, decided⟩, past, present⟩ := story
  cases decided with
  | some verdict =>
      rw [next_of_over task rfl]
      exact disclosed
  | none =>
      obtain ⟨sound, continues⟩ := disclosed.underWay rfl
      cases happening with
      | turn desk moment => exact disclosed.turn rfl desk moment
      | arrives notice =>
          exact disclosed_under_way (sound.deliver notice)
            (continues.received (delivery.deliver_receives notice))
      | closes =>
          exact disclosed_under_way sound.close (continues.received delivery.close_receives)

/-- However a call goes, its result tells of its last attempt: the number that the attempt was
given, the hash of the extrinsic that the ledger accepted from it, and, if the time was up, the
last report that counted. -/
theorem result_tells_of_last_attempt (task : TaskId) (now : Nat) (settings : Settings)
    (options : WaitOptions) (call : EncodedCall) (signer : Signer) (happenings : List Happening)
    (verdict : Verdict Outcome)
    (finished : ((start now settings options call signer).tell task happenings).call.verdict =
      some verdict) :
    verdict.TellsOf ((start now settings options call signer).tell task happenings).present :=
  (tell_induction (motive := Disclosed) task
    (fun _ happening disclosed => disclosed.next happening)
    (start_disclosed now settings options call signer) happenings).finished verdict finished

/-- A call whose time is up after the ledger has accepted its extrinsic and reported on it. -/
def timedOutCall : List Happening :=
  let finds (now : Nat) (line : List TaskId) (answer : Option Answer) : Happening :=
    .turn ⟨⟨⟨[(Bytes32.fill 1, ⟨Allocator.start, line⟩)]⟩⟩, 0, History.withCapacity 1⟩
      ⟨now, false, ⟨fun _ _ => .ok [], fun _ _ _ _ => .ok []⟩, answer, true⟩
  [finds 0 [] none, finds 0 [0] none, finds 10 [0] (some (.nonce (.ok 5))), finds 10 [] none,
    finds 20 [] (some (.sent (.ok ()))), .arrives (.status .ready), finds 30 [] none,
    finds 1000 [] none]

theorem timed_out_call_tells :
    ∃ story hash, (start 0 {} ⟨.finalized, some 1000⟩ ⟨"lock", [], []⟩
        ⟨Bytes32.fill 1, fun _ => .ok (.sr25519 [])⟩).tell 0 timedOutCall = story ∧
      story.call.verdict = some (.failure (.timeout (some 5) (some hash) (some .ready))) ∧
        Verdict.TellsOf (.failure (.timeout (some 5) (some hash) (some .ready))) story.present :=
  ⟨_, _, rfl, rfl, result_tells_of_last_attempt 0 0 {} ⟨.finalized, some 1000⟩ ⟨"lock", [], []⟩
    ⟨Bytes32.fill 1, fun _ => .ok (.sr25519 [])⟩ timedOutCall _ rfl⟩

end Story

end LedgerCourier
