import LedgerCourier.Delivery
import LedgerCourier.Proofs.Watch.Moves

/-!
# What a submission and a delivery do in one step

The cases say from which stage a step starts, what it finds, and where it leads. Submissions and
watches hand their errands on to the sequencer, so the cases refer to those of the errand.
-/

namespace LedgerCourier

set_option autoImplicit false

inductive Submission.Moves (task : TaskId) (desk : Desk) (moment : Moment)
    (submission : Submission) :
    Desk × Progress Submission (Verdict SignedTransaction) → Prop where
  | waits : Moves task desk moment submission (desk, .waits)
  | strays (errand : Errand) (sequencer : Sequencer)
      (stage : submission.stage = .reserving errand)
      (moves : errand.Moves task desk.sequencer moment.answer (sequencer, .ends .done)) :
      Moves task desk moment submission ({ desk with sequencer := sequencer }, .waits)
  | attends (errand next : Errand) (sequencer : Sequencer) (request : Option Request)
      (stage : submission.stage = .reserving errand)
      (moves : errand.Moves task desk.sequencer moment.answer (sequencer, .goesOn next request)) :
      Moves task desk moment submission
        ({ desk with sequencer := sequencer },
          .goesOn { submission with stage := .reserving next } request)
  | reserves (errand : Errand) (number : Nat) (sequencer : Sequencer)
      (stage : submission.stage = .reserving errand)
      (moves : errand.Moves task desk.sequencer moment.answer
        (sequencer, .ends (.reserved number))) :
      Moves task desk moment submission
        ({ desk with sequencer := sequencer },
          .goesOn { submission with stage := .preparing number } none)
  | exhausts (errand : Errand) (sequencer : Sequencer)
      (stage : submission.stage = .reserving errand)
      (moves : errand.Moves task desk.sequencer moment.answer (sequencer, .ends .exhausted)) :
      Moves task desk moment submission ({ desk with sequencer := sequencer }, .ends .overflow)
  | misses (errand : Errand) (cause : Failure) (sequencer : Sequencer)
      (stage : submission.stage = .reserving errand)
      (moves : errand.Moves task desk.sequencer moment.answer
        (sequencer, .ends (.failed cause))) :
      Moves task desk moment submission
        ({ desk with sequencer := sequencer },
          .ends (.failure (.nonceInit errand.account cause)))
  | signs (nonce : Nat) (transaction : SignedTransaction)
      (stage : submission.stage = .preparing nonce)
      (prepared : SignedTransaction.prepare moment.channel submission.signer submission.call nonce =
        .ok transaction) :
      Moves task desk moment submission
        (desk, .goesOn { submission with stage := .sending transaction }
          (some (.send transaction.extrinsic)))
  | declines (nonce : Nat) (error : Error) (stage : submission.stage = .preparing nonce)
      (refused : SignedTransaction.prepare moment.channel submission.signer submission.call nonce =
        .error error) :
      Moves task desk moment submission (desk, .goesOn (submission.undo nonce error) none)
  | succeeds (transaction : SignedTransaction) (stage : submission.stage = .sending transaction)
      (answer : moment.answer = some (.sent (.ok ()))) :
      Moves task desk moment submission
        ({ desk with watches := desk.watches + 1 }, .ends (.success transaction))
  | bounces (transaction : SignedTransaction) (cause : Failure)
      (stage : submission.stage = .sending transaction)
      (answer : moment.answer = some (.sent (.error cause))) :
      Moves task desk moment submission
        (desk, .goesOn
          (submission.undo transaction.nonce (.submit transaction.nonce cause)) none)
  | undoes (nonce : Nat) (errand next : Errand) (error : Error) (sequencer : Sequencer)
      (request : Option Request) (stage : submission.stage = .undoing nonce errand error)
      (moves : errand.Moves task desk.sequencer moment.answer (sequencer, .goesOn next request)) :
      Moves task desk moment submission
        ({ desk with sequencer := sequencer },
          .goesOn { submission with stage := .undoing nonce next error } request)
  | undone (nonce : Nat) (errand : Errand) (error : Error) (sequencer : Sequencer)
      (result : Errand.Result) (stage : submission.stage = .undoing nonce errand error)
      (moves : errand.Moves task desk.sequencer moment.answer (sequencer, .ends result)) :
      Moves task desk moment submission
        ({ desk with sequencer := sequencer }, .ends (.failure error))

theorem Submission.advance_moves (task : TaskId) (desk : Desk) (moment : Moment)
    (submission : Submission) :
    submission.Moves task desk moment (submission.advance task desk moment) := by
  unfold Submission.advance
  split
  next errand stage =>
    have moves := errand.advance_moves task desk.sequencer moment.answer
    generalize errand.advance task desk.sequencer moment.answer = step at moves
    obtain ⟨sequencer, progress⟩ := step
    cases progress with
    | waits =>
        cases moves
        exact .waits
    | goesOn next request => exact .attends errand next sequencer request stage moves
    | ends result =>
        cases result with
        | reserved number => exact .reserves errand number sequencer stage moves
        | exhausted => exact .exhausts errand sequencer stage moves
        | failed cause => exact .misses errand cause sequencer stage moves
        | done => exact .strays errand sequencer stage moves
  next nonce stage =>
    split
    next transaction prepared => exact .signs nonce transaction stage prepared
    next error refused => exact .declines nonce error stage refused
  next transaction stage =>
    split
    next accepted => exact .succeeds transaction stage accepted
    next cause refused => exact .bounces transaction cause stage refused
    next => exact .waits
  next nonce errand error stage =>
    have moves := errand.advance_moves task desk.sequencer moment.answer
    generalize errand.advance task desk.sequencer moment.answer = step at moves
    obtain ⟨sequencer, progress⟩ := step
    cases progress with
    | waits =>
        cases moves
        exact .waits
    | goesOn next request => exact .undoes nonce errand next error sequencer request stage moves
    | ends result => exact .undone nonce errand error sequencer result stage moves

namespace Delivery

/-- What may follow from an attempt that failed. -/
inductive FollowsUp (delivery : Delivery) (now : Nat) (error : Error) :
    Progress Delivery (Verdict Outcome) → Prop where
  | surrenders (final : error.isRetryable = true →
        delivery.repetitions < delivery.settings.maxRetries →
          delivery.isLate (now + delivery.settings.pause (delivery.repetitions + 1)) = true) :
      FollowsUp delivery now error (.ends (.failure error))
  | pauses (wakeAt : Nat) (retryable : error.isRetryable = true)
      (left : delivery.repetitions < delivery.settings.maxRetries)
      (scheduled : wakeAt = now + delivery.settings.pause (delivery.repetitions + 1))
      (early : delivery.isLate wakeAt = false) :
      FollowsUp delivery now error (.goesOn { delivery with
        repetitions := delivery.repetitions + 1, stage := .pausing wakeAt error } none)

theorem after_failure_follows_up (delivery : Delivery) (now : Nat) (error : Error) :
    delivery.FollowsUp now error (delivery.afterFailure now error) := by
  unfold afterFailure
  split
  next again =>
    obtain ⟨retryable, left⟩ := Bool.and_eq_true_iff.mp again
    dsimp only
    split
    next late => exact .surrenders fun _ _ => late
    next early =>
      exact .pauses _ retryable (of_decide_eq_true left) rfl (by simpa using early)
  next final =>
    refine .surrenders fun retryable left => absurd ?_ final
    simp [retryable, left]

inductive Moves (task : TaskId) (desk : Desk) (moment : Moment) (delivery : Delivery) :
    Desk × Progress Delivery (Verdict Outcome) → Prop where
  | waits (undisturbed : delivery.interruption? moment = none) :
      Moves task desk moment delivery (desk, .waits)
  | idles (submission : Submission) (after : Desk)
      (stage : delivery.stage = .submitting submission)
      (undisturbed : delivery.interruption? moment = none)
      (moves : submission.Moves task desk moment (after, .waits)) :
      Moves task desk moment delivery (after, .waits)
  | stops (interruption : Interruption) (active : ∀ wakeAt error,
        delivery.stage ≠ .pausing wakeAt error)
      (strikes : delivery.interruption? moment = some interruption) :
      Moves task desk moment delivery
        (delivery.abandon task desk, .ends (.failure (delivery.interruptedError interruption)))
  | submits (submission next : Submission) (after : Desk) (request : Option Request)
      (stage : delivery.stage = .submitting submission)
      (undisturbed : delivery.interruption? moment = none)
      (moves : submission.Moves task desk moment (after, .goesOn next request)) :
      Moves task desk moment delivery
        (after, .goesOn { delivery with stage := .submitting next } request)
  | isAccepted (submission : Submission) (transaction : SignedTransaction) (after : Desk)
      (stage : delivery.stage = .submitting submission)
      (undisturbed : delivery.interruption? moment = none)
      (moves : submission.Moves task desk moment (after, .ends (.success transaction))) :
      Moves task desk moment delivery
        (after, .goesOn
          { delivery with stage := .watching (Watch.start transaction delivery.depth) } none)
  | isRefused (submission : Submission) (error : Error) (after : Desk)
      (progress : Progress Delivery (Verdict Outcome))
      (stage : delivery.stage = .submitting submission)
      (undisturbed : delivery.interruption? moment = none)
      (moves : submission.Moves task desk moment (after, .ends (.failure error)))
      (follows : delivery.FollowsUp moment.now error progress) :
      Moves task desk moment delivery (after, progress)
  | overflows (submission : Submission) (after : Desk)
      (stage : delivery.stage = .submitting submission)
      (undisturbed : delivery.interruption? moment = none)
      (moves : submission.Moves task desk moment (after, .ends .overflow)) :
      Moves task desk moment delivery (after, .ends .overflow)
  | watches (watch next : Watch) (after : Desk) (request : Option Request)
      (stage : delivery.stage = .watching watch)
      (undisturbed : delivery.interruption? moment = none)
      (moves : watch.Moves task desk moment (after, .goesOn next request)) :
      Moves task desk moment delivery
        (after, .goesOn { delivery with stage := .watching next } request)
  | succeeds (watch : Watch) (outcome : Outcome) (after : Desk)
      (stage : delivery.stage = .watching watch)
      (undisturbed : delivery.interruption? moment = none)
      (moves : watch.Moves task desk moment (after, .ends (.success outcome))) :
      Moves task desk moment delivery
        ({ after with watches := after.watches - 1 }, .ends (.success outcome))
  | fails (watch : Watch) (error : Error) (after : Desk)
      (progress : Progress Delivery (Verdict Outcome))
      (stage : delivery.stage = .watching watch)
      (undisturbed : delivery.interruption? moment = none)
      (moves : watch.Moves task desk moment (after, .ends (.failure error)))
      (follows : delivery.FollowsUp moment.now error progress) :
      Moves task desk moment delivery
        ({ after with watches := after.watches - 1 }, progress)
  | givesUp (wakeAt : Nat) (error : Error) (stage : delivery.stage = .pausing wakeAt error)
      (cancelled : moment.cancelled = true) :
      Moves task desk moment delivery (desk, .ends (.failure error))
  | repeats (wakeAt : Nat) (error : Error) (stage : delivery.stage = .pausing wakeAt error)
      (awake : wakeAt ≤ moment.now) (wanted : moment.cancelled = false) :
      Moves task desk moment delivery
        (desk, .goesOn { delivery with
          stage := .submitting (Submission.start delivery.call delivery.signer) } none)

theorem advance_moves (task : TaskId) (desk : Desk) (moment : Moment) (delivery : Delivery) :
    delivery.Moves task desk moment (delivery.advance task desk moment) := by
  unfold advance
  split
  next interruption strikes =>
    refine .stops interruption ?_ strikes
    intro wakeAt error stage
    simp [interruption?, stage] at strikes
  next undisturbed =>
    unfold proceed
    split
    next submission stage =>
      have moves := submission.advance_moves task desk moment
      generalize submission.advance task desk moment = step at moves
      obtain ⟨after, progress⟩ := step
      cases progress with
      | waits => exact .idles submission after stage undisturbed moves
      | goesOn next request => exact .submits submission next after request stage undisturbed moves
      | ends verdict =>
          cases verdict with
          | success transaction =>
              exact .isAccepted submission transaction after stage undisturbed moves
          | failure error =>
              exact .isRefused submission error after _ stage undisturbed moves
                (delivery.after_failure_follows_up moment.now error)
          | overflow => exact .overflows submission after stage undisturbed moves
    next watch stage =>
      have moves := watch.advance_moves task desk moment
      generalize watch.advance task desk moment = step at moves
      obtain ⟨after, progress⟩ := step
      cases progress with
      | waits =>
          obtain ⟨rfl, -⟩ := moves.rests
          exact .waits undisturbed
      | goesOn next request => exact .watches watch next after request stage undisturbed moves
      | ends verdict =>
          cases verdict with
          | success outcome => exact .succeeds watch outcome after stage undisturbed moves
          | failure error =>
              exact .fails watch error after _ stage undisturbed moves
                (delivery.after_failure_follows_up moment.now error)
          | overflow => exact absurd moves Watch.Moves.counted
    next wakeAt error stage =>
      split
      next cancelled => exact .givesUp wakeAt error stage cancelled
      next wanted =>
        have wanted : moment.cancelled = false := by simpa using wanted
        split
        next awake => exact .repeats wakeAt error stage awake wanted
        next => exact .waits undisturbed

end Delivery

end LedgerCourier
