import LedgerCourier.Proofs.Delivery.Deal
import LedgerCourier.Proofs.Nonce.Hall

/-!
# The passage of a submission

A submission takes its turns at a desk, and between them others do what they have to do there. The
submission touches the count of its own account only. How that count stands depends on the stage:
while a number is reserved the count is as it was, afterwards exactly one number is missing from it,
until the number is taken care of.
-/

namespace LedgerCourier

set_option autoImplicit false

namespace Submission

inductive Turn where
  | takes (moment : Moment)
  | others (change : Desk → Desk)

/-- Whatever others do, they leave alone what can be seen of the desk in this way. -/
def Turn.Keeps {View : Type} (view : Desk → View) : Turn → Prop
  | .takes _ => True
  | .others change => ∀ desk, view (change desk) = view desk

def observations (submission : Submission) (moment : Moment)
    (progress : Progress Submission (Verdict SignedTransaction)) : List Observation :=
  ((Answer.settled? submission.question? moment.answer).map
      fun heard => .answered heard.1 heard.2).toList ++
    ((submission.refusal? moment).map .refused).toList ++ (progress.request?.map .asked).toList

structure Passage where
  desk : Desk
  submission : Submission
  verdict : Option (Verdict SignedTransaction)
  shown : List Observation

namespace Passage

def count (passage : Passage) (account : AccountId) : Allocator :=
  passage.desk.sequencer.allocator account

def told (passage : Passage) : List Nat := passage.shown.filterMap Observation.told?

def start (desk : Desk) (call : EncodedCall) (signer : Signer) : Passage :=
  ⟨desk, Submission.start call signer, none, []⟩

def after (passage : Passage) (desk : Desk) (shown : List Observation) :
    Progress Submission (Verdict SignedTransaction) → Passage
  | .waits => { passage with desk := desk }
  | .goesOn next _ => ⟨desk, next, none, passage.shown ++ shown⟩
  | .ends verdict => ⟨desk, passage.submission, some verdict, passage.shown ++ shown⟩

def follow (task : TaskId) (passage : Passage) : Turn → Passage
  | .others change => { passage with desk := change passage.desk }
  | .takes moment =>
      match passage.verdict with
      | some _ => passage
      | none =>
          let step := passage.submission.advance task passage.desk moment
          passage.after step.1 (passage.submission.observations moment step.2) step.2

def run (task : TaskId) (desk : Desk) (call : EncodedCall) (signer : Signer)
    (turns : List Turn) : Passage :=
  turns.foldl (follow task) (start desk call signer)

inductive Follows (task : TaskId) (passage : Passage) : Turn → Passage → Prop where
  | others (change : Desk → Desk) :
      Follows task passage (.others change) { passage with desk := change passage.desk }
  | isOver (moment : Moment) : Follows task passage (.takes moment) passage
  | takes (moment : Moment) (desk : Desk)
      (progress : Progress Submission (Verdict SignedTransaction))
      (underWay : passage.verdict = none)
      (step : passage.submission.advance task passage.desk moment = (desk, progress)) :
      Follows task passage (.takes moment)
        (passage.after desk (passage.submission.observations moment progress) progress)

theorem follow_follows (task : TaskId) (passage : Passage) (turn : Turn) :
    Follows task passage turn (passage.follow task turn) := by
  cases turn with
  | others change => exact .others change
  | takes moment =>
      simp only [follow]
      split
      · exact .isOver moment
      next underWay =>
        exact .takes moment _ _ underWay rfl

theorem run_induction {motive : Passage → Prop} (task : TaskId) (desk : Desk)
    (call : EncodedCall) (signer : Signer) (turns : List Turn)
    (initially : motive (start desk call signer))
    (kept : ∀ passage turn after, turn ∈ turns → motive passage → Follows task passage turn after →
      motive after) :
    motive (run task desk call signer turns) := by
  -- the turns are taken from the front, so this is said of every passage they may continue
  have general : ∀ passage, motive passage → motive (turns.foldl (follow task) passage) := by
    induction turns with
    | nil => exact fun passage holds => holds
    | cons turn turns induction =>
        intro passage holds
        refine induction ?_ _ (kept passage turn _ List.mem_cons_self holds
          (follow_follows task passage turn))
        intro passage turn after inside
        exact kept passage turn after (List.mem_cons_of_mem _ inside)
  exact general (start desk call signer) initially

theorem Follows.sound {task : TaskId} {passage after : Passage} {turn : Turn}
    (follows : Follows task passage turn after) (sound : passage.submission.Sound) :
    after.submission.Sound ∧ after.submission.signer = passage.submission.signer := by
  cases follows with
  | others change => exact ⟨sound, rfl⟩
  | isOver moment => exact ⟨sound, rfl⟩
  | takes moment desk progress underWay step =>
      have moves := step ▸ passage.submission.advance_moves task passage.desk moment
      cases progress with
      | waits => exact ⟨sound, rfl⟩
      | goesOn next request => exact ⟨moves.sound sound, moves.same_call.2⟩
      | ends verdict => exact ⟨sound, rfl⟩

theorem sound_induction {motive : Passage → Prop} (task : TaskId) (desk : Desk)
    (call : EncodedCall) (signer : Signer) (turns : List Turn)
    (initially : motive (start desk call signer))
    (kept : ∀ passage turn after, turn ∈ turns → passage.submission.Sound →
      passage.submission.signer = signer → motive passage → Follows task passage turn after →
        motive after) :
    motive (run task desk call signer turns) := by
  have both : ((run task desk call signer turns).submission.Sound ∧
      (run task desk call signer turns).submission.signer = signer) ∧
        motive (run task desk call signer turns) := by
    apply run_induction (motive := fun passage => (passage.submission.Sound ∧
      passage.submission.signer = signer) ∧ motive passage)
    · exact ⟨⟨start_sound call signer, rfl⟩, initially⟩
    · intro passage turn after inside invariant follows
      obtain ⟨⟨sound, same⟩, holds⟩ := invariant
      obtain ⟨still, unchanged⟩ := follows.sound sound
      exact ⟨⟨still, unchanged.trans same⟩, kept passage turn after inside sound same holds follows⟩
  exact both.2

theorem run_sound (task : TaskId) (desk : Desk) (call : EncodedCall) (signer : Signer)
    (turns : List Turn) : (run task desk call signer turns).submission.Sound ∧
      (run task desk call signer turns).submission.signer = signer := by
  apply sound_induction (motive := fun passage => passage.submission.Sound ∧
    passage.submission.signer = signer)
  · exact ⟨start_sound call signer, rfl⟩
  · intro passage turn after inside sound same holds follows
    obtain ⟨still, unchanged⟩ := follows.sound sound
    exact ⟨still, unchanged.trans same⟩

/-- Whatever others leave alone is as it was, unless the submission itself has changed it. -/
theorem run_keeps {View : Type} (view : Desk → View) (task : TaskId) (desk : Desk)
    (call : EncodedCall) (signer : Signer) {turns : List Turn}
    (kept : ∀ turn ∈ turns, turn.Keeps view)
    (own : ∀ (submission : Submission) moment desk after progress, submission.Sound →
      submission.signer = signer → (∀ transaction, progress ≠ .ends (.success transaction)) →
        submission.Moves task desk moment (after, progress) → view after = view desk)
    (failed : ∀ transaction, (run task desk call signer turns).verdict ≠
      some (.success transaction)) :
    view (run task desk call signer turns).desk = view desk := by
  revert failed
  apply sound_induction (motive := fun passage =>
    (∀ transaction, passage.verdict ≠ some (.success transaction)) →
      view passage.desk = view desk)
  · exact fun _ => rfl
  · intro passage turn after inside sound same still follows failed
    cases follows with
    | others change => exact (kept _ inside passage.desk).trans (still failed)
    | isOver moment => exact still failed
    | takes moment after progress underWay step =>
        have moves := step ▸ passage.submission.advance_moves task passage.desk moment
        have unaccepted : ∀ transaction, progress ≠ .ends (.success transaction) := by
          rintro transaction rfl
          exact failed transaction rfl
        have moved := own _ moment _ _ _ sound same unaccepted moves
        have before := still (by simp [underWay])
        cases progress <;> exact moved.trans before

end Passage

section Frame

variable {task : TaskId} {desk after : Desk} {moment : Moment} {submission : Submission}
  {progress : Progress Submission (Verdict SignedTransaction)}

theorem Moves.other_count (moves : submission.Moves task desk moment (after, progress))
    (sound : submission.Sound) {account : AccountId}
    (different : submission.signer.account ≠ account) :
    after.sequencer.allocator account = desk.sequencer.allocator account := by
  have reserving : ∀ errand sequencer outcome, submission.stage = .reserving errand →
      errand.Moves task desk.sequencer moment.answer (sequencer, outcome) →
        sequencer.allocator account = desk.sequencer.allocator account := by
    intro errand sequencer outcome stage moves
    refine moves.other_account ?_
    rwa [(sound.reserving errand stage).1]
  have undoing : ∀ nonce errand error sequencer outcome,
      submission.stage = .undoing nonce errand error →
        errand.Moves task desk.sequencer moment.answer (sequencer, outcome) →
          sequencer.allocator account = desk.sequencer.allocator account := by
    intro nonce errand error sequencer outcome stage moves
    refine moves.other_account ?_
    rwa [(sound.undoing nonce errand error stage).1]
  cases moves with
  | waits => rfl
  | strays errand sequencer stage moves => exact reserving _ _ _ stage moves
  | attends errand next sequencer request stage moves => exact reserving _ _ _ stage moves
  | reserves errand number sequencer stage moves => exact reserving _ _ _ stage moves
  | exhausts errand sequencer stage moves => exact reserving _ _ _ stage moves
  | misses errand cause sequencer stage moves => exact reserving _ _ _ stage moves
  | signs nonce transaction stage prepared => rfl
  | declines nonce error stage refused => rfl
  | succeeds transaction stage answer => rfl
  | bounces transaction cause stage answer => rfl
  | undoes nonce errand next error sequencer request stage moves =>
      exact undoing _ _ _ _ _ stage moves
  | undone nonce errand error sequencer result stage moves => exact undoing _ _ _ _ _ stage moves

theorem Moves.same_history (moves : submission.Moves task desk moment (after, progress)) :
    after.history = desk.history := by
  cases moves <;> rfl

theorem Moves.same_watches (moves : submission.Moves task desk moment (after, progress))
    (unaccepted : ∀ transaction, progress ≠ .ends (.success transaction)) :
    after.watches = desk.watches := by
  cases moves with
  | succeeds transaction stage answer => exact absurd rfl (unaccepted transaction)
  | _ => rfl

theorem told_shown (submission : Submission) (moment : Moment)
    (progress : Progress Submission (Verdict SignedTransaction)) :
    (submission.observations moment progress).filterMap Observation.told? =
      (submission.errand?.bind fun errand => errand.told? moment.answer).toList := by
  have heard : ((Answer.settled? submission.question? moment.answer).bind fun heard =>
      Observation.told? (.answered heard.1 heard.2)) =
        submission.errand?.bind fun errand => errand.told? moment.answer := by
    unfold question? errand?
    cases submission.stage with
    | reserving errand => exact errand.told_answer moment.answer
    | preparing nonce => rfl
    | sending transaction =>
        have other : ∀ account, some (Request.send transaction.extrinsic) ≠
            some (.nonce account) := by simp
        exact Answer.untold other moment.answer
    | undoing nonce errand error => exact errand.told_answer moment.answer
  rw [observations, List.filterMap_append, List.filterMap_append,
    Delivery.filter_map_silent Observation.refused _ fun _ => rfl,
    Delivery.filter_map_silent Observation.asked _ fun _ => rfl, Delivery.filter_map_optional,
    heard, List.append_nil, List.append_nil]

theorem told_idle (idle : submission.errand? = none) :
    (submission.observations moment progress).filterMap Observation.told? = [] := by
  rw [told_shown, idle]
  rfl

theorem told_to_errand (errand : Errand) (own : submission.errand? = some errand) :
    (submission.observations moment progress).filterMap Observation.told? =
      (errand.told? moment.answer).toList := by
  rw [told_shown, own]
  rfl

end Frame

end Submission

theorem Errand.untold {errand : Errand} (waits : errand.stage ≠ .asking)
    (answer : Option Answer) : errand.told? answer = none := by
  unfold Errand.told?
  split
  next stage => exact absurd stage waits
  next => rfl

/-- A number has been taken from a count, or the ledger has told it before the count began. -/
inductive Allocator.Reserves (count : Allocator) : List Nat → Nat → Allocator → Prop where
  | known (next number : Nat) (after : Allocator) (known : count.next = some next)
      (taken : count.take next = some (number, after)) : Reserves count [] number after
  | told (number : Nat) (unknown : count.next = none) (small : number + 1 < limit) :
      Reserves count [number] number ⟨some (number + 1), []⟩

namespace Submission

/-- What a submission leaves of the count of its account. -/
inductive Leaves (account : AccountId) (before : Allocator) (told : List Nat) :
    Verdict SignedTransaction → Allocator → Prop where
  | exhausted (refused : ∀ next, before.next = some next → before.take next = none) :
      Leaves account before told .overflow before
  | missed (cause : Failure) (unknown : before.next = none) :
      Leaves account before told (.failure (.nonceInit account cause)) before
  | succeeded (transaction : SignedTransaction) (count : Allocator)
      (reserved : before.Reserves told transaction.nonce count) :
      Leaves account before told (.success transaction) count
  | gaveBack (nonce : Nat) (error : Error) (count : Allocator)
      (reserved : before.Reserves told nonce count) (refusal : error.refusal? ≠ none)
      (number : error.nonce? = some nonce) (plain : Stale.isStale error.message = false) :
      Leaves account before told (.failure error) (count.giveBack nonce)
  | forgot (nonce : Nat) (error : Error) (count : Allocator)
      (reserved : before.Reserves told nonce count) (refusal : error.refusal? ≠ none)
      (number : error.nonce? = some nonce) (stale : Stale.isStale error.message = true) :
      Leaves account before told (.failure error) Allocator.start

def Stands (before : Allocator) (told : List Nat) (count : Allocator) : Stage → Prop
  | .reserving errand =>
      count = before ∧ told = [] ∧ (errand.stage = .asking → before.next = none)
  | .preparing nonce => before.Reserves told nonce count
  | .sending transaction => before.Reserves told transaction.nonce count
  | .undoing nonce errand _ => before.Reserves told nonce count ∧ errand.stage ≠ .asking

def Fares (account : AccountId) (before : Allocator) (told heard : List Nat) (count : Allocator)
    (submission : Submission) : Progress Submission (Verdict SignedTransaction) → Prop
  | .waits => Stands before told count submission.stage
  | .goesOn next _ => Stands before (told ++ heard) count next.stage
  | .ends verdict => Leaves account before (told ++ heard) verdict count

theorem remedy_settles (error : Error) (nonce : Nat) : remedy error nonce ≠ .reserve := by
  unfold remedy
  split <;> simp

namespace Stands

variable {task : TaskId} {sequencer after : Sequencer} {answer : Option Answer}
  {errand next : Errand} {request : Option Request} {before : Allocator} {told : List Nat}
  {nonce : Nat} {error : Error}

theorem attends
    (stands : Stands before told (sequencer.allocator errand.account) (.reserving errand))
    (moves : errand.Moves task sequencer answer (after, .goesOn next request)) :
    Stands before told (after.allocator errand.account) (.reserving next) := by
  obtain ⟨rfl, rfl, -⟩ := stands
  cases moves with
  | arrives arriving => exact ⟨by simp, rfl, by simp⟩
  | asks position purpose head unknown => exact ⟨rfl, rfl, fun _ => unknown⟩

theorem reserves
    (stands : Stands before told (sequencer.allocator errand.account) (.reserving errand))
    (wellFormed : before.WellFormed) {number : Nat}
    (moves : errand.Moves task sequencer answer (after, .ends (.reserved number))) :
    before.Reserves (told ++ (errand.told? answer).toList) number
      (after.allocator errand.account) := by
  obtain ⟨rfl, rfl, asking⟩ := stands
  cases moves with
  | takesKnown next number count stage purpose head known taken =>
      have untold : errand.told? answer = none := by simp [Errand.told?, stage]
      simp only [untold, Sequencer.allocator_leave, Sequencer.allocator_with_allocator, if_true]
      exact .known next number count known taken
  | takesTold next number count stage told taken =>
      -- the count has not begun, since nobody else has touched it after it was asked for
      obtain ⟨rfl, small, rfl⟩ := Allocator.take_unknown wellFormed (asking stage) taken
      have heard : errand.told? answer = some number := by simp [Errand.told?, stage, told]
      simp only [heard, Sequencer.allocator_leave, Sequencer.allocator_with_allocator, if_true]
      exact .told number (asking stage) small

/-- A count that has begun is exhausted by itself, and not by what the ledger tells. -/
theorem exhausts
    (stands : Stands before told (sequencer.allocator errand.account) (.reserving errand))
    (moves : errand.Moves task sequencer answer (after, .ends .exhausted))
    (ended : (errand.advance task sequencer answer).2 = .ends .exhausted) (account : AccountId)
    (all : List Nat) : Leaves account before all .overflow (after.allocator errand.account) := by
  obtain ⟨rfl, -, asking⟩ := stands
  cases moves with
  | exhausts last arrived source reserve refused =>
      rw [Sequencer.allocator_leave]
      refine .exhausted fun next known => ?_
      cases position : errand.stage with
      | arriving => exact absurd position arrived
      | asking => simp [asking position] at known
      | inLine =>
          obtain ⟨count, begun, refused⟩ := Errand.exhausted_in_line position ended
          obtain rfl : count = next := Option.some.inj (begun.symm.trans known)
          exact refused

theorem misses
    (stands : Stands before told (sequencer.allocator errand.account) (.reserving errand))
    {cause : Failure} (moves : errand.Moves task sequencer answer (after, .ends (.failed cause)))
    (account : AccountId) (all : List Nat) :
    Leaves account before all (.failure (.nonceInit account cause))
      (after.allocator errand.account) := by
  obtain ⟨rfl, -, asking⟩ := stands
  cases moves with
  | fails cause stage told =>
      rw [Sequencer.allocator_leave]
      exact .missed cause (asking stage)

theorem undoes
    (stands : Stands before told (sequencer.allocator errand.account) (.undoing nonce errand error))
    (purpose : errand.purpose = remedy error nonce)
    (moves : errand.Moves task sequencer answer (after, .goesOn next request)) :
    Stands before told (after.allocator errand.account) (.undoing nonce next error) := by
  cases moves with
  | arrives arriving => exact ⟨by simpa using stands.1, by simp⟩
  | asks position reserve head unknown =>
      exact absurd (purpose.symm.trans reserve) (remedy_settles error nonce)

theorem undone
    (stands : Stands before told (sequencer.allocator errand.account) (.undoing nonce errand error))
    (purpose : errand.purpose = remedy error nonce) (refusal : error.refusal? ≠ none)
    (number : error.nonce? = some nonce) {result : Errand.Result}
    (moves : errand.Moves task sequencer answer (after, .ends result)) (account : AccountId) :
    Leaves account before told (.failure error) (after.allocator errand.account) := by
  obtain ⟨reserved, waits⟩ := stands
  have settles : errand.purpose ≠ .reserve := purpose ▸ remedy_settles error nonce
  rw [moves.settled waits settles, purpose, remedy]
  split
  next stale => exact .forgot nonce error _ reserved refusal number stale
  next plain => exact .gaveBack nonce error _ reserved refusal number (by simpa using plain)

end Stands

variable {task : TaskId} {desk after : Desk} {moment : Moment} {submission : Submission}
  {progress : Progress Submission (Verdict SignedTransaction)}

theorem exhausted_while_reserving {errand : Errand} (stage : submission.stage = .reserving errand)
    (finished : (submission.advance task desk moment).2 = .ends .overflow) :
    (errand.advance task desk.sequencer moment.answer).2 = .ends .exhausted := by
  simp only [advance, stage] at finished
  cases outcome : (errand.advance task desk.sequencer moment.answer).2 with
  | waits => simp [outcome, Progress.lift] at finished
  | goesOn next request => simp [outcome, Progress.lift] at finished
  | ends result => cases result <;> simp [outcome, Progress.lift] at finished ⊢

theorem advance_fares (step : submission.advance task desk moment = (after, progress))
    (sound : submission.Sound) {before : Allocator} (wellFormed : before.WellFormed)
    {told : List Nat}
    (stands : Stands before told (desk.sequencer.allocator submission.signer.account)
      submission.stage) :
    Fares submission.signer.account before told
      ((submission.observations moment progress).filterMap Observation.told?)
      (after.sequencer.allocator submission.signer.account) submission progress := by
  have moves := step ▸ submission.advance_moves task desk moment
  cases moves with
  | waits => exact stands
  | strays errand sequencer stage moves =>
      exact absurd (sound.reserving errand stage).2 moves.done_purpose
  | attends errand next sequencer request stage moves =>
      rw [told_to_errand errand (by simp only [errand?, stage]), moves.untold]
      rw [stage, ← (sound.reserving errand stage).1] at stands
      simp only [Fares, Option.toList_none, List.append_nil, ← (sound.reserving errand stage).1]
      exact stands.attends moves
  | reserves errand number sequencer stage moves =>
      rw [told_to_errand errand (by simp only [errand?, stage])]
      rw [stage, ← (sound.reserving errand stage).1] at stands
      simp only [Fares, ← (sound.reserving errand stage).1]
      exact stands.reserves wellFormed moves
  | exhausts errand sequencer stage moves =>
      rw [stage, ← (sound.reserving errand stage).1] at stands
      simp only [Fares, ← (sound.reserving errand stage).1]
      exact stands.exhausts moves (exhausted_while_reserving stage (congrArg Prod.snd step)) _ _
  | misses errand cause sequencer stage moves =>
      rw [stage, ← (sound.reserving errand stage).1] at stands
      simp only [Fares, ← (sound.reserving errand stage).1]
      exact stands.misses moves _ _
  | signs nonce transaction stage prepared =>
      rw [told_idle (by simp only [errand?, stage])]
      rw [stage] at stands
      simp only [Fares, Stands, List.append_nil, (SignedTransaction.prepare_spec prepared).1]
      exact stands
  | declines nonce error stage refused =>
      rw [told_idle (by simp only [errand?, stage])]
      rw [stage] at stands
      simp only [Fares, List.append_nil]
      exact ⟨stands, by simp [Errand.start]⟩
  | succeeds transaction stage answer =>
      rw [told_idle (by simp only [errand?, stage])]
      rw [stage] at stands
      simp only [Fares, List.append_nil]
      exact .succeeded transaction _ stands
  | bounces transaction cause stage answer =>
      rw [told_idle (by simp only [errand?, stage])]
      rw [stage] at stands
      simp only [Fares, List.append_nil]
      exact ⟨stands, by simp [Errand.start]⟩
  | undoes nonce errand next error sequencer request stage moves =>
      obtain ⟨account, purpose, -, -⟩ := sound.undoing nonce errand error stage
      rw [told_to_errand errand (by simp only [errand?, stage]), moves.untold]
      rw [stage, ← account] at stands
      simp only [Fares, Option.toList_none, List.append_nil, ← account]
      exact stands.undoes purpose moves
  | undone nonce errand error sequencer result stage moves =>
      obtain ⟨account, purpose, refusal, number⟩ := sound.undoing nonce errand error stage
      rw [stage, ← account] at stands
      rw [told_to_errand errand (by simp only [errand?, stage]), Errand.untold stands.2]
      simp only [Fares, Option.toList_none, List.append_nil, ← account]
      exact stands.undone purpose refusal number moves _

theorem unasked_step (step : submission.advance task desk moment = (after, progress))
    (sound : submission.Sound) {before : Allocator} {told : List Nat}
    (stands : Stands before told (desk.sequencer.allocator submission.signer.account)
      submission.stage)
    (known : before.next ≠ none) (account : AccountId) :
    .asked (.nonce account) ∉ submission.observations moment progress := by
  have quiet : ∀ request, progress.request? = some request → request ≠ .nonce account := by
    have moves := step ▸ submission.advance_moves task desk moment
    cases moves with
    | attends errand next sequencer request stage moves =>
        rw [stage] at stands
        cases moves with
        | arrives arriving => simp [Progress.request?]
        | asks position purpose head unknown =>
            rw [(sound.reserving errand stage).1, stands.1] at unknown
            exact absurd unknown known
    | signs nonce transaction stage prepared => simp [Progress.request?]
    | undoes nonce errand next error sequencer request stage moves =>
        cases moves with
        | arrives arriving => simp [Progress.request?]
        | asks position reserve head unknown =>
            obtain ⟨-, purpose, -, -⟩ := sound.undoing nonce errand error stage
            exact absurd (purpose.symm.trans reserve) (remedy_settles error nonce)
    | _ => simp [Progress.request?]
  simp only [observations, List.mem_append, Option.mem_toList, Option.map_eq_some_iff]
  rintro ((⟨heard, -, same⟩ | ⟨error, -, same⟩) | ⟨request, asked, same⟩)
  · cases same
  · cases same
  · cases same
    exact quiet _ asked rfl

namespace Passage

/-- The count of the account is told by the stage of the submission or by its verdict. -/
structure Accounted (account : AccountId) (before : Allocator) (passage : Passage) : Prop where
  underWay : passage.verdict = none →
    Stands before passage.told (passage.count account) passage.submission.stage
  finished : ∀ verdict, passage.verdict = some verdict →
    Leaves account before passage.told verdict (passage.count account)
  unasked : before.next ≠ none → ∀ other, .asked (.nonce other) ∉ passage.shown

theorem run_accounted (task : TaskId) (desk : Desk) (call : EncodedCall) (signer : Signer)
    {turns : List Turn} (wellFormed : (desk.sequencer.allocator signer.account).WellFormed)
    (alone : ∀ turn ∈ turns, turn.Keeps fun desk => desk.sequencer.allocator signer.account) :
    Accounted signer.account (desk.sequencer.allocator signer.account)
      (run task desk call signer turns) := by
  apply sound_induction (motive := Accounted signer.account _)
  · exact ⟨fun _ => ⟨rfl, rfl, by simp [Errand.start]⟩, by simp [start], by simp [start]⟩
  · intro passage turn after inside sound same accounted follows
    cases follows with
    | others change =>
        have kept : ({ passage with desk := change passage.desk } : Passage).count signer.account =
            passage.count signer.account := alone _ inside passage.desk
        refine ⟨?_, ?_, accounted.unasked⟩
        · rw [kept]
          exact accounted.underWay
        · rw [kept]
          exact accounted.finished
    | isOver moment => exact accounted
    | takes moment after progress underWay step =>
        have stands := accounted.underWay underWay
        rw [← same] at stands wellFormed accounted ⊢
        have fares := advance_fares step sound wellFormed stands
        have unasked := accounted.unasked
        have quiet := unasked_step step sound stands
        cases progress with
        | waits => exact ⟨fun _ => fares, by simp [Passage.after, underWay], unasked⟩
        | goesOn next request =>
            refine ⟨fun _ => ?_, by simp [Passage.after], ?_⟩
            · rw [Passage.after, Passage.told, List.filterMap_append]
              exact fares
            · intro known other shown
              exact (List.mem_append.mp shown).elim (unasked known other) (quiet known other)
        | ends verdict =>
            refine ⟨by simp [Passage.after], ?_, ?_⟩
            · rintro other ⟨⟩
              rw [Passage.after, Passage.told, List.filterMap_append]
              exact fares
            · intro known other shown
              exact (List.mem_append.mp shown).elim (unasked known other) (quiet known other)

end Passage

end Submission

end LedgerCourier
