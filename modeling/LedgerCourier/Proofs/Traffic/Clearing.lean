import LedgerCourier.Proofs.Traffic.Conservation

/-!
# Who clears a count

The count of an account is cleared by calls of that account only, and only after words with a stale
phrase were told to them. It does not matter whose words these are: those of a node that refuses an
extrinsic or calls it invalid, but also those of a signer, or of whatever puts the extrinsic
together. Words without such a phrase give the number of the attempt back.
-/

namespace LedgerCourier

set_option autoImplicit false

def Error.words? : Error → Option String
  | .rejected _ _ reason => some reason
  | error => error.refusal?

def Error.isOutdated (error : Error) : Bool := error.words?.any Stale.isStale

theorem Error.words_of_refusal {error : Error} {text : String}
    (refusal : error.refusal? = some text) : error.words? = some text := by
  unfold words?
  split
  · cases refusal
  · exact refusal

namespace Delivery

variable {task : TaskId} {desk after : Desk} {moment : Moment} {delivery : Delivery}
  {progress : Progress Delivery (Verdict Outcome)}

/-- The error with which the present attempt has failed, as long as its number is not settled. -/
def unsettled? (delivery : Delivery) : Option Error :=
  match delivery.stage with
  | .submitting submission =>
      match submission.stage with
      | .undoing _ _ error => some error
      | _ => none
  | .watching watch =>
      match watch.stage with
      | .settling _ error => some error
      | _ => none
  | .pausing _ _ => none

/-- An attempt that has failed clears the count or gives its number back. -/
structure Settles (delivery : Delivery) (error : Error) (errand : Errand) (number : Nat) :
    Prop where
  held : delivery.errand? = some errand
  assigned : error.nonce? = some number
  purpose : errand.purpose = if error.isOutdated then .forget else .giveBack number
  uninterrupted : ∀ interruption, delivery.interruptedError interruption ≠ error

theorem Sound.settles (sound : delivery.Sound) {error : Error}
    (unsettled : delivery.unsettled? = some error) :
    ∃ errand number, delivery.Settles error errand number := by
  unfold unsettled? at unsettled
  split at unsettled
  next submission stage =>
    split at unsettled
    next nonce errand own position =>
      obtain rfl := Option.some.inj unsettled
      obtain ⟨-, -, still⟩ := sound.submitting submission stage
      obtain ⟨-, purpose, refusal, number⟩ := still.undoing nonce errand own position
      obtain ⟨text, refused⟩ := Option.ne_none_iff_exists'.mp refusal
      refine ⟨errand, nonce, ?_, number, ?_, ?_⟩
      · simp [errand?, stage, Submission.errand?, position]
      · rw [purpose, Submission.remedy, Error.message_stale_iff refused, Error.isOutdated,
          Error.words_of_refusal refused, Option.any_some]
      · rintro interruption rfl
        cases interruption <;> simp [interruptedError, stage, Interruption.toError,
          Error.refusal?] at refusal
    · cases unsettled
  next watch stage =>
    split at unsettled
    next errand own position =>
      obtain rfl := Option.some.inj unsettled
      obtain ⟨-, -, still⟩ := sound.watching watch stage
      obtain ⟨-, status, -, setback⟩ := still.settling errand own position
      have held : delivery.errand? = some errand := by
        simp [errand?, stage, Watch.errand?, position]
      unfold SignedTransaction.setback? at setback
      split at setback
      · obtain ⟨purpose, rfl⟩ := Prod.ext_iff.mp (Option.some.inj setback)
        refine ⟨errand, watch.transaction.nonce, held, rfl, purpose.symm, ?_⟩
        rintro (_ | _) <;> simp [interruptedError, stage, Interruption.toError]
      · obtain ⟨purpose, rfl⟩ := Prod.ext_iff.mp (Option.some.inj setback)
        refine ⟨errand, watch.transaction.nonce, held, rfl, purpose.symm, ?_⟩
        rintro (_ | _) <;> simp [interruptedError, stage, Interruption.toError]
      · cases setback
    · cases unsettled
  next => cases unsettled

theorem Sound.unsettled (sound : delivery.Sound) {errand : Errand}
    (held : delivery.errand? = some errand) (settles : errand.purpose ≠ .reserve) :
    delivery.unsettled? ≠ none := by
  unfold errand? at held
  split at held
  next submission stage =>
    unfold Submission.errand? at held
    split at held
    next own position =>
      obtain rfl := Option.some.inj held
      obtain ⟨-, -, still⟩ := sound.submitting submission stage
      exact absurd (still.reserving own position).2 settles
    next nonce own error position => simp [unsettled?, stage, position]
    next => cases held
  next watch stage =>
    unfold Watch.errand? at held
    split at held
    next own error position => simp [unsettled?, stage, position]
    next => cases held
  next => cases held

theorem Moves.settling (moves : delivery.Moves task desk moment (after, progress))
    {error : Error} (unsettled : delivery.unsettled? = some error)
    (uninterrupted : ∀ interruption, delivery.interruptedError interruption ≠ error)
    (finished : delivery.attemptOver? progress = some (.failure error)) :
    ∃ errand result, delivery.errand? = some errand ∧
      errand.Moves task desk.sequencer moment.answer (after.sequencer, .ends result) := by
  cases moves with
  | waits undisturbed => cases stage : delivery.stage <;> simp [attemptOver?, stage] at finished
  | idles submission after stage undisturbed moves => simp [attemptOver?, stage] at finished
  | stops interruption active strikes =>
      -- an interruption ends the attempt too, but with an error of its own
      have same : some (Verdict.failure (delivery.interruptedError interruption)) =
          (some (.failure error) : Option (Verdict Outcome)) := by
        rw [← finished]
        unfold attemptOver?
        cases stage : delivery.stage with
        | submitting submission => rfl
        | watching watch => rfl
        | pausing wakeAt error => exact absurd stage (active wakeAt error)
      exact absurd (by simpa using same) (uninterrupted interruption)
  | submits submission next after request stage undisturbed moves =>
      simp [attemptOver?, stage] at finished
  | isAccepted submission transaction after stage undisturbed moves =>
      simp [attemptOver?, stage] at finished
  | isRefused submission error after progress stage undisturbed moves follows =>
      cases moves with
      | misses errand cause sequencer position moves =>
          simp [unsettled?, stage, position] at unsettled
      | undone nonce errand error sequencer result position moves =>
          exact ⟨errand, result, by simp [errand?, stage, Submission.errand?, position], moves⟩
  | overflows submission after stage undisturbed moves => simp [attemptOver?, stage] at finished
  | watches watch next after request stage undisturbed moves =>
      simp [attemptOver?, stage] at finished
  | succeeds watch outcome after stage undisturbed moves => simp [attemptOver?, stage] at finished
  | fails watch error after progress stage undisturbed moves follows =>
      cases moves with
      | breaks cause rest position inbox => simp [unsettled?, stage, position] at unsettled
      | runsDry position inbox closed => simp [unsettled?, stage, position] at unsettled
      | takes status rest progress position inbox decides =>
          simp [unsettled?, stage, position] at unsettled
      | records status progress position decides =>
          simp [unsettled?, stage, position] at unsettled
      | settles errand error sequencer result position moves =>
          exact ⟨errand, result, by simp [errand?, stage, Watch.errand?, position], moves⟩
  | givesUp wakeAt error stage cancelled => simp [unsettled?, stage] at unsettled
  | repeats wakeAt error stage awake wanted => simp [unsettled?, stage] at unsettled

end Delivery

theorem Errand.Moves.clears {task : TaskId} {sequencer after : Sequencer}
    {answer : Option Answer} {errand : Errand} {progress : Progress Errand Errand.Result}
    (moves : errand.Moves task sequencer answer (after, progress)) {account : AccountId}
    (wellFormed : (sequencer.allocator account).WellFormed)
    (asking : errand.stage = .asking → (sequencer.allocator errand.account).next = none)
    (known : (sequencer.allocator account).next ≠ none)
    (cleared : (after.allocator account).next = none) :
    errand.account = account ∧ errand.purpose = .forget := by
  have same : errand.account = account := by
    by_contra different
    rw [moves.other_account different] at cleared
    exact known cleared
  subst same
  refine ⟨rfl, ?_⟩
  cases moves with
  | arrives stage => exact absurd (by simpa using cleared) known
  | waits stage => exact absurd cleared known
  | asks stage purpose head unknown => exact absurd unknown known
  | takesKnown next number count stage purpose head begun taken =>
      obtain ⟨-, still, -⟩ := Allocator.take_known wellFormed begun taken
      exact absurd (by simpa using cleared) still
  | takesTold next number count stage told taken => exact absurd (asking stage) known
  | exhausts next stage source purpose refused => exact absurd (by simpa using cleared) known
  | fails cause stage told => exact absurd (by simpa using cleared) known
  | givesBack number stage purpose head =>
      obtain ⟨-, still, -⟩ := Allocator.give_back_spec wellFormed number
      exact absurd (still.mp (by simpa using cleared)) known
  | forgets stage purpose head => exact purpose

theorem Deal.clears {task : TaskId} {sequencer after : Sequencer} {answer : Option Answer}
    {before later : Standing} {recalled shown : List Observation}
    (deal : Deal task sequencer answer recalled before shown after later) {account : AccountId}
    (wellFormed : (sequencer.allocator account).WellFormed)
    (asking : ∀ errand, before.errand = some errand → errand.stage = .asking →
      (sequencer.allocator errand.account).next = none)
    (known : (sequencer.allocator account).next ≠ none)
    (cleared : (after.allocator account).next = none) :
    ∃ errand, before.errand = some errand ∧ errand.account = account ∧
      errand.purpose = .forget := by
  have found : ∀ errand progress, before.errand = some errand →
      errand.Moves task sequencer answer (after, progress) →
        ∃ errand, before.errand = some errand ∧ errand.account = account ∧
          errand.purpose = .forget :=
    fun errand progress held moves =>
      ⟨errand, held, moves.clears wellFormed (asking errand held) known cleared⟩
  cases deal with
  | rests => exact absurd cleared known
  | setsOut => exact absurd cleared known
  | attends errand next request after held moves => exact found _ _ held moves
  | obtains errand number after held empty moves => exact found _ _ held moves
  | misses errand result after held empty moves => exact found _ _ held moves
  | settles errand number result after held filled purpose moves => exact found _ _ held moves
  | stops =>
      cases standing : before.errand with
      | none =>
          simp only [standing, Option.elim_none] at cleared
          exact absurd cleared known
      | some errand =>
          simp only [standing, Option.elim_some, Errand.allocator_abandon] at cleared
          exact absurd cleared known

namespace Traffic

def count (traffic : Traffic) (account : AccountId) : Allocator :=
  traffic.desk.sequencer.allocator account

theorem count_advances {traffic : Traffic} {task : TaskId} {delivery : Delivery}
    (found : traffic.calls[task]? = some ⟨delivery, none⟩) (moment : Moment)
    (account : AccountId) :
    (traffic.perform (.advances task moment)).count account =
      (delivery.advance task traffic.desk moment).1.sequencer.allocator account := by
  simp only [perform, found]
  rfl

/-- Words with a stale phrase that a call of the account was told. -/
def Misled (traffic : Traffic) (task : TaskId) (account : AccountId) : Prop :=
  ∃ record ∈ traffic.journal, record.task = task ∧ record.account = account ∧
    ∃ text, record.observation.failureText? = some text ∧
      ∃ marker ∈ Stale.markers, marker.toList <:+: text.toList

/-- Whoever is about to clear a count was told to. -/
def Excused (traffic : Traffic) : Prop :=
  ∀ task errand, traffic.errands task = some errand → errand.purpose = .forget →
    traffic.Misled task errand.account

theorem Misled.grows {traffic after : Traffic} {task : TaskId} {account : AccountId}
    (misled : traffic.Misled task account) (grown : traffic.journal <+: after.journal) :
    after.Misled task account := by
  obtain ⟨record, inside, told⟩ := misled
  exact ⟨record, grown.subset inside, told⟩

theorem misled_by {traffic : Traffic} {task : TaskId} {account : AccountId}
    {observation : Observation} (inside : ⟨task, account, observation⟩ ∈ traffic.journal)
    (outdated : ¬observation.IsFresh) : traffic.Misled task account := by
  unfold Observation.IsFresh at outdated
  push Not at outdated
  obtain ⟨text, told, stale⟩ := outdated
  exact ⟨_, inside, rfl, rfl, text, told,
    (Stale.is_stale_iff text).mp (by simpa using stale)⟩

theorem Excused.change {traffic : Traffic} (excused : Excused traffic) {task : TaskId}
    {before call : Call} (found : traffic.calls[task]? = some before) (desk : Desk)
    (shown : List Observation)
    (own : ∀ errand, call.errand? = some errand → errand.purpose = .forget →
      (traffic.change task desk call shown).Misled task errand.account) :
    Excused (traffic.change task desk call shown) := by
  intro other errand held forgets
  rw [errands_change found] at held
  by_cases same : other = task
  · subst same
    exact own errand (by simpa using held) forgets
  · rw [Function.update_of_ne same] at held
    exact (excused other errand held forgets).grows (List.prefix_append _ _)

theorem Performs.excused {traffic after : Traffic} {act : Act}
    (performs : Performs traffic act after) (orderly : Orderly traffic)
    (excused : Excused traffic) : Excused after := by
  have still : ∀ {task : TaskId} {delivery next : Delivery} {shown : List Observation},
      traffic.calls[task]? = some ⟨delivery, none⟩ → next.standing = delivery.standing →
        ∀ errand, (Call.mk next none).errand? = some errand → errand.purpose = .forget →
          (traffic.change task traffic.desk ⟨next, none⟩ shown).Misled task errand.account := by
    intro task delivery next shown found same errand held forgets
    have own : (Call.mk next none).errand? = delivery.errand? := congrArg Standing.errand same
    exact (excused task errand ((errands_of_under_way found).trans (own ▸ held)) forgets).grows
      (List.prefix_append _ _)
  cases performs with
  | stays => exact excused
  | begins now settings options call signer =>
      intro task errand held forgets
      rw [errands_enter] at held
      by_cases same : task = traffic.calls.length
      · subst same
        obtain rfl : Errand.start signer.account .reserve = errand := by simpa using held
        cases forgets
      · rw [Function.update_of_ne same] at held
        exact excused task errand held forgets
  | advances task moment delivery found desk progress moves =>
      have sound := orderly.sound task delivery found
      refine excused.change found desk _ ?_
      intro errand held forgets
      rw [(standing_after delivery progress).1] at held
      have mine : errand.account = delivery.signer.account := by
        cases progress with
        | waits => exact sound.errand_account held
        | goesOn next request =>
            exact ((moves.sound sound).errand_account held).trans
              (congrArg Signer.account moves.same_call.2.1)
        | ends verdict => cases held
      rw [mine, ← signer_after moves]
      -- a call that neither was told something stale now nor before does not go to forget
      by_contra unexcused
      refine (moves.deals sound).remembers ?_ ?_ errand held forgets
      · intro observation inside
        by_contra outdated
        exact unexcused (misled_by (orderly.told found (signer_after moves) inside) outdated)
      · intro earlier standing forgets
        have told := excused task earlier ((errands_of_under_way found).trans standing) forgets
        rw [sound.errand_account standing, ← signer_after moves] at told
        exact unexcused (told.grows (List.prefix_append _ _))
  | delivers task notice delivery found =>
      exact excused.change found _ _ (still found (deliver_same delivery notice).1)
  | closes task delivery found =>
      exact excused.change found _ _ (still found (close_same delivery).1)

theorem run_excused (capacity : Nat) (acts : List Act) : Excused (run capacity acts) :=
  orderly_induction capacity (by simp [Excused, errands, start])
    (fun _ _ _ orderly excused performs => performs.excused orderly excused) acts

/-- When the count of an account is cleared, and when it is not. -/
structure IsClearedWhenTold (account : AccountId) (traffic : Traffic) : Prop where
  only : ∀ act, (traffic.count account).next ≠ none →
    ((traffic.perform act).count account).next = none →
      ∃ task moment delivery error, act = .advances task moment ∧
        traffic.calls[task]? = some ⟨delivery, none⟩ ∧ delivery.signer.account = account ∧
          delivery.unsettled? = some error ∧ error.isOutdated = true ∧ traffic.Misled task account
  settled : ∀ task moment delivery error, traffic.calls[task]? = some ⟨delivery, none⟩ →
    delivery.signer.account = account → delivery.unsettled? = some error →
      delivery.attemptOver? (delivery.advance task traffic.desk moment).2 =
          some (.failure error) →
        ∃ number, error.nonce? = some number ∧
          (traffic.perform (.advances task moment)).count account =
            if error.isOutdated then Allocator.start else (traffic.count account).giveBack number

theorem Orderly.only_told {traffic after : Traffic} {act : Act} (orderly : Orderly traffic)
    (excused : Excused traffic) (performs : Performs traffic act after) {account : AccountId}
    (known : (traffic.count account).next ≠ none) (cleared : (after.count account).next = none) :
    ∃ task moment delivery error, act = .advances task moment ∧
      traffic.calls[task]? = some ⟨delivery, none⟩ ∧ delivery.signer.account = account ∧
        delivery.unsettled? = some error ∧ error.isOutdated = true ∧
          traffic.Misled task account := by
  cases performs with
  | stays => exact absurd cleared known
  | begins => exact absurd cleared known
  | delivers => exact absurd cleared known
  | closes => exact absurd cleared known
  | advances task moment delivery found desk progress moves =>
      have sound := orderly.sound task delivery found
      have under := errands_of_under_way found
      obtain ⟨errand, held, mine, forgets⟩ := (moves.deals sound).clears
        (orderly.disciplined.wellFormed account)
        (fun errand held asks =>
          (orderly.disciplined.asking task errand (under.trans held) asks).2.2)
        known cleared
      obtain ⟨error, unsettled⟩ := Option.ne_none_iff_exists'.mp
        (sound.unsettled held (by simp [forgets]))
      obtain ⟨own, number, settles⟩ := sound.settles unsettled
      obtain rfl : own = errand := Option.some.inj (settles.held.symm.trans held)
      have outdated : error.isOutdated = true := by
        by_contra plain
        simp [settles.purpose, plain] at forgets
      refine ⟨task, moment, delivery, error, rfl, found, ?_, unsettled, outdated, ?_⟩
      · exact (sound.errand_account held).symm.trans mine
      · exact mine ▸ excused task own (under.trans held) forgets

theorem Orderly.settled {traffic : Traffic} (orderly : Orderly traffic) {task : TaskId}
    {delivery : Delivery} (found : traffic.calls[task]? = some ⟨delivery, none⟩) {error : Error}
    (unsettled : delivery.unsettled? = some error) {moment : Moment}
    (finished : delivery.attemptOver? (delivery.advance task traffic.desk moment).2 =
      some (.failure error)) :
    ∃ number, error.nonce? = some number ∧
      (traffic.perform (.advances task moment)).count delivery.signer.account =
        if error.isOutdated then Allocator.start
        else (traffic.count delivery.signer.account).giveBack number := by
  have sound := orderly.sound task delivery found
  have under := errands_of_under_way found
  obtain ⟨errand, number, settles⟩ := sound.settles unsettled
  have moves := delivery.advance_moves task traffic.desk moment
  rw [count_advances found]
  generalize delivery.advance task traffic.desk moment = step at moves finished ⊢
  obtain ⟨desk, progress⟩ := step
  obtain ⟨own, result, held, moves⟩ := moves.settling unsettled settles.uninterrupted finished
  obtain rfl : own = errand := Option.some.inj (held.symm.trans settles.held)
  have elsewhere : own.purpose ≠ .reserve := by
    rw [settles.purpose]
    split <;> simp
  have waits : own.stage ≠ .asking := fun asks =>
    elsewhere (orderly.disciplined.asking task own (under.trans held) asks).1
  have applied := moves.settled waits elsewhere
  rw [sound.errand_account held, settles.purpose] at applied
  refine ⟨number, settles.assigned, applied.trans ?_⟩
  split <;> rfl

/-- The count of an account is cleared where a call of the account was told something stale and
has failed because of it, whoever told it, and nowhere else. -/
theorem counts_are_cleared_when_told (capacity : Nat) (acts : List Act) (account : AccountId) :
    IsClearedWhenTold account (run capacity acts) := by
  have orderly := run_orderly capacity acts
  have excused := run_excused capacity acts
  constructor
  · intro act known cleared
    exact orderly.only_told excused (perform_performs _ act) known cleared
  · rintro task moment delivery error found rfl unsettled finished
    exact orderly.settled found unsettled finished

/-- One call holds 5, and the signer of another one refuses with words of its own. -/
def misspoken : List Act :=
  let signer : Signer := ⟨Bytes32.fill 1, fun _ => .ok (.sr25519 [])⟩
  let grumbler : Signer := ⟨Bytes32.fill 1, fun _ => .error "Stale session"⟩
  let finds (answer : Option Answer) : Moment :=
    ⟨0, false, ⟨fun _ _ => .ok [], fun _ _ _ _ => .ok []⟩, answer, true⟩
  [.begins 0 {} ⟨.finalized, none⟩ ⟨"lock", [], []⟩ signer, .advances 0 (finds none),
    .advances 0 (finds none), .advances 0 (finds (some (.nonce (.ok 5)))),
    .begins 0 {} ⟨.finalized, none⟩ ⟨"lock", [], []⟩ grumbler, .advances 1 (finds none),
    .advances 1 (finds none), .advances 1 (finds none), .advances 1 (finds none)]

/-- What the signer said clears the count, so 5 is handed out to a third call. -/
theorem refused_signature_clears_the_count :
    let signer : Signer := ⟨Bytes32.fill 1, fun _ => .ok (.sr25519 [])⟩
    let finds (answer : Option Answer) : Moment :=
      ⟨0, false, ⟨fun _ _ => .ok [], fun _ _ _ _ => .ok []⟩, answer, true⟩
    let before := run 1 misspoken
    let after := before.perform (.advances 1 (finds none))
    let later := [.begins 0 {} ⟨.finalized, none⟩ ⟨"lock", [], []⟩ signer,
      .advances 2 (finds none), .advances 2 (finds none),
      .advances 2 (finds (some (.nonce (.ok 5))))].foldl perform after
    before.count (Bytes32.fill 1) = ⟨some 7, []⟩ ∧
      (∃ delivery, before.calls[1]? = some ⟨delivery, none⟩ ∧
        delivery.unsettled? = some (.sign 6 "Stale session")) ∧
      after.count (Bytes32.fill 1) = Allocator.start ∧ later.held (Bytes32.fill 1) = [5, 5] :=
  ⟨rfl, ⟨_, rfl, rfl⟩, rfl, rfl⟩

end Traffic

end LedgerCourier
