import LedgerCourier.Proofs.Submission.Passage

/-!
# A submission that fails undoes its reservation

Making a reservation and undoing it go different ways through a count: a number that was counted on
for moves the end of the count back, one that had been given back before is put at its place among
the others. Both ways lead to where the submission began. Only a count that had not begun remembers
what the ledger told, so whoever comes next is served without another question.
-/

namespace LedgerCourier

set_option autoImplicit false

namespace Allocator.Reserves

variable {before after : Allocator} {told : List Nat} {number : Nat}

theorem restored (reserved : before.Reserves told number after) (wellFormed : before.WellFormed)
    (known : before.next ≠ none) : after.giveBack number = before := by
  cases reserved with
  | known next number after begun taken => exact give_back_taken wellFormed begun taken
  | told number unknown small => exact absurd unknown known

theorem begun (reserved : before.Reserves told number after) (unknown : before.next = none) :
    told = [number] ∧ after.giveBack number = ⟨some number, []⟩ := by
  cases reserved with
  | known next number after known taken => simp [known] at unknown
  | told number unknown small => exact ⟨rfl, give_back_last number⟩

/-- A number that was given back is the next one to be handed out. -/
theorem takes_again (reserved : before.Reserves told number after)
    (wellFormed : before.WellFormed) :
    ∃ next later, (after.giveBack number).next = some next ∧
      (after.giveBack number).take next = some (number, later) := by
  cases reserved with
  | known next number after known taken =>
      rw [give_back_taken wellFormed known taken]
      exact ⟨next, after, known, taken⟩
  | told number unknown small =>
      rw [give_back_last]
      exact ⟨number, ⟨some (number + 1), []⟩, rfl, by simp [take, small]⟩

theorem given_back_well_formed (reserved : before.Reserves told number after)
    (wellFormed : before.WellFormed) : (after.giveBack number).WellFormed := by
  cases reserved with
  | known next number after known taken => exact give_back_taken wellFormed known taken ▸ wellFormed
  | told number unknown small =>
      rw [give_back_last]
      exact single_well_formed (by omega)

theorem unique {next other : Nat} {later : Allocator} (reserved : before.Reserves told other after)
    (known : before.next = some next) (taken : before.take next = some (number, later)) :
    other = number := by
  cases reserved with
  | known last other after same takes =>
      rw [known] at same
      cases same
      rw [taken] at takes
      cases takes
      rfl
  | told other unknown small => simp [known] at unknown

end Allocator.Reserves

def Verdict.reserved? : Verdict SignedTransaction → Option Nat
  | .success transaction => some transaction.nonce
  | .failure error => error.nonce?
  | .overflow => none

namespace Submission.Passage

/-- The submission is given this number, and the ledger is not asked for one. -/
structure ReservesAtOnce (task : TaskId) (number : Nat) (passage : Passage) : Prop where
  unasked : ∀ account, .asked (.nonce account) ∉ passage.shown
  holds : passage.verdict = none → ∀ other, passage.submission.nonce? = some other → other = number
  ends : ∀ verdict, passage.verdict = some verdict → verdict.reserved? = some number
  prompt : passage.verdict = none → ∀ errand, passage.submission.stage = .reserving errand →
    errand.stage = .inLine → passage.desk.sequencer.isHead errand.account task = true →
      ∀ moment, (passage.follow task (.takes moment)).submission.nonce? = some number

theorem reserved_at_head {task : TaskId} {passage : Passage} (underWay : passage.verdict = none)
    {errand : Errand} (stage : passage.submission.stage = .reserving errand)
    (purpose : errand.purpose = .reserve) (inLine : errand.stage = .inLine)
    (head : passage.desk.sequencer.isHead errand.account task = true) {next number : Nat}
    {later : Allocator}
    (known : (passage.desk.sequencer.allocator errand.account).next = some next)
    (taken : (passage.desk.sequencer.allocator errand.account).take next = some (number, later))
    (moment : Moment) :
    (passage.follow task (.takes moment)).submission.nonce? = some number := by
  simp [follow, underWay, Submission.advance, stage, Errand.advance, inLine, head, Errand.serve,
    purpose, known, Errand.takeNumber, taken, Progress.lift, after, nonce?]

theorem reserves_at_once (task : TaskId) (desk : Desk) (call : EncodedCall) (signer : Signer)
    {turns : List Turn} (wellFormed : (desk.sequencer.allocator signer.account).WellFormed)
    (alone : ∀ turn ∈ turns, turn.Keeps fun desk => desk.sequencer.allocator signer.account)
    {next number : Nat} {later : Allocator}
    (known : (desk.sequencer.allocator signer.account).next = some next)
    (taken : (desk.sequencer.allocator signer.account).take next = some (number, later)) :
    ReservesAtOnce task number (run task desk call signer turns) := by
  have accounted := run_accounted task desk call signer wellFormed alone
  refine ⟨accounted.unasked (by simp [known]), ?_, ?_, ?_⟩
  · intro underWay other holds
    have stands := accounted.underWay underWay
    unfold nonce? at holds
    split at holds
    · cases holds
    next nonce stage =>
      rw [stage] at stands
      exact Option.some.inj holds ▸ stands.unique known taken
    next transaction stage =>
      rw [stage] at stands
      exact Option.some.inj holds ▸ stands.unique known taken
    next nonce errand error stage =>
      rw [stage] at stands
      exact Option.some.inj holds ▸ stands.1.unique known taken
  · intro verdict finished
    have leaves := accounted.finished verdict finished
    generalize (run task desk call signer turns).count signer.account = count at leaves
    cases leaves with
    | exhausted refused =>
        rw [refused next known] at taken
        cases taken
    | missed cause unknown => simp [known] at unknown
    | succeeded transaction count reserved =>
        exact congrArg some (reserved.unique known taken)
    | gaveBack nonce error count reserved refusal own plain =>
        exact own.trans (congrArg some (reserved.unique known taken))
    | forgot nonce error count reserved refusal own stale =>
        exact own.trans (congrArg some (reserved.unique known taken))
  · intro underWay errand stage inLine head moment
    have stands := accounted.underWay underWay
    rw [stage] at stands
    obtain ⟨sound, same⟩ := run_sound task desk call signer turns
    obtain ⟨account, purpose⟩ := sound.reserving errand stage
    have count : (run task desk call signer turns).desk.sequencer.allocator errand.account =
        desk.sequencer.allocator signer.account := by
      rw [account, same]
      exact stands.1
    exact reserved_at_head underWay stage purpose inLine head (count ▸ known) (count ▸ taken) moment

/-- What is left of a submission that has failed, where nobody else has touched the count of its
account. -/
structure IsUndone (account : AccountId) (turns : List Turn) (before : Desk) (passage : Passage)
    (error : Error) : Prop where
  unreserved : error.nonce? = none →
    passage.count account = before.sequencer.allocator account
  restored : error.nonce? ≠ none → (before.sequencer.allocator account).next ≠ none →
    passage.count account = before.sequencer.allocator account
  begun : ∀ number, error.nonce? = some number →
    (before.sequencer.allocator account).next = none →
      passage.told = [number] ∧ passage.count account = ⟨some number, []⟩
  elsewhere : ∀ other, other ≠ account →
    (∀ turn ∈ turns, turn.Keeps fun desk => desk.sequencer.allocator other) →
      passage.count other = before.sequencer.allocator other
  watches : (∀ turn ∈ turns, turn.Keeps Desk.watches) → passage.desk.watches = before.watches
  history : (∀ turn ∈ turns, turn.Keeps Desk.history) → passage.desk.history = before.history
  again : ∀ number, error.nonce? = some number → ∀ task call (signer : Signer) later,
    signer.account = account →
      (∀ turn ∈ later, turn.Keeps fun desk => desk.sequencer.allocator account) →
        ReservesAtOnce task number (run task passage.desk call signer later)

section Failed

variable {task : TaskId} {desk : Desk} {call : EncodedCall} {signer : Signer} {turns : List Turn}

theorem other_count_kept
    (failed : ∀ transaction, (run task desk call signer turns).verdict ≠
      some (.success transaction))
    {other : AccountId} (different : other ≠ signer.account)
    (kept : ∀ turn ∈ turns, turn.Keeps fun desk => desk.sequencer.allocator other) :
    (run task desk call signer turns).count other = desk.sequencer.allocator other := by
  refine run_keeps (fun desk => desk.sequencer.allocator other) task desk call signer kept ?_ failed
  intro submission moment desk after progress sound same _ moves
  exact moves.other_count sound (by rw [same]; exact different.symm)

theorem watches_kept
    (failed : ∀ transaction, (run task desk call signer turns).verdict ≠
      some (.success transaction))
    (kept : ∀ turn ∈ turns, turn.Keeps Desk.watches) :
    (run task desk call signer turns).desk.watches = desk.watches :=
  run_keeps Desk.watches task desk call signer kept
    (fun _ _ _ _ _ _ _ refused moves => moves.same_watches refused) failed

theorem history_kept
    (failed : ∀ transaction, (run task desk call signer turns).verdict ≠
      some (.success transaction))
    (kept : ∀ turn ∈ turns, turn.Keeps Desk.history) :
    (run task desk call signer turns).desk.history = desk.history :=
  run_keeps Desk.history task desk call signer kept
    (fun _ _ _ _ _ _ _ _ moves => moves.same_history) failed

end Failed

theorem settled {account : AccountId} {before after : Allocator} {told : List Nat} {error : Error}
    (leaves : Leaves account before told (.failure error) after)
    (plain : error.nonce? ≠ none →
      ∀ marker ∈ Stale.markers, ¬marker.toList <:+: error.message.toList) :
    error.nonce? = none ∧ after = before ∨ ∃ number count, error.nonce? = some number ∧
      before.Reserves told number count ∧ after = count.giveBack number := by
  cases leaves with
  | missed cause unknown => exact Or.inl ⟨rfl, rfl⟩
  | gaveBack nonce error count reserved refusal number plain =>
      exact Or.inr ⟨nonce, count, number, reserved, rfl⟩
  | forgot nonce error count reserved refusal number stale =>
      obtain ⟨marker, listed, occurs⟩ := (Stale.is_stale_iff error.message).mp stale
      exact absurd occurs (plain (by simp [number]) marker listed)

/-- A submission that fails for a reason other than an outdated number undoes its reservation
exactly, whatever state the count was in: one that had begun is the same as before, one that had
not has begun with what the ledger told. Nothing else changes, and the next submission for the
account is given the same number at once. -/
theorem failed_submission_is_undone (acts : List Hall.Act) (task : TaskId) (desk : Desk)
    (call : EncodedCall) (signer : Signer) (turns : List Turn) (error : Error)
    (reached : desk.sequencer.allocator signer.account = (Hall.run acts).allocator signer.account)
    (alone : ∀ turn ∈ turns, turn.Keeps fun desk => desk.sequencer.allocator signer.account)
    (failed : (run task desk call signer turns).verdict = some (.failure error))
    (plain : error.nonce? ≠ none →
      ∀ marker ∈ Stale.markers, ¬marker.toList <:+: error.message.toList) :
    IsUndone signer.account turns desk (run task desk call signer turns) error := by
  have wellFormed : (desk.sequencer.allocator signer.account).WellFormed :=
    reached ▸ Hall.run_well_formed acts signer.account
  have leaves := (run_accounted task desk call signer wellFormed alone).finished _ failed
  have unaccepted : ∀ transaction, (run task desk call signer turns).verdict ≠
      some (.success transaction) := by simp [failed]
  rcases settled leaves plain with ⟨unassigned, same⟩ |
    ⟨number, count, assigned, reserved, left⟩
  · exact ⟨fun _ => same, fun some => absurd unassigned some, by simp [unassigned],
      fun _ => other_count_kept unaccepted, watches_kept unaccepted, history_kept unaccepted,
      by simp [unassigned]⟩
  · refine ⟨by simp [assigned], ?_, ?_, fun _ => other_count_kept unaccepted,
      watches_kept unaccepted, history_kept unaccepted, ?_⟩
    · intro _ known
      exact left.trans (reserved.restored wellFormed known)
    · intro other own unknown
      obtain rfl : number = other := Option.some.inj (assigned.symm.trans own)
      obtain ⟨told, begun⟩ := reserved.begun unknown
      exact ⟨told, left.trans begun⟩
    · intro other own others following next later mine quiet
      obtain rfl : number = other := Option.some.inj (assigned.symm.trans own)
      obtain ⟨last, further, known, taken⟩ := reserved.takes_again wellFormed
      have still := reserved.given_back_well_formed wellFormed
      rw [← left] at known taken still
      rw [← mine] at known taken quiet still
      exact reserves_at_once others _ following next still quiet known taken

/-- The count of an account goes on from 7, and 5 was given back. -/
def withGap : List Hall.Act :=
  [.comes (Bytes32.fill 1) .reserve, .advances 0 none, .advances 0 none,
    .advances 0 (some (.nonce (.ok 5))), .comes (Bytes32.fill 1) .reserve, .advances 1 none,
    .advances 1 none, .comes (Bytes32.fill 1) (.giveBack 5), .advances 2 none, .advances 2 none]

theorem refused_signature_is_undone :
    let signer : Signer := ⟨Bytes32.fill 1, fun _ => .error "no"⟩
    let desk : Desk := ⟨(Hall.run withGap).sequencer, 0, History.withCapacity 1⟩
    let finds : Turn := .takes ⟨0, false, ⟨fun _ _ => .ok [], fun _ _ _ _ => .ok []⟩, none, true⟩
    let turns : List Turn :=
      [finds, finds, .others fun desk => { desk with watches := desk.watches + 1 }, finds, finds,
        finds]
    desk.sequencer.allocator (Bytes32.fill 1) = ⟨some 7, [5]⟩ ∧
      IsUndone (Bytes32.fill 1) turns desk (run 3 desk ⟨"lock", [], []⟩ signer turns)
        (.sign 5 "no") := by
  intro signer desk finds turns
  refine ⟨rfl, failed_submission_is_undone withGap 3 desk ⟨"lock", [], []⟩ signer turns
    (.sign 5 "no") rfl ?_ rfl ?_⟩
  · intro turn inside
    simp only [turns, List.mem_cons, List.not_mem_nil, or_false] at inside
    rcases inside with rfl | rfl | rfl | rfl | rfl | rfl
    · trivial
    · trivial
    · exact fun desk => rfl
    · trivial
    · trivial
    · trivial
  · intro _ marker listed occurs
    have stale := (Stale.is_stale_iff _).mpr ⟨marker, listed, occurs⟩
    have same : Stale.isStale (Error.sign 5 "no").message = Stale.isStale "no" :=
      Error.message_stale_iff rfl
    rw [same] at stale
    revert stale
    decide

end Submission.Passage

end LedgerCourier
