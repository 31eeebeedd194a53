import LedgerCourier.Proofs.Delivery.Deal
import Mathlib.Data.List.Nodup

/-!
# The books of an account

What is known of the numbers of an account is kept in books: its count, the answers with which a
count can begin, and the numbers that somebody claims. Every deal of a delivery turns the books
in one of four ways, and each of them keeps the books balanced.
-/

namespace LedgerCourier

set_option autoImplicit false

/-- The count of an account, the answers with which a count can begin, and the numbers that
somebody holds or has left in use. -/
structure Books where
  allocator : Allocator
  answers : List Nat
  claims : List Nat

namespace Books

inductive Turns (books : Books) : Books → Prop where
  | rests (claims : List Nat) (same : claims.Perm books.claims) :
      Turns books ⟨books.allocator, books.answers, claims⟩
  | takes (number : Nat) (after : Allocator) (claims : List Nat)
      (known : books.allocator.next ≠ none) (still : after.next ≠ none)
      (free : books.allocator.uses number = false)
      (uses : ∀ other, after.uses other = true ↔
        books.allocator.uses other = true ∨ other = number)
      (more : claims.Perm (number :: books.claims)) :
      Turns books ⟨after, books.answers, claims⟩
  | counts (number : Nat) (claims : List Nat) (unknown : books.allocator.next = none)
      (more : claims.Perm (number :: books.claims)) :
      Turns books ⟨⟨some (number + 1), []⟩, books.answers ++ [number], claims⟩
  | returns (number : Nat) (after : Allocator) (claims : List Nat)
      (known : after.next = none ↔ books.allocator.next = none)
      (uses : ∀ other, after.uses other = true ↔
        books.allocator.uses other = true ∧ other ≠ number)
      (fewer : books.claims.Perm (number :: claims)) :
      Turns books ⟨after, books.answers, claims⟩

/-- A count that began with an answer accounts for every number that is in use. -/
structure Counted (books : Books) (start : Nat) : Prop where
  answers : books.answers = [start]
  used : ∀ number, books.allocator.uses number = true ↔ number < start ∨ number ∈ books.claims
  above : ∀ number ∈ books.claims, start ≤ number
  distinct : books.claims.Nodup

structure Balanced (books : Books) : Prop where
  unknown : books.allocator.next = none → books.answers = [] ∧ books.claims = []
  known : books.allocator.next ≠ none → ∃ start, books.Counted start

theorem Counted.takes {books : Books} {start number : Nat} (counted : books.Counted start)
    (free : books.allocator.uses number = false) {after : Allocator} {claims : List Nat}
    (uses : ∀ other, after.uses other = true ↔
      books.allocator.uses other = true ∨ other = number)
    (more : claims.Perm (number :: books.claims)) :
    Counted ⟨after, books.answers, claims⟩ start := by
  have unused : ¬(number < start ∨ number ∈ books.claims) := by
    rw [← counted.used number, free]
    simp
  obtain ⟨reached, unclaimed⟩ := not_or.mp unused
  refine ⟨counted.answers, ?_, ?_, ?_⟩
  · intro other
    rw [uses other, counted.used other, more.mem_iff, List.mem_cons]
    constructor
    · rintro ((below | claimed) | same)
      · exact Or.inl below
      · exact Or.inr (Or.inr claimed)
      · exact Or.inr (Or.inl same)
    · rintro (below | same | claimed)
      · exact Or.inl (Or.inl below)
      · exact Or.inr same
      · exact Or.inl (Or.inr claimed)
  · intro other claimed
    rcases List.mem_cons.mp (more.mem_iff.mp claimed) with rfl | earlier
    · exact Nat.not_lt.mp reached
    · exact counted.above other earlier
  · exact more.nodup_iff.mpr (List.nodup_cons.mpr ⟨unclaimed, counted.distinct⟩)

theorem Counted.returns {books : Books} {start number : Nat} (counted : books.Counted start)
    {after : Allocator} {claims : List Nat}
    (uses : ∀ other, after.uses other = true ↔
      books.allocator.uses other = true ∧ other ≠ number)
    (fewer : books.claims.Perm (number :: claims)) :
    Counted ⟨after, books.answers, claims⟩ start := by
  obtain ⟨absent, distinct⟩ := List.nodup_cons.mp (fewer.nodup_iff.mp counted.distinct)
  have least : start ≤ number := counted.above number (fewer.mem_iff.mpr List.mem_cons_self)
  refine ⟨counted.answers, ?_, ?_, distinct⟩
  · intro other
    rw [uses other, counted.used other, fewer.mem_iff, List.mem_cons]
    constructor
    · rintro ⟨below | same | claimed, different⟩
      · exact Or.inl below
      · exact absurd same different
      · exact Or.inr claimed
    · rintro (below | claimed)
      · exact ⟨Or.inl below, by omega⟩
      · refine ⟨Or.inr (Or.inr claimed), ?_⟩
        rintro rfl
        exact absent claimed
  · intro other claimed
    exact counted.above other (fewer.mem_iff.mpr (List.mem_cons_of_mem number claimed))

theorem Turns.balanced {books after : Books} (turns : books.Turns after)
    (balanced : books.Balanced) : after.Balanced := by
  cases turns with
  | rests claims same =>
      constructor
      · intro unknown
        obtain ⟨answers, none⟩ := balanced.unknown unknown
        exact ⟨answers, (none ▸ same).eq_nil⟩
      · intro known
        obtain ⟨start, counted⟩ := balanced.known known
        refine ⟨start, counted.answers, ?_, ?_, same.nodup_iff.mpr counted.distinct⟩
        · exact fun number => (counted.used number).trans (or_congr Iff.rfl same.mem_iff.symm)
        · exact fun number claimed => counted.above number (same.mem_iff.mp claimed)
  | takes number allocator claims known still free uses more =>
      refine ⟨fun unknown => absurd unknown still, fun _ => ?_⟩
      obtain ⟨start, counted⟩ := balanced.known known
      exact ⟨start, counted.takes free uses more⟩
  | counts number claims unknown more =>
      obtain ⟨answers, none⟩ := balanced.unknown unknown
      have only : claims = [number] := List.perm_singleton.mp (none ▸ more)
      refine ⟨by simp, fun _ => ⟨number, by simp [answers], ?_, by simp [only], by simp [only]⟩⟩
      intro other
      simp only [Allocator.uses, Option.any_some, List.contains_nil, Bool.not_false,
        Bool.and_true, decide_eq_true_eq, only, List.mem_singleton]
      omega
  | returns number allocator claims known uses fewer =>
      constructor
      · intro unknown
        obtain ⟨answers, none⟩ := balanced.unknown (known.mp unknown)
        rw [none] at fewer
        exact absurd fewer.symm (by simp)
      · intro still
        obtain ⟨start, counted⟩ := balanced.known (fun unknown => still (known.mpr unknown))
        exact ⟨start, counted.returns uses fewer⟩

end Books

def Allocator.canBegin (number : Nat) : Bool := number + 1 < limit

namespace Deal

variable {task : TaskId} {sequencer after : Sequencer} {answer : Option Answer}
  {before later : Standing} {recalled shown : List Observation} {errands : TaskId → Option Errand}

theorem rest_perm {claims left rest part : List Nat} (claimed : claims.Perm (part ++ rest))
    (leaves : left.Perm (part ++ rest)) : left.Perm claims :=
  leaves.trans claimed.symm

/-- An account for which somebody asks has no count, and a number that is refused after all
would have been too large. -/
theorem refused_answer (disciplined : Disciplined sequencer errands) {errand : Errand}
    (held : errands task = some errand) (stage : errand.stage = .asking) {next : Nat}
    (refused : (sequencer.allocator errand.account).take next = none) :
    Allocator.canBegin next = false := by
  obtain ⟨-, -, unknown⟩ := disciplined.asking task errand held stage
  have empty := (disciplined.wellFormed errand.account).unknown unknown
  unfold Allocator.take at refused
  rw [empty] at refused
  by_contra small
  have small : next + 1 < Allocator.limit := by simpa [Allocator.canBegin] using small
  simp [small] at refused

theorem turns (deal : Deal task sequencer answer recalled before shown after later)
    (own : errands task = before.errand) (disciplined : Disciplined sequencer errands)
    {account : AccountId}
    (mine : ∀ errand, before.errand = some errand → errand.account = account)
    (remembers : ∀ errand, before.errand = some errand → errand.purpose ≠ .forget)
    (answers : List Nat) {claims left rest : List Nat}
    (claimed : claims.Perm (before.number.toList ++ rest))
    (leaves : left.Perm
      (later.number.toList ++ (shown.filterMap Observation.kept? ++ rest))) :
    (Books.mk (sequencer.allocator account) answers claims).Turns
      ⟨after.allocator account,
        answers ++ (shown.filterMap Observation.told?).filter Allocator.canBegin, left⟩ := by
  have rests : ∀ {allocator : Allocator} {told : List Nat},
      allocator = sequencer.allocator account → told = [] → left.Perm claims →
        (Books.mk (sequencer.allocator account) answers claims).Turns
          ⟨allocator, answers ++ told, left⟩ := by
    rintro allocator told rfl rfl same
    rw [List.append_nil]
    exact .rests left same
  cases deal with
  | rests told kept =>
      rw [kept] at leaves
      exact rests rfl (by rw [told]; rfl) (rest_perm claimed leaves)
  | setsOut other purpose idle told kept stale =>
      rw [kept] at leaves
      exact rests rfl (by rw [told]; rfl) (rest_perm claimed leaves)
  | attends errand next request after held moves told kept =>
      rw [kept] at leaves
      have same : after.allocator account = sequencer.allocator account := by
        cases moves <;> simp
      exact rests same (by rw [told]; rfl) (rest_perm claimed leaves)
  | obtains errand number after held empty moves told kept =>
      obtain rfl := mine errand held
      rw [kept] at leaves
      rw [empty] at claimed
      have more : left.Perm (number :: claims) := leaves.trans (claimed.symm.cons number)
      cases moves with
      | takesKnown next number allocator stage purpose head known taken =>
          obtain ⟨-, still, free, -, uses⟩ :=
            Allocator.take_known (disciplined.wellFormed errand.account) known taken
          have untold : errand.told? answer = none := by simp [Errand.told?, stage]
          rw [told, untold]
          have takes : (Books.mk (sequencer.allocator errand.account) answers claims).Turns
              ⟨allocator, answers, left⟩ :=
            .takes number allocator left (by simp [known]) still free uses more
          simpa using takes
      | takesTold next number allocator stage answered taken =>
          obtain ⟨-, -, unknown⟩ := disciplined.asking task errand (own.trans held) stage
          obtain ⟨rfl, small, rfl⟩ :=
            Allocator.take_unknown (disciplined.wellFormed errand.account) unknown taken
          have said : errand.told? answer = some number := by
            simp [Errand.told?, stage, answered]
          have begins : Allocator.canBegin number = true := by
            simpa [Allocator.canBegin] using small
          rw [told, said]
          have counts : (Books.mk (sequencer.allocator errand.account) answers claims).Turns
              ⟨⟨some (number + 1), []⟩, answers ++ [number], left⟩ :=
            .counts number left unknown more
          simpa [begins] using counts
  | misses errand result after held empty moves missed told kept =>
      obtain rfl := mine errand held
      rw [kept] at leaves
      rw [empty] at claimed
      have same : left.Perm claims := rest_perm claimed leaves
      cases moves with
      | takesKnown => simp at missed
      | takesTold => simp at missed
      | exhausts next stage source purpose refused =>
          refine rests (by simp) ?_ same
          cases standing : errand.stage with
          | arriving => exact absurd standing stage
          | inLine =>
              have untold : errand.told? answer = none := by simp [Errand.told?, standing]
              rw [told, untold]
              rfl
          | asking =>
              have large := refused_answer disciplined (own.trans held) standing refused
              have said : errand.told? answer = some next := by
                simp [Errand.told?, standing, source standing]
              rw [told, said]
              simp [large]
      | fails cause stage answered =>
          refine rests (by simp) ?_ same
          have untold : errand.told? answer = none := by simp [Errand.told?, stage, answered]
          rw [told, untold]
          rfl
      | givesBack => simp at missed
      | forgets => simp at missed
  | settles errand number result after held filled purpose moves told kept =>
      obtain rfl := mine errand held
      have gives : errand.purpose = .giveBack number :=
        purpose.resolve_right (remembers errand held)
      rw [kept] at leaves
      rw [filled] at claimed
      have asker : errand.stage ≠ .asking := by
        intro stage
        have reserves := (disciplined.asking task errand (own.trans held) stage).1
        rw [gives] at reserves
        cases reserves
      cases moves with
      | takesKnown next other allocator stage reserves => simp [gives] at reserves
      | takesTold next other allocator stage => exact absurd stage asker
      | exhausts next stage source reserves =>
          cases standing : errand.stage with
          | arriving => exact absurd standing stage
          | inLine =>
              have reserving := reserves standing
              rw [gives] at reserving
              cases reserving
          | asking => exact absurd standing asker
      | fails cause stage => exact absurd stage asker
      | givesBack other stage same head =>
          obtain rfl : number = other := by simpa [gives] using same
          obtain ⟨-, known, uses⟩ :=
            Allocator.give_back_spec (disciplined.wellFormed errand.account) number
          have untold : errand.told? answer = none := by simp [Errand.told?, stage]
          rw [told, untold]
          have returns : (Books.mk (sequencer.allocator errand.account) answers claims).Turns
              ⟨(sequencer.allocator errand.account).giveBack number, answers, left⟩ :=
            .returns number _ left known uses (claimed.trans (leaves.symm.cons number))
          simpa using returns
      | forgets stage same => simp [gives] at same
  | stops told kept =>
      rw [kept] at leaves
      have same : (before.errand.elim sequencer fun errand =>
          errand.abandon task sequencer).allocator account = sequencer.allocator account := by
        cases before.errand with
        | none => rfl
        | some errand => exact Errand.allocator_abandon task sequencer errand account
      exact rests same (by rw [told]; rfl) (rest_perm claimed leaves)

end Deal

theorem Deal.other_account {task : TaskId} {sequencer after : Sequencer}
    {answer : Option Answer} {before later : Standing} {recalled shown : List Observation}
    (deal : Deal task sequencer answer recalled before shown after later) {account : AccountId}
    (other : ∀ errand, before.errand = some errand → errand.account ≠ account) :
    after.allocator account = sequencer.allocator account := by
  cases deal with
  | rests => rfl
  | setsOut => rfl
  | attends errand next request after held moves => exact moves.other_account (other errand held)
  | obtains errand number after held empty moves => exact moves.other_account (other errand held)
  | misses errand result after held empty moves => exact moves.other_account (other errand held)
  | settles errand number result after held filled purpose moves =>
      exact moves.other_account (other errand held)
  | stops =>
      cases before.errand with
      | none => rfl
      | some errand => exact Errand.allocator_abandon task sequencer errand account

end LedgerCourier
