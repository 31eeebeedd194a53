import LedgerCourier.Nonce.Allocator
import Mathlib.Data.List.Sort

/-!
# What an allocator keeps and what its operations do

The numbers in use are those below the count that were not given back. Both operations are
described by what they do to that set: handing out adds the least missing number, and taking
back removes exactly the number given. The numbers kept for later callers stay ascending and
lie strictly below the end of the count, so that the end never has to be moved twice.
-/

namespace LedgerCourier.Allocator

set_option autoImplicit false

structure WellFormed (allocator : Allocator) : Prop where
  ascending : allocator.released.Pairwise (· < ·)
  below : ∀ next, allocator.next = some next →
    ∀ number ∈ allocator.released, number + 1 < next
  unknown : allocator.next = none → allocator.released = []
  bounded : ∀ next, allocator.next = some next → next < limit

theorem start_well_formed : start.WellFormed where
  ascending := List.Pairwise.nil
  below := by simp [start]
  unknown := fun _ => rfl
  bounded := by simp [start]

theorem single_well_formed {next : Nat} (small : next < limit) :
    WellFormed ⟨some next, []⟩ where
  ascending := List.Pairwise.nil
  below := by simp
  unknown := by simp
  bounded := by simpa using small

theorem uses_iff (allocator : Allocator) (number : Nat) :
    allocator.uses number = true ↔
      ∃ next, allocator.next = some next ∧ number < next ∧ number ∉ allocator.released := by
  cases known : allocator.next with
  | none => simp [uses, known]
  | some next => simp [uses, known]

theorem uses_of_known {allocator : Allocator} {next : Nat} (known : allocator.next = some next)
    (number : Nat) :
    allocator.uses number = true ↔ number < next ∧ number ∉ allocator.released := by
  rw [uses_iff, known]
  simp

theorem not_uses_unknown {allocator : Allocator} (unknown : allocator.next = none)
    (number : Nat) : allocator.uses number = false := by
  simp [uses, unknown]

@[simp] theorem mem_insert_ascending (number other : Nat) (numbers : List Nat) :
    other ∈ insertAscending number numbers ↔ other = number ∨ other ∈ numbers := by
  induction numbers with
  | nil => simp [insertAscending]
  | cons least rest induction =>
      simp only [insertAscending]
      split
      · simp
      · split
        next same =>
          subst same
          simp
        next => simp only [List.mem_cons, induction, or_left_comm]

theorem insert_ascending_pairwise (number : Nat) (numbers : List Nat)
    (ascending : numbers.Pairwise (· < ·)) :
    (insertAscending number numbers).Pairwise (· < ·) := by
  induction numbers with
  | nil => simp [insertAscending]
  | cons least rest induction =>
      obtain ⟨first, later⟩ := List.pairwise_cons.mp ascending
      simp only [insertAscending]
      split
      next smaller =>
        refine List.pairwise_cons.mpr ⟨?_, ascending⟩
        intro other member
        rcases List.mem_cons.mp member with same | member
        · rwa [same]
        · exact Nat.lt_trans smaller (first other member)
      next notSmaller =>
        split
        · exact ascending
        next different =>
          refine List.pairwise_cons.mpr ⟨?_, induction later⟩
          intro other member
          rcases (mem_insert_ascending number other rest).mp member with same | member
          · omega
          · exact first other member

/-- Moving the end of the count back changes how the numbers in use are written down, and not
which ones they are. The induction is on the end. -/
theorem rewind_spec (last : Nat) (released : List Nat) (ascending : released.Pairwise (· < ·))
    (below : ∀ number ∈ released, number < last) :
    (rewind last released).1 ≤ last ∧ (rewind last released).2.Pairwise (· < ·) ∧
      (∀ number ∈ (rewind last released).2, number + 1 < (rewind last released).1) ∧
      ∀ number, (number < (rewind last released).1 ∧ number ∉ (rewind last released).2) ↔
        (number < last ∧ number ∉ released) := by
  induction last generalizing released with
  | zero =>
      refine ⟨by simp [rewind], by simpa [rewind] using ascending, ?_, by simp [rewind]⟩
      intro number member
      have impossible := below number (by simpa [rewind] using member)
      omega
  | succ last induction =>
      by_cases free : last ∈ released
      · have distinct : released.Nodup := ascending.imp Nat.ne_of_lt
        have shorter : (released.erase last).Pairwise (· < ·) :=
          ascending.sublist List.erase_sublist
        have lower : ∀ number ∈ released.erase last, number < last := by
          intro number member
          obtain ⟨different, held⟩ := distinct.mem_erase_iff.mp member
          have bound := below number held
          omega
        obtain ⟨small, sorted, bounded, same⟩ :=
          induction (released.erase last) shorter lower
        have step : rewind (last + 1) released = rewind last (released.erase last) := by
          rw [rewind, if_pos free]
        rw [step]
        refine ⟨by omega, sorted, bounded, ?_⟩
        intro number
        rw [same number, distinct.mem_erase_iff]
        constructor
        · rintro ⟨small, absent⟩
          exact ⟨by omega, fun held => absent ⟨by omega, held⟩⟩
        · rintro ⟨small, absent⟩
          have different : number ≠ last := fun equal => absent (equal ▸ free)
          exact ⟨by omega, fun held => absent held.2⟩
      · have step : rewind (last + 1) released = (last + 1, released) := by
          rw [rewind, if_neg free]
        rw [step]
        refine ⟨Nat.le_refl _, ascending, ?_, fun number => Iff.rfl⟩
        intro number member
        have bound := below number member
        have different : number ≠ last := fun equal => free (equal ▸ member)
        omega

theorem take_exists {allocator : Allocator} {next number : Nat}
    (known : allocator.next = some next) (free : allocator.uses number = false)
    (small : number + 1 < limit) : ∃ taken after, allocator.take next = some (taken, after) := by
  obtain ⟨count, released⟩ := allocator
  subst known
  cases released with
  | cons least rest => exact ⟨least, _, rfl⟩
  | nil =>
      have outside : next ≤ number := by simpa [uses] using free
      have fits : next + 1 < limit := by omega
      exact ⟨next, _, by rw [take, if_pos fits]⟩

/-- Handing out from a known count gives the least number that is not in use, and adds
nothing else to the numbers in use. -/
theorem take_known {allocator after : Allocator} {next number : Nat}
    (wellFormed : allocator.WellFormed) (known : allocator.next = some next)
    (taken : allocator.take next = some (number, after)) :
    after.WellFormed ∧ after.next ≠ none ∧ allocator.uses number = false ∧
      (∀ other, other < number → allocator.uses other = true) ∧
      ∀ other, after.uses other = true ↔ allocator.uses other = true ∨ other = number := by
  obtain ⟨count, released⟩ := allocator
  subst known
  cases released with
  | nil =>
      simp only [take] at taken
      split at taken
      next small =>
        obtain ⟨rfl, rfl⟩ : next = number ∧ _ = after := by simpa using taken
        refine ⟨single_well_formed small, by simp, by simp [uses], by simp [uses], ?_⟩
        intro other
        simp only [uses, Option.any_some, List.contains_nil, Bool.not_false, Bool.and_true,
          decide_eq_true_eq]
        omega
      next => simp at taken
  | cons least rest =>
      obtain ⟨rfl, rfl⟩ : least = number ∧ _ = after := by simpa [take] using taken
      have first : ∀ other ∈ rest, least < other := (List.pairwise_cons.mp wellFormed.ascending).1
      have bound : ∀ other ∈ least :: rest, other + 1 < next := wellFormed.below next rfl
      refine ⟨⟨(List.pairwise_cons.mp wellFormed.ascending).2, ?_, by simp,
        wellFormed.bounded⟩, by simp, by simp [uses], ?_, ?_⟩
      · intro count same other member
        obtain rfl : next = count := by simpa using same
        exact bound other (List.mem_cons_of_mem least member)
      · intro other smaller
        have inside := bound least List.mem_cons_self
        refine (uses_of_known rfl other).mpr ⟨by omega, ?_⟩
        intro member
        rcases List.mem_cons.mp member with same | member
        · omega
        · have larger := first other member
          omega
      · intro other
        rw [uses_of_known rfl, uses_of_known rfl]
        have inside := bound least List.mem_cons_self
        have absent : least ∉ rest := fun member => Nat.lt_irrefl least (first least member)
        constructor
        · rintro ⟨small, absent⟩
          by_cases same : other = least
          · exact Or.inr same
          · exact Or.inl ⟨small, by simp [same, absent]⟩
        · rintro (⟨small, absent⟩ | rfl)
          · exact ⟨small, fun member => absent (List.mem_cons_of_mem least member)⟩
          · exact ⟨by omega, absent⟩

theorem take_unknown {allocator after : Allocator} {next number : Nat}
    (wellFormed : allocator.WellFormed) (unknown : allocator.next = none)
    (taken : allocator.take next = some (number, after)) :
    number = next ∧ next + 1 < limit ∧ after = ⟨some (next + 1), []⟩ := by
  have empty := wellFormed.unknown unknown
  obtain ⟨count, released⟩ := allocator
  subst empty
  simp only [take] at taken
  split at taken
  next small =>
    obtain ⟨rfl, rfl⟩ : next = number ∧ _ = after := by simpa using taken
    exact ⟨rfl, small, rfl⟩
  next => simp at taken

theorem give_back_spec {allocator : Allocator} (wellFormed : allocator.WellFormed)
    (number : Nat) :
    (allocator.giveBack number).WellFormed ∧
      ((allocator.giveBack number).next = none ↔ allocator.next = none) ∧
      ∀ other, (allocator.giveBack number).uses other = true ↔
        allocator.uses other = true ∧ other ≠ number := by
  obtain ⟨count, released⟩ := allocator
  cases count with
  | none => exact ⟨wellFormed, Iff.rfl, by simp [giveBack, uses]⟩
  | some next =>
      have bound : ∀ other ∈ released, other + 1 < next := wellFormed.below next rfl
      have small : next < limit := wellFormed.bounded next rfl
      by_cases outside : next ≤ number
      · simp only [giveBack, if_pos outside]
        refine ⟨wellFormed, trivial, ?_⟩
        intro other
        rw [uses_of_known rfl]
        exact ⟨fun used => ⟨used, by omega⟩, fun used => used.1⟩
      · by_cases atEnd : number + 1 = next
        · have lower : ∀ other ∈ released, other < number := by
            intro other member
            have inside := bound other member
            omega
          obtain ⟨lowered, sorted, bounded, same⟩ :=
            rewind_spec number released wellFormed.ascending lower
          simp only [giveBack, if_neg outside, if_pos atEnd]
          refine ⟨⟨sorted, ?_, by simp, ?_⟩, by simp, ?_⟩
          · intro rewound equal other member
            obtain rfl : _ = rewound := by simpa using equal
            exact bounded other member
          · intro rewound equal
            obtain rfl : _ = rewound := by simpa using equal
            omega
          · intro other
            rw [uses_of_known rfl, uses_of_known rfl, same other]
            constructor
            · rintro ⟨small, absent⟩
              exact ⟨⟨by omega, absent⟩, by omega⟩
            · rintro ⟨⟨small, absent⟩, different⟩
              exact ⟨by omega, absent⟩
        · simp only [giveBack, if_neg outside, if_neg atEnd]
          refine ⟨⟨insert_ascending_pairwise number released wellFormed.ascending, ?_, by simp,
            wellFormed.bounded⟩, by simp, ?_⟩
          · intro count equal other member
            obtain rfl : next = count := by simpa using equal
            rcases (mem_insert_ascending number other released).mp member with same | member
            · omega
            · exact bound other member
          · intro other
            rw [uses_of_known rfl, uses_of_known rfl, mem_insert_ascending]
            constructor
            · rintro ⟨small, absent⟩
              exact ⟨⟨small, fun member => absent (Or.inr member)⟩,
                fun same => absent (Or.inl same)⟩
            · rintro ⟨⟨small, absent⟩, different⟩
              exact ⟨small, fun either => either.elim different absent⟩

/-- The end of a count that has begun is one more than a number in use, or zero. -/
theorem next_le_of_uses {allocator other : Allocator} {next last : Nat}
    (wellFormed : other.WellFormed) (known : allocator.next = some next)
    (told : other.next = some last)
    (same : ∀ number, other.uses number = true → allocator.uses number = true) :
    last ≤ next := by
  by_contra beyond
  have used : other.uses (last - 1) = true := by
    refine (uses_of_known told _).mpr ⟨by omega, ?_⟩
    intro member
    have bound := wellFormed.below last told (last - 1) member
    omega
  have inside := ((uses_of_known known _).mp (same _ used)).1
  omega

/-- Two counts that have begun and have the same numbers in use are the same. -/
theorem WellFormed.determined {allocator other : Allocator} (wellFormed : allocator.WellFormed)
    (too : other.WellFormed) (known : allocator.next ≠ none) (told : other.next ≠ none)
    (same : ∀ number, other.uses number = allocator.uses number) : other = allocator := by
  obtain ⟨next, known⟩ := Option.ne_none_iff_exists'.mp known
  obtain ⟨last, told⟩ := Option.ne_none_iff_exists'.mp told
  have above : last ≤ next :=
    next_le_of_uses too known told fun number used => (same number).symm.trans used
  have below : next ≤ last :=
    next_le_of_uses wellFormed told known fun number used => (same number).trans used
  obtain rfl : next = last := Nat.le_antisymm below above
  have kept : ∀ number, number ∈ other.released ↔ number ∈ allocator.released := by
    intro number
    have either : number < next ∧ number ∉ other.released ↔
        number < next ∧ number ∉ allocator.released := by
      rw [← uses_of_known told, ← uses_of_known known, same number]
    have first := too.below next told number
    have second := wellFormed.below next known number
    constructor
    · intro member
      have bound := first member
      by_contra absent
      exact (either.mpr ⟨by omega, absent⟩).2 member
    · intro member
      have bound := second member
      by_contra absent
      exact (either.mp ⟨by omega, absent⟩).2 member
  have released : other.released = allocator.released :=
    too.ascending.eq_of_mem_iff wellFormed.ascending fun {number} => kept number
  obtain ⟨count, numbers⟩ := allocator
  obtain ⟨otherCount, otherNumbers⟩ := other
  cases known
  cases told
  cases released
  rfl

/-- A number is refused only where every number below the last one is in use. -/
theorem take_refused {allocator : Allocator} {next : Nat}
    (refused : allocator.take next = none) :
    allocator.released = [] ∧ limit ≤ next + 1 := by
  unfold take at refused
  split at refused
  · cases refused
  next empty =>
    split at refused
    · cases refused
    next large => exact ⟨empty, Nat.not_lt.mp large⟩

theorem insert_least (number : Nat) (numbers : List Nat)
    (below : ∀ other ∈ numbers, number < other) :
    insertAscending number numbers = number :: numbers := by
  cases numbers with
  | nil => rfl
  | cons least rest => simp [insertAscending, below least List.mem_cons_self]

/-- The only number that was taken past the end of a count moves the end back. -/
theorem give_back_last (number : Nat) :
    giveBack ⟨some (number + 1), []⟩ number = ⟨some number, []⟩ := by
  have still : rewind number [] = (number, []) := by cases number <;> simp [rewind]
  simp [giveBack, still]

/-- A number that is given back as soon as it was taken leaves the count as it was. -/
theorem give_back_taken {allocator after : Allocator} {next number : Nat}
    (wellFormed : allocator.WellFormed) (known : allocator.next = some next)
    (taken : allocator.take next = some (number, after)) : after.giveBack number = allocator := by
  obtain ⟨count, released⟩ := allocator
  subst known
  cases released with
  | nil =>
      simp only [take] at taken
      split at taken
      next small =>
        obtain ⟨rfl, rfl⟩ : next = number ∧ _ = after := by simpa using taken
        exact give_back_last next
      next => simp at taken
  | cons least rest =>
      obtain ⟨rfl, rfl⟩ : least = number ∧ _ = after := by simpa [take] using taken
      have bound := wellFormed.below next rfl least List.mem_cons_self
      have first : ∀ other ∈ rest, least < other := (List.pairwise_cons.mp wellFormed.ascending).1
      have inside : ¬next ≤ least := by omega
      have early : ¬least + 1 = next := by omega
      simp [giveBack, inside, early, insert_least least rest first]

end LedgerCourier.Allocator
