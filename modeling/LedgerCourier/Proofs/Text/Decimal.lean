import LedgerCourier.Text.Decimal
import Mathlib.Data.List.Basic
import Mathlib.Tactic.IntervalCases

/-!
# Decimal numbers in a text

A text writes a number if it consists of ASCII digits, at least one, behind a plus sign or behind
nothing. Reading accepts exactly the texts that write a number below the limit, and the digits of
a number are such a text, without zeros in front that the number does not need.
-/

namespace LedgerCourier.Decimal

set_option autoImplicit false

def Writes (text : List Char) (number : Nat) : Prop :=
  ∃ digits, (text = digits ∨ text = '+' :: digits) ∧ digits ≠ [] ∧
    (∀ character ∈ digits, character.isDigit) ∧ Nat.ofDigitChars 10 digits 0 = number

theorem digit_value_iff (character : Char) (value : Nat) :
    digitValue? character = some value ↔
      character.isDigit ∧ character.toNat - '0'.toNat = value := by
  have zero : '0'.toNat = 48 := rfl
  have digit : character.isDigit ↔ 48 ≤ character.toNat ∧ character.toNat ≤ 57 := by
    simp only [Char.isDigit, Bool.and_eq_true, decide_eq_true_eq]
    exact Iff.rfl
  rw [digit, zero, digitValue?]
  split
  next inside => simp [inside]
  next outside => simp [outside]

theorem read_digits_iff (digits : List Char) (start number : Nat) :
    readDigits start digits = some number ↔
      (∀ character ∈ digits, character.isDigit) ∧ Nat.ofDigitChars 10 digits start = number := by
  induction digits generalizing start with
  | nil => simp [readDigits, Nat.ofDigitChars]
  | cons character rest induction =>
      rw [Nat.ofDigitChars_cons, readDigits]
      cases value : digitValue? character with
      | none =>
          have noDigit : ¬character.isDigit := by
            intro digit
            have known := (digit_value_iff character _).mpr ⟨digit, rfl⟩
            simp [value] at known
          simp [noDigit]
      | some digit =>
          obtain ⟨isDigit, rfl⟩ := (digit_value_iff character digit).mp value
          simp [induction, isDigit, Nat.mul_comm 10 start]

theorem is_digit_ne_plus {character : Char} (digit : character.isDigit) : character ≠ '+' := by
  rintro rfl
  exact absurd digit (by decide)

def unsigned : List Char → List Char
  | '+' :: rest => rest
  | other => other

theorem unsigned_of_plain {text : List Char} (plain : ∀ rest, text ≠ '+' :: rest) :
    unsigned text = text := by
  unfold unsigned
  split
  next rest => exact absurd rfl (plain rest)
  next => rfl

theorem read_below_eq (limit : Nat) (text : List Char) :
    readBelow limit text = if (unsigned text).isEmpty then none
      else (readDigits 0 (unsigned text)).bind fun value =>
        if value < limit then some value else none := by
  unfold readBelow
  split
  next rest =>
    have stripped : unsigned ('+' :: rest) = rest := rfl
    rw [stripped]
    dsimp only
    cases readDigits 0 rest <;> rfl
  next plain =>
    rw [unsigned_of_plain plain]
    dsimp only
    cases readDigits 0 text <;> rfl

theorem read_below_unsigned (limit : Nat) (text : List Char) (number : Nat) :
    readBelow limit text = some number ↔
      unsigned text ≠ [] ∧ readDigits 0 (unsigned text) = some number ∧ number < limit := by
  rw [read_below_eq]
  by_cases empty : unsigned text = []
  · simp [empty]
  · rw [if_neg (by simpa using empty), Option.bind_eq_some_iff]
    constructor
    · rintro ⟨value, read, bounded⟩
      split at bounded
      next small =>
        cases bounded
        exact ⟨empty, read, small⟩
      next => cases bounded
    · rintro ⟨-, read, small⟩
      exact ⟨number, read, if_pos small⟩

theorem unsigned_of_digits {digits : List Char}
    (all : ∀ character ∈ digits, character.isDigit) : unsigned digits = digits := by
  apply unsigned_of_plain
  rintro rest rfl
  exact is_digit_ne_plus (all '+' List.mem_cons_self) rfl

theorem unsigned_cases (text : List Char) : text = unsigned text ∨ text = '+' :: unsigned text := by
  unfold unsigned
  split
  · exact Or.inr rfl
  · exact Or.inl rfl

theorem read_below_iff (limit : Nat) (text : List Char) (number : Nat) :
    readBelow limit text = some number ↔ Writes text number ∧ number < limit := by
  rw [read_below_unsigned, read_digits_iff]
  constructor
  · rintro ⟨some, ⟨all, value⟩, small⟩
    exact ⟨⟨unsigned text, unsigned_cases text, some, all, value⟩, small⟩
  · rintro ⟨⟨digits, same, some, all, value⟩, small⟩
    have stripped : unsigned text = digits := by
      rcases same with rfl | rfl
      · exact unsigned_of_digits all
      · rfl
    rw [stripped]
    exact ⟨some, ⟨all, value⟩, small⟩

theorem digits_write (number : Nat) : Writes (digits number) number :=
  ⟨digits number, Or.inl rfl, Nat.toDigits_ne_nil,
    fun _ member => Nat.isDigit_of_mem_toDigits (by decide) (by decide) member,
    Nat.ofDigitChars_toDigits (by decide) (by decide)⟩

/-- Digits, at least one, without zeros that a number does not need in front. -/
def IsPlain (numeral : List Char) : Prop :=
  numeral ≠ [] ∧ (∀ character ∈ numeral, character.isDigit) ∧
    (numeral.head? = some '0' → numeral = ['0'])

theorem leading_zero {number : Nat} (zero : (digits number).head? = some '0') : number = 0 := by
  induction number using Nat.strong_induction_on with
  | _ number induction =>
      rw [digits, Nat.toDigits_eq_if (by decide)] at zero
      split at zero
      next small => interval_cases number <;> simp_all [Nat.digitChar]
      next large =>
          rw [List.head?_append_of_ne_nil _ Nat.toDigits_ne_nil] at zero
          have tenth := induction (number / 10) (by omega) zero
          omega

theorem digits_plain (number : Nat) : IsPlain (digits number) := by
  refine ⟨Nat.toDigits_ne_nil,
    fun _ member => Nat.isDigit_of_mem_toDigits (by decide) (by decide) member, ?_⟩
  intro zero
  rw [leading_zero zero]
  rfl

theorem padded_digits (width number : Nat) :
    ∀ character ∈ padded width number, character.isDigit := by
  intro character member
  rcases List.mem_append.mp member with filled | written
  · rw [(List.mem_replicate.mp filled).2]
    rfl
  · exact Nat.isDigit_of_mem_toDigits (by decide) (by decide) written

theorem padded_length {width number : Nat} (filled : 0 < width) (fits : number < 10 ^ width) :
    (padded width number).length = width := by
  have short : (digits number).length ≤ width :=
    (Nat.length_toDigits_le_iff (by decide) filled).mpr fits
  rw [padded, List.length_append, List.length_replicate]
  omega

theorem padded_value (width number : Nat) :
    Nat.ofDigitChars 10 (padded width number) 0 = number := by
  rw [padded, Nat.ofDigitChars_append, Nat.ofDigitChars_replicate_zero, Nat.mul_zero, digits,
    Nat.ofDigitChars_toDigits (by decide) (by decide)]

end LedgerCourier.Decimal
