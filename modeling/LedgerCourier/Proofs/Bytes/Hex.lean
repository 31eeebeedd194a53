import LedgerCourier.Bytes.Hex
import LedgerCourier.Text.Blank
import Mathlib.Data.List.Induction

/-!
# Hexadecimal texts

A text spells bytes if it consists of their digits, two for each byte and in any mix of case.
The reader works on the bytes that encode the text and not on its characters. No byte of a longer
encoding begins like a digit, so it accepts exactly the texts that spell something.
-/

namespace LedgerCourier.Hex

set_option autoImplicit false

def lowerDigits : List Char := "0123456789abcdef".toList

def upperDigits : List Char := "0123456789ABCDEF".toList

def IsDigitOf (value : Nat) (character : Char) : Prop :=
  lowerDigits[value]? = some character ∨ upperDigits[value]? = some character

instance (value : Nat) (character : Char) : Decidable (IsDigitOf value character) :=
  inferInstanceAs (Decidable (_ ∨ _))

inductive Spells : List Char → Bytes → Prop where
  | nil : Spells [] []
  | cons {high low : Char} {byte : UInt8} {digits : List Char} {bytes : Bytes}
      (highDigit : IsDigitOf (byte.toNat / 16) high) (lowDigit : IsDigitOf (byte.toNat % 16) low)
      (rest : Spells digits bytes) : Spells (high :: low :: digits) (byte :: bytes)

theorem mem_of_is_digit {value : Nat} {character : Char} (digit : IsDigitOf value character) :
    character ∈ lowerDigits ++ upperDigits := by
  rcases digit with lower | upper
  · exact List.mem_append_left _ (List.mem_of_getElem? lower)
  · exact List.mem_append_right _ (List.mem_of_getElem? upper)

theorem value_lt_of_is_digit {value : Nat} {character : Char}
    (digit : IsDigitOf value character) : value < 16 := by
  rcases digit with found | found <;> exact (List.getElem?_eq_some_iff.mp found).1

/-- The characters that are digits are none of those that could be mistaken for something else. -/
theorem digits_plain : ∀ character ∈ lowerDigits ++ upperDigits,
    character.toNat < 128 ∧ character ≠ 'x' ∧ ¬Blank.isBlank character := by
  have each : (lowerDigits ++ upperDigits).all fun character =>
      decide (character.toNat < 128 ∧ character ≠ 'x' ∧ ¬Blank.isBlank character) := by decide
  exact fun character member => of_decide_eq_true (List.all_eq_true.mp each character member)

theorem code_digit_value : ∀ code < 256, ∀ value < 16,
    digitValue? (UInt8.ofNat code) = some value ↔ IsDigitOf value (Char.ofNat code) := by
  decide +kernel

theorem digit_value_lt {byte : UInt8} {value : Nat} (known : digitValue? byte = some value) :
    value < 16 := by
  simp only [digitValue?] at known
  split at known
  · cases known
    omega
  · split at known
    · cases known
      omega
    · split at known
      · cases known
        omega
      · cases known

theorem digit_value_high {byte : UInt8} (high : 103 ≤ byte.toNat) : digitValue? byte = none := by
  simp only [digitValue?]
  rw [if_neg (by omega), if_neg (by omega), if_neg (by omega)]

theorem digit_value_iff (byte : UInt8) (value : Nat) :
    digitValue? byte = some value ↔ IsDigitOf value (Char.ofNat byte.toNat) := by
  have listed := code_digit_value byte.toNat byte.toNat_lt value
  rw [UInt8.ofNat_toNat] at listed
  constructor
  · exact fun known => (listed (digit_value_lt known)).mp known
  · exact fun digit => (listed (value_lt_of_is_digit digit)).mpr digit

/-- How the encoding of a character begins. A digit is encoded in one byte, and the first byte of
any other character is no digit. -/
theorem utf8_begins (character : Char) :
    ∃ first more, String.utf8EncodeChar character = first :: more ∧
      (∀ value, digitValue? first = some value ↔ IsDigitOf value character) ∧
      ((digitValue? first).isSome → more = []) := by
  by_cases ascii : character.toNat < 128
  · refine ⟨UInt8.ofNat character.toNat, [], ?_, ?_, fun _ => rfl⟩
    · have small : character.val.toNat ≤ 127 := by
        have bound : character.val.toNat < 128 := ascii
        omega
      simp only [String.utf8EncodeChar, if_pos small]
      rfl
    · intro value
      have code : (UInt8.ofNat character.toNat).toNat = character.toNat := by
        rw [UInt8.toNat_ofNat', Nat.mod_eq_of_lt (by omega)]
      rw [digit_value_iff, code, Char.ofNat_toNat]
  · have large : ¬character.val.toNat ≤ 127 := by
      have bound : ¬character.val.toNat < 128 := ascii
      omega
    obtain ⟨first, more, encoded, high⟩ : ∃ first more,
        String.utf8EncodeChar character = first :: more ∧ 103 ≤ first.toNat := by
      simp only [String.utf8EncodeChar, if_neg large]
      split
      · refine ⟨_, _, rfl, ?_⟩
        rw [UInt8.toNat_ofNat']
        omega
      · split
        · refine ⟨_, _, rfl, ?_⟩
          rw [UInt8.toNat_ofNat']
          omega
        · refine ⟨_, _, rfl, ?_⟩
          rw [UInt8.toNat_ofNat']
          omega
    have none := digit_value_high high
    refine ⟨first, more, encoded, ?_, by simp [none]⟩
    intro value
    rw [none]
    constructor
    · exact fun impossible => nomatch impossible
    · exact fun digit => absurd (digits_plain _ (mem_of_is_digit digit)).1 ascii

theorem decode_digits_even {offset : Nat} {digits bytes : Bytes}
    (decoded : decodeDigits offset digits = .ok bytes) : digits.length % 2 = 0 := by
  fun_induction decodeDigits offset digits generalizing bytes with
  | case1 => rfl
  | case2 => cases decoded
  | case3 => cases decoded
  | case4 => cases decoded
  | case5 offset high low rest highValue known lowValue knownLow tail decodedTail induction =>
      have even := induction decodedTail
      simp only [List.length_cons]
      omega
  | case6 => cases decoded

theorem byte_of_halves {high low : Nat} (highSmall : high < 16) (lowSmall : low < 16) :
    (UInt8.ofNat (high * 16 + low)).toNat / 16 = high ∧
      (UInt8.ofNat (high * 16 + low)).toNat % 16 = low := by
  rw [UInt8.toNat_ofNat']
  omega

theorem halves_of_byte (byte : UInt8) :
    UInt8.ofNat (byte.toNat / 16 * 16 + byte.toNat % 16) = byte := by
  rw [Nat.div_add_mod', UInt8.ofNat_toNat]

theorem decode_pair_iff (offset : Nat) (high low : UInt8) (rest bytes : Bytes) :
    decodeDigits offset (high :: low :: rest) = .ok bytes ↔
      ∃ byte tail, bytes = byte :: tail ∧ digitValue? high = some (byte.toNat / 16) ∧
        digitValue? low = some (byte.toNat % 16) ∧ decodeDigits (offset + 2) rest = .ok tail := by
  rw [decodeDigits]
  constructor
  · intro decoded
    split at decoded
    next => cases decoded
    next highValue known =>
      split at decoded
      next => cases decoded
      next lowValue knownLow =>
        split at decoded
        next tail decodedTail =>
          cases decoded
          obtain ⟨highHalf, lowHalf⟩ :=
            byte_of_halves (digit_value_lt known) (digit_value_lt knownLow)
          refine ⟨_, tail, rfl, ?_, ?_, decodedTail⟩
          · rw [highHalf, known]
          · rw [lowHalf, knownLow]
        next => cases decoded
  · rintro ⟨byte, tail, rfl, known, knownLow, decodedTail⟩
    simp only [known, knownLow, decodedTail, halves_of_byte]

/-- Digits are read off the encoding of a text exactly if the text spells bytes. The induction
takes two characters at a time, as the reader takes two bytes. -/
theorem decode_digits_iff (offset : Nat) (text : List Char) (bytes : Bytes) :
    decodeDigits offset (textBytes text) = .ok bytes ↔ Spells text bytes := by
  induction text using List.twoStepInduction generalizing offset bytes with
  | nil =>
      simp only [textBytes, List.flatMap_nil, decodeDigits, Except.ok.injEq]
      constructor
      · rintro rfl
        exact .nil
      · intro spelled
        cases spelled
        rfl
  | singleton character =>
      obtain ⟨first, more, encoded, digit, alone⟩ := utf8_begins character
      have same : textBytes [character] = first :: more := by simp [textBytes, encoded]
      rw [same]
      constructor
      · intro decoded
        cases more with
        | nil => cases decoded
        | cons second more =>
            obtain ⟨byte, tail, -, known, -⟩ := (decode_pair_iff ..).mp decoded
            exact absurd (alone (by simp [known])) (by simp)
      · exact fun spelled => nomatch spelled
  | cons_cons high low rest induction =>
      obtain ⟨first, more, encoded, digit, alone⟩ := utf8_begins high
      obtain ⟨second, others, encodedLow, digitLow, aloneLow⟩ := utf8_begins low
      have same : textBytes (high :: low :: rest) =
          first :: (more ++ second :: (others ++ textBytes rest)) := by
        simp [textBytes, encoded, encodedLow]
      rw [same]
      constructor
      · intro decoded
        have single : more = [] := by
          cases more with
          | nil => rfl
          | cons next more =>
              obtain ⟨byte, tail, -, known, -⟩ := (decode_pair_iff ..).mp decoded
              exact alone (by simp [known])
        subst single
        obtain ⟨byte, tail, rfl, known, knownLow, decodedTail⟩ := (decode_pair_iff ..).mp decoded
        obtain rfl := aloneLow (by simp [knownLow])
        exact .cons ((digit _).mp known) ((digitLow _).mp knownLow)
          ((induction _ _).mp decodedTail)
      · intro spelled
        cases spelled with
        | cons highDigit lowDigit spelled =>
            have known := (digit _).mpr highDigit
            have knownLow := (digitLow _).mpr lowDigit
            obtain rfl := alone (by simp [known])
            obtain rfl := aloneLow (by simp [knownLow])
            exact (decode_pair_iff ..).mpr
              ⟨_, _, rfl, known, knownLow, (induction _ _).mpr spelled⟩

theorem decode_bytes_iff (text : List Char) (bytes : Bytes) :
    decodeBytes (textBytes text) = .ok bytes ↔ Spells text bytes := by
  rw [← decode_digits_iff 0, decodeBytes]
  split
  next odd =>
    constructor
    · exact fun impossible => nomatch impossible
    · intro decoded
      have even := decode_digits_even decoded
      omega
  next => exact Iff.rfl

theorem encode_chars_spell (bytes : Bytes) : Spells (encodeChars bytes) bytes := by
  have digit : ∀ value < 16, IsDigitOf value (digitChar value) := by decide
  induction bytes with
  | nil => exact .nil
  | cons byte rest induction =>
      have bound := byte.toNat_lt
      exact .cons (digit _ (by omega)) (digit _ (by omega)) induction

theorem Spells.digits {text : List Char} {bytes : Bytes} (spells : Spells text bytes) :
    ∀ character ∈ text, character ∈ lowerDigits ++ upperDigits := by
  induction spells with
  | nil => exact fun character member => absurd member List.not_mem_nil
  | cons highDigit lowDigit rest induction =>
      intro character member
      rcases List.mem_cons.mp member with rfl | member
      · exact mem_of_is_digit highDigit
      · rcases List.mem_cons.mp member with rfl | member
        · exact mem_of_is_digit lowDigit
        · exact induction character member

theorem encode_marked_chars (bytes : Bytes) :
    (encodeMarked bytes).toList = '0' :: 'x' :: encodeChars bytes := by
  simp [encodeMarked, encode]

theorem encode_marked_plain (bytes : Bytes) :
    ∀ character ∈ (encodeMarked bytes).toList, ¬Blank.isBlank character := by
  intro character member
  rw [encode_marked_chars] at member
  rcases List.mem_cons.mp member with rfl | member
  · decide
  · rcases List.mem_cons.mp member with rfl | member
    · decide
    · exact (digits_plain _ ((encode_chars_spell bytes).digits _ member)).2.2

end LedgerCourier.Hex
