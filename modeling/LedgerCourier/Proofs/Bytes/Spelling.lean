import LedgerCourier.Proofs.Bytes.Hex

/-!
# Which texts spell bytes, and what is said against the others

A text spells bytes if it has an even number of characters and all of them are digits, and the
bytes it spells are those whose printed digits it repeats in any mix of case. Against any other
text there is one objection. It counts bytes and not characters: their number, if it is odd, and
otherwise the first of them that is no digit.
-/

namespace LedgerCourier.Hex

set_option autoImplicit false

theorem is_digit_of_mem {character : Char} (member : character ∈ lowerDigits ++ upperDigits) :
    ∃ value, IsDigitOf value character := by
  rcases List.mem_append.mp member with lower | upper
  · obtain ⟨value, found⟩ := List.mem_iff_getElem?.mp lower
    exact ⟨value, Or.inl found⟩
  · obtain ⟨value, found⟩ := List.mem_iff_getElem?.mp upper
    exact ⟨value, Or.inr found⟩

theorem Spells.length {text : List Char} {bytes : Bytes} (spelled : Spells text bytes) :
    text.length = 2 * bytes.length := by
  induction spelled with
  | nil => rfl
  | cons highDigit lowDigit rest induction =>
      simp only [List.length_cons]
      omega

theorem Spells.unmarked {text : List Char} {bytes : Bytes} (spelled : Spells text bytes) :
    ¬['0', 'x'] <+: text := by
  rintro ⟨rest, rfl⟩
  exact (digits_plain 'x' (spelled.digits 'x' (by simp))).2.1 rfl

theorem spells_some_iff (text : List Char) :
    (∃ bytes, Spells text bytes) ↔
      text.length % 2 = 0 ∧ ∀ character ∈ text, character ∈ lowerDigits ++ upperDigits := by
  constructor
  · rintro ⟨bytes, spelled⟩
    have size := spelled.length
    exact ⟨by omega, spelled.digits⟩
  · rintro ⟨even, known⟩
    induction text using List.twoStepInduction with
    | nil => exact ⟨[], .nil⟩
    | singleton character => simp at even
    | cons_cons high low rest induction =>
        have fewer : rest.length % 2 = 0 := by
          simp only [List.length_cons] at even
          omega
        obtain ⟨bytes, spelled⟩ := induction fewer
          fun character member => known character (by simp [member])
        obtain ⟨highValue, highDigit⟩ := is_digit_of_mem (known high (by simp))
        obtain ⟨lowValue, lowDigit⟩ := is_digit_of_mem (known low (by simp))
        obtain ⟨highHalf, lowHalf⟩ :=
          byte_of_halves (value_lt_of_is_digit highDigit) (value_lt_of_is_digit lowDigit)
        exact ⟨_, .cons (highHalf.symm ▸ highDigit) (lowHalf.symm ▸ lowDigit) spelled⟩

theorem ascii_lower_digit : ∀ code < 128, ∀ value < 16,
    (Char.ofNat code).toLower = digitChar value ↔ IsDigitOf value (Char.ofNat code) := by
  decide +kernel

theorem lower_digit_iff {value : Nat} (small : value < 16) (character : Char) :
    character.toLower = digitChar value ↔ IsDigitOf value character := by
  by_cases ascii : character.toNat < 128
  · have listed := ascii_lower_digit character.toNat ascii value small
    rwa [Char.ofNat_toNat] at listed
  · have notUpper : ¬(character.val ≥ 'A'.val ∧ character.val ≤ 'Z'.val) := by
      rintro ⟨-, upper⟩
      have bound : character.toNat ≤ 90 := upper
      omega
    have same : character.toLower = character := dif_neg notUpper
    have printed : IsDigitOf value (digitChar value) := by
      have each : ∀ value < 16, IsDigitOf value (digitChar value) := by decide
      exact each value small
    rw [same]
    constructor
    · rintro rfl
      exact printed
    · intro digit
      exact absurd (digits_plain _ (mem_of_is_digit digit)).1 ascii

/-- Bytes are spelled by what is printed for them, in any mix of case, and by nothing else. -/
theorem spells_iff_lower (text : List Char) (bytes : Bytes) :
    Spells text bytes ↔ text.map Char.toLower = encodeChars bytes := by
  constructor
  · intro spelled
    induction spelled with
    | nil => rfl
    | cons highDigit lowDigit rest induction =>
        rw [List.map_cons, List.map_cons, induction,
          (lower_digit_iff (value_lt_of_is_digit highDigit) _).mpr highDigit,
          (lower_digit_iff (value_lt_of_is_digit lowDigit) _).mpr lowDigit]
        rfl
  · intro same
    induction bytes generalizing text with
    | nil =>
        obtain rfl := List.map_eq_nil_iff.mp same
        exact .nil
    | cons byte bytes induction =>
        have bound := byte.toNat_lt
        have printed : text.map Char.toLower = digitChar (byte.toNat / 16) ::
            digitChar (byte.toNat % 16) :: encodeChars bytes := same
        obtain ⟨high, others, rfl, highSame, printed⟩ := List.map_eq_cons_iff.mp printed
        obtain ⟨low, rest, rfl, lowSame, printed⟩ := List.map_eq_cons_iff.mp printed
        exact .cons ((lower_digit_iff (by omega) _).mp highSame)
          ((lower_digit_iff (by omega) _).mp lowSame) (induction rest printed)

def IsDigitByte (byte : UInt8) : Prop := Char.ofNat byte.toNat ∈ lowerDigits ++ upperDigits

instance (byte : UInt8) : Decidable (IsDigitByte byte) :=
  inferInstanceAs (Decidable (_ ∈ _))

/-- The first byte that encodes no digit, and how many bytes stand before it. -/
structure FirstStranger (bytes : Bytes) (stranger : UInt8) (place : Nat) : Prop where
  found : bytes[place]? = some stranger
  unknown : ¬IsDigitByte stranger
  earlier : ∀ byte ∈ bytes.take place, IsDigitByte byte

/-- What is said against a text that spells nothing. -/
inductive Objects (text : List Char) : Flaw → Prop where
  | odd (odd : (textBytes text).length % 2 = 1) : Objects text .oddLength
  | stranger {byte : UInt8} {place : Nat} (even : (textBytes text).length % 2 = 0)
      (first : FirstStranger (textBytes text) byte place) : Objects text (.badDigit byte place)

theorem digit_value_none_iff (byte : UInt8) : digitValue? byte = none ↔ ¬IsDigitByte byte := by
  rw [Option.eq_none_iff_forall_ne_some, IsDigitByte]
  constructor
  · intro unread member
    obtain ⟨value, digit⟩ := is_digit_of_mem member
    exact unread value ((digit_value_iff byte value).mpr digit)
  · intro unknown value known
    exact unknown (mem_of_is_digit ((digit_value_iff byte value).mp known))

theorem is_digit_byte_of_value {byte : UInt8} {value : Nat}
    (known : digitValue? byte = some value) : IsDigitByte byte :=
  mem_of_is_digit ((digit_value_iff byte value).mp known)

theorem FirstStranger.nil {stranger : UInt8} {place : Nat} :
    ¬FirstStranger [] stranger place := fun first => nomatch first.found

theorem first_stranger_cons_unknown {head : UInt8} (unknown : ¬IsDigitByte head) (rest : Bytes)
    (stranger : UInt8) (place : Nat) :
    FirstStranger (head :: rest) stranger place ↔ stranger = head ∧ place = 0 := by
  constructor
  · rintro ⟨found, -, earlier⟩
    cases place with
    | zero => exact ⟨(Option.some.inj found).symm, rfl⟩
    | succ place => exact absurd (earlier head (by simp)) unknown
  · rintro ⟨rfl, rfl⟩
    exact ⟨rfl, unknown, by simp⟩

theorem first_stranger_cons_known {head : UInt8} (known : IsDigitByte head) (rest : Bytes)
    (stranger : UInt8) (place : Nat) :
    FirstStranger (head :: rest) stranger place ↔
      ∃ before, place = before + 1 ∧ FirstStranger rest stranger before := by
  constructor
  · rintro ⟨found, unknown, earlier⟩
    cases place with
    | zero =>
        obtain rfl := Option.some.inj found
        exact absurd known unknown
    | succ before =>
        exact ⟨before, rfl, found, unknown, fun byte member => earlier byte (by simp [member])⟩
  · rintro ⟨before, rfl, found, unknown, earlier⟩
    exact ⟨found, unknown, by simpa [known] using earlier⟩

theorem first_stranger_pair {high low : UInt8} (knownHigh : IsDigitByte high)
    (knownLow : IsDigitByte low) (rest : Bytes) (offset : Nat) (flaw : Flaw) :
    (∃ byte place, FirstStranger (high :: low :: rest) byte place ∧
      flaw = .badDigit byte (offset + place)) ↔
    ∃ byte place, FirstStranger rest byte place ∧
      flaw = .badDigit byte (offset + 2 + place) := by
  simp only [first_stranger_cons_known knownHigh, first_stranger_cons_known knownLow]
  constructor
  · rintro ⟨byte, _, ⟨_, rfl, place, rfl, first⟩, rfl⟩
    exact ⟨byte, place, first, congrArg (Flaw.badDigit byte) (by omega)⟩
  · rintro ⟨byte, place, first, rfl⟩
    exact ⟨byte, place + 2, ⟨place + 1, rfl, place, rfl, first⟩,
      congrArg (Flaw.badDigit byte) (by omega)⟩

/-- The pass over an even number of bytes stops at the first that is no digit. Two bytes are taken
at a time, so the stranger is the high digit, the low digit or one of those behind them. -/
theorem decode_digits_refused_iff (offset : Nat) (digits : Bytes) (even : digits.length % 2 = 0)
    (flaw : Flaw) :
    decodeDigits offset digits = .error flaw ↔
      ∃ byte place, FirstStranger digits byte place ∧ flaw = .badDigit byte (offset + place) := by
  fun_induction decodeDigits offset digits with
  | case1 => simp [FirstStranger.nil]
  | case2 => simp at even
  | case3 offset high low rest unread =>
      have unknown := (digit_value_none_iff high).mp unread
      simp [first_stranger_cons_unknown unknown, eq_comm]
  | case4 offset high low rest highValue read unread =>
      have known := is_digit_byte_of_value read
      have unknown := (digit_value_none_iff low).mp unread
      simp [first_stranger_cons_known known, first_stranger_cons_unknown unknown, eq_comm]
  | case5 offset high low rest highValue readHigh lowValue readLow bytes decoded induction =>
      have behind := first_stranger_pair (is_digit_byte_of_value readHigh)
        (is_digit_byte_of_value readLow) rest offset flaw
      have fewer : rest.length % 2 = 0 := by
        simp only [List.length_cons] at even
        omega
      rw [behind, ← induction fewer, decoded]
      simp
  | case6 offset high low rest highValue readHigh lowValue readLow other decoded induction =>
      have behind := first_stranger_pair (is_digit_byte_of_value readHigh)
        (is_digit_byte_of_value readLow) rest offset flaw
      have fewer : rest.length % 2 = 0 := by
        simp only [List.length_cons] at even
        omega
      rw [behind, ← induction fewer, decoded]

theorem decode_bytes_refused_iff (text : List Char) (flaw : Flaw) :
    decodeBytes (textBytes text) = .error flaw ↔ Objects text flaw := by
  rw [decodeBytes]
  split
  next odd =>
    constructor
    · intro refused
      cases refused
      exact .odd odd
    · intro objects
      cases objects with
      | odd => rfl
      | stranger even first => omega
  next notOdd =>
    have even : (textBytes text).length % 2 = 0 := by omega
    rw [decode_digits_refused_iff 0 _ even]
    constructor
    · rintro ⟨byte, place, first, rfl⟩
      rw [Nat.zero_add]
      exact .stranger even first
    · intro objects
      cases objects with
      | odd odd => exact absurd odd notOdd
      | stranger even first => exact ⟨_, _, first, by rw [Nat.zero_add]⟩

end LedgerCourier.Hex
