import LedgerCourier.Account.Base58
import Mathlib.Data.List.TakeWhile
import Mathlib.Data.Nat.Digits.Lemmas

/-!
# Base-58 texts read back

The digits of a number are those of positional notation, whose laws are known. Zero bytes in
front do not count towards the number, so they are kept apart: what follows them begins with a
digit that is not zero, in the bytes as in the text, and neither reader can lose its place. So
each byte string has one text, and only that text is read as it.
-/

namespace LedgerCourier.Base58

set_option autoImplicit false

theorem low_digits_eq {base : Nat} (large : 1 < base) (number : Nat) :
    lowDigits base number = Nat.digits base number := by
  induction number using Nat.strongRecOn with
  | ind number induction =>
      rw [lowDigits]
      by_cases zero : number = 0
      · simp [zero]
      · rw [dif_neg (by omega), Nat.digits_def' large (Nat.pos_of_ne_zero zero)]
        rw [induction _ (Nat.div_lt_self (Nat.pos_of_ne_zero zero) large)]

theorem of_low_digits_eq (base : Nat) (digits : List Nat) :
    ofLowDigits base digits = Nat.ofDigits base digits := by
  induction digits with
  | nil => rfl
  | cons digit rest induction => rw [ofLowDigits, Nat.ofDigits_cons, induction]

theorem of_digits_leading (base count : Nat) (digits : List Nat) :
    Nat.ofDigits base (List.replicate count 0 ++ digits).reverse =
      Nat.ofDigits base digits.reverse := by
  rw [List.reverse_append, List.reverse_replicate, Nat.ofDigits_append_replicate_zero]

/-- A list is its leading zeros and a rest that does not begin with zero. -/
theorem leading_split {Digit : Type} [BEq Digit] [LawfulBEq Digit] (zero : Digit)
    (digits : List Digit) : ∃ count rest, digits = List.replicate count zero ++ rest ∧
      ∀ digit, rest.head? = some digit → digit ≠ zero := by
  refine ⟨(digits.takeWhile (· == zero)).length, digits.dropWhile (· == zero), ?_, ?_⟩
  · have front : digits.takeWhile (· == zero) =
        List.replicate (digits.takeWhile (· == zero)).length zero :=
      List.eq_replicate_iff.mpr ⟨rfl, fun digit member => by
        simpa using List.mem_takeWhile_imp member⟩
    rw [← front]
    exact List.takeWhile_append_dropWhile.symm
  · intro digit head same
    have kept := List.head?_dropWhile_not (· == zero) digits
    rw [head] at kept
    simp [same] at kept

theorem take_leading {Digit : Type} [BEq Digit] [LawfulBEq Digit] {zero : Digit}
    {rest : List Digit} (first : ∀ digit, rest.head? = some digit → digit ≠ zero) (count : Nat) :
    (List.replicate count zero ++ rest).takeWhile (· == zero) = List.replicate count zero := by
  rw [List.takeWhile_append_of_pos (by simp)]
  cases rest with
  | nil => simp
  | cons digit rest => simp [first digit rfl]

theorem digits_head_ne_zero (base number digit : Nat)
    (head : (Nat.digits base number).reverse.head? = some digit) : digit ≠ 0 := by
  rw [List.head?_reverse] at head
  have some : Nat.digits base number ≠ [] := by
    intro none
    simp [none] at head
  rw [List.getLast?_eq_getLast_of_ne_nil some] at head
  have positive : number ≠ 0 := by
    rintro rfl
    simp at some
  exact Option.some.inj head ▸ Nat.getLast_digit_ne_zero base positive

theorem digit_value_char : ∀ value < 58, digitValue? (digitChar value) = some value := by
  decide +kernel

theorem digit_char_value {character : Char} {value : Nat}
    (known : digitValue? character = some value) : value < 58 ∧ digitChar value = character := by
  simp only [digitValue?] at known
  split at known
  next small =>
    obtain rfl : alphabet.idxOf character = value := Option.some.inj known
    have inside : alphabet.idxOf character < alphabet.length := small
    refine ⟨small, ?_⟩
    rw [digitChar, List.getD_eq_getElem?_getD, List.getElem?_eq_getElem inside,
      Option.getD_some, List.getElem_idxOf]
  next => cases known

theorem map_digit_values_iff (text : List Char) (digits : List Nat) :
    text.mapM digitValue? = some digits ↔
      text = digits.map digitChar ∧ ∀ digit ∈ digits, digit < 58 := by
  induction text generalizing digits with
  | nil => cases digits <;> simp
  | cons character text induction =>
      rw [List.mapM_cons]
      constructor
      · intro read
        obtain ⟨value, known, read⟩ := Option.bind_eq_some_iff.mp read
        obtain ⟨values, others, same⟩ := Option.bind_eq_some_iff.mp read
        obtain rfl : value :: values = digits := Option.some.inj same
        obtain ⟨small, written⟩ := digit_char_value known
        obtain ⟨rfl, bounded⟩ := (induction values).mp others
        exact ⟨by rw [List.map_cons, written], List.forall_mem_cons.mpr ⟨small, bounded⟩⟩
      · rintro ⟨written, bounded⟩
        cases digits with
        | nil => cases written
        | cons value values =>
            obtain ⟨small, bounded⟩ := List.forall_mem_cons.mp bounded
            obtain ⟨rfl, rfl⟩ := List.cons.inj written
            simp [digit_value_char value small, (induction values).mpr ⟨rfl, bounded⟩]

theorem number_of_eq (bytes : Bytes) :
    numberOf bytes = Nat.ofDigits 256 (bytes.reverse.map UInt8.toNat) := of_low_digits_eq _ _

theorem number_of_leading (count : Nat) (rest : Bytes) :
    numberOf (List.replicate count 0 ++ rest) = numberOf rest := by
  rw [number_of_eq, number_of_eq, List.map_reverse, List.map_append, List.map_replicate,
    UInt8.toNat_zero, of_digits_leading, ← List.map_reverse]

theorem number_of_bytes (number : Nat) : numberOf (bytesOf number) = number := by
  have values : ((Nat.digits 256 number).map UInt8.ofNat).map UInt8.toNat =
      Nat.digits 256 number := by
    rw [List.map_map]
    refine (List.map_congr_left fun digit inside => ?_).trans (List.map_id _)
    exact UInt8.toNat_ofNat_of_lt' (Nat.digits_lt_base (by decide) inside)
  rw [number_of_eq, bytesOf, low_digits_eq (by decide), List.map_reverse, List.map_reverse,
    List.map_reverse, List.reverse_reverse, values, Nat.ofDigits_digits]

theorem bytes_of_number {bytes : Bytes}
    (first : ∀ byte, bytes.head? = some byte → byte ≠ 0) : bytesOf (numberOf bytes) = bytes := by
  have digits : Nat.digits 256 (Nat.ofDigits 256 (bytes.reverse.map UInt8.toNat)) =
      bytes.reverse.map UInt8.toNat := by
    apply Nat.digits_ofDigits 256 (by decide)
    · intro digit member
      obtain ⟨byte, -, rfl⟩ := List.mem_map.mp member
      exact byte.toNat_lt
    · intro some
      have last : (bytes.reverse.map UInt8.toNat).getLast? =
          bytes.head?.map UInt8.toNat := by
        rw [List.getLast?_map, List.getLast?_reverse]
      rw [List.getLast?_eq_getLast_of_ne_nil some] at last
      intro zero
      rw [zero] at last
      obtain ⟨byte, head, value⟩ := Option.map_eq_some_iff.mp last.symm
      exact first byte head (UInt8.toNat_inj.mp value)
  rw [number_of_eq, bytesOf, low_digits_eq (by decide), digits]
  simp [Function.comp_def]

theorem bytes_head_ne_zero (number : Nat) (byte : UInt8)
    (head : (bytesOf number).head? = some byte) : byte ≠ 0 := by
  rw [bytesOf, low_digits_eq (by decide), List.head?_map] at head
  obtain ⟨digit, first, rfl⟩ := Option.map_eq_some_iff.mp head
  have small := Nat.digits_lt_base (by decide)
    (List.mem_reverse.mp (List.mem_of_head? first))
  intro zero
  refine digits_head_ne_zero 256 number digit first ?_
  rw [← UInt8.toNat_ofNat_of_lt' small, zero]
  rfl

/-- How bytes are written whose leading zeros are counted. -/
theorem encode_leading (count : Nat) {rest : Bytes}
    (first : ∀ byte, rest.head? = some byte → byte ≠ 0) :
    encode (List.replicate count 0 ++ rest) =
      (List.replicate count 0 ++ (Nat.digits 58 (numberOf rest)).reverse).map digitChar := by
  simp only [encode, take_leading first, number_of_leading,
    low_digits_eq (show 1 < 58 by decide), List.map_append, List.map_replicate]
  rfl

theorem decode_leading (count : Nat) {rest : List Nat}
    (first : ∀ digit, rest.head? = some digit → digit ≠ 0) (small : ∀ digit ∈ rest, digit < 58) :
    decode ((List.replicate count 0 ++ rest).map digitChar) =
      some (List.replicate count 0 ++ bytesOf (Nat.ofDigits 58 rest.reverse)) := by
  have bounded : ∀ digit ∈ List.replicate count 0 ++ rest, digit < 58 := by
    intro digit member
    rcases List.mem_append.mp member with zero | member
    · rw [List.eq_of_mem_replicate zero]
      decide
    · exact small digit member
  simp only [decode, (map_digit_values_iff _ _).mpr ⟨rfl, bounded⟩]
  rw [take_leading first, of_low_digits_eq, of_digits_leading, List.map_replicate]

theorem decode_encode (bytes : Bytes) : decode (encode bytes) = some bytes := by
  obtain ⟨count, rest, rfl, first⟩ := leading_split (0 : UInt8) bytes
  have small : ∀ digit ∈ (Nat.digits 58 (numberOf rest)).reverse, digit < 58 :=
    fun digit member => Nat.digits_lt_base (by decide) (List.mem_reverse.mp member)
  rw [encode_leading count first, decode_leading count (digits_head_ne_zero 58 _) small,
    List.reverse_reverse, Nat.ofDigits_digits, bytes_of_number first]

theorem encode_of_decode {text : List Char} {bytes : Bytes} (read : decode text = some bytes) :
    encode bytes = text := by
  obtain ⟨digits, values⟩ : ∃ digits, text.mapM digitValue? = some digits := by
    cases values : text.mapM digitValue? with
    | none => simp [decode, values] at read
    | some digits => exact ⟨digits, rfl⟩
  obtain ⟨rfl, small⟩ := (map_digit_values_iff text digits).mp values
  obtain ⟨count, rest, rfl, first⟩ := leading_split (0 : Nat) digits
  have bounded : ∀ digit ∈ rest, digit < 58 :=
    fun digit inside => small digit (List.mem_append_right _ inside)
  rw [decode_leading count first bounded] at read
  obtain rfl := Option.some.inj read
  -- The digits of the number are the ones that were read, since none of them is a leading zero.
  have same : Nat.digits 58 (Nat.ofDigits 58 rest.reverse) = rest.reverse := by
    apply Nat.digits_ofDigits 58 (by decide)
    · exact fun digit inside => bounded digit (List.mem_reverse.mp inside)
    · intro some
      apply first
      rw [← List.getLast?_reverse, List.getLast?_eq_getLast_of_ne_nil some]
  rw [encode_leading count (bytes_head_ne_zero _), number_of_bytes, same, List.reverse_reverse]

theorem decode_iff (text : List Char) (bytes : Bytes) :
    decode text = some bytes ↔ text = encode bytes :=
  ⟨fun read => (encode_of_decode read).symm, fun written => written ▸ decode_encode bytes⟩

theorem mem_alphabet_of_encode (bytes : Bytes) :
    ∀ character ∈ encode bytes, character ∈ alphabet := by
  intro character member
  have listed : ∀ value < 58, digitChar value ∈ alphabet := by decide +kernel
  rcases List.mem_append.mp member with zero | member
  · obtain ⟨-, -, rfl⟩ := List.mem_map.mp zero
    decide
  · obtain ⟨digit, inside, rfl⟩ := List.mem_map.mp member
    rw [low_digits_eq (by decide)] at inside
    exact listed digit (Nat.digits_lt_base (by decide) (List.mem_reverse.mp inside))

end LedgerCourier.Base58
