import LedgerCourier.Bytes.Compact
import Mathlib.Algebra.Order.Ring.Nat
import Mathlib.Tactic.NormNum

/-!
# Numbers in compact form read back

Three of the four forms are one little-endian word whose two low bits name the form; the fourth
puts a count in front of the word. A number written in the shortest form that holds it is read
back from any input that begins with it, and what follows is left as it is.
-/

namespace LedgerCourier.Compact

set_option autoImplicit false

theorem byte_count_zero : byteCount 0 = 0 := by
  rw [byteCount]
  rfl

theorem byte_count_positive {number : Nat} (positive : number ≠ 0) :
    byteCount number = 1 + byteCount (number / 256) := by
  rw [byteCount, dif_neg positive]

theorem number_lt_byte_count (number : Nat) : number < 256 ^ byteCount number := by
  induction number using Nat.strongRecOn with
  | ind number induction =>
      by_cases zero : number = 0
      · subst zero
        simp [byte_count_zero]
      · have smaller := induction (number / 256) (by omega)
        rw [byte_count_positive zero, Nat.pow_add]
        omega

theorem byte_count_le {number width : Nat} (fits : number < 256 ^ width) :
    byteCount number ≤ width := by
  induction width generalizing number with
  | zero =>
      have zero : number = 0 := by simpa using fits
      simp [zero, byte_count_zero]
  | succ width induction =>
      by_cases zero : number = 0
      · simp [zero, byte_count_zero]
      · rw [Nat.pow_succ] at fits
        have high : number / 256 < 256 ^ width := by omega
        have few := induction high
        rw [byte_count_positive zero]
        omega

/-- How many bytes the fourth form can announce at most: four, and what six bits add to it. -/
def widest : Nat := 67

theorem four_le_byte_count {number : Nat} (large : 1073741824 ≤ number) :
    4 ≤ byteCount number := by
  by_contra short
  have fits := number_lt_byte_count number
  have bound : 256 ^ byteCount number ≤ 256 ^ 3 := Nat.pow_le_pow_right (by decide) (by omega)
  omega

theorem decode_word {number form width : Nat} (suffix : Bytes)
    (known : (form = 0 ∧ width = 1) ∨ (form = 1 ∧ width = 2 ∧ 64 ≤ number) ∨
      (form = 2 ∧ width = 4 ∧ 16384 ≤ number))
    (fits : number * 4 + form < 256 ^ width) :
    decode (littleEndian width (number * 4 + form) ++ suffix) = some (number, suffix) := by
  have read : readFixed width (littleEndian width (number * 4 + form) ++ suffix) =
      some (littleEndian width (number * 4 + form), suffix) :=
    read_fixed_append suffix (length_little_endian width _)
  have value : ofLittleEndian (littleEndian width (number * 4 + form)) = number * 4 + form :=
    of_little_endian_encode width _ fits
  have positive : 0 < width := by omega
  obtain ⟨rest, word⟩ : ∃ rest, littleEndian width (number * 4 + form) =
      UInt8.ofNat ((number * 4 + form) % 256) :: rest := by
    cases width with
    | zero => omega
    | succ width => exact ⟨_, rfl⟩
  have low : (UInt8.ofNat ((number * 4 + form) % 256)).toNat % 4 = form := by
    rw [UInt8.toNat_ofNat']
    omega
  have counted : form ≠ 3 := by omega
  have announced : (if form = 0 then 1 else if form = 1 then 2 else 4) = width := by
    rcases known with ⟨rfl, rfl⟩ | ⟨rfl, rfl, -⟩ | ⟨rfl, rfl, -⟩ <;> rfl
  have quotient : (number * 4 + form) / 4 = number := by omega
  rw [word] at read value ⊢
  rw [List.cons_append] at read ⊢
  simp only [decode, low, counted, if_false, announced, read, value, quotient]
  rw [if_neg (by omega), if_neg (by omega)]

theorem decode_counted {number : Nat} (suffix : Bytes) (large : 1073741824 ≤ number)
    (fits : number < 256 ^ widest) :
    decode (UInt8.ofNat ((byteCount number - 4) * 4 + 3) ::
      littleEndian (byteCount number) number ++ suffix) = some (number, suffix) := by
  have least := four_le_byte_count large
  have most : byteCount number ≤ widest := byte_count_le fits
  have first : (UInt8.ofNat ((byteCount number - 4) * 4 + 3)).toNat =
      (byteCount number - 4) * 4 + 3 := by
    rw [UInt8.toNat_ofNat']
    unfold widest at most
    omega
  have form : ((byteCount number - 4) * 4 + 3) % 4 = 3 := by omega
  have width : ((byteCount number - 4) * 4 + 3) / 4 + 4 = byteCount number := by omega
  have read := read_fixed_append suffix (length_little_endian (byteCount number) number)
  have value := of_little_endian_encode (byteCount number) number (number_lt_byte_count number)
  simp only [decode, List.cons_append, first, form, width, read, value, large, if_true, and_self]

/-- What the compact form of a number becomes is the number, whatever follows. -/
theorem decode_encode {number : Nat} (fits : number < 256 ^ widest) (suffix : Bytes) :
    decode (encode number ++ suffix) = some (number, suffix) := by
  unfold encode
  split
  next small => exact decode_word suffix (Or.inl ⟨rfl, rfl⟩) (by omega)
  next notSmall =>
    split
    next small =>
      exact decode_word suffix (Or.inr (Or.inl ⟨rfl, rfl, by omega⟩)) (by omega)
    next notSmall =>
      split
      next small =>
        exact decode_word suffix (Or.inr (Or.inr ⟨rfl, rfl, by omega⟩)) (by omega)
      next notSmall => exact decode_counted suffix (by omega) fits

theorem decode_bytes_encode {bytes : Bytes} (fits : bytes.length < 256 ^ widest)
    (suffix : Bytes) : decodeBytes (encodeBytes bytes ++ suffix) = some (bytes, suffix) := by
  rw [encodeBytes, List.append_assoc, decodeBytes, decode_encode fits]
  exact read_fixed_append suffix rfl

end LedgerCourier.Compact
