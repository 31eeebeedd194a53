import LedgerCourier.Bytes.Hex
import LedgerCourier.Text.Utf8

/-!
# Bytes read as text

The reader takes one character after another: a first byte, and then as many further bytes as the
first asks for. The bytes it takes stand in a table of their own here, which is also the table of
the encodings of all characters. So bytes are read as a text exactly if they encode it.
-/

namespace LedgerCourier.Utf8

set_option autoImplicit false

def IsTail (byte : UInt8) : Prop := 0x80 ≤ byte.toNat ∧ byte.toNat ≤ 0xbf

/-- The bytes of one character and its number. Behind four of the first bytes the second is bounded
more narrowly, which keeps out encodings that are longer than needed, the surrogates, and the
numbers beyond the last character. -/
inductive IsCharacter : Bytes → Nat → Prop where
  | one {first : UInt8} (lead : first.toNat < 0x80) : IsCharacter [first] first.toNat
  | two {first second : UInt8} (lead : 0xc2 ≤ first.toNat ∧ first.toNat < 0xe0)
      (tail : IsTail second) :
      IsCharacter [first, second] (first.toNat % 32 * 64 + second.toNat % 64)
  | three {first second third : UInt8} (lead : 0xe0 ≤ first.toNat ∧ first.toNat < 0xf0)
      (tail : IsTail second) (low : first.toNat = 0xe0 → 0xa0 ≤ second.toNat)
      (high : first.toNat = 0xed → second.toNat ≤ 0x9f) (last : IsTail third) :
      IsCharacter [first, second, third]
        ((first.toNat % 16 * 64 + second.toNat % 64) * 64 + third.toNat % 64)
  | four {first second third fourth : UInt8} (lead : 0xf0 ≤ first.toNat ∧ first.toNat < 0xf5)
      (tail : IsTail second) (low : first.toNat = 0xf0 → 0x90 ≤ second.toNat)
      (high : first.toNat = 0xf4 → second.toNat ≤ 0x8f) (next : IsTail third)
      (last : IsTail fourth) :
      IsCharacter [first, second, third, fourth]
        (((first.toNat % 8 * 64 + second.toNat % 64) * 64 + third.toNat % 64) * 64 +
          fourth.toNat % 64)

theorem encode_eq {character : Char} {code : Nat} (number : character.toNat = code) :
    String.utf8EncodeChar character =
      if code ≤ 0x7f then [UInt8.ofNat code]
      else if code ≤ 0x7ff then
        [UInt8.ofNat (code / 64 % 0x20 + 0xc0), UInt8.ofNat (code % 0x40 + 0x80)]
      else if code ≤ 0xffff then
        [UInt8.ofNat (code / 4096 % 0x10 + 0xe0), UInt8.ofNat (code / 64 % 0x40 + 0x80),
          UInt8.ofNat (code % 0x40 + 0x80)]
      else
        [UInt8.ofNat (code / 262144 % 0x08 + 0xf0), UInt8.ofNat (code / 4096 % 0x40 + 0x80),
          UInt8.ofNat (code / 64 % 0x40 + 0x80), UInt8.ofNat (code % 0x40 + 0x80)] := by
  rw [← number]
  rfl

theorem of_nat_of_eq (byte : UInt8) {number : Nat} (same : number = byte.toNat) :
    UInt8.ofNat number = byte := by
  rw [same, UInt8.ofNat_toNat]

theorem byte_of_number (number : Nat) (small : number < 256) :
    ∃ byte, UInt8.ofNat number = byte ∧ byte.toNat = number :=
  ⟨_, rfl, by rw [UInt8.toNat_ofNat', Nat.mod_eq_of_lt (by omega)]⟩

theorem char_of_code (code : Nat) (valid : code < 0xd800 ∨ 0xdfff < code ∧ code < 0x110000) :
    ∃ character : Char, character.toNat = code :=
  ⟨Char.ofNatAux code valid, rfl⟩

theorem encoding_of_is_character {bytes : Bytes} {code : Nat} (taken : IsCharacter bytes code) :
    ∃ character : Char, character.toNat = code ∧ bytes = String.utf8EncodeChar character := by
  cases taken with
  | @one first lead =>
      obtain ⟨character, number⟩ := char_of_code first.toNat (by omega)
      refine ⟨character, number, ?_⟩
      rw [encode_eq number, if_pos (by omega), UInt8.ofNat_toNat]
  | @two first second lead tail =>
      unfold IsTail at tail
      -- The number is named before it is taken apart, so that its quotients are small terms.
      generalize same : first.toNat % 32 * 64 + second.toNat % 64 = code
      obtain ⟨character, number⟩ := char_of_code code (by omega)
      refine ⟨character, number, ?_⟩
      rw [encode_eq number, if_neg (by omega), if_pos (by omega),
        of_nat_of_eq first (by omega), of_nat_of_eq second (by omega)]
  | @three first second third lead tail low high last =>
      unfold IsTail at tail last
      generalize same :
        (first.toNat % 16 * 64 + second.toNat % 64) * 64 + third.toNat % 64 = code
      obtain ⟨character, number⟩ := char_of_code code (by omega)
      refine ⟨character, number, ?_⟩
      rw [encode_eq number, if_neg (by omega), if_neg (by omega), if_pos (by omega),
        of_nat_of_eq first (by omega), of_nat_of_eq second (by omega),
        of_nat_of_eq third (by omega)]
  | @four first second third fourth lead tail low high next last =>
      unfold IsTail at tail next last
      generalize same : ((first.toNat % 8 * 64 + second.toNat % 64) * 64 + third.toNat % 64) * 64 +
        fourth.toNat % 64 = code
      obtain ⟨character, number⟩ := char_of_code code (by omega)
      refine ⟨character, number, ?_⟩
      rw [encode_eq number, if_neg (by omega), if_neg (by omega), if_neg (by omega),
        of_nat_of_eq first (by omega), of_nat_of_eq second (by omega),
        of_nat_of_eq third (by omega), of_nat_of_eq fourth (by omega)]

theorem is_character_of_encoding (character : Char) :
    IsCharacter (String.utf8EncodeChar character) character.toNat := by
  have valid : character.toNat < 0xd800 ∨ 0xdfff < character.toNat ∧ character.toNat < 0x110000 :=
    character.valid
  generalize number : character.toNat = code at valid
  rw [encode_eq number]
  split
  next one =>
    obtain ⟨first, written, lead⟩ := byte_of_number code (by omega)
    rw [written, ← lead]
    exact .one (by omega)
  next =>
    split
    next two =>
      obtain ⟨first, written, lead⟩ := byte_of_number (code / 64 % 0x20 + 0xc0) (by omega)
      obtain ⟨second, writtenSecond, tail⟩ := byte_of_number (code % 0x40 + 0x80) (by omega)
      have same : code = first.toNat % 32 * 64 + second.toNat % 64 := by omega
      rw [written, writtenSecond, same]
      exact .two (by omega) (by unfold IsTail; omega)
    next =>
      split
      next three =>
        obtain ⟨first, written, lead⟩ := byte_of_number (code / 4096 % 0x10 + 0xe0) (by omega)
        obtain ⟨second, writtenSecond, tail⟩ := byte_of_number (code / 64 % 0x40 + 0x80) (by omega)
        obtain ⟨third, writtenThird, last⟩ := byte_of_number (code % 0x40 + 0x80) (by omega)
        have same : code =
            (first.toNat % 16 * 64 + second.toNat % 64) * 64 + third.toNat % 64 := by omega
        rw [written, writtenSecond, writtenThird, same]
        exact .three (by omega) (by unfold IsTail; omega) (by omega) (by omega)
          (by unfold IsTail; omega)
      next four =>
        obtain ⟨first, written, lead⟩ := byte_of_number (code / 262144 % 0x08 + 0xf0) (by omega)
        obtain ⟨second, writtenSecond, tail⟩ :=
          byte_of_number (code / 4096 % 0x40 + 0x80) (by omega)
        obtain ⟨third, writtenThird, next⟩ := byte_of_number (code / 64 % 0x40 + 0x80) (by omega)
        obtain ⟨fourth, writtenFourth, last⟩ := byte_of_number (code % 0x40 + 0x80) (by omega)
        have same : code = ((first.toNat % 8 * 64 + second.toNat % 64) * 64 +
            third.toNat % 64) * 64 + fourth.toNat % 64 := by omega
        rw [written, writtenSecond, writtenThird, writtenFourth, same]
        exact .four (by omega) (by unfold IsTail; omega) (by omega) (by omega)
          (by unfold IsTail; omega) (by unfold IsTail; omega)

theorem demands_of_code : ∀ code < 256, demands (UInt8.ofNat code) =
    if code < 0x80 then some (0, 0, 0)
    else if 0xc2 ≤ code ∧ code < 0xe0 then some (1, 0x80, 0xbf)
    else if 0xe0 ≤ code ∧ code < 0xf0 then
      some (2, if code = 0xe0 then 0xa0 else 0x80, if code = 0xed then 0x9f else 0xbf)
    else if 0xf0 ≤ code ∧ code < 0xf5 then
      some (3, if code = 0xf0 then 0x90 else 0x80, if code = 0xf4 then 0x8f else 0xbf)
    else none := by
  decide +kernel

theorem read_tail_zero_iff (offset taken : Nat) (range : UInt8 × UInt8) (code result : Nat)
    (input rest : Bytes) :
    readTail offset 0 taken range code input = .ok (result, rest) ↔
      code = result ∧ input = rest := by
  simp [readTail]

theorem read_tail_succ_iff (offset missing taken : Nat) (low high : UInt8) (code result : Nat)
    (input rest : Bytes) :
    readTail offset (missing + 1) taken (low, high) code input = .ok (result, rest) ↔
      ∃ byte behind, input = byte :: behind ∧ (low.toNat ≤ byte.toNat ∧ byte.toNat ≤ high.toNat) ∧
        readTail offset missing (taken + 1) (0x80, 0xbf) (code * 64 + byte.toNat % 64) behind =
          .ok (result, rest) := by
  cases input with
  | nil => simp [readTail]
  | cons byte behind =>
      simp only [readTail, Bool.and_eq_true, decide_eq_true_eq, UInt8.le_iff_toNat_le]
      constructor
      · intro read
        split at read
        next inside => exact ⟨byte, behind, rfl, inside, read⟩
        next => cases read
      · rintro ⟨_, _, same, inside, read⟩
        cases same
        rwa [if_pos inside]

/-- The range of a second byte that is bounded more narrowly in some cases. -/
theorem inside_iff (lowest highest byte : UInt8) (raised lowered : Prop) [Decidable raised]
    [Decidable lowered] (above : 0x80 ≤ lowest.toNat) (below : highest.toNat ≤ 0xbf) :
    ((if raised then lowest else 0x80).toNat ≤ byte.toNat ∧
      byte.toNat ≤ (if lowered then highest else 0xbf).toNat) ↔
      IsTail byte ∧ (raised → lowest.toNat ≤ byte.toNat) ∧
        (lowered → byte.toNat ≤ highest.toNat) := by
  by_cases raise : raised <;> by_cases lower : lowered <;> simp [raise, lower, IsTail] <;> omega

def Takes (offset : Nat) (first : UInt8) (rest : Bytes) (code : Nat) (suffix : Bytes) : Prop :=
  ∃ more low high, demands first = some (more, low, high) ∧
    readTail offset more 1 (low, high) (leadBits first more) rest = .ok (code, suffix)

theorem is_character_of_takes {offset code : Nat} {first : UInt8} {rest suffix : Bytes}
    (taken : Takes offset first rest code suffix) :
    ∃ bytes, first :: rest = bytes ++ suffix ∧ IsCharacter bytes code := by
  obtain ⟨more, low, high, asked, read⟩ := taken
  have listed := demands_of_code first.toNat first.toNat_lt
  rw [UInt8.ofNat_toNat, asked] at listed
  split at listed
  next lead =>
    cases listed
    obtain ⟨rfl, rfl⟩ := (read_tail_zero_iff ..).mp read
    exact ⟨[first], rfl, .one lead⟩
  next =>
    split at listed
    next lead =>
      cases listed
      obtain ⟨second, behind, rfl, tail, read⟩ := (read_tail_succ_iff ..).mp read
      obtain ⟨rfl, rfl⟩ := (read_tail_zero_iff ..).mp read
      exact ⟨[first, second], rfl, .two lead tail⟩
    next =>
      split at listed
      next lead =>
        cases listed
        obtain ⟨second, behind, rfl, inside, read⟩ := (read_tail_succ_iff ..).mp read
        obtain ⟨third, behind, rfl, last, read⟩ := (read_tail_succ_iff ..).mp read
        obtain ⟨rfl, rfl⟩ := (read_tail_zero_iff ..).mp read
        obtain ⟨tail, low, high⟩ := (inside_iff _ _ _ _ _ (by decide) (by decide)).mp inside
        exact ⟨[first, second, third], rfl, .three lead tail low high last⟩
      next =>
        split at listed
        next lead =>
          cases listed
          obtain ⟨second, behind, rfl, inside, read⟩ := (read_tail_succ_iff ..).mp read
          obtain ⟨third, behind, rfl, next, read⟩ := (read_tail_succ_iff ..).mp read
          obtain ⟨fourth, behind, rfl, last, read⟩ := (read_tail_succ_iff ..).mp read
          obtain ⟨rfl, rfl⟩ := (read_tail_zero_iff ..).mp read
          obtain ⟨tail, low, high⟩ := (inside_iff _ _ _ _ _ (by decide) (by decide)).mp inside
          exact ⟨[first, second, third, fourth], rfl, .four lead tail low high next last⟩
        next => cases listed

theorem takes_of_is_character {bytes : Bytes} {code : Nat} (taken : IsCharacter bytes code)
    (offset : Nat) (suffix : Bytes) :
    ∃ first rest, bytes ++ suffix = first :: rest ∧ Takes offset first rest code suffix := by
  cases taken with
  | @one first lead =>
      have listed := demands_of_code first.toNat first.toNat_lt
      rw [UInt8.ofNat_toNat, if_pos lead] at listed
      exact ⟨first, suffix, rfl, _, _, _, listed, rfl⟩
  | @two first second lead tail =>
      have listed := demands_of_code first.toNat first.toNat_lt
      rw [UInt8.ofNat_toNat, if_neg (by omega), if_pos lead] at listed
      refine ⟨first, second :: suffix, rfl, _, _, _, listed, ?_⟩
      exact (read_tail_succ_iff ..).mpr ⟨second, _, rfl, tail, rfl⟩
  | @three first second third lead tail low high last =>
      have listed := demands_of_code first.toNat first.toNat_lt
      rw [UInt8.ofNat_toNat, if_neg (by omega), if_neg (by omega), if_pos lead] at listed
      refine ⟨first, second :: third :: suffix, rfl, _, _, _, listed, ?_⟩
      have inside := (inside_iff 0xa0 0x9f second (first.toNat = 0xe0) (first.toNat = 0xed)
        (by decide) (by decide)).mpr ⟨tail, low, high⟩
      refine (read_tail_succ_iff ..).mpr ⟨second, _, rfl, inside, ?_⟩
      exact (read_tail_succ_iff ..).mpr ⟨third, _, rfl, last, rfl⟩
  | @four first second third fourth lead tail low high next last =>
      have listed := demands_of_code first.toNat first.toNat_lt
      rw [UInt8.ofNat_toNat, if_neg (by omega), if_neg (by omega), if_neg (by omega),
        if_pos lead] at listed
      refine ⟨first, second :: third :: fourth :: suffix, rfl, _, _, _, listed, ?_⟩
      have inside := (inside_iff 0x90 0x8f second (first.toNat = 0xf0) (first.toNat = 0xf4)
        (by decide) (by decide)).mpr ⟨tail, low, high⟩
      refine (read_tail_succ_iff ..).mpr ⟨second, _, rfl, inside, ?_⟩
      refine (read_tail_succ_iff ..).mpr ⟨third, _, rfl, next, ?_⟩
      exact (read_tail_succ_iff ..).mpr ⟨fourth, _, rfl, last, rfl⟩

theorem takes_iff (offset : Nat) (first : UInt8) (rest : Bytes) (code : Nat) (suffix : Bytes) :
    Takes offset first rest code suffix ↔ ∃ character : Char, character.toNat = code ∧
      first :: rest = String.utf8EncodeChar character ++ suffix := by
  constructor
  · intro taken
    obtain ⟨bytes, same, table⟩ := is_character_of_takes taken
    obtain ⟨character, number, rfl⟩ := encoding_of_is_character table
    exact ⟨character, number, same⟩
  · rintro ⟨character, rfl, same⟩
    obtain ⟨head, behind, split, taken⟩ :=
      takes_of_is_character (is_character_of_encoding character) offset suffix
    obtain ⟨rfl, rfl⟩ := List.cons.inj (same.trans split)
    exact taken

theorem decode_from_cons_iff (offset : Nat) (first : UInt8) (rest : Bytes) (text : List Char) :
    decodeFrom offset (first :: rest) = .ok text ↔
      ∃ more low high code suffix others, demands first = some (more, low, high) ∧
        readTail offset more 1 (low, high) (leadBits first more) rest = .ok (code, suffix) ∧
        decodeFrom (offset + more + 1) suffix = .ok others ∧ text = Char.ofNat code :: others := by
  rw [decodeFrom]
  constructor
  · intro decoded
    split at decoded
    next => cases decoded
    next more low high asked =>
      split at decoded
      next => cases decoded
      next code suffix read =>
        split at decoded
        next => cases decoded
        next others decodedOthers =>
          cases decoded
          exact ⟨more, low, high, code, suffix, others, asked, read, decodedOthers, rfl⟩
  · rintro ⟨more, low, high, code, suffix, others, asked, read, decodedOthers, rfl⟩
    simp only [asked]
    split
    next flaw refused => simp [read] at refused
    next code suffix again =>
      rw [read] at again
      cases again
      rw [decodedOthers]

theorem decode_from_iff (offset : Nat) (input : Bytes) (text : List Char) :
    decodeFrom offset input = .ok text ↔ input = Hex.textBytes text := by
  induction text generalizing offset input with
  | nil =>
      cases input with
      | nil => simp [decodeFrom, Hex.textBytes]
      | cons first rest => simp [decode_from_cons_iff, Hex.textBytes]
  | cons character others induction =>
      have bytes : Hex.textBytes (character :: others) =
          String.utf8EncodeChar character ++ Hex.textBytes others := rfl
      cases input with
      | nil =>
          obtain ⟨first, rest, split, -⟩ :=
            takes_of_is_character (is_character_of_encoding character) 0 (Hex.textBytes others)
          simp [decodeFrom, bytes, split]
      | cons first rest =>
          rw [decode_from_cons_iff, bytes]
          constructor
          · rintro ⟨more, low, high, code, suffix, behind, asked, read, decoded, same⟩
            obtain ⟨found, rfl, split⟩ :=
              (takes_iff offset first rest code suffix).mp ⟨more, low, high, asked, read⟩
            rw [Char.ofNat_toNat] at same
            obtain ⟨rfl, rfl⟩ := List.cons.inj same
            rw [split, (induction _ suffix).mp decoded]
          · intro same
            obtain ⟨more, low, high, asked, read⟩ :=
              (takes_iff offset first rest _ _).mpr ⟨character, rfl, same⟩
            exact ⟨more, low, high, _, _, others, asked, read, (induction _ _).mpr rfl,
              by rw [Char.ofNat_toNat]⟩

/-- Bytes are read as the text that they encode, and as no other. -/
theorem decode_iff (input : Bytes) (text : List Char) :
    decode input = .ok text ↔ input = Hex.textBytes text := decode_from_iff 0 input text

end LedgerCourier.Utf8
