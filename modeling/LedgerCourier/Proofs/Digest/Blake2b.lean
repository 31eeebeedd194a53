import LedgerCourier.Digest.Blake2b

/-!
# The length of a digest

The state has eight words throughout, whatever the input, so up to sixty-four bytes can be taken
from it.
-/

namespace LedgerCourier.Blake2b

set_option autoImplicit false

theorem size_compress (words block : Array UInt64) (taken : Nat) (isLast : Bool) :
    (compress words block taken isLast).size = words.size := by
  have kept : ∀ (mixed : Array UInt64) (indices : List Nat) (words : Array UInt64),
      (indices.foldl (fun words index => words.setIfInBounds index
        (words.getD index 0 ^^^ mixed.getD index 0 ^^^ mixed.getD (index + 8) 0)) words).size =
          words.size := by
    intro mixed indices
    induction indices with
    | nil => exact fun words => rfl
    | cons index indices induction =>
        intro words
        rw [List.foldl_cons, induction, Array.size_setIfInBounds]
  exact kept _ _ words

theorem size_absorb (words : Array UInt64) (taken : Nat) (input : Bytes) :
    (absorb words taken input).size = words.size := by
  fun_induction absorb words taken input with
  | case1 words taken input block more induction => rw [induction, size_compress]
  | case2 words taken input block last => rw [size_compress]

theorem length_digest {size : Nat} (small : size ≤ 64) (input : Bytes) :
    (digest size input).length = size := by
  have words : ∀ state : List UInt64,
      (state.flatMap fun word => littleEndian 8 word.toNat).length = 8 * state.length := by
    intro state
    induction state with
    | nil => rfl
    | cons word rest induction =>
        rw [List.flatMap_cons, List.length_append, induction, length_little_endian]
        simp only [List.length_cons]
        omega
  rw [digest, List.length_take, words, Array.length_toList, size_absorb,
    Array.size_setIfInBounds, show initialWords.size = 8 from rfl]
  omega

end LedgerCourier.Blake2b
