import LedgerCourier.Bytes.Basic

/-!
The SHA-256 hash function.

It is used on inputs of at most 32 bytes, but is written for any length: the input is
followed by one bit, by zeros and by its length in bits, so that blocks of 64 bytes come
out even, and each block is mixed into eight 32-bit words by sixty-four rounds.
-/

namespace LedgerCourier.Sha256

set_option autoImplicit false

def initialWords : List UInt32 := [
  0x6a09e667, 0xbb67ae85, 0x3c6ef372, 0xa54ff53a,
  0x510e527f, 0x9b05688c, 0x1f83d9ab, 0x5be0cd19]

def roundConstants : List UInt32 := [
  0x428a2f98, 0x71374491, 0xb5c0fbcf, 0xe9b5dba5, 0x3956c25b, 0x59f111f1, 0x923f82a4, 0xab1c5ed5,
  0xd807aa98, 0x12835b01, 0x243185be, 0x550c7dc3, 0x72be5d74, 0x80deb1fe, 0x9bdc06a7, 0xc19bf174,
  0xe49b69c1, 0xefbe4786, 0x0fc19dc6, 0x240ca1cc, 0x2de92c6f, 0x4a7484aa, 0x5cb0a9dc, 0x76f988da,
  0x983e5152, 0xa831c66d, 0xb00327c8, 0xbf597fc7, 0xc6e00bf3, 0xd5a79147, 0x06ca6351, 0x14292967,
  0x27b70a85, 0x2e1b2138, 0x4d2c6dfc, 0x53380d13, 0x650a7354, 0x766a0abb, 0x81c2c92e, 0x92722c85,
  0xa2bfe8a1, 0xa81a664b, 0xc24b8b70, 0xc76c51a3, 0xd192e819, 0xd6990624, 0xf40e3585, 0x106aa070,
  0x19a4c116, 0x1e376c08, 0x2748774c, 0x34b0bcb5, 0x391c0cb3, 0x4ed8aa4a, 0x5b9cca4f, 0x682e6ff3,
  0x748f82ee, 0x78a5636f, 0x84c87814, 0x8cc70208, 0x90befffa, 0xa4506ceb, 0xbef9a3f7, 0xc67178f2]

def rotateRight (word : UInt32) (count : UInt32) : UInt32 :=
  (word >>> count) ||| (word <<< (32 - count))

def bigEndian (width number : Nat) : Bytes := (littleEndian width number).reverse

def ofBigEndian (bytes : Bytes) : Nat := ofLittleEndian bytes.reverse

def padded (input : Bytes) : Bytes :=
  let zeros := (119 - input.length % 64) % 64
  input ++ 0x80 :: List.replicate zeros 0 ++ bigEndian 8 (8 * input.length)

/-- Lengthens the sixteen words of a block to one for each round. `window` holds the last
sixteen words, newest first. -/
def extend : Nat → List UInt32 → List UInt32
  | 0, _ => []
  | count + 1, window =>
      let w15 := window.getD 14 0
      let w2 := window.getD 1 0
      let low := rotateRight w15 7 ^^^ rotateRight w15 18 ^^^ (w15 >>> 3)
      let high := rotateRight w2 17 ^^^ rotateRight w2 19 ^^^ (w2 >>> 10)
      let next := window.getD 15 0 + low + window.getD 6 0 + high
      next :: extend count (next :: window.take 15)

def round (state : List UInt32) (input : UInt32 × UInt32) : List UInt32 :=
  match state with
  | [a, b, c, d, e, f, g, h] =>
      let (word, constant) := input
      let sum1 := rotateRight e 6 ^^^ rotateRight e 11 ^^^ rotateRight e 25
      let choice := (e &&& f) ^^^ ((e ^^^ 0xffffffff) &&& g)
      let first := h + sum1 + choice + constant + word
      let sum0 := rotateRight a 2 ^^^ rotateRight a 13 ^^^ rotateRight a 22
      let majority := (a &&& b) ^^^ (a &&& c) ^^^ (b &&& c)
      [first + sum0 + majority, a, b, c, d + first, e, f, g]
  | other => other

def blockWords : Nat → Bytes → List UInt32
  | 0, _ => []
  | count + 1, input =>
      UInt32.ofNat (ofBigEndian (input.take 4)) :: blockWords count (input.drop 4)

def compress (state : List UInt32) (block : Bytes) : List UInt32 :=
  let words := blockWords 16 block
  let all := words ++ extend 48 words.reverse
  let mixed := (all.zip roundConstants).foldl round state
  (state.zip mixed).map fun pair => pair.1 + pair.2

def absorb (state : List UInt32) (input : Bytes) : List UInt32 :=
  if _more : 64 ≤ input.length then absorb (compress state (input.take 64)) (input.drop 64)
  else state
termination_by input.length
decreasing_by simp; omega

def digest (input : Bytes) : Bytes :=
  (absorb initialWords (padded input)).flatMap fun word => bigEndian 4 word.toNat

end LedgerCourier.Sha256
