import LedgerCourier.Bytes.Basic

/-!
The BLAKE2b hash function without a key, for outputs of up to 64 bytes.

The state is eight 64-bit words. The input is cut into blocks of 128 bytes, the last one
completed with zeros, and each block is mixed in by twelve rounds that take the block's
words in the order of a fixed schedule. The total number of bytes that were taken so far
goes into every block and a mark into the last one, so that a completed block differs from
one that really ends in zeros.
-/

namespace LedgerCourier.Blake2b

set_option autoImplicit false

def initialWords : Array UInt64 := #[
  0x6a09e667f3bcc908, 0xbb67ae8584caa73b, 0x3c6ef372fe94f82b, 0xa54ff53a5f1d36f1,
  0x510e527fade682d1, 0x9b05688c2b3e6c1f, 0x1f83d9abfb41bd6b, 0x5be0cd19137e2179]

/-- The order in which each round takes the words of a block. Two more rounds repeat the
first two rows. -/
def schedule : List (List Nat) := [
  [0, 1, 2, 3, 4, 5, 6, 7, 8, 9, 10, 11, 12, 13, 14, 15],
  [14, 10, 4, 8, 9, 15, 13, 6, 1, 12, 0, 2, 11, 7, 5, 3],
  [11, 8, 12, 0, 5, 2, 15, 13, 10, 14, 3, 6, 7, 1, 9, 4],
  [7, 9, 3, 1, 13, 12, 11, 14, 2, 6, 5, 10, 4, 0, 15, 8],
  [9, 0, 5, 7, 2, 4, 10, 15, 14, 1, 11, 12, 6, 8, 3, 13],
  [2, 12, 6, 10, 0, 11, 8, 3, 4, 13, 7, 5, 15, 14, 1, 9],
  [12, 5, 1, 15, 14, 13, 4, 10, 0, 7, 6, 3, 9, 2, 8, 11],
  [13, 11, 7, 14, 12, 1, 3, 9, 5, 0, 15, 4, 8, 6, 2, 10],
  [6, 15, 14, 9, 11, 3, 0, 8, 12, 2, 13, 7, 1, 4, 10, 5],
  [10, 2, 8, 4, 7, 6, 1, 5, 15, 11, 9, 14, 3, 12, 13, 0],
  [0, 1, 2, 3, 4, 5, 6, 7, 8, 9, 10, 11, 12, 13, 14, 15],
  [14, 10, 4, 8, 9, 15, 13, 6, 1, 12, 0, 2, 11, 7, 5, 3]]

/-- The four state positions that each of a round's eight mixing steps works on: the
columns first, then the diagonals. -/
def positions : List (Nat × Nat × Nat × Nat) := [
  (0, 4, 8, 12), (1, 5, 9, 13), (2, 6, 10, 14), (3, 7, 11, 15),
  (0, 5, 10, 15), (1, 6, 11, 12), (2, 7, 8, 13), (3, 4, 9, 14)]

def rotateRight (word : UInt64) (count : UInt64) : UInt64 :=
  (word >>> count) ||| (word <<< (64 - count))

def mix (state : Array UInt64) (place : Nat × Nat × Nat × Nat) (first second : UInt64) :
    Array UInt64 :=
  let (ia, ib, ic, id) := place
  let a := state.getD ia 0 + state.getD ib 0 + first
  let d := rotateRight (state.getD id 0 ^^^ a) 32
  let c := state.getD ic 0 + d
  let b := rotateRight (state.getD ib 0 ^^^ c) 24
  let a := a + b + second
  let d := rotateRight (d ^^^ a) 16
  let c := c + d
  let b := rotateRight (b ^^^ c) 63
  (((state.setIfInBounds ia a).setIfInBounds ib b).setIfInBounds ic c).setIfInBounds id d

def pairUp :
    List Nat → List (Nat × Nat × Nat × Nat) → List ((Nat × Nat × Nat × Nat) × Nat × Nat)
  | first :: second :: row, place :: places => (place, first, second) :: pairUp row places
  | _, _ => []

def round (block : Array UInt64) (state : Array UInt64) (row : List Nat) : Array UInt64 :=
  (pairUp row positions).foldl
    (fun state step => mix state step.1 (block.getD step.2.1 0) (block.getD step.2.2 0)) state

/-- Mixes one block into the eight words. `taken` counts the input bytes up to the end of
this block. -/
def compress (words : Array UInt64) (block : Array UInt64) (taken : Nat) (isLast : Bool) :
    Array UInt64 :=
  let low := UInt64.ofNat taken
  let high := UInt64.ofNat (taken / UInt64.size)
  let start := words ++ initialWords
  let start := start.setIfInBounds 12 (start.getD 12 0 ^^^ low)
  let start := start.setIfInBounds 13 (start.getD 13 0 ^^^ high)
  let start := if isLast then start.setIfInBounds 14 (start.getD 14 0 ^^^ 0xffffffffffffffff)
    else start
  let mixed := schedule.foldl (round block) start
  (List.range 8).foldl
    (fun words index => words.setIfInBounds index
      (words.getD index 0 ^^^ mixed.getD index 0 ^^^ mixed.getD (index + 8) 0)) words

def blockWords : Nat → Bytes → List UInt64
  | 0, _ => []
  | count + 1, input =>
      UInt64.ofNat (ofLittleEndian (input.take 8)) :: blockWords count (input.drop 8)

/-- Takes the input block by block. A block is the last one when nothing follows it. -/
def absorb (words : Array UInt64) (taken : Nat) (input : Bytes) : Array UInt64 :=
  let block := (blockWords 16 input).toArray
  if _more : 128 < input.length then
    absorb (compress words block (taken + 128) false) (taken + 128) (input.drop 128)
  else compress words block (taken + input.length) true
termination_by input.length
decreasing_by simp; omega

def digest (size : Nat) (input : Bytes) : Bytes :=
  let parameters : UInt64 := 0x01010000 ^^^ UInt64.ofNat size
  let start := initialWords.setIfInBounds 0 (initialWords.getD 0 0 ^^^ parameters)
  ((absorb start 0 input).toList.flatMap fun word => littleEndian 8 word.toNat).take size

def digest512 (input : Bytes) : Bytes := digest 64 input

def digest256 (input : Bytes) : Hash := Bytes32.truncate (digest 32 input)

end LedgerCourier.Blake2b
