/-!
Byte strings, 32-byte values and little-endian words.

Everything that goes over the wire is a list of bytes. Two of its shapes are fixed and
recur everywhere: a block of exactly 32 bytes, which is what an account key and a hash are,
and a number written low byte first in a given width. The main statement is that a
little-endian word read back after writing is the number it was written from, whatever
bytes follow.
-/

namespace LedgerCourier

set_option autoImplicit false

abbrev Bytes := List UInt8

/-- Exactly 32 bytes. The length travels with the value, so that no later step has to check it. -/
structure Bytes32 where
  bytes : Bytes
  length_eq : bytes.length = 32
deriving DecidableEq

abbrev AccountId := Bytes32

abbrev Hash := Bytes32

namespace Bytes32

def ofBytes? (bytes : Bytes) : Option Bytes32 :=
  if length_eq : bytes.length = 32 then some ⟨bytes, length_eq⟩ else none

def fill (byte : UInt8) : Bytes32 := ⟨List.replicate 32 byte, List.length_replicate⟩

/-- The first 32 bytes of a string, completed with zeros if it is shorter. -/
def truncate (bytes : Bytes) : Bytes32 :=
  ⟨(bytes ++ List.replicate 32 0).take 32, by simp⟩

theorem ext_bytes {left right : Bytes32} (same : left.bytes = right.bytes) : left = right := by
  cases left; cases right; simp_all

theorem of_bytes_self (value : Bytes32) : ofBytes? value.bytes = some value := by
  simp [ofBytes?, value.length_eq]

theorem of_bytes_eq_some {bytes : Bytes} {value : Bytes32} (read : ofBytes? bytes = some value) :
    value.bytes = bytes := by
  unfold ofBytes? at read
  split at read
  · cases read; rfl
  · cases read

instance : Inhabited Bytes32 := ⟨fill 0⟩

end Bytes32

def littleEndian : Nat → Nat → Bytes
  | 0, _ => []
  | width + 1, number => UInt8.ofNat (number % 256) :: littleEndian width (number / 256)

def ofLittleEndian : Bytes → Nat
  | [] => 0
  | byte :: rest => byte.toNat + 256 * ofLittleEndian rest

theorem length_little_endian (width number : Nat) :
    (littleEndian width number).length = width := by
  induction width generalizing number with
  | zero => rfl
  | succ width induction => simp [littleEndian, induction]

theorem of_little_endian_encode (width number : Nat) (fits : number < Nat.pow 256 width) :
    ofLittleEndian (littleEndian width number) = number := by
  induction width generalizing number with
  | zero => simp at fits; simp [littleEndian, ofLittleEndian, fits]
  | succ width induction =>
      have high : number / 256 < Nat.pow 256 width :=
        Nat.div_lt_of_lt_mul (Nat.mul_comm _ 256 ▸ fits)
      simp only [littleEndian, ofLittleEndian, induction _ high]
      simp
      omega

def readFixed (count : Nat) (input : Bytes) : Option (Bytes × Bytes) :=
  if count ≤ input.length then some (input.take count, input.drop count) else none

theorem read_fixed_append {count : Nat} {bytes : Bytes} (suffix : Bytes)
    (size : bytes.length = count) : readFixed count (bytes ++ suffix) = some (bytes, suffix) := by
  subst size
  simp [readFixed]

end LedgerCourier
