import LedgerCourier.Bytes.Basic

/-!
Numbers in the compact form, and the byte strings that are measured with it.

The two low bits of the first byte tell the form: one byte, two bytes, four bytes, or a
count of further bytes, of which there are at least four. Each number takes the shortest
form that holds it. The decoder beside the encoder accepts exactly that canonical form.
-/

namespace LedgerCourier.Compact

set_option autoImplicit false

def byteCount (number : Nat) : Nat :=
  if small : number = 0 then 0 else 1 + byteCount (number / 256)
termination_by number
decreasing_by omega

/-- The shortest of the four forms that holds the number. -/
def encode (number : Nat) : Bytes :=
  if number < 64 then littleEndian 1 (number * 4)
  else if number < 16384 then littleEndian 2 (number * 4 + 1)
  else if number < 1073741824 then littleEndian 4 (number * 4 + 2)
  else
    let width := byteCount number
    UInt8.ofNat ((width - 4) * 4 + 3) :: littleEndian width number

/-- Reads a number in compact form and returns the bytes behind it. A number that a shorter
form would hold is refused. -/
def decode (input : Bytes) : Option (Nat × Bytes) :=
  match input with
  | [] => none
  | first :: rest =>
      let form := first.toNat % 4
      if form = 3 then
        let width := first.toNat / 4 + 4
        match readFixed width rest with
        | none => none
        | some (word, suffix) =>
            let number := ofLittleEndian word
            if 1073741824 ≤ number ∧ byteCount number = width then some (number, suffix)
            else none
      else
        let width := if form = 0 then 1 else if form = 1 then 2 else 4
        match readFixed width (first :: rest) with
        | none => none
        | some (word, suffix) =>
            let number := ofLittleEndian word / 4
            if form = 1 ∧ number < 64 then none
            else if form = 2 ∧ number < 16384 then none
            else some (number, suffix)

def encodeBytes (bytes : Bytes) : Bytes := encode bytes.length ++ bytes

def decodeBytes (input : Bytes) : Option (Bytes × Bytes) :=
  match decode input with
  | none => none
  | some (count, rest) => readFixed count rest

end LedgerCourier.Compact
