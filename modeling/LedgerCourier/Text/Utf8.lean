import LedgerCourier.Bytes.Basic

/-!
Bytes read as UTF-8 text, with a report of where they stop being text.

A sequence is judged byte by byte. The report gives the offset of the first character that
is broken, and how many of its bytes are to blame: those up to the one that cannot follow,
or none at all if the bytes merely end too early.
-/

namespace LedgerCourier.Utf8

set_option autoImplicit false

inductive Flaw where
  /-- The bytes from this offset on can never be completed to a character. -/
  | invalid (count offset : Nat)
  | incomplete (offset : Nat)
deriving DecidableEq

def Flaw.message : Flaw → String
  | .invalid count offset =>
      "invalid utf-8 sequence of " ++ toString count ++ " bytes from index " ++ toString offset
  | .incomplete offset => "incomplete utf-8 byte sequence from index " ++ toString offset

/-- What the first byte of a character asks of the bytes behind it: how many there are, and
the range of the first of them. -/
def demands (first : UInt8) : Option (Nat × UInt8 × UInt8) :=
  if first < 0x80 then some (0, 0, 0)
  else if 0xc2 ≤ first && first ≤ 0xdf then some (1, 0x80, 0xbf)
  else if first == 0xe0 then some (2, 0xa0, 0xbf)
  else if (0xe1 ≤ first && first ≤ 0xec) || first == 0xee || first == 0xef then
    some (2, 0x80, 0xbf)
  else if first == 0xed then some (2, 0x80, 0x9f)
  else if first == 0xf0 then some (3, 0x90, 0xbf)
  else if 0xf1 ≤ first && first ≤ 0xf3 then some (3, 0x80, 0xbf)
  else if first == 0xf4 then some (3, 0x80, 0x8f)
  else none

/-- Takes the continuation bytes of one character on top of the bits before them. `taken`
counts the bytes of the character so far. -/
def readTail (offset : Nat) :
    Nat → Nat → UInt8 × UInt8 → Nat → Bytes → Except Flaw (Nat × Bytes)
  | 0, _, _, code, rest => .ok (code, rest)
  | _ + 1, _, _, _, [] => .error (.incomplete offset)
  | missing + 1, taken, range, code, byte :: rest =>
      if range.1 ≤ byte && byte ≤ range.2 then
        readTail offset missing (taken + 1) (0x80, 0xbf) (code * 64 + byte.toNat % 64) rest
      else .error (.invalid taken offset)

theorem read_tail_length {offset missing taken : Nat} {range : UInt8 × UInt8} {code : Nat}
    {input rest : Bytes} {result : Nat}
    (read : readTail offset missing taken range code input = .ok (result, rest)) :
    rest.length ≤ input.length := by
  induction missing generalizing taken range code input with
  | zero => simp only [readTail] at read; cases read; exact Nat.le_refl _
  | succ missing induction =>
      cases input with
      | nil => simp [readTail] at read
      | cons byte input =>
          simp only [readTail] at read
          split at read
          · have := induction read
            simp only [List.length_cons]
            omega
          · cases read

def leadBits (first : UInt8) (more : Nat) : Nat :=
  if more = 0 then first.toNat
  else if more = 1 then first.toNat % 32
  else if more = 2 then first.toNat % 16
  else first.toNat % 8

def decodeFrom (offset : Nat) (input : Bytes) : Except Flaw (List Char) :=
  match input with
  | [] => .ok []
  | first :: rest =>
      match demands first with
      | none => .error (.invalid 1 offset)
      | some (more, low, high) =>
          match _tail : readTail offset more 1 (low, high) (leadBits first more) rest with
          | .error flaw => .error flaw
          | .ok (code, suffix) =>
              match decodeFrom (offset + more + 1) suffix with
              | .error flaw => .error flaw
              | .ok characters => .ok (Char.ofNat code :: characters)
termination_by input.length
decreasing_by
  have := read_tail_length _tail
  simp only [List.length_cons]
  omega

def decode (input : Bytes) : Except Flaw (List Char) := decodeFrom 0 input

end LedgerCourier.Utf8
