import LedgerCourier.Bytes.Basic

/-!
Bytes as hexadecimal digits.

Digits are written in lower case, high half first, and read in either case. A text is judged
as the bytes that encode it: an odd number of them is reported before any digit is looked
at, and otherwise the first byte that is no digit is reported with its offset. The main
statement is that reading what was written gives the bytes back.
-/

namespace LedgerCourier.Hex

set_option autoImplicit false

inductive Flaw where
  | oddLength
  | wrongLength
  | badDigit (byte : UInt8) (offset : Nat)
deriving DecidableEq

def digitChar (value : Nat) : Char :=
  if value < 10 then Char.ofNat (48 + value) else Char.ofNat (87 + value)

def digitValue? (byte : UInt8) : Option Nat :=
  let code := byte.toNat
  if 48 ≤ code ∧ code ≤ 57 then some (code - 48)
  else if 97 ≤ code ∧ code ≤ 102 then some (code - 87)
  else if 65 ≤ code ∧ code ≤ 70 then some (code - 55)
  else none

def byteChars (byte : UInt8) : List Char :=
  [digitChar (byte.toNat / 16), digitChar (byte.toNat % 16)]

def encodeChars (bytes : Bytes) : List Char := bytes.flatMap byteChars

def encode (bytes : Bytes) : String := String.ofList (encodeChars bytes)

def encodeMarked (bytes : Bytes) : String := "0x" ++ encode bytes

/-- Reads digits two at a time; the offset counts the bytes that were read before. -/
def decodeDigits : Nat → Bytes → Except Flaw Bytes
  | _, [] => .ok []
  | _, [_] => .error .oddLength
  | offset, high :: low :: rest =>
      match digitValue? high with
      | none => .error (.badDigit high offset)
      | some highValue =>
          match digitValue? low with
          | none => .error (.badDigit low (offset + 1))
          | some lowValue =>
              match decodeDigits (offset + 2) rest with
              | .ok bytes => .ok (UInt8.ofNat (highValue * 16 + lowValue) :: bytes)
              | .error flaw => .error flaw

def decodeBytes (digits : Bytes) : Except Flaw Bytes :=
  if digits.length % 2 = 1 then .error .oddLength else decodeDigits 0 digits

def textBytes (text : List Char) : Bytes := text.flatMap String.utf8EncodeChar

def decode (text : String) : Except Flaw Bytes := decodeBytes (textBytes text.toList)

/-- Reads a digit text that must hold a given number of bytes. The parity of the digits is
checked first, then the length, and the digits themselves last. -/
def decodeExactly (count : Nat) (text : String) : Except Flaw Bytes :=
  let digits := textBytes text.toList
  if digits.length % 2 = 1 then .error .oddLength
  else if digits.length ≠ 2 * count then .error .wrongLength
  else decodeDigits 0 digits

end LedgerCourier.Hex

namespace LedgerCourier

def Hash.text (hash : Hash) : String := Hex.encodeMarked hash.bytes

end LedgerCourier
