import LedgerCourier.Bytes.Basic

/-!
Bytes as base-58 text.

The alphabet leaves out the four characters that are easily mistaken for another. Bytes are
read as one large number, high byte first; zero bytes in front, which a number would
forget, are written as that many of the alphabet's first character.
-/

namespace LedgerCourier.Base58

set_option autoImplicit false

def alphabet : List Char :=
  "123456789ABCDEFGHJKLMNPQRSTUVWXYZabcdefghijkmnopqrstuvwxyz".toList

def digitChar (value : Nat) : Char := alphabet.getD value '1'

def digitValue? (character : Char) : Option Nat :=
  let index := alphabet.idxOf character
  if index < 58 then some index else none

/-- The digits of a number in a base, lowest first, none for zero. -/
def lowDigits (base : Nat) (number : Nat) : List Nat :=
  if _positive : number = 0 ∨ base < 2 then []
  else number % base :: lowDigits base (number / base)
termination_by number
decreasing_by
  have large : 1 < base := by omega
  exact Nat.div_lt_self (by omega) large

def ofLowDigits (base : Nat) : List Nat → Nat
  | [] => 0
  | digit :: rest => digit + base * ofLowDigits base rest

def numberOf (bytes : Bytes) : Nat := ofLowDigits 256 (bytes.reverse.map UInt8.toNat)

def bytesOf (number : Nat) : Bytes := (lowDigits 256 number).reverse.map UInt8.ofNat

def encode (bytes : Bytes) : List Char :=
  let zeros := bytes.takeWhile (· == 0)
  zeros.map (fun _ => '1') ++ ((lowDigits 58 (numberOf bytes)).reverse.map digitChar)

/-- Reads text as bytes, or refuses it at a character outside the alphabet. -/
def decode (text : List Char) : Option Bytes :=
  match text.mapM digitValue? with
  | none => none
  | some digits =>
      let zeros := digits.takeWhile (· == 0)
      some (zeros.map (fun _ => 0) ++ bytesOf (ofLowDigits 58 digits.reverse))

end LedgerCourier.Base58
