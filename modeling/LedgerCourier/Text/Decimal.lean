/-!
Whole numbers written in decimal.

Reading accepts an optional plus sign and one or more ASCII digits, with any number of
leading zeros, as long as the value stays below a limit. There is no sign for negative
numbers and no separator between digits.
-/

namespace LedgerCourier.Decimal

set_option autoImplicit false

def digitValue? (character : Char) : Option Nat :=
  if 48 ≤ character.toNat ∧ character.toNat ≤ 57 then some (character.toNat - 48) else none

def readDigits : Nat → List Char → Option Nat
  | value, [] => some value
  | value, character :: rest =>
      match digitValue? character with
      | none => none
      | some digit => readDigits (value * 10 + digit) rest

def readBelow (limit : Nat) (text : List Char) : Option Nat :=
  let digits := match text with
    | '+' :: rest => rest
    | other => other
  if digits.isEmpty then none
  else
    match readDigits 0 digits with
    | none => none
    | some value => if value < limit then some value else none

def digits (number : Nat) : List Char := Nat.toDigits 10 number

def padded (width number : Nat) : List Char :=
  List.replicate (width - (digits number).length) '0' ++ digits number

end LedgerCourier.Decimal
