import LedgerCourier.CommandLine.Url
import LedgerCourier.Status.Basic
import LedgerCourier.Text.Decimal

/-!
The options of a command line.

An option has a long name, perhaps a short one, and perhaps a variable of the environment
that stands in for it. Its kind says which texts are values of it.
-/

namespace LedgerCourier.CommandLine

set_option autoImplicit false

/-- What is wrong with a command line, or what it asks for instead of a run. -/
inductive Flaw where
  | invalidValue
  | valueValidation
  | unknownArgument
  | argumentConflict
  | tooManyValues
  | missingArgument
  | missingCommand
  | unknownCommand
  | help
  | version
deriving DecidableEq

inductive ValueKind where
  | text
  | path
  | depth
  | large
  | small
  | url
deriving DecidableEq

structure OptionSpec where
  long : String
  short : Option Char
  environment : Option String
  kind : ValueKind
  required : Bool
deriving DecidableEq

def readDepth : String → Option Depth
  | "in-block" => some .inBlock
  | "finalized" => some .finalized
  | _ => none

def readLarge (text : String) : Option Nat := Decimal.readBelow UInt64.size text.toList

/-- A number of 32 bits. It is read with a sign, so zero may be negative. -/
def readSmall (text : String) : Option Nat :=
  match text.toList with
  | '-' :: digit :: digits =>
      if digit = '+' then none else Decimal.readBelow 1 (digit :: digits)
  | other => Decimal.readBelow UInt32.size other

def ValueKind.check (kind : ValueKind) (value : String) : Except Flaw Unit :=
  match kind with
  | .text => .ok ()
  | .path => if value.isEmpty then .error .invalidValue else .ok ()
  | .depth => if (readDepth value).isSome then .ok () else .error .invalidValue
  | .large => if (readLarge value).isSome then .ok () else .error .valueValidation
  | .small => if (readSmall value).isSome then .ok () else .error .valueValidation
  | .url => if Url.isValid value then .ok () else .error .valueValidation

end LedgerCourier.CommandLine
