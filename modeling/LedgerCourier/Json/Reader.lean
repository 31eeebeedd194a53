import LedgerCourier.Json.Basic
import LedgerCourier.Text.Decimal

/-!
Structured values read from text.

The reader follows the format's grammar without extensions: no comments, no trailing
commas, no leading zeros. Blanks are the four of the grammar, not those of Unicode. Nesting
is limited, so that a text cannot ask for unbounded depth; a number that binary floating
point cannot hold is refused; and of two fields with one key the later one counts.
-/

namespace LedgerCourier.Json

set_option autoImplicit false

def depthLimit : Nat := 127

def isGap (character : Char) : Bool :=
  character == ' ' || character == '\n' || character == '\t' || character == '\r'

def skipGaps (input : List Char) : List Char := input.dropWhile isGap

def hexValue? (character : Char) : Option Nat :=
  let code := character.toNat
  if 48 ≤ code ∧ code ≤ 57 then some (code - 48)
  else if 97 ≤ code ∧ code ≤ 102 then some (code - 87)
  else if 65 ≤ code ∧ code ≤ 70 then some (code - 55)
  else none

def readUnit : List Char → Option (Nat × List Char)
  | a :: b :: c :: d :: rest => do
      let a ← hexValue? a
      let b ← hexValue? b
      let c ← hexValue? c
      let d ← hexValue? d
      some (((a * 16 + b) * 16 + c) * 16 + d, rest)
  | _ => none

/-- The character of a numbered escape. A number of the upper half of a surrogate pair must
be followed by one of the lower half; neither may stand alone. -/
def readNumbered (input : List Char) : Option (Char × List Char) := do
  let (unit, rest) ← readUnit input
  if 0xdc00 ≤ unit ∧ unit ≤ 0xdfff then none
  else if 0xd800 ≤ unit ∧ unit ≤ 0xdbff then
    match rest with
    | '\\' :: 'u' :: rest =>
        let (low, rest) ← readUnit rest
        if 0xdc00 ≤ low ∧ low ≤ 0xdfff then
          some (Char.ofNat (0x10000 + (unit - 0xd800) * 1024 + (low - 0xdc00)), rest)
        else none
    | _ => none
  else some (Char.ofNat unit, rest)

/-- Reads the inside of a text up to its closing quote. `read` holds what was read, newest
first. The fuel is the length of the input. -/
def readText : Nat → List Char → List Char → Option (String × List Char)
  | 0, _, _ => none
  | fuel + 1, read, input =>
      match input with
      | [] => none
      | '"' :: rest => some (String.ofList read.reverse, rest)
      | '\\' :: '"' :: rest => readText fuel ('"' :: read) rest
      | '\\' :: '\\' :: rest => readText fuel ('\\' :: read) rest
      | '\\' :: '/' :: rest => readText fuel ('/' :: read) rest
      | '\\' :: 'b' :: rest => readText fuel ('\x08' :: read) rest
      | '\\' :: 'f' :: rest => readText fuel ('\x0c' :: read) rest
      | '\\' :: 'n' :: rest => readText fuel ('\n' :: read) rest
      | '\\' :: 'r' :: rest => readText fuel ('\r' :: read) rest
      | '\\' :: 't' :: rest => readText fuel ('\t' :: read) rest
      | '\\' :: 'u' :: rest =>
          match readNumbered rest with
          | none => none
          | some (character, rest) => readText fuel (character :: read) rest
      | '\\' :: _ => none
      | character :: rest =>
          if character.toNat < 0x20 then none else readText fuel (character :: read) rest

def spanDigits (input : List Char) : List Nat × List Char :=
  let isDigit (character : Char) : Bool := (Decimal.digitValue? character).isSome
  ((input.takeWhile isDigit).filterMap Decimal.digitValue?, input.dropWhile isDigit)

def numberOf (digits : List Nat) : Nat :=
  digits.foldl (fun (value digit : Nat) => value * 10 + digit) 0

def significand : Nat → List Nat → Nat × List Nat
  | value, [] => (value, [])
  | value, digit :: rest =>
      if value * 10 + digit < UInt64.size then significand (value * 10 + digit) rest
      else (value, digit :: rest)

/-- Multiplies a significand by a power of ten. It is rounded once as a whole number and
once more by the multiplication or division; what exceeds the range is refused. The fuel
bounds the steps of 308 places that a division takes. -/
def scale : Nat → Float → Int → Option Float
  | 0, value, _ => some value
  | fuel + 1, value, exponent =>
      if exponent.natAbs ≤ 308 then
        let power := Float.ofScientific 1 false exponent.natAbs
        if 0 ≤ exponent then
          let product := value * power
          if product.isInf then none else some product
        else some (value / power)
      else if value == 0.0 then some value
      else if 0 ≤ exponent then none
      else scale fuel (value / Float.ofScientific 1 false 308) (exponent + 308)

/-- The number that a sign, its digits and its exponent denote. Digits beyond the
significand count as places before the point and are dropped behind it. -/
def floatOf (negative : Bool) (whole fraction : List Nat) (exponent : Int) : Option Float :=
  let (high, excess) := significand 0 whole
  let (value, exponent) :=
    if excess.isEmpty then
      let (all, dropped) := significand high fraction
      (all, exponent - Int.ofNat (fraction.length - dropped.length))
    else (high, exponent + Int.ofNat excess.length)
  (scale 20 (Float.ofNat value) exponent).map fun number => if negative then -number else number

def readExponent (input : List Char) : Option (Int × List Char) :=
  let (negative, input) := match input with
    | '-' :: rest => (true, rest)
    | '+' :: rest => (false, rest)
    | other => (false, other)
  match spanDigits input with
  | ([], _) => none
  | (digits, rest) =>
      -- A larger exponent leads to zero or out of range, whatever the digits are.
      let size := min (numberOf digits) 0x80000000
      some (if negative then -Int.ofNat size else Int.ofNat size, rest)

def readUnsigned (negative : Bool) (input : List Char) : Option (Json × List Char) :=
  match spanDigits input with
  | ([], _) => none
  | (0 :: _ :: _, _) => none
  | (whole, rest) =>
      let finish (fraction : List Nat) (rest : List Char) : Option (Json × List Char) :=
        match rest with
        | 'e' :: rest | 'E' :: rest => do
            let (exponent, rest) ← readExponent rest
            let number ← floatOf negative whole fraction exponent
            some (.float number, rest)
        | _ => do
            let number ← floatOf negative whole fraction 0
            some (.float number, rest)
      match rest with
      | '.' :: afterPoint =>
          match spanDigits afterPoint with
          | ([], _) => none
          | (fraction, rest) => finish fraction rest
      | 'e' :: _ | 'E' :: _ => finish [] rest
      | _ =>
          let value := numberOf whole
          if negative then
            if 0 < value ∧ value ≤ 0x8000000000000000 then
              some (.integer (-Int.ofNat value), rest)
            else finish [] rest
          else if value < UInt64.size then some (.integer (Int.ofNat value), rest)
          else finish [] rest

mutual

def readValue : Nat → Nat → List Char → Option (Json × List Char)
  | 0, _, _ => none
  | fuel + 1, depth, input =>
      match skipGaps input with
      | 'n' :: 'u' :: 'l' :: 'l' :: rest => some (.null, rest)
      | 't' :: 'r' :: 'u' :: 'e' :: rest => some (.bool true, rest)
      | 'f' :: 'a' :: 'l' :: 's' :: 'e' :: rest => some (.bool false, rest)
      | '"' :: rest => (readText (rest.length + 1) [] rest).map fun read => (.string read.1, read.2)
      | '-' :: rest => readUnsigned true rest
      | '[' :: rest =>
          match depth with
          | 0 => none
          | depth + 1 =>
              match skipGaps rest with
              | ']' :: rest => some (.array [], rest)
              | rest =>
                  (readItems fuel depth [] rest).map fun read => (.array read.1, read.2)
      | '\x7b' :: rest =>
          match depth with
          | 0 => none
          | depth + 1 =>
              match skipGaps rest with
              | '\x7d' :: rest => some (.object [], rest)
              | rest =>
                  (readFields fuel depth [] rest).map fun read => (ofFields read.1, read.2)
      | rest => readUnsigned false rest

def readItems : Nat → Nat → List Json → List Char → Option (List Json × List Char)
  | 0, _, _, _ => none
  | fuel + 1, depth, read, input =>
      match readValue fuel depth input with
      | none => none
      | some (item, rest) =>
          match skipGaps rest with
          | ',' :: rest => readItems fuel depth (item :: read) rest
          | ']' :: rest => some ((item :: read).reverse, rest)
          | _ => none

def readFields : Nat → Nat → List (String × Json) → List Char →
    Option (List (String × Json) × List Char)
  | 0, _, _, _ => none
  | fuel + 1, depth, read, input =>
      match skipGaps input with
      | '"' :: rest =>
          match readText (rest.length + 1) [] rest with
          | none => none
          | some (key, rest) =>
              match skipGaps rest with
              | ':' :: rest =>
                  match readValue fuel depth rest with
                  | none => none
                  | some (value, rest) =>
                      match skipGaps rest with
                      | ',' :: rest => readFields fuel depth ((key, value) :: read) rest
                      | '\x7d' :: rest => some (((key, value) :: read).reverse, rest)
                      | _ => none
              | _ => none
      | _ => none

end

def parse (text : String) : Option Json :=
  let input := text.toList
  match readValue (input.length + 1) depthLimit input with
  | some (value, rest) => if (skipGaps rest).isEmpty then some value else none
  | none => none

end LedgerCourier.Json
