/-!
Numbers of binary floating point written in decimal.

A number is written with the fewest significant digits that read back as the same number,
and of those candidates with the one nearest to it. The search runs over grids of one, two,
three and more digits, and on each grid only the two neighbours of the number have to be
tried, all in exact whole-number arithmetic. Numbers of ordinary size are written
positionally and always show a decimal point; the others show a power of ten.
-/

namespace LedgerCourier.Binary64

set_option autoImplicit false

/-- A positive number and the two ends of the interval of reals that are rounded to it, each
counted in units of a common power of two, and whether the ends belong to the interval. -/
structure Span where
  low : Nat
  value : Nat
  high : Nat
  exponent : Int
  closed : Bool

/-- Takes a finite number apart. The unit is a quarter of the last binary place. -/
def spanOf (bits : UInt64) : Span :=
  let field : Nat := (bits.toNat / 0x10000000000000) % 0x800
  let fraction : Nat := bits.toNat % 0x10000000000000
  let mantissa : Nat := if field = 0 then fraction else fraction + 0x10000000000000
  let exponent : Int := if field = 0 then -1076 else (field : Int) - 1077
  -- Below a power of two the next number is only half as far away.
  let low := if fraction = 0 ∧ 1 < field then 4 * mantissa - 1 else 4 * mantissa - 2
  { low := low, value := 4 * mantissa, high := 4 * mantissa + 2, exponent := exponent
    closed := mantissa % 2 == 0 }

def common (binary decimal : Int) (units count : Nat) : Nat × Nat :=
  let up := Nat.pow 2 binary.toNat
  let down := Nat.pow 2 (-binary).toNat
  let tens := Nat.pow 10 decimal.toNat
  let tenths := Nat.pow 10 (-decimal).toNat
  (units * up * tenths, count * tens * down)

def Span.holds (span : Span) (count : Nat) (decimal : Int) : Bool :=
  let (low, atLow) := common span.exponent decimal span.low count
  let (high, atHigh) := common span.exponent decimal span.high count
  if span.closed then low ≤ atLow && atHigh ≤ high else low < atLow && atHigh < high

def Span.magnitude (span : Span) : Int :=
  let exceeds (power : Int) : Bool :=
    let (value, ten) := common span.exponent power span.value 1
    value < ten
  match (List.range 640).find? fun (index : Nat) => exceeds (Int.ofNat index - 325) with
  | some index => Int.ofNat index - 325
  | none => 315

/-- The best decimal on the grid of the given step: the lower neighbour, the upper one, or
none if neither reads back. Of two candidates the nearer wins, and the upper one a draw. -/
def Span.onGrid (span : Span) (step : Int) : Option Nat :=
  let (value, unit) := common span.exponent step span.value 1
  let below := value / unit
  let up := span.holds (below + 1) step
  if span.holds below step && below ≠ 0 then
    if up && unit ≤ 2 * (value % unit) then some (below + 1) else some below
  else if up then some (below + 1) else none

def dropZeros : Nat → Nat → Int → Nat × Int
  | 0, count, step => (count, step)
  | fuel + 1, count, step =>
      if count % 10 = 0 ∧ count ≠ 0 then dropZeros fuel (count / 10) (step + 1)
      else (count, step)

def shortest (span : Span) : Nat × Int :=
  let magnitude := span.magnitude
  let found := (List.range 17).findSome? fun (index : Nat) =>
    let step := magnitude - Int.ofNat index - 1
    (span.onGrid step).map fun count => dropZeros 20 count step
  found.getD (0, 0)

def positional (count : Nat) (step : Int) : String :=
  let digits := Nat.toDigits 10 count
  if 0 ≤ step then String.ofList (digits ++ List.replicate step.toNat '0') ++ ".0"
  else
    let places := (-step).toNat
    let digits := List.replicate (places + 1 - digits.length) '0' ++ digits
    let whole := digits.take (digits.length - places)
    String.ofList whole ++ "." ++ String.ofList (digits.drop (digits.length - places))

def scientific (count : Nat) (step : Int) : String :=
  let digits := Nat.toDigits 10 count
  let power := step + (digits.length : Int) - 1
  let mantissa := match digits with
    | first :: second :: rest => first :: '.' :: second :: rest
    | single => single
  String.ofList mantissa ++ "e" ++ toString power

/-- The notation is positional for numbers from 10^-5 up to 10^16 and scientific outside. -/
def notate (count : Nat) (step : Int) : String :=
  let magnitude := step + ((Nat.toDigits 10 count).length : Int)
  if -5 < magnitude ∧ magnitude ≤ 16 then positional count step else scientific count step

def text (number : Float) : String :=
  let bits := number.toBits
  let sign := if 0x8000000000000000 ≤ bits.toNat then "-" else ""
  if bits.toNat % 0x8000000000000000 = 0 then sign ++ "0.0"
  else
    let (count, step) := shortest (spanOf bits)
    sign ++ notate count step

end LedgerCourier.Binary64
