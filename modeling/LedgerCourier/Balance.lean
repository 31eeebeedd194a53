import LedgerCourier.Operation.Basic
import LedgerCourier.Text.Decimal

/-!
Balances as they are shown to people.

A ledger counts in its smallest unit and says how many decimals make up one whole. A balance
is shown as the number of whole units, a point and four decimals; what lies behind the fourth
decimal is cut off.

The computation has 128 bits at every step and breaks down where a step has no result in them.
Only a power of ten by which an amount is divided may be too large: it exceeds every amount, and
nothing is left of an amount that is divided by it.
-/

namespace LedgerCourier.Balance

set_option autoImplicit false

def product? (left right : Nat) : Option Nat :=
  if left * right < amountLimit then some (left * right) else none

def quotient? (number divisor : Nat) : Option Nat :=
  if divisor = 0 then none else some (number / divisor)

def remainder? (number divisor : Nat) : Option Nat :=
  if divisor = 0 then none else some (number % divisor)

def shifted? (number : Nat) : Nat → Option Nat
  | 0 => some number
  | exponent + 1 =>
      match product? number 10 with
      | some next => shifted? next exponent
      | none => none

def scaled? (units exponent : Nat) : Option Nat :=
  match shifted? 1 exponent with
  | some scale => quotient? units scale
  | none => some 0

def fraction? (amount : Amount) (decimals : Nat) : Option Nat :=
  if 4 ≤ decimals then do
    let tenThousandths ← scaled? amount.units (decimals - 4)
    remainder? tenThousandths 10000
  else do
    let unit ← shifted? 1 decimals
    let rest ← remainder? amount.units unit
    let scale ← shifted? 1 (4 - decimals)
    product? rest scale

/-- The balance as it is shown, unless the computation breaks down. -/
def text? (amount : Amount) (decimals : Nat) : Option String := do
  let whole ← scaled? amount.units decimals
  let fraction ← fraction? amount decimals
  return String.ofList (Decimal.digits whole ++ '.' :: Decimal.padded 4 fraction)

def text (amount : Amount) (decimals : Nat) : String := (text? amount decimals).getD ""

end LedgerCourier.Balance
