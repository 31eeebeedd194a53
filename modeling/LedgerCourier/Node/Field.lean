import LedgerCourier.Bytes.Basic
import LedgerCourier.Text.Decimal

/-!
The fields of events, and how they are shown.

Numbers are shown in decimal and texts between quotes. A value that consists of others shows
them between parentheses, separated by commas: a byte string its bytes, an account the
bytes of its key in one more pair of parentheses, a pair its two numbers. A number that may
be missing shows whether it is there in front of the parentheses.
-/

namespace LedgerCourier

set_option autoImplicit false

inductive Field where
  | number (value : Int)
  | truth (value : Bool)
  | text (value : String)
  | bytes (value : Bytes)
  | account (value : AccountId)
  | optional (value : Option Int)
  | pair (first second : Int)
deriving DecidableEq

namespace Field

def escape (character : Char) : List Char :=
  match character with
  | '"' => ['\\', '"']
  | '\\' => ['\\', '\\']
  | '\n' => ['\\', 'n']
  | '\r' => ['\\', 'r']
  | '\t' => ['\\', 't']
  | '\x00' => ['\\', '0']
  | '\x27' => ['\\', '\x27']
  | other => [other]

def tuple (shown : List String) : String := "(" ++ String.intercalate ", " shown ++ ")"

def byteTuple (bytes : Bytes) : String := tuple (bytes.map fun byte => toString byte.toNat)

def shown : Field → String
  | .number value => toString value
  | .truth value => if value then "true" else "false"
  | .text value => String.ofList ('"' :: value.toList.flatMap escape ++ ['"'])
  | .bytes value => byteTuple value
  | .account value => tuple [byteTuple value.bytes]
  | .optional none => "None ()"
  | .optional (some value) => "Some " ++ tuple [toString value]
  | .pair first second => tuple [toString first, toString second]

end Field

end LedgerCourier
