import LedgerCourier.Text.Printable

/-!
Text between quotes, with what could not be read there written as an escape.

The same rule serves double-quoted texts and single-quoted characters; the two differ only
in which quote has to be escaped. Characters without a visible form are written by their
number in hexadecimal, in lower case and without leading zeros.
-/

namespace LedgerCourier.Quoted

set_option autoImplicit false

def codePointDigits (code : Nat) : List Char := Nat.toDigits 16 code

def escapeChar (quote : Char) (character : Char) : List Char :=
  if character = '\\' then ['\\', '\\']
  else if character = quote then ['\\', quote]
  else if character = '\n' then ['\\', 'n']
  else if character = '\t' then ['\\', 't']
  else if character = '\r' then ['\\', 'r']
  else if character.toNat = 0 then ['\\', '0']
  else if Printable.isPrintable character then [character]
  else ['\\', 'u', '\x7b'] ++ codePointDigits character.toNat ++ ['\x7d']

/-- A text in double quotes. A single quote inside stays as it is. -/
def text (content : String) : String :=
  String.ofList ('"' :: content.toList.flatMap (escapeChar '"') ++ ['"'])

def char (content : Char) : String :=
  String.ofList ('\x27' :: escapeChar '\x27' content ++ ['\x27'])

end LedgerCourier.Quoted
