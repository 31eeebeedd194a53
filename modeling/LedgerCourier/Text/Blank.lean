/-!
Blank characters, and the two ways in which the ends of a text are cleaned.

Blank means white space in the sense of the Unicode character database, which is more than
the six blanks of ASCII. Trimming removes blanks at both ends. Removing marks takes away
every leading `0x`, not just one.
-/

namespace LedgerCourier.Blank

set_option autoImplicit false

def isBlank (character : Char) : Bool :=
  let code := character.toNat
  (0x09 ≤ code && code ≤ 0x0d) || code == 0x20 || code == 0x85 || code == 0xa0 ||
    code == 0x1680 || (0x2000 ≤ code && code ≤ 0x200a) || code == 0x2028 || code == 0x2029 ||
    code == 0x202f || code == 0x205f || code == 0x3000

def trimStart (text : List Char) : List Char := text.dropWhile isBlank

def trimEnd (text : List Char) : List Char := (text.reverse.dropWhile isBlank).reverse

def trim (text : List Char) : List Char := trimEnd (trimStart text)

/-- Removes every `0x` in front, so that `0x0x01` becomes `01`. -/
def dropMarks : List Char → List Char
  | '0' :: 'x' :: rest => dropMarks rest
  | text => text

end LedgerCourier.Blank
