/-!
Other forms of the small Latin letters.

Many characters are a letter in another shape: wide, raised, lowered, circled, in a
mathematical alphabet, or several letters joined to one character. Where only the letters
count, such a character stands for the plain ones. A few characters of another script stand
for marks or words with blanks between them.
-/

namespace LedgerCourier.LatinForms

set_option autoImplicit false
set_option maxRecDepth 20000

/-- Runs of characters that stand for successive letters: the first character, the length of
the run, and the letter that it begins with. -/
def runs : List (Nat × Nat × Char) := [
  (0xaa, 1, 'a'), (0xba, 1, 'o'), (0x17f, 1, 's'), (0x2b0, 1, 'h'), (0x2b2, 1, 'j'),
  (0x2b3, 1, 'r'), (0x2b7, 1, 'w'), (0x2b8, 1, 'y'), (0x2e1, 1, 'l'), (0x2e2, 1, 's'),
  (0x2e3, 1, 'x'), (0x1d43, 1, 'a'), (0x1d47, 1, 'b'), (0x1d48, 2, 'd'), (0x1d4d, 1, 'g'),
  (0x1d4f, 1, 'k'), (0x1d50, 1, 'm'), (0x1d52, 1, 'o'), (0x1d56, 1, 'p'), (0x1d57, 2, 't'),
  (0x1d5b, 1, 'v'), (0x1d62, 1, 'i'), (0x1d63, 1, 'r'), (0x1d64, 2, 'u'), (0x1d9c, 1, 'c'),
  (0x1da0, 1, 'f'), (0x1dbb, 1, 'z'), (0x2071, 1, 'i'), (0x207f, 1, 'n'), (0x2090, 1, 'a'),
  (0x2091, 1, 'e'), (0x2092, 1, 'o'), (0x2093, 1, 'x'), (0x2095, 1, 'h'), (0x2096, 4, 'k'),
  (0x209a, 1, 'p'), (0x209b, 2, 's'), (0x210a, 1, 'g'), (0x210e, 1, 'h'), (0x2113, 1, 'l'),
  (0x212f, 1, 'e'), (0x2134, 1, 'o'), (0x2139, 1, 'i'), (0x2146, 2, 'd'), (0x2148, 2, 'i'),
  (0x2170, 1, 'i'), (0x2174, 1, 'v'), (0x2179, 1, 'x'), (0x217c, 1, 'l'), (0x217d, 2, 'c'),
  (0x217f, 1, 'm'), (0x24d0, 26, 'a'), (0x2c7c, 1, 'j'), (0xff41, 26, 'a'), (0x107a5, 1, 'q'),
  (0x1d41a, 26, 'a'), (0x1d44e, 7, 'a'), (0x1d456, 18, 'i'), (0x1d482, 26, 'a'),
  (0x1d4b6, 4, 'a'), (0x1d4bb, 1, 'f'), (0x1d4bd, 7, 'h'), (0x1d4c5, 11, 'p'),
  (0x1d4ea, 26, 'a'), (0x1d51e, 26, 'a'), (0x1d552, 26, 'a'), (0x1d586, 26, 'a'),
  (0x1d5ba, 26, 'a'), (0x1d5ee, 26, 'a'), (0x1d622, 26, 'a'), (0x1d656, 26, 'a'),
  (0x1d68a, 26, 'a')]

def joined : List (Nat × String) := [
  (0x133, "ij"), (0x1c9, "lj"), (0x1cc, "nj"), (0x1f3, "dz"), (0x2171, "ii"), (0x2172, "iii"),
  (0x2173, "iv"), (0x2175, "vi"), (0x2176, "vii"), (0x2177, "viii"), (0x2178, "ix"),
  (0x217a, "xi"), (0x217b, "xii"), (0xfb00, "ff"), (0xfb01, "fi"), (0xfb02, "fl"),
  (0xfb03, "ffi"), (0xfb04, "ffl"), (0xfb05, "st"), (0xfb06, "st")]

def isMarkedBlank (code : Nat) : Bool :=
  code == 0x37a || (0xfc5e ≤ code && code ≤ 0xfc63) ||
    (0xfe70 ≤ code && code ≤ 0xfe7e && code % 2 == 0)

/-- What a character stands for. Marks are kept behind their blank, and so is the sign of a
phrase in each of its words. -/
def plain (character : Char) : List Char :=
  let code := character.toNat
  if code < 0x80 then [character]
  else if isMarkedBlank code then [' ', character]
  else if code == 0xfdfa then [character, ' ', character, ' ', character, ' ', character]
  else if code == 0xfdfb then [character, ' ', character]
  else
    match runs.find? fun run => run.1 ≤ code && code < run.1 + run.2.1 with
    | some run => [Char.ofNat (run.2.2.toNat + (code - run.1))]
    | none =>
        match joined.find? fun form => form.1 == code with
        | some form => form.2.toList
        | none => [character]

end LedgerCourier.LatinForms
