import LedgerCourier.Error
import LedgerCourier.Keys.Secret
import LedgerCourier.Text.Blank
import LedgerCourier.Text.Utf8

/-!
Where a secret comes from: a text, or a file that holds a seed in hexadecimal.

A file is read as text. Blanks at its ends and every `0x` in front are dropped, and what is
left has to be the digits of 32 bytes. If both a text and a file are named, the text wins and
the file is not looked at.
-/

namespace LedgerCourier

set_option autoImplicit false

def Keys.SecretFlaw.message : Keys.SecretFlaw → String
  | .format => "Invalid secret phrase format"
  | .seed flaw => "Cannot parse hex string: " ++ EncodeError.hexMessage flaw
  | .phrase flaw => "Cannot parse phrase: " ++ flaw.message

namespace Secret

def ofText (text : String) : Except Error Secret :=
  match parse text with
  | .ok secret => .ok secret
  | .error flaw => .error (.keypairCreation flaw.message)

def seedOfText (text : List Char) : Except Error Bytes :=
  match Hex.decodeBytes (Hex.textBytes (Blank.dropMarks (Blank.trim text))) with
  | .error flaw => .error (.keyParse flaw)
  | .ok seed => if seed.length = 32 then .ok seed else .error (.invalidKeyLength seed.length)

/-- Reads a key file from its content. A file that does not exist has none. -/
def ofFile (path : String) (content : Option Bytes) : Except Error Secret :=
  match content with
  | none => .error (.keyFileRead path .missing)
  | some bytes =>
      match Utf8.decode bytes with
      | .error flaw => .error (.keyFileRead path (.notText flaw))
      | .ok text =>
          match seedOfText text with
          | .error error => .error error
          | .ok seed => .ok (ofSeed seed)

/-- Chooses between a secret text and a key file. The result is nothing if neither is named. -/
def choose (text path : Option String) (content : String → Option Bytes) :
    Option (Except Error Secret) :=
  match text, path with
  | some text, _ => some (ofText text)
  | none, some path => some (ofFile path (content path))
  | none, none => none

end Secret

end LedgerCourier
