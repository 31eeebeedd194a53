import LedgerCourier.Bytes.Hex
import LedgerCourier.Text.Utf8

/-!
What can be wrong with the texts and files that hold secret keys.
-/

namespace LedgerCourier.Keys

set_option autoImplicit false

inductive PhraseFlaw where
  | wordCount (count : Nat)
  | unknownWord (index : Nat)
  /-- The last bits do not fit the others. -/
  | checksum
deriving DecidableEq

def PhraseFlaw.message : PhraseFlaw → String
  | .wordCount count =>
      "mnemonic has an invalid word count: " ++ toString count ++
        ". Word count must be 12, 15, 18, 21, or 24"
  | .unknownWord index =>
      "mnemonic contains an unknown word (word " ++ toString index ++ ")"
  | .checksum => "the mnemonic has an invalid checksum"

inductive SecretFlaw where
  | format
  | seed (flaw : Hex.Flaw)
  | phrase (flaw : PhraseFlaw)
deriving DecidableEq

inductive FileFlaw where
  | missing
  | notText (flaw : Utf8.Flaw)
deriving DecidableEq

def FileFlaw.message : FileFlaw → String
  | .missing => "No such file or directory (os error 2)"
  | .notText flaw => flaw.message

end LedgerCourier.Keys
