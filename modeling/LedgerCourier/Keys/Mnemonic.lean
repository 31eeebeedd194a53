import LedgerCourier.Digest.Sha256
import LedgerCourier.Keys.Flaw
import LedgerCourier.Keys.WordList
import LedgerCourier.Text.LatinForms

/-!
Mnemonic phrases.

A phrase writes random bits as words, eleven bits to a word. The last bits, one for every
three words, are the first bits of a digest of the others. The number of words is judged
before the words themselves, and the words before the check bits.
-/

namespace LedgerCourier.Mnemonic

set_option autoImplicit false

def bits : Nat → Nat → List Bool
  | 0, _ => []
  | width + 1, number => number.testBit width :: bits width number

def ofBits (bits : List Bool) : Nat :=
  bits.foldl (fun number bit => number * 2 + if bit then 1 else 0) 0

def bytesOfBits (count : Nat) (bits : List Bool) : Bytes :=
  (List.range count).map fun index => UInt8.ofNat (ofBits ((bits.drop (8 * index)).take 8))

def wordCounts : List Nat := [12, 15, 18, 21, 24]

def lookUp (position : Nat) : List (List Char) → Except Keys.PhraseFlaw (List Nat)
  | [] => .ok []
  | word :: rest =>
      match WordList.index? word with
      | none => .error (.unknownWord position)
      | some index =>
          match lookUp (position + 1) rest with
          | .error flaw => .error flaw
          | .ok indices => .ok (index :: indices)

/-- Separates the random bytes from the check bits behind them and checks those. -/
def checked (indices : List Nat) : Except Keys.PhraseFlaw Bytes :=
  let all := indices.flatMap (bits 11)
  let checkLength := indices.length / 3
  let randomLength := all.length - checkLength
  let entropy := bytesOfBits (randomLength / 8) (all.take randomLength)
  let check := ((Sha256.digest entropy).flatMap fun byte => bits 8 byte.toNat).take checkLength
  if all.drop randomLength = check then .ok entropy else .error .checksum

/-- Reads the random bytes of a phrase. Letters count in any of their forms. -/
def entropy (phrase : List Char) : Except Keys.PhraseFlaw Bytes :=
  let words := WordList.splitAtBlanks [] (phrase.flatMap LatinForms.plain)
  if wordCounts.contains words.length then
    match lookUp 0 words with
    | .error flaw => .error flaw
    | .ok indices => checked indices
  else .error (.wordCount words.length)

end LedgerCourier.Mnemonic
