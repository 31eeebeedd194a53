import LedgerCourier.Account.Base58
import LedgerCourier.Bytes.Hex
import LedgerCourier.Digest.Blake2b
import LedgerCourier.Text.Blank

/-!
Account texts.

An account is written as an address: a network number, the key and a checksum of both, in
base 58. Network numbers below 64 take one byte and are what the byte says; the others take
two bytes, of which the first lies between 64 and 127. Addresses of every network are read,
and so is the key itself as sixty-four hexadecimal digits behind `0x`. Addresses are
always written for the generic network, number 42.
-/

namespace LedgerCourier.Address

set_option autoImplicit false

/-- What the checksum covers in front of the address, so that it cannot be taken for a hash
of something else: the characters `SS58PRE`. -/
def checksumContext : Bytes := [0x53, 0x53, 0x35, 0x38, 0x50, 0x52, 0x45]

def checksum (body : Bytes) : Bytes := (Blake2b.digest512 (checksumContext ++ body)).take 2

def encodeWith (network : Bytes) (account : AccountId) : List Char :=
  let body := network ++ account.bytes
  Base58.encode (body ++ checksum body)

def networkLength? (first : UInt8) : Option Nat :=
  if first < 64 then some 1 else if first < 128 then some 2 else none

def decode (text : List Char) : Option AccountId :=
  match Base58.decode text with
  | none => none
  | some [] => none
  | some (first :: rest) =>
      match networkLength? first with
      | none => none
      | some length =>
          let data := first :: rest
          if data.length = length + 34 then
            let body := data.take (length + 32)
            if data.drop (length + 32) = checksum body then
              Bytes32.ofBytes? (body.drop length)
            else none
          else none

/-- Reads an account text: a key behind `0x`, or else an address. Blanks around it do not
count. The error is the text without them. -/
def parse (text : String) : Except String AccountId :=
  let trimmed := Blank.trim text.toList
  let account := match trimmed with
    | '0' :: 'x' :: digits =>
        match Hex.decodeBytes (Hex.textBytes digits) with
        | .ok bytes => Bytes32.ofBytes? bytes
        | .error _ => none
    | other => decode other
  match account with
  | some account => .ok account
  | none => .error (String.ofList trimmed)

end LedgerCourier.Address

namespace LedgerCourier

def AccountId.text (account : AccountId) : String :=
  String.ofList (Address.encodeWith [42] account)

end LedgerCourier
