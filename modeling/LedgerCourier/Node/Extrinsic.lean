import LedgerCourier.Bytes.Compact
import LedgerCourier.Digest.Blake2b
import LedgerCourier.Ledger

/-!
The wire form of extrinsics on an ordinary ledger.

An extrinsic is written behind its length. A signed one names its origin, carries the
signature and four extensions (mortality, nonce, tip and the mode of the metadata check)
and ends with the call data; a bare one is call data alone. What is signed is the call data
with the extensions and with the facts about the ledger that both sides have to agree on.
When that is longer than 256 bytes, its digest is signed instead.
-/

namespace LedgerCourier

set_option autoImplicit false

structure ChainFacts where
  specVersion : Nat
  transactionVersion : Nat
  genesis : Hash
  /-- The name of an extension that the runtime demands and nobody here can fill in. -/
  unknownExtension : Option String

namespace Extrinsic

/-- The extensions: immortal, the nonce, no tip, and no check of the metadata. -/
def extensions (nonce : Nat) : Bytes := 0 :: Compact.encode nonce ++ [0, 0]

def signedFacts (facts : ChainFacts) (call : EncodedCall) (nonce : Nat) : Bytes :=
  call.data ++ extensions nonce ++ littleEndian 4 facts.specVersion ++
    littleEndian 4 facts.transactionVersion ++ facts.genesis.bytes ++ facts.genesis.bytes ++ [0]

def payload (facts : ChainFacts) (call : EncodedCall) (nonce : Nat) : Bytes :=
  let covered := signedFacts facts call nonce
  if 256 < covered.length then (Blake2b.digest256 covered).bytes else covered

def signed (call : EncodedCall) (nonce : Nat) (origin : AccountId) (signature : Signature) :
    Bytes :=
  Compact.encodeBytes
    ([0x84, 0] ++ origin.bytes ++ signature.schemeByte :: signature.bytes ++
      extensions nonce ++ call.data)

structure Parts where
  origin : AccountId
  nonce : Nat
  data : Bytes
deriving DecidableEq

/-- How long a signature is, told by the number of its scheme. -/
def signatureLength (scheme : UInt8) : Nat := if scheme = 2 then 65 else 64

def readTail (origin : AccountId) : Bytes → Option Parts
  | 0 :: rest =>
      match Compact.decode rest with
      | some (nonce, 0 :: 0 :: data) => some ⟨origin, nonce, data⟩
      | _ => none
  | _ => none

def parts? (extrinsic : Bytes) : Option Parts :=
  match Compact.decodeBytes extrinsic with
  | some (0x84 :: 0 :: body, []) =>
      match readFixed 32 body with
      | some (key, scheme :: rest) =>
          match Bytes32.ofBytes? key, readFixed (signatureLength scheme) rest with
          | some origin, some (_, tail) => readTail origin tail
          | _, _ => none
      | _ => none
  | _ => none

def bare (call : EncodedCall) : Bytes := Compact.encodeBytes (4 :: call.data)

def channel (facts : ChainFacts) : Channel where
  payload := fun call nonce =>
    match facts.unknownExtension with
    | some name => .error (.unknownExtension name)
    | none => .ok (payload facts call nonce)
  assemble := fun call nonce origin signature =>
    match facts.unknownExtension with
    | some name => .error (.unknownExtension name)
    | none => .ok (signed call nonce origin signature)

end Extrinsic

end LedgerCourier
