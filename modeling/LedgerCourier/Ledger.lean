import LedgerCourier.Event
import LedgerCourier.Failure
import LedgerCourier.Operation.CallData
import LedgerCourier.Status.Basic

/-!
What the courier needs from a ledger node and from a signer.

Building an extrinsic is done on the spot, by functions. Everything else is a request that
the node answers later or never: the next number of an account, the acceptance of an
extrinsic, the position of an extrinsic in a block, the events of a block. The reports about
an accepted extrinsic come on their own, as notices in a fixed order.
-/

namespace LedgerCourier

set_option autoImplicit false

inductive Signature where
  | ed25519 (bytes : Bytes)
  | sr25519 (bytes : Bytes)
  | ecdsa (bytes : Bytes)
deriving DecidableEq

/-- The number of the scheme, by which it is told from the others on the wire. -/
def Signature.schemeByte : Signature → UInt8
  | .ed25519 _ => 0
  | .sr25519 _ => 1
  | .ecdsa _ => 2

def Signature.bytes : Signature → Bytes
  | .ed25519 bytes | .sr25519 bytes | .ecdsa bytes => bytes

structure Signer where
  account : AccountId
  sign : Bytes → Except String Signature

structure Channel where
  /-- The bytes that authorise a call under a number once they are signed. -/
  payload : EncodedCall → Nat → Except Failure Bytes
  assemble : EncodedCall → Nat → AccountId → Signature → Except Failure Bytes

inductive Request where
  | nonce (account : AccountId)
  | send (extrinsic : Bytes)
  | position (block extrinsic : Hash)
  | events (block : Hash)
deriving DecidableEq

inductive Answer where
  | nonce (answer : Except Failure Nat)
  | sent (answer : Except Failure Unit)
  /-- The position is unknown if the block does not contain the extrinsic. -/
  | position (answer : Except Failure (Option Nat))
  | events (answer : Except Failure (List Event))

inductive Notice where
  | status (status : Status)
  | failure (cause : Failure)
deriving DecidableEq

end LedgerCourier
