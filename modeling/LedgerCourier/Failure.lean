import LedgerCourier.Bytes.Hex

/-!
What a ledger node reports when it cannot do what it was asked.
-/

namespace LedgerCourier

set_option autoImplicit false

/-- The causes that a node can give. -/
inductive Failure where
  | other (message : String)
  | request (message : String)
  /-- The runtime demands an extension of extrinsics that nobody here can fill in. -/
  | unknownExtension (name : String)
  | nonceWidth (count : Nat)
  | noStorage (pallet : String)
  | unknownBlock (block : Hash)
deriving DecidableEq

def Failure.text : Failure → String
  | .other message => "Other error: " ++ message
  | .request message => "RPC error: " ++ message
  | .unknownExtension name =>
      "Extrinsic params error: The chain expects a signed extension with the name " ++ name ++
        ", but we did not provide one"
  | .nonceWidth count =>
      "Error decoding into dynamic value: Error at : Custom error: state call " ++
        "AccountNonceApi_account_nonce returned an unexpected number of bytes: " ++
        toString count ++ " (expected 2, 4 or 8)"
  | .noStorage pallet =>
      "Metadata error: Storage details not found in pallet with name " ++ pallet
  | .unknownBlock block =>
      "Block error: Could not find a block with hash " ++ block.text ++
        " (perhaps it was on a non-finalized fork?)"

end LedgerCourier
