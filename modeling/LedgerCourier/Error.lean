import LedgerCourier.Failure
import LedgerCourier.Keys.Flaw
import LedgerCourier.Operation.CallData
import LedgerCourier.Status.Basic

/-!
The ways in which submitting a transaction can fail.

Every error says what is known about the transaction it belongs to, so that a caller can
reconcile its own books: the number that the transaction used, if one had been assigned, and
the hash of the extrinsic, if it had been sent. Two of the errors may be answered by
submitting the transaction once more.
-/

namespace LedgerCourier

set_option autoImplicit false

inductive Error where
  /-- The first question for the number of an account failed. -/
  | nonceInit (account : AccountId) (cause : Failure)
  | encode (cause : EncodeError)
  | sign (nonce : Nat) (message : String)
  | build (nonce : Nat) (cause : Failure)
  | submit (nonce : Nat) (cause : Failure)
  | rejected (nonce : Nat) (hash : Hash) (reason : String)
  | dropped (nonce : Nat) (hash : Hash)
  | usurped (nonce : Nat) (hash : Hash)
  /-- The time was up before the outcome was known. The transaction may still be included. -/
  | timeout (nonce : Option Nat) (hash : Option Hash) (lastStatus : Option Status)
  | cancelled (nonce : Option Nat) (hash : Option Hash)
  | watch (nonce : Nat) (hash : Hash) (cause : Failure)
  | subscriptionClosed (nonce : Nat) (hash : Hash)
  | fetchEvents (block : Hash) (cause : Failure)
  /-- Some other question about the ledger's state failed. -/
  | queryFailed (cause : Failure)
  | extrinsicFailed (nonce : Nat) (hash : Hash) (details : String)
  | keyFileRead (path : String) (cause : Keys.FileFlaw)
  | keyParse (flaw : Hex.Flaw)
  | invalidKeyLength (length : Nat)
  | keypairCreation (message : String)
  | connection (url : String) (cause : Failure)
deriving DecidableEq

namespace Error

/-- The number that the failed transaction used, if one had been assigned. -/
def nonce? : Error → Option Nat
  | .sign nonce _ | .build nonce _ | .submit nonce _ | .rejected nonce _ _ | .dropped nonce _
  | .usurped nonce _ | .watch nonce _ _ | .subscriptionClosed nonce _
  | .extrinsicFailed nonce _ _ => some nonce
  | .timeout nonce _ _ | .cancelled nonce _ => nonce
  | _ => none

def isRetryable : Error → Bool
  | .dropped _ _ | .submit _ _ => true
  | _ => false

def optional : Option String → String
  | none => "None"
  | some text => "Some(" ++ text ++ ")"

def message : Error → String
  | .nonceInit account cause =>
      "Error fetching initial nonce for " ++ account.text ++ ": " ++ cause.text
  | .encode cause => "Error encoding call: " ++ cause.message
  | .sign nonce message =>
      "Error signing transaction with nonce " ++ toString nonce ++ ": " ++ message
  | .build nonce cause =>
      "Error building extrinsic with nonce " ++ toString nonce ++ ": " ++ cause.text
  | .submit nonce cause =>
      "Error submitting tx with nonce " ++ toString nonce ++ ": " ++ cause.text
  | .rejected nonce hash reason =>
      "Transaction " ++ hash.text ++ " with nonce " ++ toString nonce ++
        " rejected as invalid: " ++ reason
  | .dropped nonce hash =>
      "Transaction " ++ hash.text ++ " with nonce " ++ toString nonce ++ " dropped"
  | .usurped nonce hash =>
      "Transaction " ++ hash.text ++ " with nonce " ++ toString nonce ++ " usurped"
  | .timeout nonce hash lastStatus =>
      "Timed out waiting for transaction " ++ optional (hash.map Hash.text) ++ " with nonce " ++
        optional (nonce.map toString) ++ ", last status " ++
        optional (lastStatus.map Status.quotedText)
  | .cancelled nonce hash =>
      "Stopped waiting for transaction " ++ optional (hash.map Hash.text) ++ " with nonce " ++
        optional (nonce.map toString)
  | .watch nonce hash cause =>
      "Error while watching transaction " ++ hash.text ++ " with nonce " ++ toString nonce ++
        ": " ++ cause.text
  | .subscriptionClosed nonce hash =>
      "Status subscription for transaction " ++ hash.text ++ " with nonce " ++ toString nonce ++
        " closed early"
  | .fetchEvents block cause =>
      "Error fetching events for block " ++ block.text ++ ": " ++ cause.text
  | .queryFailed cause => "Chain state query failed: " ++ cause.text
  | .extrinsicFailed nonce hash details =>
      "Extrinsic " ++ hash.text ++ " with nonce " ++ toString nonce ++ " failed execution: " ++
        details
  | .keyFileRead path cause =>
      "Failed to read substrate key from file '" ++ path ++ "': " ++ cause.message
  | .keyParse flaw => "Failed to parse substrate key as hex: " ++ EncodeError.hexMessage flaw
  | .invalidKeyLength length =>
      "Invalid key length: expected 32 bytes, got " ++ toString length
  | .keypairCreation message => "Failed to create keypair: " ++ message
  | .connection url cause => "Error connecting to chain at " ++ url ++ ": " ++ cause.text

end Error

end LedgerCourier
