import LedgerCourier.Error
import LedgerCourier.Event

/-!
What a caller gets once a transaction has reached the depth that was asked for.
-/

namespace LedgerCourier

set_option autoImplicit false

structure Outcome where
  status : Status
  block : Hash
  /-- The transaction's own events, none if they could not be collected. -/
  events : List Event
  nonce : Nat
  hash : Hash
  history : List Status
  dispatch : Dispatch
deriving DecidableEq

namespace Outcome

/-- Makes an error of an outcome whose dispatch failed. -/
def ensureSuccess (outcome : Outcome) : Except Error Outcome :=
  match outcome.dispatch with
  | .failed details => .error (.extrinsicFailed outcome.nonce outcome.hash details)
  | _ => .ok outcome

def lines (outcome : Outcome) : List String :=
  ["Transaction status: " ++ outcome.status.name,
    "Included at block hash " ++ outcome.block.text,
    "Nonce " ++ toString outcome.nonce ++ " / tx hash " ++ outcome.hash.text,
    "Events:"] ++ outcome.events.map fun event => "\t " ++ event.text

def report (outcome : Outcome) : String :=
  String.join (outcome.lines.map fun line => line ++ "\n")

end Outcome

end LedgerCourier
