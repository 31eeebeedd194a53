import LedgerCourier.Ledger

/-!
A node's own reports about an extrinsic, and the notices that are made of them.

A node tells more than the courier distinguishes. Extrinsics that wait for others and blocks
that are given up are passed over. A transaction that was replaced and one whose block was
not finalized in time are reported as invalid. The reports end with the first one that the
node does not go beyond; an error among them does not end them.
-/

namespace LedgerCourier

set_option autoImplicit false

/-- What a node reports about an extrinsic. -/
inductive NodeReport where
  | future
  | ready
  | broadcast
  | inBlock (block : Hash)
  | retracted (block : Hash)
  | finalityTimeout (block : Hash)
  | finalized (block : Hash)
  | usurped (extrinsic : Hash)
  | dropped
  | invalid
  | failure (cause : Failure)
deriving DecidableEq

namespace NodeReport

def notice? : NodeReport → Option Notice
  | .future | .retracted _ => none
  | .ready => some (.status .ready)
  | .broadcast => some (.status .broadcast)
  | .inBlock block => some (.status (.inBlock block))
  | .finalized block => some (.status (.finalized block))
  | .dropped => some (.status .dropped)
  | .invalid =>
      some (.status (.invalid "Transaction is invalid (eg because of a bad nonce, signature etc)"))
  | .usurped _ =>
      some (.status (.invalid "Transaction was usurped by another with the same nonce"))
  | .finalityTimeout _ => some (.status (.invalid "Finality timeout"))
  | .failure cause => some (.failure cause)

def isLast : NodeReport → Bool
  | .finalized _ | .dropped | .invalid | .usurped _ | .finalityTimeout _ => true
  | _ => false

/-- The notices that are made of reports, and whether the last report is among them. -/
def notices : List NodeReport → List Notice × Bool
  | [] => ([], false)
  | report :: rest =>
      if report.isLast then (report.notice?.toList, true)
      else
        let (following, ended) := notices rest
        (report.notice?.toList ++ following, ended)

end NodeReport

end LedgerCourier
