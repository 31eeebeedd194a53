import LedgerCourier.Progress

/-!
Collecting the events of one extrinsic.

The extrinsic is first looked up in its block. If it is not there, it has no events. The
events of the block are then narrowed down to the phase in which the extrinsic at that
position was applied. A failure of either question is reported with the block.
-/

namespace LedgerCourier

set_option autoImplicit false

inductive Collection where
  | starting (block extrinsic : Hash)
  | locating (block : Hash)
  | located (block : Hash) (index : Nat)
  | fetching (block : Hash) (index : Nat)
deriving DecidableEq

namespace Collection

def advance (answer : Option Answer) :
    Collection → Progress Collection (Except Error (List Event))
  | .starting block extrinsic => .goesOn (.locating block) (some (.position block extrinsic))
  | .locating block =>
      match answer with
      | some (.position (.ok (some index))) => .goesOn (.located block index) none
      | some (.position (.ok none)) => .ends (.ok [])
      | some (.position (.error cause)) => .ends (.error (.fetchEvents block cause))
      | _ => .waits
  | .located block index => .goesOn (.fetching block index) (some (.events block))
  | .fetching block index =>
      match answer with
      | some (.events (.ok events)) => .ends (.ok (Event.ofExtrinsic index events))
      | some (.events (.error cause)) => .ends (.error (.fetchEvents block cause))
      | _ => .waits

end Collection

end LedgerCourier
