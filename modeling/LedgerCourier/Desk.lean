import LedgerCourier.History
import LedgerCourier.Nonce.Sequencer

/-!
What all deliveries of one courier share: the numbers of the accounts, the count of the
transactions that are being watched, and the history.
-/

namespace LedgerCourier

set_option autoImplicit false

/-- The state that is shared between deliveries. -/
structure Desk where
  sequencer : Sequencer
  watches : Nat
  history : History

def Desk.start (historyCapacity : Nat) : Desk :=
  ⟨Sequencer.start, 0, History.withCapacity historyCapacity⟩

end LedgerCourier
