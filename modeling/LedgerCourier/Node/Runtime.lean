import LedgerCourier.Operation.CallData

/-!
The runtime of an ordinary ledger of the kind that the courier serves.
-/

namespace LedgerCourier.Runtime

set_option autoImplicit false

def pallets : List Pallet :=
  [⟨"System", 0, []⟩,
    ⟨"Utility", 1, [("batch", 0)]⟩,
    ⟨"Balances", 4, [("set_balance", 1)]⟩,
    ⟨"Sudo", 5, [("sudo", 0)]⟩,
    ⟨"Zeropool", 40, [("lock", 0), ("release", 1), ("set_owner", 2), ("set_operator", 3),
      ("set_transfer_vk", 4), ("set_tree_vk", 5), ("transact", 6)]⟩]

def indices : CallIndices := CallIndices.ofRuntime pallets {}

end LedgerCourier.Runtime
