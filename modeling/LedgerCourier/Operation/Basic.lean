import LedgerCourier.Bytes.Basic

/-!
The operations that can be submitted, and the calls of the ledger's runtime behind them.

There are ten kinds of operation. Two of them carry others: an operation may be dispatched
with root origin, and several may be dispatched one after another as a batch. Each kind has
a tag, under which users know it, and leads to one call of one of four pallets, whose names
differ between runtimes.
-/

namespace LedgerCourier

set_option autoImplicit false

/-- One more than the greatest amount: the 128th power of two. -/
def amountLimit : Nat := 0x100000000000000000000000000000000

/-- A number of the smallest units of the ledger's currency, which has 128 bits. -/
structure Amount where
  units : Nat
  bounded : units < amountLimit
deriving DecidableEq

namespace Amount

def ofNat? (units : Nat) : Option Amount :=
  if bounded : units < amountLimit then some ⟨units, bounded⟩ else none

def zero : Amount := ⟨0, by decide⟩

end Amount

inductive Operation where
  | lock (amount : Amount)
  | release (amount : Amount)
  | setOwner (address : AccountId)
  | setOperator (address : AccountId)
  | setTransferKey (data : Bytes)
  | setTreeKey (data : Bytes)
  | transact (data : Bytes)
  | setBalance (who : AccountId) (free reserved : Amount)
  | asRoot (inner : Operation)
  | batch (calls : List Operation)

namespace Operation

inductive Kind where
  | lock | release | setOwner | setOperator | setTransferKey | setTreeKey | transact
  | setBalance | asRoot | batch
deriving DecidableEq

def kind : Operation → Kind
  | .lock _ => .lock
  | .release _ => .release
  | .setOwner _ => .setOwner
  | .setOperator _ => .setOperator
  | .setTransferKey _ => .setTransferKey
  | .setTreeKey _ => .setTreeKey
  | .transact _ => .transact
  | .setBalance _ _ _ => .setBalance
  | .asRoot _ => .asRoot
  | .batch _ => .batch

def Kind.all : List Kind :=
  [.lock, .release, .setOwner, .setOperator, .setTransferKey, .setTreeKey, .transact,
    .setBalance, .asRoot, .batch]

def Kind.tag : Kind → String
  | .lock => "lock"
  | .release => "release"
  | .setOwner => "setOwner"
  | .setOperator => "setOperator"
  | .setTransferKey => "setTransferVk"
  | .setTreeKey => "setTreeVk"
  | .transact => "transact"
  | .setBalance => "setBalance"
  | .asRoot => "sudo"
  | .batch => "batch"

def Kind.callName : Kind → String
  | .lock => "lock"
  | .release => "release"
  | .setOwner => "set_owner"
  | .setOperator => "set_operator"
  | .setTransferKey => "set_transfer_vk"
  | .setTreeKey => "set_tree_vk"
  | .transact => "transact"
  | .setBalance => "set_balance"
  | .asRoot => "sudo"
  | .batch => "batch"

def tag (operation : Operation) : String := operation.kind.tag

end Operation

structure PalletNames where
  pool : String := "Zeropool"
  utility : String := "Utility"
  privilege : String := "Sudo"
  balances : String := "Balances"
deriving DecidableEq

namespace PalletNames

def palletOf (names : PalletNames) : Operation.Kind → String
  | .setBalance => names.balances
  | .asRoot => names.privilege
  | .batch => names.utility
  | _ => names.pool

/-- The pallet and the call that a kind of operation leads to. -/
def callOf (names : PalletNames) (kind : Operation.Kind) : String × String :=
  (names.palletOf kind, kind.callName)

def knownCalls (names : PalletNames) : List (String × String) :=
  [(names.pool, "lock"), (names.pool, "release"), (names.pool, "set_owner"),
    (names.pool, "set_operator"), (names.pool, "set_transfer_vk"), (names.pool, "set_tree_vk"),
    (names.pool, "transact"), (names.balances, "set_balance"), (names.privilege, "sudo"),
    (names.utility, "batch")]

end PalletNames

end LedgerCourier
