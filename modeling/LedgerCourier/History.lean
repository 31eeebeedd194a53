import LedgerCourier.Bytes.Hex
import LedgerCourier.Status.Basic
import LedgerCourier.Table

/-!
The statuses of the most recent transactions.

A store holds the accepted statuses of up to a fixed number of transactions under the text
of their hash. When a new transaction finds the store full, the one that was recorded first
makes room for it. Recording a transaction that is present does not make it younger. A
store without room keeps nothing.
-/

namespace LedgerCourier

set_option autoImplicit false

/-- Statuses by transaction, with the order in which the transactions came. -/
structure History where
  capacity : Nat
  statuses : Table String (List Status)
  order : List String

namespace History

def defaultCapacity : Nat := 1024

def withCapacity (capacity : Nat) : History := ⟨capacity, Table.empty, []⟩

def key (hash : Hash) : String := hash.text

def surplus (history : History) : Nat := history.order.length + 1 - history.capacity

/-- The store without its oldest transactions, down to room for one more. -/
def makeRoom (history : History) : History :=
  let leaving := history.order.take history.surplus
  { history with
    statuses := ⟨history.statuses.entries.filter fun entry => !leaving.contains entry.1⟩
    order := history.order.drop history.surplus }

def record (history : History) (hash : Hash) (status : Status) : History :=
  if history.capacity = 0 then history
  else
    match history.statuses.get? (key hash) with
    | some held =>
        { history with statuses := history.statuses.insert (key hash) (held ++ [status]) }
    | none =>
        let roomy := history.makeRoom
        { roomy with
          statuses := roomy.statuses.insert (key hash) [status]
          order := roomy.order ++ [key hash] }

def get? (history : History) (text : String) : Option (List Status) :=
  history.statuses.get? text

def size (history : History) : Nat := history.order.length

def isEmpty (history : History) : Bool := history.order.isEmpty

end History

end LedgerCourier
