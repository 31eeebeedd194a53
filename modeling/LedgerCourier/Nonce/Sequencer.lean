import LedgerCourier.Bytes.Basic
import LedgerCourier.Nonce.Allocator
import LedgerCourier.Table

/-!
The numbers of all accounts, and the lines in front of them.

Whoever wants to use the allocator of an account stands in line for it. The head of the line
has the allocator for itself, also while it waits for the ledger's answer, and the others
follow in the order in which they came. Somebody who gives up leaves the line from wherever
they stand. The lines of different accounts have nothing to do with each other.
-/

namespace LedgerCourier

set_option autoImplicit false

abbrev TaskId := Nat

/-- The allocator of an account and the line in front of it. -/
structure Counter where
  allocator : Allocator
  line : List TaskId
deriving DecidableEq

structure Sequencer where
  counters : Table AccountId Counter

namespace Sequencer

def start : Sequencer := ⟨Table.empty⟩

/-- The counter of an account, a new one if the account was not met yet. -/
def counter (sequencer : Sequencer) (account : AccountId) : Counter :=
  (sequencer.counters.get? account).getD ⟨Allocator.start, []⟩

def allocator (sequencer : Sequencer) (account : AccountId) : Allocator :=
  (sequencer.counter account).allocator

def update (sequencer : Sequencer) (account : AccountId) (change : Counter → Counter) :
    Sequencer :=
  ⟨sequencer.counters.insert account (change (sequencer.counter account))⟩

theorem counter_update (sequencer : Sequencer) (account other : AccountId)
    (change : Counter → Counter) :
    (sequencer.update account change).counter other =
      if account = other then change (sequencer.counter account)
      else sequencer.counter other := by
  by_cases same : account = other
  · subst same
    simp [counter, update]
  · simp [counter, update, same]

def isHead (sequencer : Sequencer) (account : AccountId) (task : TaskId) : Bool :=
  (sequencer.counter account).line.head? == some task

def enter (sequencer : Sequencer) (account : AccountId) (task : TaskId) : Sequencer :=
  sequencer.update account fun counter => { counter with line := counter.line ++ [task] }

def leave (sequencer : Sequencer) (account : AccountId) (task : TaskId) : Sequencer :=
  sequencer.update account fun counter => { counter with line := counter.line.erase task }

def withAllocator (sequencer : Sequencer) (account : AccountId) (allocator : Allocator) :
    Sequencer :=
  sequencer.update account fun counter => { counter with allocator := allocator }

end Sequencer

end LedgerCourier
