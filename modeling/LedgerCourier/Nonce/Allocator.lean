/-!
The numbers of one account.

Every transaction of an account carries a number, and the ledger executes them in order
without a gap. An allocator hands out the least number that is not in use. It starts from
what the ledger says, counts on from there, and takes numbers back that were not used after
all: a number given back from the very end shortens the count, one from the middle is kept
for the next caller. Numbers have 64 bits, so there is a last one.
-/

namespace LedgerCourier

set_option autoImplicit false

/-- The numbers of an account that are in use: those below `next` that were not given back. -/
structure Allocator where
  next : Option Nat
  released : List Nat
deriving DecidableEq

namespace Allocator

def start : Allocator := ⟨none, []⟩

def limit : Nat := UInt64.size

def insertAscending (number : Nat) : List Nat → List Nat
  | [] => [number]
  | other :: rest =>
      if number < other then number :: other :: rest
      else if number = other then other :: rest
      else other :: insertAscending number rest

/-- Hands out the least number that is not in use, where `next` is the least one that was
never handed out. There is none once the count behind it would leave 64 bits. -/
def take (allocator : Allocator) (next : Nat) : Option (Nat × Allocator) :=
  match allocator.released with
  | least :: rest => some (least, { allocator with released := rest })
  | [] => if next + 1 < limit then some (next, ⟨some (next + 1), []⟩) else none

def rewind : Nat → List Nat → Nat × List Nat
  | 0, released => (0, released)
  | last + 1, released =>
      if last ∈ released then rewind last (released.erase last) else (last + 1, released)

/-- Takes a number back. Numbers that were never handed out are ignored. -/
def giveBack (allocator : Allocator) (number : Nat) : Allocator :=
  match allocator.next with
  | none => allocator
  | some next =>
      if next ≤ number then allocator
      else if number + 1 = next then
        let (rewound, released) := rewind number allocator.released
        ⟨some rewound, released⟩
      else { allocator with released := insertAscending number allocator.released }

def uses (allocator : Allocator) (number : Nat) : Bool :=
  allocator.next.any (fun next => number < next) && !allocator.released.contains number

end Allocator

end LedgerCourier
