import LedgerCourier.Nonce.Sequencer
import LedgerCourier.Progress

/-!
Errands to the sequencer.

There are three: reserving a number, giving one back, and forgetting what is known about an
account so that the ledger is asked anew. Each of them waits in the line of the account,
does its work as the head of the line and leaves. Only a reservation for an account that is
not known yet takes more than one step at the head: it asks the ledger and keeps its place
until the answer comes. A reservation that fails leaves the allocator as it was.
-/

namespace LedgerCourier

set_option autoImplicit false

inductive Errand.Purpose where
  | reserve
  | giveBack (number : Nat)
  | forget
deriving DecidableEq

inductive Errand.Stage where
  | arriving
  | inLine
  /-- At the head of the line, with a question to the ledger. -/
  | asking
deriving DecidableEq

structure Errand where
  account : AccountId
  purpose : Errand.Purpose
  stage : Errand.Stage
deriving DecidableEq

inductive Errand.Result where
  | reserved (number : Nat)
  | exhausted
  | failed (cause : Failure)
  | done
deriving DecidableEq

namespace Errand

def start (account : AccountId) (purpose : Purpose) : Errand := ⟨account, purpose, .arriving⟩

/-- Takes a number where `next` is the least one that was never handed out, and leaves. -/
def takeNumber (task : TaskId) (sequencer : Sequencer) (account : AccountId) (next : Nat) :
    Sequencer × Progress Errand Result :=
  match (sequencer.allocator account).take next with
  | some (number, allocator) =>
      ((sequencer.withAllocator account allocator).leave account task, .ends (.reserved number))
  | none => (sequencer.leave account task, .ends .exhausted)

def serve (task : TaskId) (sequencer : Sequencer) (errand : Errand) :
    Sequencer × Progress Errand Result :=
  let allocator := sequencer.allocator errand.account
  let finish (allocator : Allocator) : Sequencer × Progress Errand Result :=
    ((sequencer.withAllocator errand.account allocator).leave errand.account task, .ends .done)
  match errand.purpose with
  | .giveBack number => finish (allocator.giveBack number)
  | .forget => finish Allocator.start
  | .reserve =>
      match allocator.next with
      | some next => takeNumber task sequencer errand.account next
      | none =>
          (sequencer, .goesOn { errand with stage := .asking } (some (.nonce errand.account)))

def advance (task : TaskId) (sequencer : Sequencer) (answer : Option Answer)
    (errand : Errand) : Sequencer × Progress Errand Result :=
  match errand.stage with
  | .arriving =>
      (sequencer.enter errand.account task, .goesOn { errand with stage := .inLine } none)
  | .inLine =>
      if sequencer.isHead errand.account task then serve task sequencer errand
      else (sequencer, .waits)
  | .asking =>
      match answer with
      | some (.nonce (.ok next)) => takeNumber task sequencer errand.account next
      | some (.nonce (.error cause)) =>
          (sequencer.leave errand.account task, .ends (.failed cause))
      | _ => (sequencer, .waits)

/-- An errand that is given up leaves the line, if it had entered it. -/
def abandon (task : TaskId) (sequencer : Sequencer) (errand : Errand) : Sequencer :=
  match errand.stage with
  | .arriving => sequencer
  | _ => sequencer.leave errand.account task

end Errand

end LedgerCourier
