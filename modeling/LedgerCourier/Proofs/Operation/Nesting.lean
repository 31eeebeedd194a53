import LedgerCourier.Operation.Basic

/-!
# Operations inside operations

Two kinds of operation carry others, to any depth. Whatever holds of an operation whenever it
holds of those it carries holds of every operation. The parts of an operation are itself and the
parts of those it carries.
-/

namespace LedgerCourier.Operation

set_option autoImplicit false

@[induction_eliminator]
theorem nested_induction {motive : Operation → Prop}
    (lock : ∀ amount, motive (.lock amount)) (release : ∀ amount, motive (.release amount))
    (setOwner : ∀ address, motive (.setOwner address))
    (setOperator : ∀ address, motive (.setOperator address))
    (setTransferKey : ∀ data, motive (.setTransferKey data))
    (setTreeKey : ∀ data, motive (.setTreeKey data))
    (transact : ∀ data, motive (.transact data))
    (setBalance : ∀ who free reserved, motive (.setBalance who free reserved))
    (asRoot : ∀ inner, motive inner → motive (.asRoot inner))
    (batch : ∀ calls, (∀ call ∈ calls, motive call) → motive (.batch calls))
    (operation : Operation) : motive operation := by
  refine @Operation.rec motive (fun calls => ∀ call ∈ calls, motive call) lock release setOwner
    setOperator setTransferKey setTreeKey transact setBalance asRoot batch ?_ ?_ operation
  · exact fun call member => absurd member List.not_mem_nil
  · intro first rest holds later call member
    rcases List.mem_cons.mp member with rfl | member
    · exact holds
    · exact later call member

inductive IsPart : Operation → Operation → Prop where
  | whole {operation : Operation} : IsPart operation operation
  | asRoot {part inner : Operation} (inside : IsPart part inner) : IsPart part (.asRoot inner)
  | batch {part call : Operation} {calls : List Operation} (member : call ∈ calls)
      (inside : IsPart part call) : IsPart part (.batch calls)

def Throughout (property : Operation → Prop) (operation : Operation) : Prop :=
  ∀ part, part.IsPart operation → property part

namespace Throughout

variable {property : Operation → Prop} {operation inner : Operation} {calls : List Operation}

theorem self (throughout : Throughout property operation) : property operation :=
  throughout operation .whole

theorem of_asRoot (throughout : Throughout property (.asRoot inner)) :
    Throughout property inner :=
  fun part inside => throughout part (.asRoot inside)

theorem of_batch (throughout : Throughout property (.batch calls)) {call : Operation}
    (member : call ∈ calls) : Throughout property call :=
  fun part inside => throughout part (.batch member inside)

theorem asRoot (outer : property (.asRoot inner)) (throughout : Throughout property inner) :
    Throughout property (.asRoot inner) := by
  intro part inside
  cases inside with
  | whole => exact outer
  | asRoot inside => exact throughout part inside

theorem batch (outer : property (.batch calls))
    (throughout : ∀ call ∈ calls, Throughout property call) :
    Throughout property (.batch calls) := by
  intro part inside
  cases inside with
  | whole => exact outer
  | batch member inside => exact throughout _ member part inside

end Throughout

end LedgerCourier.Operation
