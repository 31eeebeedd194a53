import LedgerCourier.Proofs.Operation.Headers

/-!
# Call data put together

An operation is encoded by going through its parts in order, an operation before those that it
carries. The first part whose call has no numbers ends this, and the error names its call, whatever
is wrong with later ones. If there is no such part, then an operation that carries others has their
own call data behind its numbers.
-/

namespace LedgerCourier

set_option autoImplicit false

def EncodeError.of? {Value : Type} : Except EncodeError Value → Option EncodeError
  | .error error => some error
  | .ok _ => none

theorem EncodeError.of_eq_some {Value : Type} (attempt : Except EncodeError Value)
    (error : EncodeError) : EncodeError.of? attempt = some error ↔ attempt = .error error := by
  cases attempt <;> simp [EncodeError.of?]

theorem EncodeError.of_eq_none {Value : Type} (attempt : Except EncodeError Value) :
    EncodeError.of? attempt = none ↔ ∃ value, attempt = .ok value := by
  cases attempt <;> simp [EncodeError.of?]

theorem EncodeError.of_map {Value Image : Type} (attempt : Except EncodeError Value)
    (change : Value → Image) :
    EncodeError.of? (attempt.map change) = EncodeError.of? attempt := by
  cases attempt <;> rfl

namespace Operation

mutual

/-- The parts of an operation, each in front of the parts of those that it carries. -/
def preorder : Operation → List Operation
  | .asRoot inner => .asRoot inner :: inner.preorder
  | .batch calls => .batch calls :: preorderEach calls
  | operation => [operation]

def preorderEach : List Operation → List Operation
  | [] => []
  | call :: rest => call.preorder ++ preorderEach rest

end

theorem placed_each_preorder (calls : List Operation)
    (each : ∀ call ∈ calls, ∀ place, (call.placed place).map Prod.snd = call.preorder)
    (place : Nat) : (placedEach place calls).map Prod.snd = preorderEach calls := by
  induction calls generalizing place with
  | nil => rfl
  | cons call rest induction =>
      have later := induction fun other member => each other (List.mem_cons_of_mem call member)
      rw [placedEach, List.map_append, each call List.mem_cons_self, later, preorderEach]

/-- The parts come in the order of their places in call data. -/
theorem placed_preorder (operation : Operation) (place : Nat) :
    (operation.placed place).map Prod.snd = operation.preorder := by
  induction operation generalizing place with
  | lock | release | setOwner | setOperator | setTransferKey | setTreeKey | transact
  | setBalance => rfl
  | asRoot inner induction => rw [placed, List.map_cons, induction, preorder]
  | batch calls induction =>
      rw [placed, List.map_cons, placed_each_preorder calls induction, preorder]

theorem mem_preorder (operation part : Operation) :
    part ∈ operation.preorder ↔ part.IsPart operation := by
  rw [operation.is_part_iff part 0, ← operation.placed_preorder 0]
  simp

end Operation

namespace CallEncoder

/-- The error that the first of several parts brings about, if one of them does. -/
def refusal? (encoder : CallEncoder) (parts : List Operation) : Option EncodeError :=
  parts.findSome? fun part => EncodeError.of? (encoder.header part.kind)

theorem refusal_cons (encoder : CallEncoder) (part : Operation) (rest : List Operation) :
    encoder.refusal? (part :: rest) =
      (EncodeError.of? (encoder.header part.kind)).or (encoder.refusal? rest) := by
  unfold refusal?
  rw [List.findSome?_cons]
  cases EncodeError.of? (encoder.header part.kind) <;> rfl

theorem refusal_append (encoder : CallEncoder) (first rest : List Operation) :
    encoder.refusal? (first ++ rest) = (encoder.refusal? first).or (encoder.refusal? rest) :=
  List.findSome?_append

theorem header_refused (encoder : CallEncoder) (kind : Operation.Kind) (error : EncodeError) :
    EncodeError.of? (encoder.header kind) = some error ↔ encoder.numbers? kind = none ∧
      error = .unknownCall (encoder.names.callOf kind).1 (encoder.names.callOf kind).2 := by
  rw [EncodeError.of_eq_some]
  cases known : encoder.numbers? kind with
  | none =>
      have unknown : encoder.indices.get? (encoder.names.callOf kind) = none := known
      simp [header, unknown, eq_comm]
  | some numbers => simp [header_eq encoder known]

theorem header_accepted (encoder : CallEncoder) (operation : Operation) :
    EncodeError.of? (encoder.header operation.kind) = none ↔ encoder.IsKnown operation := by
  unfold IsKnown
  cases known : encoder.numbers? operation.kind with
  | none =>
      have refused := (encoder.header_refused operation.kind _).mpr ⟨known, rfl⟩
      simp [refused]
  | some numbers => simp [header_eq encoder known, EncodeError.of?]

theorem with_header_refusal (encoder : CallEncoder) (kind : Operation.Kind)
    (arguments : Except EncodeError Bytes) :
    EncodeError.of? (encoder.withHeader kind arguments) =
      (EncodeError.of? (encoder.header kind)).or (EncodeError.of? arguments) := by
  unfold withHeader
  cases encoder.header kind with
  | error error => rfl
  | ok header => cases arguments <;> rfl

theorem calls_data_refusal (encoder : CallEncoder) (calls : List Operation)
    (each : ∀ call ∈ calls,
      EncodeError.of? (encoder.callData call) = encoder.refusal? call.preorder) :
    EncodeError.of? (encoder.callsData calls) =
      encoder.refusal? (Operation.preorderEach calls) := by
  induction calls with
  | nil => rfl
  | cons call rest induction =>
      have later := induction fun other member => each other (List.mem_cons_of_mem call member)
      rw [Operation.preorderEach, refusal_append, ← later, ← each call List.mem_cons_self,
        callsData]
      cases encoder.callData call with
      | error error => rfl
      | ok first => cases encoder.callsData rest <;> rfl

theorem call_data_refusal (encoder : CallEncoder) (operation : Operation) :
    EncodeError.of? (encoder.callData operation) = encoder.refusal? operation.preorder := by
  induction operation with
  | lock | release | setOwner | setOperator | setTransferKey | setTreeKey | transact
  | setBalance =>
      rw [call_data_eq, with_header_refusal]
      simp [refusal?, arguments, EncodeError.of?, Operation.preorder]
  | asRoot inner induction =>
      rw [call_data_eq, with_header_refusal, arguments, induction, Operation.preorder, refusal_cons]
  | batch calls induction =>
      rw [call_data_eq, with_header_refusal, arguments, EncodeError.of_map,
        calls_data_refusal encoder calls induction, Operation.preorder, refusal_cons]

theorem encode_operation_refusal (encoder : CallEncoder) (operation : Operation) :
    EncodeError.of? (encoder.encodeOperation operation) = encoder.refusal? operation.preorder := by
  rw [encode_operation_eq, EncodeError.of_map, call_data_refusal]

theorem write_of_encoded {encoder : CallEncoder} {operation : Operation} {call : EncodedCall}
    (encoded : encoder.encodeOperation operation = .ok call) (output : Bytes) :
    encoder.write operation output = ⟨output ++ call.data, .ok ()⟩ := by
  have own : (encoder.write operation []).result = .ok call.data :=
    (encoder.write_result operation).trans (call_data_of_encoded encoded)
  rw [write_behind]
  generalize encoder.write operation [] = writing at own
  obtain ⟨written, error | done⟩ := writing
  · simp [Writing.result, Except.map] at own
  · obtain rfl : written = call.data := by simpa [Writing.result, Except.map] using own
    rfl

theorem calls_data_flatten (encoder : CallEncoder) (calls : List Operation) {data : Bytes}
    (written : encoder.callsData calls = .ok data) :
    ∃ components, List.Forall₂ (fun call component => encoder.encodeOperation call = .ok component)
      calls components ∧ data = (components.map EncodedCall.data).flatten := by
  induction calls generalizing data with
  | nil =>
      obtain rfl : [] = data := by simpa [callsData] using written
      exact ⟨[], .nil, rfl⟩
  | cons call rest induction =>
      obtain ⟨first, others, head, tail, rfl⟩ := (calls_data_iff encoder call rest data).mp written
      obtain ⟨component, encoded, rfl⟩ := encode_operation_data encoder head
      obtain ⟨components, each, rfl⟩ := induction tail
      exact ⟨component :: components, .cons encoded each, by simp⟩

/-- Encoding only adds to the output, without regard to what is there, and succeeds exactly if all
parts lead to calls with numbers. The call data of an operation that carries others then contains
their own; otherwise the error names the call of the first part without numbers. -/
theorem encoding_is_compositional (encoder : CallEncoder) :
    (∀ operation output,
      encoder.write operation output = (encoder.write operation []).behind output ∧
        ∀ call, encoder.encodeOperation operation = .ok call →
          encoder.write operation output = ⟨output ++ call.data, .ok ()⟩) ∧
    (∀ operation, (∃ call, encoder.encodeOperation operation = .ok call) ↔
      ∀ part : Operation, part.IsPart operation → encoder.IsKnown part) ∧
    (∀ inner call, encoder.encodeOperation (.asRoot inner) = .ok call →
      ∃ numbers own, encoder.numbers? .asRoot = some numbers ∧
        encoder.encodeOperation inner = .ok own ∧
          call.data = [numbers.1, numbers.2] ++ own.data) ∧
    (∀ calls call, encoder.encodeOperation (.batch calls) = .ok call →
      calls.length < UInt32.size → ∃ numbers components,
        encoder.numbers? .batch = some numbers ∧
        List.Forall₂ (fun call component => encoder.encodeOperation call = .ok component)
          calls components ∧
        call.data = [numbers.1, numbers.2] ++ Compact.encode calls.length ++
          (components.map EncodedCall.data).flatten) ∧
    ∀ operation error, encoder.encodeOperation operation = .error error ↔
      ∃ before part after, operation.preorder = before ++ part :: after ∧
        (∀ earlier ∈ before, encoder.IsKnown earlier) ∧ encoder.numbers? part.kind = none ∧
          error = .unknownCall (encoder.names.callOf part.kind).1
            (encoder.names.callOf part.kind).2 := by
  refine ⟨?appends, ?succeeds, ?asRoot, ?batch, ?refuses⟩
  case appends =>
    exact fun operation output =>
      ⟨encoder.write_behind operation output, fun call encoded => write_of_encoded encoded output⟩
  case succeeds =>
    intro operation
    rw [← EncodeError.of_eq_none, encode_operation_refusal, refusal?, List.findSome?_eq_none_iff]
    simp only [header_accepted, Operation.mem_preorder]
  case asRoot =>
    intro inner call encoded
    obtain ⟨numbers, behind, known, own, data⟩ :=
      (call_data_iff encoder _ _).mp (call_data_of_encoded encoded)
    obtain ⟨component, inside, rfl⟩ := encode_operation_data encoder own
    exact ⟨numbers, component, known, inside, data⟩
  case batch =>
    intro calls call encoded few
    obtain ⟨numbers, behind, known, own, data⟩ :=
      (call_data_iff encoder _ _).mp (call_data_of_encoded encoded)
    obtain ⟨others, written, rfl⟩ := (batch_arguments_iff encoder calls behind).mp own
    obtain ⟨components, each, rfl⟩ := calls_data_flatten encoder calls written
    refine ⟨numbers, components, known, each, ?_⟩
    rw [data, batchCount, Nat.mod_eq_of_lt few]
    simp
  case refuses =>
    intro operation error
    rw [← EncodeError.of_eq_some, encode_operation_refusal, refusal?, List.findSome?_eq_some_iff]
    simp only [header_refused, header_accepted]
    constructor
    · rintro ⟨before, part, after, parts, ⟨unknown, named⟩, known⟩
      exact ⟨before, part, after, parts, known, unknown, named⟩
    · rintro ⟨before, part, after, parts, known, unknown, named⟩
      exact ⟨before, part, after, parts, ⟨unknown, named⟩, known⟩

end CallEncoder

end LedgerCourier
