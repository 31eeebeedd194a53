import LedgerCourier.Operation.CallData
import LedgerCourier.Proofs.Operation.Nesting

/-!
# Writing to one output

An operation is written to a single output that is handed on from part to part, and the writing
stops at the first call without numbers. Here each part gets call data of its own instead, and
the call data of an operation is put together from that of the operations it carries. The two
agree: whatever stands in the output already, writing puts the operation's own call data behind
it, and where there is none it stops for the same reason.
-/

namespace LedgerCourier

set_option autoImplicit false

def Writing.behind (writing : Writing) (earlier : Bytes) : Writing :=
  ⟨earlier ++ writing.output, writing.ended⟩

def Writing.result (writing : Writing) : Except EncodeError Bytes :=
  writing.ended.map fun _ => writing.output

namespace CallEncoder

/-- Puts the numbers of the call in front of its arguments. A missing call is reported before
anything that is wrong with the arguments. -/
def withHeader (encoder : CallEncoder) (kind : Operation.Kind)
    (arguments : Except EncodeError Bytes) : Except EncodeError Bytes :=
  match encoder.header kind with
  | .error error => .error error
  | .ok header =>
      match arguments with
      | .error error => .error error
      | .ok data => .ok (header ++ data)

mutual

def callData (encoder : CallEncoder) : Operation → Except EncodeError Bytes
  | .lock amount => encoder.withHeader .lock (.ok (amountBytes amount))
  | .release amount => encoder.withHeader .release (.ok (amountBytes amount))
  | .setOwner address => encoder.withHeader .setOwner (.ok address.bytes)
  | .setOperator address => encoder.withHeader .setOperator (.ok address.bytes)
  | .setTransferKey data => encoder.withHeader .setTransferKey (.ok (Compact.encodeBytes data))
  | .setTreeKey data => encoder.withHeader .setTreeKey (.ok (Compact.encodeBytes data))
  | .transact data => encoder.withHeader .transact (.ok (Compact.encodeBytes data))
  | .setBalance who free reserved =>
      encoder.withHeader .setBalance
        (.ok ((0 :: who.bytes) ++ Compact.encode free.units ++ Compact.encode reserved.units))
  | .asRoot inner => encoder.withHeader .asRoot (encoder.callData inner)
  | .batch calls =>
      encoder.withHeader .batch (match encoder.callsData calls with
        | .error error => .error error
        | .ok data => .ok (batchCount calls ++ data))

def callsData (encoder : CallEncoder) : List Operation → Except EncodeError Bytes
  | [] => .ok []
  | call :: rest =>
      match encoder.callData call with
      | .error error => .error error
      | .ok first =>
          match encoder.callsData rest with
          | .error error => .error error
          | .ok others => .ok (first ++ others)

end

theorem write_unknown (encoder : CallEncoder) (operation : Operation) {error : EncodeError}
    (unknown : encoder.header operation.kind = .error error) (output : Bytes) :
    encoder.write operation output = ⟨output, .error error⟩ := by
  rw [write, unknown]

theorem write_as_root (encoder : CallEncoder) (inner : Operation) {header : Bytes}
    (known : encoder.header .asRoot = .ok header) (output : Bytes) :
    encoder.write (.asRoot inner) output = encoder.write inner (output ++ header) := by
  rw [write, Operation.kind, known]

theorem write_batch (encoder : CallEncoder) (calls : List Operation) {header : Bytes}
    (known : encoder.header .batch = .ok header) (output : Bytes) :
    encoder.write (.batch calls) output =
      encoder.writeEach calls (output ++ header ++ batchCount calls) := by
  rw [write, Operation.kind, known]

theorem write_each_cons (encoder : CallEncoder) (call : Operation) (rest : List Operation)
    (output : Bytes) :
    encoder.writeEach (call :: rest) output =
      match (encoder.write call output).ended with
      | .error error => ⟨(encoder.write call output).output, .error error⟩
      | .ok () => encoder.writeEach rest (encoder.write call output).output := by
  rw [writeEach]
  obtain ⟨written, _ | _⟩ := encoder.write call output <;> rfl

theorem write_each_behind (encoder : CallEncoder) (calls : List Operation)
    (each : ∀ call ∈ calls, ∀ output,
      encoder.write call output = (encoder.write call []).behind output) (output : Bytes) :
    encoder.writeEach calls output = (encoder.writeEach calls []).behind output := by
  induction calls generalizing output with
  | nil => simp [writeEach, Writing.behind]
  | cons call rest induction =>
      have later := induction fun other member => each other (List.mem_cons_of_mem call member)
      rw [write_each_cons, write_each_cons, each call List.mem_cons_self output]
      cases ended : (encoder.write call []).ended with
      | error error => simp [Writing.behind, ended]
      | ok done =>
          simp only [Writing.behind, ended]
          rw [later, later (encoder.write call []).output]
          simp [Writing.behind]

/-- Writing only adds to the output, and what it adds does not depend on what is there. -/
theorem write_behind (encoder : CallEncoder) (operation : Operation) (output : Bytes) :
    encoder.write operation output = (encoder.write operation []).behind output := by
  induction operation generalizing output with
  | lock | release | setOwner | setOperator | setTransferKey | setTreeKey | transact
  | setBalance =>
      rw [write, write]
      cases encoder.header (Operation.kind _) <;> simp [Writing.behind]
  | asRoot inner induction =>
      cases known : encoder.header .asRoot with
      | error error => simp [write_unknown encoder (.asRoot inner) known, Writing.behind]
      | ok header =>
          rw [write_as_root encoder inner known, write_as_root encoder inner known,
            induction (output ++ header), induction ([] ++ header)]
          simp [Writing.behind]
  | batch calls induction =>
      cases known : encoder.header .batch with
      | error error => simp [write_unknown encoder (.batch calls) known, Writing.behind]
      | ok header =>
          have together := write_each_behind encoder calls induction
          rw [write_batch encoder calls known, write_batch encoder calls known,
            together (output ++ header ++ batchCount calls),
            together ([] ++ header ++ batchCount calls)]
          simp [Writing.behind]

theorem result_behind (writing : Writing) (earlier : Bytes) :
    (writing.behind earlier).result = writing.result.map (earlier ++ ·) := by
  obtain ⟨output, _ | _⟩ := writing <;> rfl

theorem write_each_result (encoder : CallEncoder) (calls : List Operation)
    (each : ∀ call ∈ calls, (encoder.write call []).result = encoder.callData call) :
    (encoder.writeEach calls []).result = encoder.callsData calls := by
  have together := fun rest => write_each_behind encoder rest
    fun call _ => encoder.write_behind call
  induction calls with
  | nil => rfl
  | cons call rest induction =>
      have later := induction fun other member => each other (List.mem_cons_of_mem call member)
      rw [write_each_cons, callsData, ← each call List.mem_cons_self, ← later]
      obtain ⟨written, error | done⟩ := encoder.write call []
      · rfl
      · simp only [together rest written, result_behind]
        obtain ⟨others, error | done⟩ := encoder.writeEach rest [] <;> rfl

theorem write_result (encoder : CallEncoder) (operation : Operation) :
    (encoder.write operation []).result = encoder.callData operation := by
  induction operation with
  | lock | release | setOwner | setOperator | setTransferKey | setTreeKey | transact
  | setBalance =>
      rw [write, callData, withHeader, Operation.kind]
      cases encoder.header _ <;> simp [Writing.result, Except.map]
  | asRoot inner induction =>
      rw [callData, withHeader]
      cases known : encoder.header .asRoot with
      | error error =>
          rw [write_unknown encoder (.asRoot inner) known]
          rfl
      | ok header =>
          rw [write_as_root encoder inner known, write_behind, result_behind, induction]
          cases encoder.callData inner <;> rfl
  | batch calls induction =>
      rw [callData, withHeader]
      cases known : encoder.header .batch with
      | error error =>
          rw [write_unknown encoder (.batch calls) known]
          rfl
      | ok header =>
          have together := write_each_behind encoder calls fun call _ => encoder.write_behind call
          rw [write_batch encoder calls known, together, result_behind,
            write_each_result encoder calls induction]
          cases encoder.callsData calls <;> simp [Except.map]

/-- Encoding an operation comes to its own call data, or to the reason why it has none. -/
theorem encode_operation_eq (encoder : CallEncoder) (operation : Operation) :
    encoder.encodeOperation operation = (encoder.callData operation).map fun data =>
      { tag := operation.tag
        data := data
        components := match operation with
          | .batch calls => calls.map Operation.tag
          | _ => [] } := by
  rw [← write_result]
  unfold encodeOperation
  obtain ⟨written, error | done⟩ := encoder.write operation [] <;> rfl

theorem call_data_of_encoded {encoder : CallEncoder} {operation : Operation} {call : EncodedCall}
    (encoded : encoder.encodeOperation operation = .ok call) :
    encoder.callData operation = .ok call.data := by
  rw [encode_operation_eq] at encoded
  cases written : encoder.callData operation with
  | error error => simp [written, Except.map] at encoded
  | ok data =>
      obtain rfl : _ = call := by simpa [written, Except.map] using encoded
      rfl

end CallEncoder

end LedgerCourier
