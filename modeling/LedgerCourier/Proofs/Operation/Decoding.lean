import LedgerCourier.Node.Runtime
import LedgerCourier.Proofs.Bytes.Compact
import LedgerCourier.Proofs.Operation.Writing

/-!
# Call data read back

Call data carries no length of its own, and a batch strings its calls together without a mark
between them. Still nothing is ambiguous: the two bytes in front tell the kind, and each kind
says where its arguments end. The reader below takes one operation from the front of its input
and returns what stands behind it. As nesting costs two bytes for each level, the length of the
input bounds the depth.
-/

namespace LedgerCourier.CallEncoder

set_option autoImplicit false

def numbers? (encoder : CallEncoder) (kind : Operation.Kind) : Option (UInt8 × UInt8) :=
  encoder.indices.get? (encoder.names.callOf kind)

def kindOf? (encoder : CallEncoder) (numbers : UInt8 × UInt8) : Option Operation.Kind :=
  Operation.Kind.all.find? fun kind => encoder.numbers? kind == some numbers

def readAmount (input : Bytes) : Option (Amount × Bytes) := do
  let (word, rest) ← readFixed 16 input
  let amount ← Amount.ofNat? (ofLittleEndian word)
  some (amount, rest)

def readAccount (input : Bytes) : Option (AccountId × Bytes) := do
  let (word, rest) ← readFixed 32 input
  let account ← Bytes32.ofBytes? word
  some (account, rest)

def readBalance (input : Bytes) : Option (Amount × Bytes) := do
  let (number, rest) ← Compact.decode input
  let amount ← Amount.ofNat? number
  some (amount, rest)

def readAddress : Bytes → Option (AccountId × Bytes)
  | 0 :: rest => readAccount rest
  | _ => none

def readMany {Value : Type} (read : Bytes → Option (Value × Bytes)) :
    Nat → Bytes → Option (List Value × Bytes)
  | 0, input => some ([], input)
  | count + 1, input => do
      let (value, rest) ← read input
      let (values, rest) ← readMany read count rest
      some (value :: values, rest)

/-- Reads the arguments of a call, where nested calls are read by `readInner`. -/
def readArguments (readInner : Bytes → Option (Operation × Bytes)) (kind : Operation.Kind)
    (input : Bytes) : Option (Operation × Bytes) :=
  match kind with
  | .lock => (readAmount input).map (Prod.map .lock id)
  | .release => (readAmount input).map (Prod.map .release id)
  | .setOwner => (readAccount input).map (Prod.map .setOwner id)
  | .setOperator => (readAccount input).map (Prod.map .setOperator id)
  | .setTransferKey => (Compact.decodeBytes input).map (Prod.map .setTransferKey id)
  | .setTreeKey => (Compact.decodeBytes input).map (Prod.map .setTreeKey id)
  | .transact => (Compact.decodeBytes input).map (Prod.map .transact id)
  | .setBalance => do
      let (who, rest) ← readAddress input
      let (free, rest) ← readBalance rest
      let (reserved, rest) ← readBalance rest
      some (.setBalance who free reserved, rest)
  | .asRoot => (readInner input).map (Prod.map .asRoot id)
  | .batch => do
      let (count, rest) ← Compact.decode input
      let (calls, rest) ← readMany readInner count rest
      some (.batch calls, rest)

/-- Reads an operation that is nested no deeper than the fuel allows. -/
def readOperation (encoder : CallEncoder) : Nat → Bytes → Option (Operation × Bytes)
  | depth + 1, pallet :: call :: rest =>
      match encoder.kindOf? (pallet, call) with
      | some kind => readArguments (encoder.readOperation depth) kind rest
      | none => none
  | _, _ => none

def decode (encoder : CallEncoder) (input : Bytes) : Option (Operation × Bytes) :=
  encoder.readOperation input.length input

/-- All ten known calls have numbers, and no two of them have the same. -/
structure Distinguishes (encoder : CallEncoder) : Prop where
  known : ∀ kind, (encoder.numbers? kind).isSome
  distinct : ∀ first second, encoder.numbers? first = encoder.numbers? second → first = second

def itemCount : Operation → Nat
  | .batch calls => calls.length
  | .setTransferKey data | .setTreeKey data | .transact data => data.length
  | _ => 0

def Countable (operation : Operation) : Prop := itemCount operation < UInt32.size

instance : DecidablePred Countable := fun operation =>
  inferInstanceAs (Decidable (itemCount operation < UInt32.size))

theorem kind_of_numbers {encoder : CallEncoder} (distinguishes : encoder.Distinguishes)
    {kind : Operation.Kind} {numbers : UInt8 × UInt8}
    (known : encoder.numbers? kind = some numbers) : encoder.kindOf? numbers = some kind := by
  have member : kind ∈ Operation.Kind.all := by cases kind <;> decide
  cases found : encoder.kindOf? numbers with
  | none =>
      have absent := List.find?_eq_none.mp found kind member
      simp [known] at absent
  | some other =>
      have same : encoder.numbers? other = some numbers := by
        simpa using List.find?_some found
      rw [distinguishes.distinct other kind (same.trans known.symm)]

theorem header_eq (encoder : CallEncoder) {kind : Operation.Kind} {numbers : UInt8 × UInt8}
    (known : encoder.numbers? kind = some numbers) :
    encoder.header kind = .ok [numbers.1, numbers.2] := by
  unfold header
  unfold numbers? at known
  simp [known]

theorem with_header_eq (encoder : CallEncoder) {kind : Operation.Kind} {numbers : UInt8 × UInt8}
    (known : encoder.numbers? kind = some numbers) (data : Bytes) :
    encoder.withHeader kind (.ok data) = .ok (numbers.1 :: numbers.2 :: data) := by
  simp [withHeader, header_eq encoder known]

theorem read_operation_header {encoder : CallEncoder} (distinguishes : encoder.Distinguishes)
    {kind : Operation.Kind} {numbers : UInt8 × UInt8}
    (known : encoder.numbers? kind = some numbers) (depth : Nat) (rest : Bytes) :
    encoder.readOperation (depth + 1) (numbers.1 :: numbers.2 :: rest) =
      readArguments (encoder.readOperation depth) kind rest := by
  rw [readOperation, kind_of_numbers distinguishes known]

theorem of_nat_units (amount : Amount) : Amount.ofNat? amount.units = some amount := by
  simp [Amount.ofNat?, amount.bounded]

theorem read_amount_bytes (amount : Amount) (suffix : Bytes) :
    readAmount (amountBytes amount ++ suffix) = some (amount, suffix) := by
  have read := read_fixed_append suffix (length_little_endian 16 amount.units)
  have value := of_little_endian_encode 16 amount.units amount.bounded
  simp [readAmount, amountBytes, read, value, of_nat_units]

theorem read_account_bytes (account : AccountId) (suffix : Bytes) :
    readAccount (account.bytes ++ suffix) = some (account, suffix) := by
  have read := read_fixed_append suffix account.length_eq
  simp [readAccount, read, Bytes32.of_bytes_self]

theorem read_balance_encode (amount : Amount) (suffix : Bytes) :
    readBalance (Compact.encode amount.units ++ suffix) = some (amount, suffix) := by
  have fits : amount.units < 256 ^ Compact.widest :=
    Nat.lt_of_lt_of_le amount.bounded (by decide)
  simp [readBalance, Compact.decode_encode fits, of_nat_units]

theorem decode_bytes_of_countable {data : Bytes} (short : data.length < UInt32.size)
    (suffix : Bytes) :
    Compact.decodeBytes (Compact.encodeBytes data ++ suffix) = some (data, suffix) :=
  Compact.decode_bytes_encode (Nat.lt_of_lt_of_le short (by decide)) suffix

/-- What the reader owes to the call data of an operation, as soon as it has fuel enough. -/
def ReadsBack (encoder : CallEncoder) (operation : Operation) (data : Bytes) : Prop :=
  ∀ depth suffix, data.length ≤ depth →
    encoder.readOperation depth (data ++ suffix) = some (operation, suffix)

/-- Call data is its two numbers and arguments that are read back, however deep it is read. -/
theorem reads_back_with_header {encoder : CallEncoder} (distinguishes : encoder.Distinguishes)
    {kind : Operation.Kind} {operation : Operation} {arguments : Bytes}
    (read : ∀ depth suffix, arguments.length ≤ depth →
      readArguments (encoder.readOperation depth) kind (arguments ++ suffix) =
        some (operation, suffix)) :
    ∃ data, encoder.withHeader kind (.ok arguments) = .ok data ∧
      encoder.ReadsBack operation data := by
  obtain ⟨numbers, known⟩ := Option.isSome_iff_exists.mp (distinguishes.known kind)
  refine ⟨_, with_header_eq encoder known arguments, ?_⟩
  intro depth suffix enough
  simp only [List.length_cons] at enough
  obtain ⟨inner, rfl⟩ : ∃ inner, depth = inner + 1 := ⟨depth - 1, by omega⟩
  rw [List.cons_append, List.cons_append, read_operation_header distinguishes known]
  exact read inner suffix (by omega)

theorem calls_read_back {encoder : CallEncoder} (calls : List Operation)
    (each : ∀ call ∈ calls, ∃ data, encoder.callData call = .ok data ∧
      encoder.ReadsBack call data) :
    ∃ data, encoder.callsData calls = .ok data ∧ ∀ depth suffix, data.length ≤ depth →
      readMany (encoder.readOperation depth) calls.length (data ++ suffix) =
        some (calls, suffix) := by
  induction calls with
  | nil => exact ⟨[], rfl, fun depth suffix enough => rfl⟩
  | cons call rest induction =>
      obtain ⟨first, encoded, read⟩ := each call List.mem_cons_self
      obtain ⟨others, encodedOthers, readOthers⟩ :=
        induction fun other member => each other (List.mem_cons_of_mem call member)
      refine ⟨first ++ others, by simp [callsData, encoded, encodedOthers], ?_⟩
      intro depth suffix enough
      rw [List.length_append] at enough
      have front := read depth (others ++ suffix) (by omega)
      have back := readOthers depth suffix (by omega)
      simp [readMany, front, back]

theorem call_data_reads_back {encoder : CallEncoder} (distinguishes : encoder.Distinguishes)
    (operation : Operation) (countable : operation.Throughout Countable) :
    ∃ data, encoder.callData operation = .ok data ∧ encoder.ReadsBack operation data := by
  induction operation with
  | lock amount | release amount =>
      rw [callData]
      apply reads_back_with_header distinguishes
      intro depth suffix enough
      simp [readArguments, read_amount_bytes]
  | setOwner address | setOperator address =>
      rw [callData]
      apply reads_back_with_header distinguishes
      intro depth suffix enough
      simp [readArguments, read_account_bytes]
  | setTransferKey data | setTreeKey data | transact data =>
      rw [callData]
      apply reads_back_with_header distinguishes
      intro depth suffix enough
      have short : data.length < UInt32.size := countable.self
      simp [readArguments, decode_bytes_of_countable short]
  | setBalance who free reserved =>
      rw [callData]
      apply reads_back_with_header distinguishes
      intro depth suffix enough
      simp [readArguments, readAddress, read_account_bytes, read_balance_encode]
  | asRoot inner induction =>
      obtain ⟨data, encoded, read⟩ := induction countable.of_asRoot
      rw [callData, encoded]
      apply reads_back_with_header distinguishes
      intro depth suffix enough
      simp [readArguments, read depth suffix enough]
  | batch calls induction =>
      obtain ⟨data, encoded, read⟩ := calls_read_back calls fun call member =>
        induction call member (countable.of_batch member)
      have few : calls.length < UInt32.size := countable.self
      rw [callData, encoded]
      apply reads_back_with_header distinguishes
      intro depth suffix enough
      rw [List.length_append] at enough
      have count : Compact.decode (batchCount calls ++ (data ++ suffix)) =
          some (calls.length, data ++ suffix) := by
        rw [batchCount, Nat.mod_eq_of_lt few]
        exact Compact.decode_encode (Nat.lt_of_lt_of_le few (by decide)) _
      simp [readArguments, count, read depth suffix (by omega)]

theorem encode_operation_data (encoder : CallEncoder) {operation : Operation} {data : Bytes}
    (encoded : encoder.callData operation = .ok data) :
    ∃ call, encoder.encodeOperation operation = .ok call ∧ call.data = data := by
  simp [encode_operation_eq, encoded, Except.map]

/-- Where all calls are known under different numbers, call data is read back whatever follows
it. So two operations never have the same call data, and the call data of one never begins with
that of another. -/
theorem call_data_decodes_uniquely {encoder : CallEncoder}
    (distinguishes : encoder.Distinguishes) :
    (∀ operation : Operation, operation.Throughout Countable →
      ∃ call, encoder.encodeOperation operation = .ok call ∧
        ∀ suffix, encoder.decode (call.data ++ suffix) = some (operation, suffix)) ∧
    ∀ first second : Operation, first.Throughout Countable → second.Throughout Countable →
      ∀ firstCall secondCall, encoder.encodeOperation first = .ok firstCall →
        encoder.encodeOperation second = .ok secondCall →
          firstCall.data <+: secondCall.data → first = second := by
  have decodes : ∀ operation : Operation, operation.Throughout Countable →
      ∃ call, encoder.encodeOperation operation = .ok call ∧
        ∀ suffix, encoder.decode (call.data ++ suffix) = some (operation, suffix) := by
    intro operation countable
    obtain ⟨data, written, read⟩ := call_data_reads_back distinguishes operation countable
    obtain ⟨call, encoded, rfl⟩ := encode_operation_data encoder written
    exact ⟨call, encoded, fun suffix => read _ suffix (by simp)⟩
  refine ⟨decodes, ?_⟩
  intro first second firstCountable secondCountable firstCall secondCall firstEncoded
    secondEncoded begins
  obtain ⟨suffix, same⟩ := begins
  obtain ⟨call, encoded, read⟩ := decodes first firstCountable
  obtain rfl : call = firstCall := Except.ok.inj (encoded.symm.trans firstEncoded)
  obtain ⟨other, otherEncoded, readOther⟩ := decodes second secondCountable
  obtain rfl : other = secondCall := Except.ok.inj (otherEncoded.symm.trans secondEncoded)
  have front := read suffix
  have whole := readOther []
  rw [List.append_nil, ← same, front] at whole
  exact congrArg Prod.fst (Option.some.inj whole)

/-- The calls of an ordinary ledger under their usual names. -/
def ordinary : CallEncoder := ⟨{}, Runtime.indices⟩

theorem ordinary_distinguishes : ordinary.Distinguishes where
  known := fun kind => by cases kind <;> decide
  distinct := by
    have member : ∀ kind : Operation.Kind, kind ∈ Operation.Kind.all :=
      fun kind => by cases kind <;> decide
    have listed : ∀ first ∈ Operation.Kind.all, ∀ second ∈ Operation.Kind.all,
        ordinary.numbers? first = ordinary.numbers? second → first = second := by
      decide +kernel
    exact fun first second => listed first (member first) second (member second)

/-- Balances are set with root origin, among other calls of a batch. -/
def nestedRequest : Operation :=
  .asRoot (.batch [.setBalance (Bytes32.fill 3) ⟨1000000000000000000000, by decide⟩ Amount.zero,
    .batch [], .transact [1, 2, 3]])

theorem nested_request_decodes :
    ordinary.Distinguishes ∧ nestedRequest.Throughout Countable ∧
      ∃ call, ordinary.encodeOperation nestedRequest = .ok call ∧
        ordinary.decode (call.data ++ [7]) = some (nestedRequest, [7]) := by
  have countable : nestedRequest.Throughout Countable := by
    refine Operation.Throughout.asRoot (by decide) (Operation.Throughout.batch (by decide) ?_)
    intro call member part inside
    simp only [List.mem_cons, List.not_mem_nil, or_false] at member
    rcases member with rfl | rfl | rfl
    · cases inside
      decide
    · cases inside with
      | whole => decide
      | batch member inside => simp at member
    · cases inside
      decide
  obtain ⟨call, encoded, read⟩ :=
    (call_data_decodes_uniquely ordinary_distinguishes).1 nestedRequest countable
  exact ⟨ordinary_distinguishes, countable, call, encoded, read [7]⟩

end LedgerCourier.CallEncoder
