import LedgerCourier.Proofs.Operation.Decoding

/-!
# The numbers in call data

The call data of an operation has the two numbers of its call in front, and the call data of the
operations that it carries stands among its arguments, each with its own two numbers. With the
numbers taken from a runtime, an operation can be encoded exactly if the runtime exposes the calls
of all its parts, and at the place of each part stand the numbers under which the runtime does so.
-/

namespace LedgerCourier

set_option autoImplicit false

def Pallet.exposed? (pallets : List Pallet) (name : String × String) : Option (UInt8 × UInt8) :=
  (pallets.find? fun pallet => pallet.name == name.1).bind fun pallet =>
    (pallet.calls.find? fun call => call.1 == name.2).map fun call => (pallet.index, call.2)

namespace PalletNames

/-- The table of known calls lists the calls of all kinds of operation and nothing else. -/
theorem mem_known_calls (names : PalletNames) (name : String × String) :
    name ∈ names.knownCalls ↔ ∃ kind, names.callOf kind = name := by
  constructor
  · intro known
    simp only [knownCalls, List.mem_cons, List.not_mem_nil, or_false] at known
    rcases known with rfl | rfl | rfl | rfl | rfl | rfl | rfl | rfl | rfl | rfl
    · exact ⟨.lock, rfl⟩
    · exact ⟨.release, rfl⟩
    · exact ⟨.setOwner, rfl⟩
    · exact ⟨.setOperator, rfl⟩
    · exact ⟨.setTransferKey, rfl⟩
    · exact ⟨.setTreeKey, rfl⟩
    · exact ⟨.transact, rfl⟩
    · exact ⟨.setBalance, rfl⟩
    · exact ⟨.asRoot, rfl⟩
    · exact ⟨.batch, rfl⟩
  · rintro ⟨kind, rfl⟩
    cases kind <;> simp [knownCalls, callOf, palletOf, Operation.Kind.callName]

/-- The call alone tells the kind, also where pallets share a name. -/
theorem call_of_injective (names : PalletNames) {first second : Operation.Kind}
    (same : names.callOf first = names.callOf second) : first = second := by
  have call : first.callName = second.callName := congrArg Prod.snd same
  cases first <;> cases second <;> first | rfl | exact absurd call (by decide)

end PalletNames

namespace CallIndices

theorem of_runtime_eq (pallets : List Pallet) (names : PalletNames) :
    ofRuntime pallets names = names.knownCalls.foldl (fun indices name =>
      match Pallet.exposed? pallets name with
      | none => indices
      | some numbers => Table.insert indices name numbers) Table.empty := by
  unfold ofRuntime
  congr 1
  funext indices name
  unfold Pallet.exposed?
  cases pallets.find? fun pallet => pallet.name == name.1 with
  | none => rfl
  | some pallet =>
      cases found : pallet.calls.find? fun call => call.1 == name.2 with
      | none => simp [found]
      | some call => simp [found]

theorem get_filled (source : String × String → Option (UInt8 × UInt8))
    (known : List (String × String)) (indices : CallIndices) (name : String × String) :
    (known.foldl (fun indices name =>
      match source name with
      | none => indices
      | some numbers => Table.insert indices name numbers) indices).get? name =
      if name ∈ known then (source name).or (indices.get? name) else indices.get? name := by
  induction known generalizing indices with
  | nil => simp
  | cons first rest induction =>
      rw [List.foldl_cons, induction]
      cases found : source first with
      | none =>
          by_cases same : name = first
          · subst same
            simp [found]
          · simp [same]
      | some numbers =>
          by_cases same : name = first
          · subst same
            simp [found]
          · simp [same, Ne.symm same]

theorem get_of_runtime (pallets : List Pallet) (names : PalletNames) (kind : Operation.Kind) :
    (ofRuntime pallets names).get? (names.callOf kind) =
      Pallet.exposed? pallets (names.callOf kind) := by
  rw [of_runtime_eq, get_filled, if_pos ((names.mem_known_calls _).mpr ⟨kind, rfl⟩)]
  simp

end CallIndices

namespace Operation

mutual

def width : Operation → Nat
  | .lock _ | .release _ => 2 + 16
  | .setOwner _ | .setOperator _ => 2 + 32
  | .setTransferKey data | .setTreeKey data | .transact data =>
      2 + (Compact.encodeBytes data).length
  | .setBalance _ free reserved =>
      2 + 33 + (Compact.encode free.units).length + (Compact.encode reserved.units).length
  | .asRoot inner => 2 + inner.width
  | .batch calls => 2 + (CallEncoder.batchCount calls).length + widths calls

def widths : List Operation → Nat
  | [] => 0
  | call :: rest => call.width + widths rest

end

mutual

/-- The parts of an operation, each with the place where its call data begins if that of the whole
operation begins at `place`. -/
def placed (place : Nat) : Operation → List (Nat × Operation)
  | .asRoot inner => (place, .asRoot inner) :: inner.placed (place + 2)
  | .batch calls =>
      (place, .batch calls) :: placedEach (place + 2 + (CallEncoder.batchCount calls).length) calls
  | operation => [(place, operation)]

def placedEach (place : Nat) : List Operation → List (Nat × Operation)
  | [] => []
  | call :: rest => call.placed place ++ placedEach (place + call.width) rest

end

theorem mem_placed_each {part : Operation} (calls : List Operation)
    (each : ∀ call ∈ calls, ∀ place,
      part.IsPart call ↔ ∃ position, (position, part) ∈ call.placed place) (place : Nat) :
    (∃ position, (position, part) ∈ placedEach place calls) ↔
      ∃ call ∈ calls, part.IsPart call := by
  induction calls generalizing place with
  | nil => simp [placedEach]
  | cons call rest induction =>
      have later := induction (fun other member => each other (List.mem_cons_of_mem call member))
        (place + call.width)
      have first := each call List.mem_cons_self place
      simp only [placedEach, List.mem_append, exists_or, List.mem_cons, exists_eq_or_imp]
      rw [← first, later]

theorem is_part_iff (operation part : Operation) (place : Nat) :
    part.IsPart operation ↔ ∃ position, (position, part) ∈ operation.placed place := by
  induction operation generalizing place with
  | lock | release | setOwner | setOperator | setTransferKey | setTreeKey | transact
  | setBalance =>
      simp only [placed, List.mem_singleton, Prod.mk.injEq, exists_eq_left]
      exact ⟨fun inside => by cases inside; rfl, fun same => same ▸ .whole⟩
  | asRoot inner induction =>
      simp only [placed, List.mem_cons, Prod.mk.injEq, exists_or, exists_eq_left]
      rw [← induction]
      constructor
      · intro inside
        cases inside with
        | whole => exact .inl rfl
        | asRoot inside => exact .inr inside
      · rintro (rfl | inside)
        · exact .whole
        · exact .asRoot inside
  | batch calls induction =>
      simp only [placed, List.mem_cons, Prod.mk.injEq, exists_or, exists_eq_left]
      rw [mem_placed_each calls induction]
      constructor
      · intro inside
        cases inside with
        | whole => exact .inl rfl
        | batch member inside => exact .inr ⟨_, member, inside⟩
      · rintro (rfl | ⟨call, member, inside⟩)
        · exact .whole
        · exact .batch member inside

end Operation

namespace CallEncoder

def arguments (encoder : CallEncoder) : Operation → Except EncodeError Bytes
  | .lock amount | .release amount => .ok (amountBytes amount)
  | .setOwner address | .setOperator address => .ok address.bytes
  | .setTransferKey data | .setTreeKey data | .transact data => .ok (Compact.encodeBytes data)
  | .setBalance who free reserved =>
      .ok ((0 :: who.bytes) ++ Compact.encode free.units ++ Compact.encode reserved.units)
  | .asRoot inner => encoder.callData inner
  | .batch calls => (encoder.callsData calls).map (batchCount calls ++ ·)

theorem call_data_eq (encoder : CallEncoder) (operation : Operation) :
    encoder.callData operation =
      encoder.withHeader operation.kind (encoder.arguments operation) := by
  cases operation with
  | batch calls =>
      rw [callData, arguments, Operation.kind]
      cases encoder.callsData calls <;> rfl
  | _ => rw [callData]; rfl

theorem call_data_iff (encoder : CallEncoder) (operation : Operation) (data : Bytes) :
    encoder.callData operation = .ok data ↔ ∃ numbers behind,
      encoder.numbers? operation.kind = some numbers ∧ encoder.arguments operation = .ok behind ∧
        data = numbers.1 :: numbers.2 :: behind := by
  rw [call_data_eq]
  cases known : encoder.numbers? operation.kind with
  | none =>
      have unknown : encoder.indices.get? (encoder.names.callOf operation.kind) = none := known
      simp [withHeader, header, unknown]
  | some numbers =>
      cases encoder.arguments operation with
      | error error => simp [withHeader, header_eq encoder known]
      | ok behind => simp [with_header_eq encoder known, eq_comm]

theorem calls_data_iff (encoder : CallEncoder) (call : Operation) (rest : List Operation)
    (data : Bytes) :
    encoder.callsData (call :: rest) = .ok data ↔ ∃ first others,
      encoder.callData call = .ok first ∧ encoder.callsData rest = .ok others ∧
        data = first ++ others := by
  rw [callsData]
  cases encoder.callData call with
  | error error => simp
  | ok first =>
      cases encoder.callsData rest with
      | error error => simp
      | ok others => simp [eq_comm]

theorem batch_arguments_iff (encoder : CallEncoder) (calls : List Operation) (behind : Bytes) :
    encoder.arguments (.batch calls) = .ok behind ↔ ∃ data,
      encoder.callsData calls = .ok data ∧ behind = batchCount calls ++ data := by
  rw [arguments]
  cases encoder.callsData calls with
  | error error => simp [Except.map]
  | ok data => simp [Except.map, eq_comm]

theorem calls_data_exists (encoder : CallEncoder) (calls : List Operation) :
    (∃ data, encoder.callsData calls = .ok data) ↔
      ∀ call ∈ calls, ∃ data, encoder.callData call = .ok data := by
  induction calls with
  | nil => simp [callsData]
  | cons call rest induction =>
      rw [List.forall_mem_cons, ← induction]
      constructor
      · rintro ⟨data, written⟩
        obtain ⟨first, others, head, tail, -⟩ := (calls_data_iff encoder call rest data).mp written
        exact ⟨⟨first, head⟩, others, tail⟩
      · rintro ⟨⟨first, head⟩, others, tail⟩
        exact ⟨_, (calls_data_iff encoder call rest _).mpr ⟨first, others, head, tail, rfl⟩⟩

def IsKnown (encoder : CallEncoder) (operation : Operation) : Prop :=
  (encoder.numbers? operation.kind).isSome = true

theorem call_data_exists_iff (encoder : CallEncoder) (operation : Operation) :
    (∃ data, encoder.callData operation = .ok data) ↔
      encoder.IsKnown operation ∧ ∃ behind, encoder.arguments operation = .ok behind := by
  simp only [call_data_iff, IsKnown, Option.isSome_iff_exists]
  constructor
  · rintro ⟨data, numbers, behind, known, written, -⟩
    exact ⟨⟨numbers, known⟩, behind, written⟩
  · rintro ⟨⟨numbers, known⟩, behind, written⟩
    exact ⟨_, numbers, behind, known, written, rfl⟩

/-- There is call data exactly for operations whose parts all lead to calls with numbers. -/
theorem call_data_exists (encoder : CallEncoder) (operation : Operation) :
    (∃ data, encoder.callData operation = .ok data) ↔
      operation.Throughout encoder.IsKnown := by
  induction operation with
  | lock | release | setOwner | setOperator | setTransferKey | setTreeKey | transact
  | setBalance =>
      rw [call_data_exists_iff]
      constructor
      · rintro ⟨known, -⟩ part inside
        cases inside
        exact known
      · intro throughout
        exact ⟨throughout.self, _, rfl⟩
  | asRoot inner induction =>
      rw [call_data_exists_iff, arguments, induction]
      constructor
      · rintro ⟨known, throughout⟩
        exact .asRoot known throughout
      · intro throughout
        exact ⟨throughout.self, throughout.of_asRoot⟩
  | batch calls induction =>
      have each : (∃ behind, encoder.arguments (.batch calls) = .ok behind) ↔
          ∀ call ∈ calls, call.Throughout encoder.IsKnown := by
        rw [← forall₂_congr induction, ← calls_data_exists]
        simp [batch_arguments_iff]
      rw [call_data_exists_iff, each]
      constructor
      · rintro ⟨known, throughout⟩
        exact .batch known throughout
      · intro throughout
        exact ⟨throughout.self, fun call member => throughout.of_batch member⟩

def StandsIn (encoder : CallEncoder) (data : Bytes) (start : Nat) (part : Nat × Operation) : Prop :=
  ∃ front own back, data = front ++ own ++ back ∧ start + front.length = part.1 ∧
    encoder.callData part.2 = .ok own

theorem StandsIn.within {encoder : CallEncoder} {data : Bytes} {start : Nat}
    {part : Nat × Operation} (front back : Bytes)
    (stands : encoder.StandsIn data (start + front.length) part) :
    encoder.StandsIn (front ++ data ++ back) start part := by
  obtain ⟨before, own, behind, rfl, place, written⟩ := stands
  refine ⟨front ++ before, own, behind ++ back, by simp, ?_, written⟩
  rw [List.length_append]
  omega

theorem calls_data_width (encoder : CallEncoder) (calls : List Operation)
    (each : ∀ call ∈ calls, ∀ data, encoder.callData call = .ok data → data.length = call.width)
    {data : Bytes} (written : encoder.callsData calls = .ok data) :
    data.length = Operation.widths calls := by
  induction calls generalizing data with
  | nil =>
      obtain rfl : [] = data := by simpa [callsData] using written
      rfl
  | cons call rest induction =>
      obtain ⟨first, others, head, tail, rfl⟩ := (calls_data_iff encoder call rest data).mp written
      have later :=
        induction (fun other member => each other (List.mem_cons_of_mem call member)) tail
      rw [List.length_append, each call List.mem_cons_self first head, later, Operation.widths]

theorem width_of_arguments {encoder : CallEncoder} {operation : Operation}
    (argued : ∀ behind, encoder.arguments operation = .ok behind →
      2 + behind.length = operation.width)
    (data : Bytes) (written : encoder.callData operation = .ok data) :
    data.length = operation.width := by
  obtain ⟨numbers, behind, -, own, rfl⟩ := (call_data_iff encoder operation data).mp written
  rw [← argued behind own, List.length_cons, List.length_cons]
  omega

theorem call_data_width (encoder : CallEncoder) (operation : Operation) :
    ∀ data, encoder.callData operation = .ok data → data.length = operation.width := by
  induction operation with
  | lock amount | release amount =>
      apply width_of_arguments
      rintro behind ⟨⟩
      simp [amountBytes, length_little_endian, Operation.width]
  | setOwner address | setOperator address =>
      apply width_of_arguments
      rintro behind ⟨⟩
      rw [address.length_eq, Operation.width]
  | setTransferKey bytes | setTreeKey bytes | transact bytes =>
      apply width_of_arguments
      rintro behind ⟨⟩
      rw [Operation.width]
  | setBalance who free reserved =>
      apply width_of_arguments
      rintro behind ⟨⟩
      simp only [List.cons_append, List.length_cons, List.length_append, who.length_eq,
        Operation.width]
      omega
  | asRoot inner induction =>
      apply width_of_arguments
      intro behind own
      rw [induction behind own, Operation.width]
  | batch calls induction =>
      apply width_of_arguments
      intro behind own
      obtain ⟨others, written, rfl⟩ := (batch_arguments_iff encoder calls behind).mp own
      rw [List.length_append, calls_data_width encoder calls induction written, Operation.width,
        Nat.add_assoc]

theorem calls_stand (encoder : CallEncoder) (calls : List Operation)
    (each : ∀ call ∈ calls, ∀ start data, encoder.callData call = .ok data →
      ∀ part ∈ call.placed start, encoder.StandsIn data start part)
    {start : Nat} {data : Bytes} (written : encoder.callsData calls = .ok data) :
    ∀ part ∈ Operation.placedEach start calls, encoder.StandsIn data start part := by
  induction calls generalizing start data with
  | nil => simp [Operation.placedEach]
  | cons call rest induction =>
      obtain ⟨first, others, head, tail, rfl⟩ := (calls_data_iff encoder call rest data).mp written
      intro part inside
      rw [Operation.placedEach, List.mem_append] at inside
      rcases inside with own | later
      · have stands := each call List.mem_cons_self start first head part own
        simpa using StandsIn.within [] others stands
      · rw [← call_data_width encoder call first head] at later
        have stands := induction (fun other member => each other (List.mem_cons_of_mem call member))
          tail part later
        simpa using StandsIn.within first [] stands

theorem parts_stand (encoder : CallEncoder) (operation : Operation) (start : Nat) (data : Bytes)
    (written : encoder.callData operation = .ok data) :
    ∀ part ∈ operation.placed start, encoder.StandsIn data start part := by
  have whole : ∀ (operation : Operation) (start : Nat) (data : Bytes),
      encoder.callData operation = .ok data → encoder.StandsIn data start (start, operation) :=
    fun operation start data written => ⟨[], data, [], by simp, rfl, written⟩
  induction operation generalizing start data with
  | lock | release | setOwner | setOperator | setTransferKey | setTreeKey | transact
  | setBalance =>
      intro part inside
      obtain rfl : part = (start, _) := by simpa [Operation.placed] using inside
      exact whole _ start data written
  | asRoot inner induction =>
      intro part inside
      rw [Operation.placed, List.mem_cons] at inside
      rcases inside with rfl | inside
      · exact whole _ start data written
      · obtain ⟨numbers, behind, -, own, rfl⟩ := (call_data_iff encoder _ data).mp written
        have stands := induction (start + 2) behind own part inside
        simpa using StandsIn.within [numbers.1, numbers.2] [] stands
  | batch calls induction =>
      intro part inside
      rw [Operation.placed, List.mem_cons] at inside
      rcases inside with rfl | inside
      · exact whole _ start data written
      · obtain ⟨numbers, behind, -, own, rfl⟩ := (call_data_iff encoder _ data).mp written
        obtain ⟨others, each, rfl⟩ := (batch_arguments_iff encoder calls behind).mp own
        let front : Bytes := numbers.1 :: numbers.2 :: batchCount calls
        have place : start + 2 + (batchCount calls).length = start + front.length := by
          simp only [front, List.length_cons]
          omega
        rw [place] at inside
        have stands := calls_stand encoder calls induction each part inside
        simpa [front] using StandsIn.within front [] stands

/-- At the place of each part stand the numbers of its call. -/
theorem StandsIn.numbers {encoder : CallEncoder} {data : Bytes} {place : Nat} {part : Operation}
    (stands : encoder.StandsIn data 0 (place, part)) :
    ∃ numbers, encoder.numbers? part.kind = some numbers ∧
      (data.drop place).take 2 = [numbers.1, numbers.2] := by
  obtain ⟨front, own, back, rfl, placed, written⟩ := stands
  obtain ⟨numbers, behind, known, -, rfl⟩ := (call_data_iff encoder part own).mp written
  obtain rfl : front.length = place := by simpa using placed
  exact ⟨numbers, known, by simp⟩

/-- An encoder that has its numbers from a runtime encodes an operation exactly if the runtime
exposes the calls of all its parts, and each part then bears the numbers under which it does so.
For this the table of known calls and the calls that operations lead to are the same, and calls
tell the kinds of operation apart. -/
theorem encodes_what_runtime_exposes (pallets : List Pallet) (names : PalletNames)
    (operation : Operation) :
    let encoder : CallEncoder := ⟨names, CallIndices.ofRuntime pallets names⟩
    let parts := operation.placed 0
    ((∃ call, encoder.encodeOperation operation = .ok call) ↔
      ∀ part ∈ parts, (Pallet.exposed? pallets (names.callOf part.2.kind)).isSome = true) ∧
    (∀ call, encoder.encodeOperation operation = .ok call →
      ∀ part ∈ parts, ∃ pallet variant,
        Pallet.exposed? pallets (names.callOf part.2.kind) = some (pallet, variant) ∧
          (call.data.drop part.1).take 2 = [pallet, variant]) ∧
    (∀ name, name ∈ names.knownCalls ↔ ∃ kind, names.callOf kind = name) ∧
    ∀ first second : Operation,
      names.callOf first.kind = names.callOf second.kind → first.kind = second.kind := by
  intro encoder parts
  have numbers : ∀ kind, encoder.numbers? kind = Pallet.exposed? pallets (names.callOf kind) :=
    CallIndices.get_of_runtime pallets names
  refine ⟨?_, ?_, names.mem_known_calls, fun first second => names.call_of_injective⟩
  · have encoded : (∃ call, encoder.encodeOperation operation = .ok call) ↔
        ∃ data, encoder.callData operation = .ok data := by
      rw [encode_operation_eq]
      cases encoder.callData operation <;> simp [Except.map]
    rw [encoded, call_data_exists]
    constructor
    · rintro throughout ⟨place, part⟩ inside
      rw [← numbers]
      exact throughout part ((operation.is_part_iff part 0).mpr ⟨place, inside⟩)
    · intro exposed part inside
      obtain ⟨place, placed⟩ := (operation.is_part_iff part 0).mp inside
      rw [IsKnown, numbers]
      exact exposed (place, part) placed
  · rintro call encoded ⟨place, part⟩ inside
    have written := call_data_of_encoded encoded
    obtain ⟨⟨pallet, variant⟩, known, stand⟩ :=
      (parts_stand encoder operation 0 call.data written (place, part) inside).numbers
    exact ⟨pallet, variant, (numbers part.kind).symm.trans known, stand⟩

end CallEncoder

end LedgerCourier
