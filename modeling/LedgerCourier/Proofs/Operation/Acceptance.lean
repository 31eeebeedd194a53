import LedgerCourier.Proofs.Operation.Grammar

/-!
# Which arguments an operation can be built from

The relation below says which arguments denote which operation, down through nested calls. It
mentions no order of reading and no errors. Building an operation from a tag and arguments
succeeds exactly on what the relation allows. What is not allowed is an error, and in a batch whose
calls all have the right shape it is the error of the first call that fails.
-/

namespace LedgerCourier.Operation

set_option autoImplicit false

open Arguments

mutual

/-- Arguments that denote an operation whose tag is known. -/
inductive Matches : Json → Operation → Prop where
  | lock {args : Json} {amount : Amount} (given : AmountArguments args amount) :
      Matches args (.lock amount)
  | release {args : Json} {amount : Amount} (given : AmountArguments args amount) :
      Matches args (.release amount)
  | setOwner {args : Json} {address : AccountId} (given : AddressArguments args address) :
      Matches args (.setOwner address)
  | setOperator {args : Json} {address : AccountId} (given : AddressArguments args address) :
      Matches args (.setOperator address)
  | setTransferKey {args : Json} {data : Bytes} (given : DataArguments args data) :
      Matches args (.setTransferKey data)
  | setTreeKey {args : Json} {data : Bytes} (given : DataArguments args data) :
      Matches args (.setTreeKey data)
  | transact {args : Json} {data : Bytes} (given : DataArguments args data) :
      Matches args (.transact data)
  | setBalance {args : Json} {text : String} {who : AccountId} {free reserved : Amount}
      (given : BalanceParts args text free reserved) (account : Address.parse text = .ok who) :
      Matches args (.setBalance who free reserved)
  | asRoot {args json : Json} {inner : Operation} (given : Gives [("call", true)] args [some json])
      (inside : CallMatches json inner) : Matches args (.asRoot inner)
  | batch {args : Json} {items : List Json} {calls : List Operation}
      (given : Gives [("calls", true)] args [some (.array items)]) (filled : items ≠ [])
      (inside : List.Forall₂ CallMatches items calls) : Matches args (.batch calls)

inductive CallMatches : Json → Operation → Prop where
  | call {json : Json} {call : NestedCall} {inner : Operation} (shape : Shapes json call)
      (tag : call.tag = inner.tag) (args : Matches call.args inner) : CallMatches json inner

end

theorem kind_tag_injective : Function.Injective Kind.tag := by
  intro first second same
  cases first <;> cases second <;> first | rfl | exact absurd same (by decide)

theorem kind_of_tag_iff (tag : String) (kind : Kind) :
    Kind.ofTag? tag = some kind ↔ tag = kind.tag := by
  constructor
  · intro found
    have same := List.find?_some found
    exact (beq_iff_eq.mp same).symm
  · rintro rfl
    cases kind <;> decide

/-- What one step of building finds in the arguments, where nested calls are built in turn. -/
def Reads (args : Json) : Operation → Prop
  | .lock amount | .release amount => AmountArguments args amount
  | .setOwner address | .setOperator address => AddressArguments args address
  | .setTransferKey data | .setTreeKey data | .transact data => DataArguments args data
  | .setBalance who free reserved =>
      ∃ text, BalanceParts args text free reserved ∧ Address.parse text = .ok who
  | .asRoot inner =>
      ∃ call, readField sudoForm "call" readCall args = .ok call ∧
        ofTag call.tag call.args = .ok inner
  | .batch operations =>
      ∃ calls, readField batchForm "calls" readCalls args = .ok calls ∧ calls ≠ [] ∧
        ofCalls calls = .ok operations

theorem of_tag_step (tag : String) (args : Json) (operation : Operation) :
    ofTag tag args = .ok operation ↔ tag = operation.tag ∧ Reads args operation := by
  cases found : Kind.ofTag? tag with
  | none =>
      have unknown : tag ≠ operation.tag := by
        intro same
        rw [(kind_of_tag_iff tag operation.kind).mpr same] at found
        cases found
      unfold ofTag
      simp [found, unknown]
  | some kind =>
      obtain rfl := (kind_of_tag_iff tag kind).mp found
      unfold ofTag
      rw [found, tag, kind_tag_injective.eq_iff]
      -- Another operation has another kind, which settles all cases but one for each kind. The two
      -- kinds that carry calls leave what is inside to the next step.
      cases kind with
      | lock | release =>
          simp only [bind_iff, under_iff, amount_arguments_iff]
          cases operation <;> simp [Reads, Operation.kind]
      | setOwner | setOperator =>
          have step := address_arguments_iff args
          simp only [bind_iff, under_iff]
          cases operation <;> simp [Reads, Operation.kind, ← step]
      | setTransferKey | setTreeKey | transact =>
          have step := data_arguments_iff args
          simp only [bind_iff, under_iff]
          cases operation <;> simp [Reads, Operation.kind, ← step]
      | setBalance =>
          simp only [bind_iff, under_iff, Prod.exists, read_balance_iff, read_account_iff]
          cases operation <;> simp [Reads, Operation.kind]
      | asRoot =>
          dsimp only
          split
          next flaw read => cases operation <;> simp [Reads, Operation.kind, read]
          next call read =>
            split
            next error built => cases operation <;> simp [Reads, Operation.kind, read, built]
            next inner built => cases operation <;> simp [Reads, Operation.kind, read, built]
      | batch =>
          dsimp only
          split
          next flaw read => cases operation <;> simp [Reads, Operation.kind, read]
          next read => cases operation <;> simp [Reads, Operation.kind, read]
          next calls filled read =>
            have filled : calls ≠ [] := filled
            split
            next error built =>
              cases operation <;> simp [Reads, Operation.kind, read, built]
            next inner built =>
              cases operation <;> simp [Reads, Operation.kind, read, built, filled]

theorem of_calls_iff (calls : List NestedCall) (operations : List Operation) :
    ofCalls calls = .ok operations ↔
      List.Forall₂ (fun call operation => ofTag call.tag call.args = .ok operation)
        calls operations := by
  induction calls generalizing operations with
  | nil =>
      rw [List.forall₂_nil_left_iff, ofCalls]
      simp [eq_comm]
  | cons call rest induction =>
      rw [ofCalls]
      cases operations with
      | nil =>
          rw [List.forall₂_nil_right_iff]
          cases ofTag call.tag call.args with
          | error error => simp
          | ok operation => cases ofCalls rest <;> simp
      | cons operation others =>
          rw [List.forall₂_cons, ← induction]
          cases ofTag call.tag call.args with
          | error error => simp
          | ok operation => cases ofCalls rest <;> simp

theorem of_calls_error {earlier later : List NestedCall} {call : NestedCall}
    {error : EncodeError}
    (fine : ∀ other ∈ earlier, ∃ operation, ofTag other.tag other.args = .ok operation)
    (fails : ofTag call.tag call.args = .error error) :
    ofCalls (earlier ++ call :: later) = .error error := by
  induction earlier with
  | nil =>
      rw [List.nil_append, ofCalls, fails]
  | cons other earlier induction =>
      obtain ⟨⟨operation, built⟩, fine⟩ := List.forall_mem_cons.mp fine
      rw [List.cons_append, ofCalls, built, induction fine]

/-- A nested call matches an operation exactly when it has the shape of a call from which the
operation can be built, as long as building is known to be matching for that operation. -/
theorem call_matches_iff {operation : Operation}
    (known : ∀ tag args, ofTag tag args = .ok operation ↔
      tag = operation.tag ∧ Matches args operation) (json : Json) :
    CallMatches json operation ↔
      ∃ call, Shapes json call ∧ ofTag call.tag call.args = .ok operation := by
  constructor
  · rintro ⟨shape, tag, args⟩
    exact ⟨_, shape, (known _ _).mpr ⟨tag, args⟩⟩
  · rintro ⟨call, shape, built⟩
    obtain ⟨tag, args⟩ := (known _ _).mp built
    exact .call shape tag args

theorem calls_match_iff {operations : List Operation}
    (known : ∀ operation ∈ operations, ∀ tag args,
      ofTag tag args = .ok operation ↔ tag = operation.tag ∧ Matches args operation)
    (items : List Json) :
    List.Forall₂ CallMatches items operations ↔
      ∃ calls, List.Forall₂ Shapes items calls ∧ ofCalls calls = .ok operations := by
  simp only [of_calls_iff]
  induction operations generalizing items with
  | nil =>
      rw [List.forall₂_nil_right_iff]
      constructor
      · rintro rfl
        exact ⟨[], .nil, .nil⟩
      · rintro ⟨calls, shapes, built⟩
        cases built
        cases shapes
        rfl
  | cons operation rest induction =>
      obtain ⟨first, others⟩ := List.forall_mem_cons.mp known
      rw [List.forall₂_cons_right_iff]
      constructor
      · rintro ⟨item, items, here, later, rfl⟩
        obtain ⟨call, shape, built⟩ := (call_matches_iff first item).mp here
        obtain ⟨calls, shapes, builds⟩ := (induction others items).mp later
        exact ⟨call :: calls, .cons shape shapes, .cons built builds⟩
      · rintro ⟨calls, shapes, builds⟩
        obtain ⟨call, otherCalls, built, later, rfl⟩ := List.forall₂_cons_right_iff.mp builds
        obtain ⟨item, otherItems, shape, fits, rfl⟩ := List.forall₂_cons_right_iff.mp shapes
        exact ⟨item, otherItems, (call_matches_iff first item).mpr ⟨call, shape, built⟩,
          (induction others otherItems).mpr ⟨otherCalls, fits, later⟩, rfl⟩

/-- An operation is built from a tag and arguments exactly when the tag is its own and the arguments
match it. The induction is on the operation: what nested calls match is known before the call
around them is looked at. -/
theorem of_tag_iff (tag : String) (args : Json) (operation : Operation) :
    ofTag tag args = .ok operation ↔ tag = operation.tag ∧ Matches args operation := by
  induction operation generalizing tag args with
  | lock amount =>
      rw [of_tag_step]
      exact and_congr_right fun _ => ⟨.lock, fun | .lock given => given⟩
  | release amount =>
      rw [of_tag_step]
      exact and_congr_right fun _ => ⟨.release, fun | .release given => given⟩
  | setOwner address =>
      rw [of_tag_step]
      exact and_congr_right fun _ => ⟨.setOwner, fun | .setOwner given => given⟩
  | setOperator address =>
      rw [of_tag_step]
      exact and_congr_right fun _ => ⟨.setOperator, fun | .setOperator given => given⟩
  | setTransferKey data =>
      rw [of_tag_step]
      exact and_congr_right fun _ => ⟨.setTransferKey, fun | .setTransferKey given => given⟩
  | setTreeKey data =>
      rw [of_tag_step]
      exact and_congr_right fun _ => ⟨.setTreeKey, fun | .setTreeKey given => given⟩
  | transact data =>
      rw [of_tag_step]
      exact and_congr_right fun _ => ⟨.transact, fun | .transact given => given⟩
  | setBalance who free reserved =>
      rw [of_tag_step]
      exact and_congr_right fun _ => ⟨fun ⟨_, given, account⟩ => .setBalance given account,
        fun | .setBalance given account => ⟨_, given, account⟩⟩
  | asRoot inner induction =>
      rw [of_tag_step]
      refine and_congr_right fun _ => ?_
      simp only [Reads, call_arguments_iff]
      constructor
      · rintro ⟨call, ⟨json, given, shape⟩, built⟩
        exact .asRoot given ((call_matches_iff induction json).mpr ⟨call, shape, built⟩)
      · rintro (_ | _)
        next json given inside =>
          obtain ⟨call, shape, built⟩ := (call_matches_iff induction json).mp inside
          exact ⟨call, ⟨json, given, shape⟩, built⟩
  | batch operations induction =>
      rw [of_tag_step]
      refine and_congr_right fun _ => ?_
      simp only [Reads, calls_arguments_iff]
      constructor
      · rintro ⟨calls, ⟨items, given, shapes⟩, filled, built⟩
        refine .batch given ?_ ((calls_match_iff induction items).mpr ⟨calls, shapes, built⟩)
        -- There are as many calls as items, so neither list is empty if the other is not.
        rintro rfl
        cases shapes
        exact filled rfl
      · rintro (_ | _)
        next items filled given inside =>
          obtain ⟨calls, shapes, built⟩ := (calls_match_iff induction items).mp inside
          refine ⟨calls, ⟨items, given, shapes⟩, ?_, built⟩
          rintro rfl
          cases shapes
          exact filled rfl

theorem batch_of_calls {args : Json} {calls : List NestedCall}
    (read : readField batchForm "calls" readCalls args = .ok calls) :
    (calls = [] → ofTag Kind.batch.tag args = .error .emptyBatch) ∧
      ∀ error, ofCalls calls = .error error → ofTag Kind.batch.tag args = .error error := by
  have found := (kind_of_tag_iff Kind.batch.tag Kind.batch).mpr rfl
  constructor
  · rintro rfl
    rw [ofTag, found]
    dsimp only
    split
    next flaw refused => cases read.symm.trans refused
    next => rfl
    next calls filled again =>
      obtain rfl := Except.ok.inj (read.symm.trans again)
      exact absurd rfl filled
  · intro error fails
    rw [ofTag, found]
    dsimp only
    split
    next flaw refused => cases read.symm.trans refused
    next again =>
      obtain rfl := Except.ok.inj (read.symm.trans again)
      rw [ofCalls] at fails
      cases fails
    next calls filled again =>
      obtain rfl := Except.ok.inj (read.symm.trans again)
      rw [fails]

/-- Building succeeds exactly on what matches, whatever the tag and the arguments are, and gives
the operation that is matched. Otherwise it answers with an error. A batch whose calls all have
the right shape is refused for being empty, or for the reason of its first call that cannot be
built. -/
theorem builds_exactly_what_matches (tag : String) (args : Json) :
    (∀ operation, ofTag tag args = .ok operation ↔
      tag = operation.tag ∧ Matches args operation) ∧
    ((∀ operation, tag = operation.tag → ¬Matches args operation) →
      ∃ error, ofTag tag args = .error error) ∧
    ∀ items calls, tag = Kind.batch.tag → Gives [("calls", true)] args [some (.array items)] →
      List.Forall₂ Shapes items calls →
        (calls = [] → ofTag tag args = .error .emptyBatch) ∧
        ∀ earlier call later error, calls = earlier ++ call :: later →
          (∀ other ∈ earlier, ∃ operation, ofTag other.tag other.args = .ok operation) →
            ofTag call.tag call.args = .error error → ofTag tag args = .error error := by
  refine ⟨of_tag_iff tag args, ?_, ?_⟩
  · intro nothing
    cases built : ofTag tag args with
    | error error => exact ⟨error, rfl⟩
    | ok operation =>
        obtain ⟨same, found⟩ := (of_tag_iff tag args operation).mp built
        exact absurd found (nothing operation same)
  · rintro items calls rfl given shapes
    have read := (calls_arguments_iff args calls).mpr ⟨items, given, shapes⟩
    obtain ⟨empty, refused⟩ := batch_of_calls read
    refine ⟨empty, ?_⟩
    rintro earlier call later error rfl fine fails
    exact refused error (of_calls_error fine fails)

/-- A batch that locks seven units and then asks for something that does not exist. -/
def halfKnownBatch : Json :=
  .object [("calls", .array [
    .array [.string "lock", .object [("amount", .string " +7 ")]], .array [.string "mint"]])]

theorem half_known_batch_refused :
    Matches (.object [("amount", .string " +7 ")]) (.lock ⟨7, by decide⟩) ∧
      ofTag "lock" (.object [("amount", .string " +7 ")]) = .ok (.lock ⟨7, by decide⟩) ∧
      ofTag "batch" halfKnownBatch = .error (.unknownOperation "mint") := by
  have amount : Matches (.object [("amount", .string " +7 ")]) (.lock ⟨7, by decide⟩) := by
    refine .lock ⟨_, .single _ _ _, .text ['+', '7'] ?_ ?_⟩
    · exact (Blank.trim_iff _ _).mp (by decide)
    · exact ⟨['7'], Or.inr rfl, by decide, List.forall_mem_singleton.mpr rfl, by decide⟩
  have locks := ((builds_exactly_what_matches "lock" _).1 _).mpr ⟨rfl, amount⟩
  have unknown : ofTag "mint" .null = .error (.unknownOperation "mint") := by
    have none : Kind.ofTag? "mint" = none := by decide
    rw [ofTag, none]
  refine ⟨amount, locks, ?_⟩
  refine ((builds_exactly_what_matches "batch" halfKnownBatch).2.2 _
    [⟨"lock", .object [("amount", .string " +7 ")]⟩, ⟨"mint", .null⟩] rfl
    (.single _ _ _) ?_).2 [_] _ [] _ rfl ?_ unknown
  · refine .cons ⟨some (.object [("amount", .string " +7 ")]), ?_, rfl⟩ (.cons ⟨none, ?_, rfl⟩ .nil)
    · exact .array 0 rfl (by decide)
    · exact .array 1 rfl (by decide)
  · intro other member
    obtain rfl := List.mem_singleton.mp member
    exact ⟨_, locks⟩

end LedgerCourier.Operation
