import LedgerCourier.Operation.CallData
import LedgerCourier.Proofs.Account.Address
import LedgerCourier.Proofs.Operation.Acceptance

/-!
# Operations written out and read back

An operation is rendered as its tag and structured arguments: amounts as decimal texts, bytes as
marked hexadecimal texts, and every account either as its address or as its marked key. What was
rendered is read back as the same operation, unless it holds a batch without calls. Nothing else
comes out of reading, so the operations that can be read are exactly those without such a batch.
-/

namespace LedgerCourier

set_option autoImplicit false

namespace Json

theorem insert_field_perm {key : String} (value : Json) {fields : List (String × Json)}
    (absent : key ∉ fields.map Prod.fst) :
    (insertField key value fields).Perm ((key, value) :: fields) := by
  induction fields with
  | nil => exact .refl _
  | cons field rest induction =>
      obtain ⟨other, held⟩ := field
      rw [List.map_cons, List.mem_cons, not_or] at absent
      rw [insertField]
      split
      next => exact .refl _
      next =>
        rw [if_neg absent.1]
        exact ((induction absent.2).cons _).trans (.swap _ _ _)

theorem fold_insert_perm {fields sorted : List (String × Json)}
    (once : (sorted.map Prod.fst ++ fields.map Prod.fst).Nodup) :
    (fields.foldl (fun sorted field => insertField field.1 field.2 sorted) sorted).Perm
      (sorted ++ fields) := by
  induction fields generalizing sorted with
  | nil => simp
  | cons field rest induction =>
      have absent : field.1 ∉ sorted.map Prod.fst := by
        intro member
        exact List.disjoint_of_nodup_append once member (by simp)
      have inserted := insert_field_perm field.2 absent
      have moved : (insertField field.1 field.2 sorted ++ rest).Perm (sorted ++ field :: rest) :=
        (inserted.append_right rest).trans List.perm_middle.symm
      refine (induction ?_).trans moved
      rw [← List.map_append] at once ⊢
      exact (moved.map Prod.fst).nodup_iff.mpr once

end Json

namespace Arguments

/-- An object that is put together from all the fields of a layout, in whatever order it keeps
them. -/
theorem gives_of_fields {layout : Layout} {fields : List (String × Json)}
    (names : fields.map Prod.fst = layout.map Prod.fst) (once : (fields.map Prod.fst).Nodup) :
    Gives layout (Json.ofFields fields) (fields.map fun field => some field.2) := by
  have order : (fields.foldl (fun sorted field => Json.insertField field.1 field.2 sorted)
      []).Perm fields := Json.fold_insert_perm once
  rw [Json.ofFields]
  generalize fields.foldl (fun sorted field => Json.insertField field.1 field.2 sorted) [] =
    sorted at order
  have keys := order.map Prod.fst
  have distinct : (sorted.map Prod.fst).Nodup := keys.nodup_iff.mpr once
  have values : (layout.map fun field => sorted.lookup field.1) =
      fields.map fun field => some field.2 := by
    have byName : (layout.map fun field => sorted.lookup field.1) =
        (layout.map Prod.fst).map fun name => sorted.lookup name := by
      rw [List.map_map]
      rfl
    rw [byName, ← names, List.map_map]
    apply List.map_congr_left
    intro field member
    exact lookup_of_mem distinct (order.mem_iff.mpr member)
  rw [← values]
  refine .object distinct ?_ ?_
  · intro key member
    rw [← names]
    exact keys.mem_iff.mp member
  · intro field member _
    rw [lookup_isSome_iff, keys.mem_iff, names]
    exact List.mem_map_of_mem member

end Arguments

namespace Operation

open Arguments

/-- The two texts that an account is written as. -/
inductive Names : AccountId → String → Prop where
  | address {account : AccountId} : Names account account.text
  | key {account : AccountId} : Names account (Hex.encodeMarked account.bytes)

def renderAmount (amount : Amount) : Json :=
  .string (String.ofList (Decimal.digits amount.units))

def renderBytes (data : Bytes) : Json := .string (Hex.encodeMarked data)

mutual

inductive Renders : Operation → Json → Prop where
  | lock {amount : Amount} :
      Renders (.lock amount) (.ofFields [("amount", renderAmount amount)])
  | release {amount : Amount} :
      Renders (.release amount) (.ofFields [("amount", renderAmount amount)])
  | setOwner {address : AccountId} {text : String} (name : Names address text) :
      Renders (.setOwner address) (.ofFields [("address", .string text)])
  | setOperator {address : AccountId} {text : String} (name : Names address text) :
      Renders (.setOperator address) (.ofFields [("address", .string text)])
  | setTransferKey {data : Bytes} :
      Renders (.setTransferKey data) (.ofFields [("data", renderBytes data)])
  | setTreeKey {data : Bytes} :
      Renders (.setTreeKey data) (.ofFields [("data", renderBytes data)])
  | transact {data : Bytes} :
      Renders (.transact data) (.ofFields [("data", renderBytes data)])
  | setBalance {who : AccountId} {text : String} {free reserved : Amount}
      (name : Names who text) :
      Renders (.setBalance who free reserved) (.ofFields [("who", .string text),
        ("free", renderAmount free), ("reserved", renderAmount reserved)])
  | asRoot {inner : Operation} {call : Json} (inside : RendersCall inner call) :
      Renders (.asRoot inner) (.ofFields [("call", call)])
  | batch {calls : List Operation} {items : List Json}
      (inside : List.Forall₂ RendersCall calls items) :
      Renders (.batch calls) (.ofFields [("calls", .array items)])

inductive RendersCall : Operation → Json → Prop where
  | call {operation : Operation} {args : Json} (inside : Renders operation args) :
      RendersCall operation (.ofFields [("op", .string operation.tag), ("args", args)])

end

/-- An operation other than a batch without calls. -/
def Filled : Operation → Prop
  | .batch calls => calls ≠ []
  | _ => True

theorem digit_is_no_blank {character : Char} (digit : character.isDigit) :
    ¬Blank.isBlank character := by
  have range : 48 ≤ character.toNat ∧ character.toNat ≤ 57 := by
    simpa [Char.isDigit, Char.le_def, UInt32.le_iff_toNat_le] using digit
  simp only [Blank.isBlank, Bool.or_eq_true, Bool.and_eq_true, decide_eq_true_eq, beq_iff_eq]
  omega

theorem denotes_amount (amount : Amount) : DenotesAmount (renderAmount amount) amount := by
  have plain : ∀ character ∈ Decimal.digits amount.units, ¬Blank.isBlank character :=
    fun character member => digit_is_no_blank
      (Nat.isDigit_of_mem_toDigits (by decide) (by decide) member)
  refine .text (Decimal.digits amount.units) ?_ (Decimal.digits_write amount.units)
  rw [String.toList_ofList]
  exact Blank.trims_to_self plain

theorem denotes_bytes (data : Bytes) : DenotesBytes (Hex.encodeMarked data) data := by
  refine ⟨1, Hex.encodeChars data, ?_, Hex.encode_chars_spell data⟩
  have plain := Hex.encode_marked_plain data
  rw [Hex.encode_marked_chars] at plain ⊢
  exact Blank.trims_to_self plain

theorem parse_named {account : AccountId} {text : String} (name : Names account text) :
    Address.parse text = .ok account := by
  cases name with
  | address => exact Address.parse_text account
  | key => exact Address.parse_marked account

theorem amount_arguments_rendered (amount : Amount) :
    AmountArguments (.ofFields [("amount", renderAmount amount)]) amount :=
  ⟨_, gives_of_fields rfl (by simp), denotes_amount amount⟩

theorem address_arguments_rendered {account : AccountId} {text : String}
    (name : Names account text) :
    AddressArguments (.ofFields [("address", .string text)]) account :=
  ⟨text, gives_of_fields rfl (by simp), parse_named name⟩

theorem data_arguments_rendered (data : Bytes) :
    DataArguments (.ofFields [("data", renderBytes data)]) data :=
  ⟨_, gives_of_fields rfl (by simp), denotes_bytes data⟩

theorem balance_parts_rendered (text : String) (free reserved : Amount) :
    BalanceParts (.ofFields [("who", .string text), ("free", renderAmount free),
      ("reserved", renderAmount reserved)]) text free reserved :=
  ⟨_, _, gives_of_fields rfl (by simp), denotes_amount free, denotes_amount reserved⟩

theorem call_shape_rendered (operation : Operation) (args : Json) :
    Shapes (.ofFields [("op", .string operation.tag), ("args", args)]) ⟨operation.tag, args⟩ :=
  ⟨_, gives_of_fields rfl (by simp), rfl⟩

/-- What is rendered matches, as long as no batch inside is empty. The induction is on the
operation, so a nested call is known to match when the call around it is looked at. -/
theorem matches_of_renders {operation : Operation} (filled : operation.Throughout Filled)
    {args : Json} (renders : Renders operation args) : Matches args operation := by
  induction operation generalizing args with
  | lock amount =>
      cases renders
      exact .lock (amount_arguments_rendered amount)
  | release amount =>
      cases renders
      exact .release (amount_arguments_rendered amount)
  | setOwner address =>
      cases renders with
      | setOwner name => exact .setOwner (address_arguments_rendered name)
  | setOperator address =>
      cases renders with
      | setOperator name => exact .setOperator (address_arguments_rendered name)
  | setTransferKey data =>
      cases renders
      exact .setTransferKey (data_arguments_rendered data)
  | setTreeKey data =>
      cases renders
      exact .setTreeKey (data_arguments_rendered data)
  | transact data =>
      cases renders
      exact .transact (data_arguments_rendered data)
  | setBalance who free reserved =>
      cases renders with
      | setBalance name =>
          exact .setBalance (balance_parts_rendered _ free reserved) (parse_named name)
  | asRoot inner induction =>
      cases renders with
      | asRoot inside =>
          obtain ⟨inside⟩ := inside
          exact .asRoot (gives_of_fields rfl (by simp))
            (.call (call_shape_rendered inner _) rfl (induction filled.of_asRoot inside))
  | batch calls induction =>
      cases renders with
      | @batch _ items inside =>
          -- The items come with the calls they render, so both are walked through side by side.
          have known : ∀ call ∈ calls, ∀ args, Renders call args → Matches args call :=
            fun call member _ => induction call member (filled.of_batch member)
          have matching : List.Forall₂ (flip CallMatches) calls items := by
            refine ((List.forall₂_and_left _ _).mpr ⟨known, inside⟩).imp ?_
            rintro call item ⟨known, ⟨inside⟩⟩
            exact .call (call_shape_rendered call _) rfl (known _ inside)
          refine .batch (gives_of_fields rfl (by simp)) ?_ matching.flip
          rintro rfl
          cases inside
          exact filled.self rfl

theorem matched_of_mem {items : List Json} {calls : List Operation}
    (inside : List.Forall₂ CallMatches items calls) {call : Operation} (member : call ∈ calls) :
    ∃ item, CallMatches item call := by
  induction inside with
  | nil => cases member
  | cons first others induction =>
      rcases List.mem_cons.mp member with rfl | member
      · exact ⟨_, first⟩
      · exact induction member

theorem filled_of_matches {operation : Operation} {args : Json}
    (found : Matches args operation) : operation.Throughout Filled := by
  induction operation generalizing args with
  | asRoot inner induction =>
      cases found with
      | asRoot given inside =>
          obtain ⟨shape, tag, inside⟩ := inside
          exact Throughout.asRoot trivial (induction inside)
  | batch calls induction =>
      cases found with
      | @batch _ items _ given filled inside =>
          refine Throughout.batch ?_ ?_
          · rintro rfl
            cases inside
            exact filled rfl
          · intro call member
            obtain ⟨item, inside⟩ := matched_of_mem inside member
            obtain ⟨shape, tag, inside⟩ := inside
            exact induction call member inside
  | _ =>
      intro part inside
      cases inside
      trivial

theorem renders_each {calls : List Operation}
    (each : ∀ call ∈ calls, ∃ args, Renders call args) :
    ∃ items, List.Forall₂ RendersCall calls items := by
  induction calls with
  | nil => exact ⟨[], .nil⟩
  | cons call rest induction =>
      obtain ⟨first, others⟩ := List.forall_mem_cons.mp each
      obtain ⟨args, inside⟩ := first
      obtain ⟨items, later⟩ := induction others
      exact ⟨_ :: items, .cons (.call inside) later⟩

theorem renders_exists (operation : Operation) : ∃ args, Renders operation args := by
  induction operation with
  | lock amount => exact ⟨_, .lock⟩
  | release amount => exact ⟨_, .release⟩
  | setOwner address => exact ⟨_, .setOwner .address⟩
  | setOperator address => exact ⟨_, .setOperator .address⟩
  | setTransferKey data => exact ⟨_, .setTransferKey⟩
  | setTreeKey data => exact ⟨_, .setTreeKey⟩
  | transact data => exact ⟨_, .transact⟩
  | setBalance who free reserved => exact ⟨_, .setBalance .address⟩
  | asRoot inner induction =>
      obtain ⟨args, inside⟩ := induction
      exact ⟨_, .asRoot (.call inside)⟩
  | batch calls induction =>
      obtain ⟨items, inside⟩ := renders_each induction
      exact ⟨_, .batch inside⟩

/-- Every operation without an empty batch can be written out, and however that is done it is read
back, so that it makes no difference for the call data whether an operation is built or read.
Whatever is read carries the tag under which it was asked for and has no empty batch at any depth.
The operations that can be read are therefore exactly those without one. -/
theorem reading_undoes_rendering :
    (∀ operation : Operation, operation.Throughout Filled →
      (∃ args, Renders operation args) ∧
      ∀ args, Renders operation args → ofTag operation.tag args = .ok operation ∧
        ∀ encoder : CallEncoder,
          encoder.encode operation.tag args = encoder.encodeOperation operation) ∧
    (∀ tag args operation, ofTag tag args = .ok operation →
      operation.tag = tag ∧ operation.Throughout Filled) ∧
    ∀ operation : Operation,
      (∃ tag args, ofTag tag args = .ok operation) ↔ operation.Throughout Filled := by
  have reads : ∀ operation : Operation, operation.Throughout Filled →
      ∀ args, Renders operation args → ofTag operation.tag args = .ok operation :=
    fun operation filled args renders =>
      (of_tag_iff _ _ _).mpr ⟨rfl, matches_of_renders filled renders⟩
  have image : ∀ tag args operation, ofTag tag args = .ok operation →
      operation.tag = tag ∧ operation.Throughout Filled := by
    intro tag args operation built
    obtain ⟨same, found⟩ := (of_tag_iff tag args operation).mp built
    exact ⟨same.symm, filled_of_matches found⟩
  refine ⟨?_, image, ?_⟩
  · intro operation filled
    refine ⟨renders_exists operation, fun args renders => ?_⟩
    have built := reads operation filled args renders
    exact ⟨built, fun encoder => by rw [CallEncoder.encode, built]⟩
  · intro operation
    constructor
    · rintro ⟨tag, args, built⟩
      exact (image tag args operation built).2
    · intro filled
      obtain ⟨args, renders⟩ := renders_exists operation
      exact ⟨operation.tag, args, reads operation filled args renders⟩

/-- The batch that sets a pool up: the operator and the two verification keys. -/
def setUpPool (operator : AccountId) (transferKey treeKey : Bytes) : Operation :=
  .batch [.setOperator operator, .setTransferKey transferKey, .setTreeKey treeKey]

theorem set_up_pool_read_back :
    ofTag "batch" (.ofFields [("calls", .array [
      .ofFields [("op", .string "setOperator"), ("args", .ofFields [("address",
        .string (Hex.encodeMarked (Bytes32.fill 4).bytes))])],
      .ofFields [("op", .string "setTransferVk"), ("args", .ofFields [("data",
        .string (Hex.encodeMarked [1, 255]))])],
      .ofFields [("op", .string "setTreeVk"), ("args", .ofFields [("data",
        .string (Hex.encodeMarked []))])]])]) =
      .ok (setUpPool (Bytes32.fill 4) [1, 255] []) := by
  have filled : (setUpPool (Bytes32.fill 4) [1, 255] []).Throughout Filled := by
    refine Throughout.batch (List.cons_ne_nil _ _) ?_
    intro call member part inside
    simp only [List.mem_cons, List.not_mem_nil, or_false] at member
    rcases member with rfl | rfl | rfl <;> cases inside <;> trivial
  refine ((reading_undoes_rendering.1 _ filled).2 _ ?_).1
  exact .batch (.cons (.call (.setOperator .key))
    (.cons (.call .setTransferKey) (.cons (.call .setTreeKey) .nil)))

end Operation

end LedgerCourier
