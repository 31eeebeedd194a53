import LedgerCourier.Account.Address
import LedgerCourier.Operation.Arguments

/-!
Operations read from a tag and structured arguments.

The tag decides the form of the arguments. The whole form is read before any of its texts
is interpreted, so an unreadable amount is reported before an unreadable account, and a
batch reads the shapes of all its calls before it looks into the first one. Nested calls
report under their own tag. The recursion goes down the arguments: what a nested call
carries weighs less than the value in which the call stands.
-/

namespace LedgerCourier

set_option autoImplicit false

inductive EncodeError where
  | unknownOperation (tag : String)
  | invalidArguments (tag : String) (flaw : Arguments.Flaw)
  | invalidHex (field : String) (flaw : Hex.Flaw)
  /-- A text names no account. It is kept without the blanks around it. -/
  | invalidAccount (text : String)
  | emptyBatch
  | unknownCall (pallet call : String)
deriving DecidableEq

namespace Json

mutual

/-- How many values a value consists of, itself included. -/
def weight : Json → Nat
  | .array items => 1 + weightItems items
  | .object fields => 1 + weightFields fields
  | _ => 1

def weightItems : List Json → Nat
  | [] => 0
  | item :: rest => weight item + weightItems rest

def weightFields : List (String × Json) → Nat
  | [] => 0
  | (_, value) :: rest => weight value + weightFields rest

end

theorem weight_pos (json : Json) : 0 < json.weight := by
  cases json <;> simp only [weight] <;> omega

theorem weight_field_le {fields : List (String × Json)} {name : String} {value : Json}
    (member : (name, value) ∈ fields) : value.weight ≤ weightFields fields := by
  induction fields with
  | nil => cases member
  | cons field rest induction =>
      obtain ⟨key, held⟩ := field
      simp only [weightFields]
      cases member with
      | head => omega
      | tail _ member => have := induction member; omega

theorem weight_item_le {items : List Json} {value : Json} (member : value ∈ items) :
    value.weight ≤ weightItems items := by
  induction items with
  | nil => cases member
  | cons item rest induction =>
      simp only [weightItems]
      cases member with
      | head => omega
      | tail _ member => have := induction member; omega

end Json

namespace Arguments

open Json

theorem value_of_mem {name : String} {accepted : Accepted} {value : Json}
    (found : valueOf? name accepted = some value) : (name, value) ∈ accepted := by
  induction accepted with
  | nil => cases found
  | cons field rest induction =>
      obtain ⟨key, held⟩ := field
      simp only [valueOf?] at found
      split at found
      · next same => cases found; subst same; exact List.mem_cons_self
      · exact List.mem_cons_of_mem _ (induction found)

theorem visit_fields_mem {form : Form} {accepted result : Accepted}
    {fields : List (String × Json)} (visited : form.visitFields accepted fields = .ok result)
    {field : String × Json} (member : field ∈ result) :
    field ∈ accepted ∨ field ∈ fields := by
  induction fields generalizing accepted with
  | nil =>
      simp only [Form.visitFields] at visited
      split at visited
      · cases visited
      · cases visited; exact Or.inl member
  | cons head rest induction =>
      obtain ⟨key, value⟩ := head
      simp only [Form.visitFields] at visited
      split at visited
      · cases visited
      · split at visited
        · cases visited
        · split at visited
          · cases visited
          · rcases induction visited with earlier | later
            · rcases List.mem_append.mp earlier with earlier | here
              · exact Or.inl earlier
              · rw [List.mem_singleton.mp here]; exact Or.inr List.mem_cons_self
            · exact Or.inr (List.mem_cons_of_mem _ later)

theorem visit_items_mem {form : Form} {length : Nat} {fields : List Field} {items : List Json}
    {result : Accepted} (visited : form.visitItems length fields items = .ok result)
    {field : String × Json} (member : field ∈ result) : field.2 ∈ items := by
  induction fields generalizing items result with
  | nil =>
      cases items with
      | nil => simp only [Form.visitItems] at visited; cases visited; cases member
      | cons => simp only [Form.visitItems] at visited; cases visited
  | cons head fields induction =>
      cases items with
      | nil =>
          simp only [Form.visitItems] at visited
          split at visited
          · cases visited
          · exact induction visited member
      | cons value rest =>
          simp only [Form.visitItems] at visited
          split at visited
          · cases visited
          · split at visited
            · cases visited
            · next inner =>
                cases visited
                cases member with
                | head => exact List.mem_cons_self
                | tail _ member => exact List.mem_cons_of_mem _ (induction inner member)

theorem visit_weight {form : Form} {json : Json} {accepted : Accepted}
    (visited : form.visit json = .ok accepted) {name : String} {value : Json}
    (found : valueOf? name accepted = some value) : value.weight < json.weight := by
  have member := value_of_mem found
  cases json with
  | object fields =>
      rcases visit_fields_mem visited member with none | inside
      · cases none
      · have := weight_field_le inside
        simp only [weight]
        omega
  | array items =>
      have : value.weight ≤ weightItems items := weight_item_le (visit_items_mem visited member)
      simp only [weight]
      omega
  | null => cases visited
  | bool => cases visited
  | integer => cases visited
  | float => cases visited
  | string => cases visited

theorem read_call_weight {json : Json} {call : NestedCall} (read : readCall json = .ok call) :
    call.args.weight ≤ json.weight := by
  unfold readCall at read
  split at read
  · cases read
  · next accepted visited =>
      split at read
      · cases read
      · cases read
        cases found : valueOf? "args" accepted with
        | none => have := weight_pos json; simp [weight]; omega
        | some value => have := visit_weight visited found; simp; omega

def weightCalls : List NestedCall → Nat
  | [] => 0
  | call :: rest => call.args.weight + weightCalls rest

theorem read_each_weight {items : List Json} {calls : List NestedCall}
    (read : readEach items = .ok calls) : weightCalls calls ≤ weightItems items := by
  induction items generalizing calls with
  | nil => cases read; exact Nat.le_refl _
  | cons item rest induction =>
      simp only [readEach] at read
      split at read
      · cases read
      · next call inner =>
          split at read
          · cases read
          · next others outer =>
              cases read
              have := read_call_weight inner
              have := induction outer
              simp only [weightCalls, weightItems]
              omega

theorem read_calls_weight {json : Json} {calls : List NestedCall}
    (read : readCalls json = .ok calls) : weightCalls calls < json.weight := by
  cases json with
  | array items => have := read_each_weight read; simp only [weight]; omega
  | null => cases read
  | bool => cases read
  | integer => cases read
  | float => cases read
  | string => cases read
  | object => cases read

theorem read_field_call_weight {form : Form} {name : String} {json : Json} {call : NestedCall}
    (read : readField form name readCall json = .ok call) : call.args.weight < json.weight := by
  unfold readField at read
  split at read
  · cases read
  · next accepted visited =>
      cases found : valueOf? name accepted with
      | none => simp only [found, Option.getD_none] at read; cases read
      | some value =>
          simp only [found, Option.getD_some] at read
          have := read_call_weight read
          have := visit_weight visited found
          omega

theorem read_field_calls_weight {form : Form} {name : String} {json : Json}
    {calls : List NestedCall} (read : readField form name readCalls json = .ok calls) :
    weightCalls calls < json.weight := by
  unfold readField at read
  split at read
  · cases read
  · next accepted visited =>
      cases found : valueOf? name accepted with
      | none => simp only [found, Option.getD_none] at read; cases read
      | some value =>
          simp only [found, Option.getD_some] at read
          have := read_calls_weight read
          have := visit_weight visited found
          omega

/-- Reads a text that stands for bytes: blanks around it and every `0x` in front are dropped,
and the rest has to be hexadecimal. -/
def readBytes (field : String) (text : String) : Except EncodeError Bytes :=
  match Hex.decodeBytes (Hex.textBytes (Blank.dropMarks (Blank.trim text.toList))) with
  | .ok bytes => .ok bytes
  | .error flaw => .error (.invalidHex field flaw)

def readAccount (text : String) : Except EncodeError AccountId :=
  match Address.parse text with
  | .ok account => .ok account
  | .error trimmed => .error (.invalidAccount trimmed)

def under {Value : Type} (tag : String) : Except Flaw Value → Except EncodeError Value
  | .ok value => .ok value
  | .error flaw => .error (.invalidArguments tag flaw)

end Arguments

namespace Operation

open Arguments

def Kind.ofTag? (tag : String) : Option Kind := Kind.all.find? fun kind => kind.tag == tag

mutual

def ofTag (tag : String) (args : Json) : Except EncodeError Operation :=
  match Kind.ofTag? tag with
  | none => .error (.unknownOperation tag)
  | some .lock => do
      let amount ← under tag (readField amountForm "amount" readAmount args)
      .ok (.lock amount)
  | some .release => do
      let amount ← under tag (readField amountForm "amount" readAmount args)
      .ok (.release amount)
  | some .setOwner => do
      let text ← under tag (readField addressForm "address" Arguments.readText args)
      .ok (.setOwner (← readAccount text))
  | some .setOperator => do
      let text ← under tag (readField addressForm "address" Arguments.readText args)
      .ok (.setOperator (← readAccount text))
  | some .setTransferKey => do
      let text ← under tag (readField dataForm "data" Arguments.readText args)
      .ok (.setTransferKey (← readBytes "data" text))
  | some .setTreeKey => do
      let text ← under tag (readField dataForm "data" Arguments.readText args)
      .ok (.setTreeKey (← readBytes "data" text))
  | some .transact => do
      let text ← under tag (readField dataForm "data" Arguments.readText args)
      .ok (.transact (← readBytes "data" text))
  | some .setBalance => do
      let (text, free, reserved) ← under tag (readBalance args)
      .ok (.setBalance (← readAccount text) free reserved)
  | some .asRoot =>
      match _read : readField sudoForm "call" readCall args with
      | .error flaw => .error (.invalidArguments tag flaw)
      | .ok call =>
          match ofTag call.tag call.args with
          | .error error => .error error
          | .ok inner => .ok (.asRoot inner)
  | some .batch =>
      match _read : readField batchForm "calls" readCalls args with
      | .error flaw => .error (.invalidArguments tag flaw)
      | .ok [] => .error .emptyBatch
      | .ok calls =>
          match ofCalls calls with
          | .error error => .error error
          | .ok operations => .ok (.batch operations)
termination_by (args.weight, 0)
decreasing_by
  · exact Prod.Lex.left _ _ (read_field_call_weight _read)
  · exact Prod.Lex.left _ _ (read_field_calls_weight _read)

/-- Builds the operations of nested calls in order, up to the first error. -/
def ofCalls (calls : List NestedCall) : Except EncodeError (List Operation) :=
  match calls with
  | [] => .ok []
  | call :: rest =>
      match ofTag call.tag call.args with
      | .error error => .error error
      | .ok operation =>
          match ofCalls rest with
          | .error error => .error error
          | .ok operations => .ok (operation :: operations)
termination_by (weightCalls calls, calls.length)
decreasing_by
  · simp only [weightCalls]
    rcases Nat.eq_zero_or_pos (weightCalls rest) with none | some
    · rw [none]; exact Prod.Lex.right _ (by simp)
    · exact Prod.Lex.left _ _ (by omega)
  · simp only [weightCalls]
    exact Prod.Lex.left _ _ (by have := Json.weight_pos call.args; omega)

end

end Operation

end LedgerCourier
