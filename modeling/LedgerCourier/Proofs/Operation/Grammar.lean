import LedgerCourier.Proofs.Bytes.Spelling
import LedgerCourier.Proofs.Operation.Form
import LedgerCourier.Proofs.Operation.Nesting
import LedgerCourier.Proofs.Text.Blank
import LedgerCourier.Proofs.Text.Decimal

/-!
# The grammar of operations

Which structured values are the arguments of which operation is said by a relation, without any
order of reading: how each form is given, which texts denote an amount, bytes or an account, and
that nested calls match in their turn. Building an operation succeeds exactly on what matches it.
-/

namespace LedgerCourier

set_option autoImplicit false

namespace Arguments

/-- An amount is a number of up to 64 bits, or a text that writes it between blanks. -/
inductive DenotesAmount : Json → Amount → Prop where
  | integer (amount : Amount) (small : amount.units < UInt64.size) :
      DenotesAmount (.integer amount.units) amount
  | text {text : String} (core : List Char) {amount : Amount}
      (trimmed : Blank.TrimsTo text.toList core) (written : Decimal.Writes core amount.units) :
      DenotesAmount (.string text) amount

/-- Bytes are spelled between blanks, behind any number of marks. -/
def DenotesBytes (text : String) (bytes : Bytes) : Prop :=
  ∃ count digits, Blank.TrimsTo text.toList (Blank.marks count ++ digits) ∧
    Hex.Spells digits bytes

def AmountArguments (args : Json) (amount : Amount) : Prop :=
  ∃ given, Gives [("amount", true)] args [some given] ∧ DenotesAmount given amount

def AddressArguments (args : Json) (address : AccountId) : Prop :=
  ∃ text, Gives [("address", true)] args [some (.string text)] ∧ Address.parse text = .ok address

def DataArguments (args : Json) (data : Bytes) : Prop :=
  ∃ text, Gives [("data", true)] args [some (.string text)] ∧ DenotesBytes text data

def DenotesReserved : Option Json → Amount → Prop
  | some given, amount => DenotesAmount given amount
  | none, amount => amount = Amount.zero

/-- The three parts of arguments that set balances, where the account is still a text. -/
def BalanceParts (args : Json) (who : String) (free reserved : Amount) : Prop :=
  ∃ givenFree givenReserved,
    Gives [("who", true), ("free", true), ("reserved", false)] args
      [some (.string who), some givenFree, givenReserved] ∧
    DenotesAmount givenFree free ∧ DenotesReserved givenReserved reserved

/-- The shape of a nested call, whose own arguments are not looked at and may be left out. -/
def Shapes (json : Json) (call : NestedCall) : Prop :=
  ∃ args, Gives [("op", true), ("args", false)] json [some (.string call.tag), args] ∧
    call.args = args.getD .null

theorem bind_iff {Error Before After : Type} (read : Except Error Before)
    (next : Before → Except Error After) (result : After) :
    (read >>= next) = .ok result ↔ ∃ value, read = .ok value ∧ next value = .ok result := by
  cases read with
  | error error => exact ⟨nofun, fun ⟨_, impossible, _⟩ => nomatch impossible⟩
  | ok value => exact ⟨fun same => ⟨value, rfl, same⟩, fun ⟨_, rfl, same⟩ => same⟩

theorem read_text_iff (json : Json) (text : String) :
    readText json = .ok text ↔ json = .string text := by
  cases json <;> simp [readText]

theorem of_nat_iff (units : Nat) (amount : Amount) :
    Amount.ofNat? units = some amount ↔ units = amount.units := by
  obtain ⟨held, bounded⟩ := amount
  unfold Amount.ofNat?
  split
  next small => simp
  next large =>
    simp only [reduceCtorEq, false_iff]
    rintro rfl
    exact large bounded

theorem read_amount_text_iff (text : String) (amount : Amount) :
    readAmount (.string text) = .ok amount ↔ DenotesAmount (.string text) amount := by
  have accepted : (Decimal.readBelow amountLimit (Blank.trim text.toList)).bind Amount.ofNat? =
      some amount ↔ DenotesAmount (.string text) amount := by
    rw [Option.bind_eq_some_iff]
    constructor
    · rintro ⟨units, read, fits⟩
      obtain ⟨written, -⟩ := (Decimal.read_below_iff _ _ _).mp read
      obtain rfl := (of_nat_iff units amount).mp fits
      exact .text _ (Blank.trims_to_trim _) written
    · rintro (_ | ⟨core, trimmed, written⟩)
      rw [(Blank.trim_iff _ _).mpr trimmed]
      exact ⟨amount.units, (Decimal.read_below_iff _ _ _).mpr ⟨written, amount.bounded⟩,
        (of_nat_iff _ _).mpr rfl⟩
  rw [← accepted]
  simp only [readAmount]
  cases (Decimal.readBelow amountLimit (Blank.trim text.toList)).bind Amount.ofNat? with
  | none => simp
  | some found => simp

theorem read_amount_iff (json : Json) (amount : Amount) :
    readAmount json = .ok amount ↔ DenotesAmount json amount := by
  cases json with
  | string text => exact read_amount_text_iff text amount
  | integer value =>
      constructor
      · intro read
        simp only [readAmount] at read
        split at read
        next small =>
          split at read
          next positive =>
            cases read
            obtain ⟨units, rfl⟩ := Int.eq_ofNat_of_zero_le positive
            exact DenotesAmount.integer ⟨units, _⟩ small
          next => cases read
        next => cases read
      · rintro (⟨_, small⟩ | _)
        simp only [readAmount, Int.toNat_natCast, dif_pos small]
        rw [if_pos (by omega)]
  | null | bool | float | array | object =>
      constructor
      · exact fun impossible => nomatch impossible
      · exact fun impossible => nomatch impossible

theorem bytes_read_iff {text : String} {digits : List Char}
    (bared : Blank.BaresTo text.toList digits) (field : String) (bytes : Bytes) :
    readBytes field text = .ok bytes ↔ Hex.Spells digits bytes := by
  rw [readBytes, (Blank.bares_to_iff _ _).mpr bared, ← Hex.decode_bytes_iff]
  cases Hex.decodeBytes (Hex.textBytes digits) <;> simp

theorem read_bytes_iff (field text : String) (bytes : Bytes) :
    readBytes field text = .ok bytes ↔ DenotesBytes text bytes := by
  constructor
  · intro read
    have bared := (Blank.bares_to_iff text.toList _).mp rfl
    obtain ⟨count, trimmed⟩ := bared.stripped
    exact ⟨count, _, trimmed, (bytes_read_iff bared field bytes).mp read⟩
  · rintro ⟨count, digits, trimmed, spelled⟩
    exact (bytes_read_iff ⟨⟨count, trimmed⟩, spelled.unmarked⟩ field bytes).mpr spelled

theorem read_account_iff (text : String) (account : AccountId) :
    readAccount text = .ok account ↔ Address.parse text = .ok account := by
  unfold readAccount
  split <;> simp_all

theorem under_iff {Value : Type} (tag : String) (read : Except Flaw Value) (value : Value) :
    under tag read = .ok value ↔ read = .ok value := by
  cases read <;> simp [under]

theorem judge_iff {Value : Type} (read : Json → Except Flaw Value) (json : Json) :
    judge read json = .ok () ↔ ∃ value, read json = .ok value := by
  unfold judge
  split <;> simp_all

theorem accepts_some_iff {Value : Type} (name : String) (required : Bool)
    (read : Json → Except Flaw Value) (given : Json) :
    Field.Accepts ⟨name, required, judge read⟩ (some given) ↔
      ∃ value, read given = .ok value := by
  rw [← judge_iff]
  constructor
  · exact fun accepts => accepts given rfl
  · intro passed other same
    obtain rfl := Option.some.inj same
    exact passed

theorem read_field_iff {Value : Type} (form : Form) {name : String}
    (read : Json → Except Flaw Value) (fields : form.fields = [⟨name, true, judge read⟩])
    (json : Json) (value : Value) :
    readField form name read json = .ok value ↔
      ∃ given, Gives [(name, true)] json [some given] ∧ read given = .ok value := by
  have accepts := visit_iff form (by simp [fields]) json
  simp only [Form.valuesOf, Form.layout, fields, List.map_cons, List.map_nil] at accepts
  constructor
  · intro found
    unfold readField at found
    split at found
    next => cases found
    next accepted visited =>
      obtain ⟨gives, -⟩ := (accepts _).mp ⟨accepted, visited, rfl⟩
      obtain ⟨given, present⟩ := Option.isSome_iff_exists.mp (by simpa using gives.required)
      rw [present] at gives found
      exact ⟨given, gives, found⟩
  · rintro ⟨given, gives, found⟩
    have passes : List.Forall₂ Field.Accepts [⟨name, true, judge read⟩] [some given] :=
      .cons ((accepts_some_iff ..).mpr ⟨value, found⟩) .nil
    obtain ⟨accepted, visited, same⟩ := (accepts _).mpr ⟨gives, passes⟩
    obtain ⟨present, -⟩ := List.cons.inj same
    simp [readField, visited, present, found]

theorem read_call_iff (json : Json) (call : NestedCall) :
    readCall json = .ok call ↔ Shapes json call := by
  have accepts := visit_iff callForm (by decide) json
  simp only [Form.valuesOf, Form.layout, callForm, List.map_cons, List.map_nil] at accepts
  constructor
  · intro found
    unfold readCall at found
    split at found
    next => cases found
    next accepted visited =>
      obtain ⟨gives, -⟩ := (accepts _).mp ⟨accepted, visited, rfl⟩
      obtain ⟨op, present⟩ := Option.isSome_iff_exists.mp (by simpa using gives.required)
      rw [present] at gives found
      split at found
      next => cases found
      next tag read =>
        cases found
        obtain rfl := (read_text_iff op tag).mp read
        exact ⟨_, gives, rfl⟩
  · rintro ⟨args, gives, same⟩
    have passes : List.Forall₂ Field.Accepts
        [⟨"op", true, judge readText⟩, ⟨"args", false, anything⟩]
        [some (.string call.tag), args] :=
      .cons ((accepts_some_iff ..).mpr ⟨call.tag, rfl⟩) (.cons (fun _ _ => rfl) .nil)
    obtain ⟨accepted, visited, found⟩ := (accepts _).mpr ⟨gives, passes⟩
    obtain ⟨op, found⟩ := List.cons.inj found
    obtain ⟨inside, -⟩ := List.cons.inj found
    simp [readCall, callForm, visited, op, inside, readText, ← same]

theorem read_each_iff (items : List Json) (calls : List NestedCall) :
    readEach items = .ok calls ↔ List.Forall₂ Shapes items calls := by
  induction items generalizing calls with
  | nil =>
      rw [List.forall₂_nil_left_iff]
      simp [readEach, eq_comm]
  | cons item rest induction =>
      rw [List.forall₂_cons_left_iff]
      constructor
      · intro found
        simp only [readEach] at found
        split at found
        next => cases found
        next call read =>
          split at found
          next => cases found
          next others readOthers =>
            cases found
            exact ⟨call, others, (read_call_iff item call).mp read,
              (induction others).mp readOthers, rfl⟩
      · rintro ⟨call, others, shape, shapes, rfl⟩
        simp [readEach, (read_call_iff item call).mpr shape, (induction others).mpr shapes]

theorem read_calls_iff (json : Json) (calls : List NestedCall) :
    readCalls json = .ok calls ↔
      ∃ items, json = .array items ∧ List.Forall₂ Shapes items calls := by
  cases json <;> simp [readCalls, read_each_iff]

theorem amount_arguments_iff (args : Json) (amount : Amount) :
    readField amountForm "amount" readAmount args = .ok amount ↔ AmountArguments args amount := by
  rw [read_field_iff _ _ rfl]
  simp only [read_amount_iff, AmountArguments]

theorem address_arguments_iff (args : Json) (address : AccountId) :
    (∃ text, readField addressForm "address" readText args = .ok text ∧
      readAccount text = .ok address) ↔ AddressArguments args address := by
  have field := read_field_iff addressForm readText rfl args
  simp only [field, read_text_iff, exists_eq_right, read_account_iff, AddressArguments]

theorem data_arguments_iff (args : Json) (data : Bytes) :
    (∃ text, readField dataForm "data" readText args = .ok text ∧
      readBytes "data" text = .ok data) ↔ DataArguments args data := by
  have field := read_field_iff dataForm readText rfl args
  simp only [field, read_text_iff, exists_eq_right, read_bytes_iff, DataArguments]

theorem call_arguments_iff (args : Json) (call : NestedCall) :
    readField sudoForm "call" readCall args = .ok call ↔
      ∃ given, Gives [("call", true)] args [some given] ∧ Shapes given call := by
  rw [read_field_iff _ _ rfl]
  simp only [read_call_iff]

theorem calls_arguments_iff (args : Json) (calls : List NestedCall) :
    readField batchForm "calls" readCalls args = .ok calls ↔
      ∃ items, Gives [("calls", true)] args [some (.array items)] ∧
        List.Forall₂ Shapes items calls := by
  rw [read_field_iff _ _ rfl]
  simp only [read_calls_iff]
  constructor
  · rintro ⟨_, gives, items, rfl, shapes⟩
    exact ⟨items, gives, shapes⟩
  · rintro ⟨items, gives, shapes⟩
    exact ⟨_, gives, items, rfl, shapes⟩

theorem read_balance_iff (args : Json) (who : String) (free reserved : Amount) :
    readBalance args = .ok (who, free, reserved) ↔ BalanceParts args who free reserved := by
  have accepts := visit_iff balanceForm (by decide) args
  simp only [Form.valuesOf, Form.layout, balanceForm, List.map_cons, List.map_nil] at accepts
  constructor
  · intro found
    unfold readBalance at found
    split at found
    next => cases found
    next accepted visited =>
      obtain ⟨gives, -⟩ := (accepts _).mp ⟨accepted, visited, rfl⟩
      obtain ⟨needsWho, needsFree⟩ : (valueOf? "who" accepted).isSome ∧
          (valueOf? "free" accepted).isSome := by simpa using gives.required
      obtain ⟨givenWho, presentWho⟩ := Option.isSome_iff_exists.mp needsWho
      obtain ⟨givenFree, presentFree⟩ := Option.isSome_iff_exists.mp needsFree
      rw [presentWho, presentFree] at gives
      simp only [bind_iff, presentWho, presentFree, Option.getD_some] at found
      obtain ⟨_, readWho, _, readFree, found⟩ := found
      obtain rfl := (read_text_iff _ _).mp readWho
      refine ⟨givenFree, valueOf? "reserved" accepted, ?_⟩
      cases present : valueOf? "reserved" accepted with
      | none =>
          rw [present] at gives found
          cases found
          exact ⟨gives, (read_amount_iff _ _).mp readFree, rfl⟩
      | some given =>
          rw [present] at gives found
          obtain ⟨_, readReserved, same⟩ := (bind_iff _ _ _).mp found
          cases same
          exact ⟨gives, (read_amount_iff _ _).mp readFree,
            (read_amount_iff given _).mp readReserved⟩
  · rintro ⟨givenFree, givenReserved, gives, denotesFree, denotesReserved⟩
    have passes : List.Forall₂ Field.Accepts balanceForm.fields
        [some (.string who), some givenFree, givenReserved] := by
      refine .cons ?_ (.cons ?_ (.cons ?_ .nil))
      · exact (accepts_some_iff ..).mpr ⟨who, rfl⟩
      · exact (accepts_some_iff ..).mpr ⟨free, (read_amount_iff _ _).mpr denotesFree⟩
      · rintro given rfl
        exact (judge_iff _ _).mpr ⟨reserved, (read_amount_iff _ _).mpr denotesReserved⟩
    obtain ⟨accepted, visited, found⟩ := (accepts _).mpr ⟨gives, passes⟩
    obtain ⟨presentWho, found⟩ := List.cons.inj found
    obtain ⟨presentFree, found⟩ := List.cons.inj found
    obtain ⟨presentReserved, -⟩ := List.cons.inj found
    simp only [readBalance, balanceForm, visited, bind_iff, presentWho, presentFree,
      presentReserved, Option.getD_some]
    refine ⟨who, rfl, free, (read_amount_iff _ _).mpr denotesFree, ?_⟩
    cases givenReserved with
    | none =>
        obtain rfl : reserved = Amount.zero := denotesReserved
        rfl
    | some given =>
        exact (bind_iff _ _ _).mpr ⟨reserved, (read_amount_iff _ _).mpr denotesReserved, rfl⟩

end Arguments

end LedgerCourier
