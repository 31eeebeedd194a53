import LedgerCourier.Json.Basic
import LedgerCourier.Operation.Basic
import LedgerCourier.Text.Blank
import LedgerCourier.Text.Decimal

/-!
Structured arguments.

The arguments of an operation follow a form: a fixed list of named fields, some of which
may be left out. They are given either as an object with exactly those names or as an array
with the values in order. A form is read in one pass. Fields are visited in the order in
which they stand, each is judged when it is met, and the first objection ends the pass;
only then is it asked what is missing. The outcome of a pass is the list of accepted
fields, whose values the typed readers below are then known to accept.
-/

namespace LedgerCourier.Arguments

set_option autoImplicit false

inductive Flaw where
  | unknownField (key : String) (expected : List String)
  | duplicateField (key : String)
  | missingField (name : String)
  | wrongKind (found expected : String)
  | tooShort (length : Nat) (form : String) (fields : Nat)
  | tooLong (length : Nat)
  | unreadableAmount (text : String)
  | notAnAmount
deriving DecidableEq

def alternatives : List String → String
  | [] => "there are no fields"
  | [only] => "expected `" ++ only ++ "`"
  | [first, second] => "expected `" ++ first ++ "` or `" ++ second ++ "`"
  | names => "expected one of " ++
      String.intercalate ", " (names.map fun name => "`" ++ name ++ "`")

def Flaw.message : Flaw → String
  | .unknownField key expected => "unknown field `" ++ key ++ "`, " ++ alternatives expected
  | .duplicateField key => "duplicate field `" ++ key ++ "`"
  | .missingField name => "missing field `" ++ name ++ "`"
  | .wrongKind found expected => "invalid type: " ++ found ++ ", expected " ++ expected
  | .tooShort length form fields =>
      "invalid length " ++ toString length ++ ", expected struct " ++ form ++ " with " ++
        toString fields ++ (if fields = 1 then " element" else " elements")
  | .tooLong length =>
      "invalid length " ++ toString length ++ ", expected fewer elements in array"
  | .unreadableAmount text => "'" ++ text ++ "' is not a valid amount"
  | .notAnAmount => "data did not match any variant of untagged enum Amount"

structure Field where
  name : String
  required : Bool
  check : Json → Except Flaw Unit

structure Form where
  name : String
  fields : List Field

abbrev Accepted := List (String × Json)

def valueOf? (name : String) : Accepted → Option Json
  | [] => none
  | (key, value) :: rest => if key = name then some value else valueOf? name rest

def Form.visitFields (form : Form) : Accepted → List (String × Json) → Except Flaw Accepted
  | accepted, [] =>
      match form.fields.find? fun field =>
        field.required && (valueOf? field.name accepted).isNone with
      | some field => .error (.missingField field.name)
      | none => .ok accepted
  | accepted, (key, value) :: rest =>
      match form.fields.find? fun field => field.name == key with
      | none => .error (.unknownField key (form.fields.map Field.name))
      | some field =>
          if (valueOf? key accepted).isSome then .error (.duplicateField key)
          else
            match field.check value with
            | .error flaw => .error flaw
            | .ok _ => form.visitFields (accepted ++ [(key, value)]) rest

/-- Visits the items of an array side by side with the fields. `length` is the length of the
whole array. -/
def Form.visitItems (form : Form) (length : Nat) :
    List Field → List Json → Except Flaw Accepted
  | [], [] => .ok []
  | [], _ :: _ => .error (.tooLong length)
  | field :: fields, [] =>
      if field.required then .error (.tooShort length form.name form.fields.length)
      else form.visitItems length fields []
  | field :: fields, value :: rest =>
      match field.check value with
      | .error flaw => .error flaw
      | .ok _ =>
          match form.visitItems length fields rest with
          | .error flaw => .error flaw
          | .ok accepted => .ok ((field.name, value) :: accepted)

def Form.visit (form : Form) : Json → Except Flaw Accepted
  | .object fields => form.visitFields [] fields
  | .array items => form.visitItems items.length form.fields items
  | other => .error (.wrongKind other.describe ("struct " ++ form.name))

def readText : Json → Except Flaw String
  | .string text => .ok text
  | other => .error (.wrongKind other.describe "a string")

/-- Reads an amount: a number that fits into 64 bits without a sign, or a text that holds
one. A text may denote amounts that are too large for a number. -/
def readAmount : Json → Except Flaw Amount
  | .integer value =>
      if small : value.toNat < UInt64.size then
        if 0 ≤ value then .ok ⟨value.toNat, Nat.lt_trans small (by decide)⟩
        else .error .notAnAmount
      else .error .notAnAmount
  | .string text =>
      match (Decimal.readBelow amountLimit (Blank.trim text.toList)).bind Amount.ofNat? with
      | some amount => .ok amount
      | none => .error (.unreadableAmount text)
  | _ => .error .notAnAmount

def judge {Value : Type} (read : Json → Except Flaw Value) (value : Json) : Except Flaw Unit :=
  match read value with
  | .ok _ => .ok ()
  | .error flaw => .error flaw

def anything (_ : Json) : Except Flaw Unit := .ok ()

structure NestedCall where
  tag : String
  args : Json

/-- The form of a nested call. Arguments that are left out are null. -/
def callForm : Form where
  name := "NestedCall"
  fields := [⟨"op", true, judge readText⟩, ⟨"args", false, anything⟩]

def readCall (json : Json) : Except Flaw NestedCall :=
  match callForm.visit json with
  | .error flaw => .error flaw
  | .ok accepted =>
      match readText ((valueOf? "op" accepted).getD .null) with
      | .error flaw => .error flaw
      | .ok tag => .ok ⟨tag, (valueOf? "args" accepted).getD .null⟩

def readEach : List Json → Except Flaw (List NestedCall)
  | [] => .ok []
  | item :: rest =>
      match readCall item with
      | .error flaw => .error flaw
      | .ok call =>
          match readEach rest with
          | .error flaw => .error flaw
          | .ok calls => .ok (call :: calls)

def readCalls : Json → Except Flaw (List NestedCall)
  | .array items => readEach items
  | other => .error (.wrongKind other.describe "a sequence")

def amountForm : Form where
  name := "AmountArgs"
  fields := [⟨"amount", true, judge readAmount⟩]

def addressForm : Form where
  name := "AddressArgs"
  fields := [⟨"address", true, judge readText⟩]

def dataForm : Form where
  name := "DataArgs"
  fields := [⟨"data", true, judge readText⟩]

/-- Arguments that set balances. What is reserved may be left out and is nothing then. -/
def balanceForm : Form where
  name := "SetBalanceArgs"
  fields := [⟨"who", true, judge readText⟩, ⟨"free", true, judge readAmount⟩,
    ⟨"reserved", false, judge readAmount⟩]

def sudoForm : Form where
  name := "SudoArgs"
  fields := [⟨"call", true, judge readCall⟩]

def batchForm : Form where
  name := "BatchArgs"
  fields := [⟨"calls", true, judge readCalls⟩]

def readField {Value : Type} (form : Form) (name : String) (read : Json → Except Flaw Value)
    (json : Json) : Except Flaw Value :=
  match form.visit json with
  | .error flaw => .error flaw
  | .ok accepted => read ((valueOf? name accepted).getD .null)

def readBalance (json : Json) : Except Flaw (String × Amount × Amount) :=
  match balanceForm.visit json with
  | .error flaw => .error flaw
  | .ok accepted => do
      let who ← readText ((valueOf? "who" accepted).getD .null)
      let free ← readAmount ((valueOf? "free" accepted).getD .null)
      let reserved ← match valueOf? "reserved" accepted with
        | some value => readAmount value
        | none => .ok Amount.zero
      .ok (who, free, reserved)

end LedgerCourier.Arguments
