import LedgerCourier.Node.Basic
import LedgerCourier.Node.Field
import LedgerCourier.Node.Runtime
import LedgerCourier.Text.Blank

/-!
The state of a node, read from structured values.

A step of a setup is an object that names in its field `do` what it sets. Hashes and
accounts are given in hexadecimal, or as a small number that stands for 32 equal bytes.
Events are given with typed fields, which the runtime's catalog tells apart.
-/

namespace LedgerCourier.Setup

set_option autoImplicit false

def field (key : String) (json : Json) : Json := (json.field? key).getD .null

def items : Json → List Json
  | .array items => items
  | _ => []

def text? : Json → Option String
  | .string text => some text
  | _ => none

def number? : Json → Option Nat
  | .integer value => if 0 ≤ value then some value.toNat else none
  | .string text => Decimal.readBelow amountLimit text.toList
  | _ => none

def number (json : Json) : Nat := (number? json).getD 0

def bytes (json : Json) : Bytes :=
  match Hex.decode (String.ofList (Blank.dropMarks ((text? json).getD "").toList)) with
  | .ok bytes => bytes
  | .error _ => []

def hash : Json → Bytes32
  | .integer value => Bytes32.fill (UInt8.ofNat value.toNat)
  | other => Bytes32.truncate (bytes other)

def amount (json : Json) : Amount := (Amount.ofNat? (number json)).getD Amount.zero

def phase : Json → Phase
  | .string "Initialization" => .initialization
  | .object [("ApplyExtrinsic", index)] => .applyExtrinsic (number index)
  | _ => .finalization

inductive FieldType where
  | number | truth | text | bytes | account | optional | pair
deriving DecidableEq

def catalog : List (String × String × List FieldType) :=
  [("System", "ExtrinsicSuccess", [.number]),
    ("System", "ExtrinsicFailed", [.text, .number]),
    ("System", "NewAccount", [.account]),
    ("System", "Remarked", [.bytes]),
    ("Zeropool", "Locked", [.account, .number]),
    ("Zeropool", "Flags", [.truth, .number]),
    ("Zeropool", "Text", [.text]),
    ("Zeropool", "Maybe", [.optional]),
    ("Zeropool", "Pair", [.pair]),
    ("Zeropool", "Empty", [])]

def signed : Json → Int
  | .integer value => value
  | other => number other

/-- Reads the fields of an event. A pair is given as two values. -/
def fields : List FieldType → List Json → List Field
  | [], _ => []
  | .pair :: types, .array [first, second] :: rest =>
      .pair (signed first) (signed second) :: fields types rest
  | .pair :: types, first :: second :: rest =>
      .pair (signed first) (signed second) :: fields types rest
  | type :: types, value :: rest =>
      (match type with
        | .truth => .truth (match value with
            | .bool value => value
            | _ => false)
        | .text => .text ((text? value).getD "")
        | .bytes => .bytes (bytes value)
        | .account => .account (hash value)
        | .optional => .optional (match value with
            | .null => none
            | value => some (signed value))
        | _ => .number (signed value)) :: fields types rest
  | _ :: _, [] => []

def event (json : Json) : Event :=
  let pallet := (text? (field "pallet" json)).getD ""
  let method := (text? (field "method" json)).getD ""
  let types := match catalog.find? fun known => known.1 == pallet && known.2.1 == method with
    | some known => known.2.2
    | none => []
  { phase := phase (field "phase" json)
    pallet := pallet
    method := method
    args := (fields types (items (field "fields" json))).map Field.shown }

def report : Json → NodeReport
  | .string "future" => .future
  | .string "ready" => .ready
  | .string "dropped" => .dropped
  | .string "invalid" => .invalid
  | .object [("broadcast", _)] => .broadcast
  | .object [("inBlock", block)] => .inBlock (hash block)
  | .object [("retracted", block)] => .retracted (hash block)
  | .object [("finalityTimeout", block)] => .finalityTimeout (hash block)
  | .object [("finalized", block)] => .finalized (hash block)
  | .object [("usurped", extrinsic)] => .usurped (hash extrinsic)
  | other => .failure (.request ((text? (field "fail" other)).getD ""))

def call (json : Json) : Except EncodeError EncodedCall :=
  CallEncoder.encode ⟨{}, Runtime.indices⟩ ((text? (field "tag" json)).getD "")
    (field "args" json)

def bareExtrinsic (json : Json) : Bytes :=
  match call json with
  | .ok call => Extrinsic.bare call
  | .error _ => []

def truth : Json → Bool
  | .bool value => value
  | _ => false

def block? : Json → Option Hash
  | .null => none
  | other => some (hash other)

/-- What a step of a setup does to a node. Other steps do not belong to the setup. -/
def step? (json : Json) : Option (Node → Node) :=
  match text? (field "do" json) with
  | some "nonce_bytes" => some fun node => { node with nonceBytes := bytes (field "bytes" json) }
  | some "account" =>
      some fun node => { node with
        balances := node.balances.insert (hash (field "account" json))
          (amount (field "free" json)) }
  | some "properties" => some fun node => { node with properties := field "value" json }
  | some "rpc_fail" =>
      some fun node => { node with
        failures := node.failures.insert ((text? (field "method" json)).getD "")
          (text? (field "message" json)) }
  | some "block" =>
      some fun node => { node with
        blocks := node.blocks.insert (hash (field "block" json))
          ⟨(items (field "extrinsics" json)).map fun entry => bareExtrinsic (field "bare" entry),
            (items (field "events" json)).map event⟩ }
  | some "include_in" =>
      some fun node => { node with inclusion := block? (field "block" json) }
  | some "statuses" =>
      some fun node => { node with
        reports := node.reports ++
          [((items (field "notices" json)).map report, truth (field "open" json))] }
  | _ => none

def apply (node : Node) (steps : List Json) : Node :=
  steps.foldl (fun node step => ((step? step).map (· node)).getD node) node

def shape (name : Option String) : AccountShape :=
  match name with
  | some "absent" => .missing
  | some "no_free" | some "text_free" | some "flat" => .unusable
  | _ => .numeric

end LedgerCourier.Setup
