import LedgerCourier.Text.Binary64
import LedgerCourier.Text.Quoted

/-!
Structured values.

Arguments arrive as values of a common exchange format: null, truth values, numbers, texts,
arrays and objects. Numbers come in two kinds that never mix. A number is an integer if it
was written without fraction and exponent and fits into 64 bits, signed or not; every other
number is a binary floating point number. An object keeps its fields in the byte order of
their keys, because that is the order in which they are visited.
-/

namespace LedgerCourier

set_option autoImplicit false

inductive Json where
  | null
  | bool (value : Bool)
  | integer (value : Int)
  | float (value : Float)
  | string (value : String)
  | array (items : List Json)
  | object (fields : List (String × Json))

namespace Json

instance : Inhabited Json := ⟨.null⟩

def insertField (key : String) (value : Json) : List (String × Json) → List (String × Json)
  | [] => [(key, value)]
  | (other, held) :: rest =>
      if key < other then (key, value) :: (other, held) :: rest
      else if key = other then (key, value) :: rest
      else (other, held) :: insertField key value rest

/-- An object with its fields in order. Of two fields with one key the later one stays. -/
def ofFields (fields : List (String × Json)) : Json :=
  .object (fields.foldl (fun sorted field => insertField field.1 field.2 sorted) [])

def field? (key : String) : Json → Option Json
  | .object fields => (fields.find? fun field => field.1 == key).map Prod.snd
  | _ => none

def describe : Json → String
  | .null => "null"
  | .bool value => "boolean `" ++ toString value ++ "`"
  | .integer value => "integer `" ++ toString value ++ "`"
  | .float value => "floating point `" ++ Binary64.text value ++ "`"
  | .string value => "string " ++ Quoted.text value
  | .array _ => "sequence"
  | .object _ => "map"

end Json

end LedgerCourier
