import LedgerCourier.Json.Basic

/-!
Structured values written as text, on one line and without blanks.
-/

namespace LedgerCourier.Json

set_option autoImplicit false

def escape (character : Char) : List Char :=
  if character = '"' then ['\\', '"']
  else if character = '\\' then ['\\', '\\']
  else if character = '\n' then ['\\', 'n']
  else if character = '\r' then ['\\', 'r']
  else if character = '\t' then ['\\', 't']
  else if character.toNat < 0x20 then
    let digit (value : Nat) : Char := (Nat.toDigits 16 value).headD '0'
    ['\\', 'u', '0', '0', digit (character.toNat / 16), digit (character.toNat % 16)]
  else [character]

def quoted (text : String) : String :=
  String.ofList ('"' :: text.toList.flatMap escape ++ ['"'])

mutual

def render : Json → String
  | .null => "null"
  | .bool value => if value then "true" else "false"
  | .integer value => toString value
  | .float value => Binary64.text value
  | .string value => quoted value
  | .array items => "[" ++ String.intercalate "," (renderItems items) ++ "]"
  | .object fields => "\x7b" ++ String.intercalate "," (renderFields fields) ++ "\x7d"

def renderItems : List Json → List String
  | [] => []
  | item :: rest => render item :: renderItems rest

def renderFields : List (String × Json) → List String
  | [] => []
  | (key, value) :: rest => (quoted key ++ ":" ++ render value) :: renderFields rest

end

end LedgerCourier.Json
