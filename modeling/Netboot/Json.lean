import Netboot.Decimal
import Netboot.Text.CodePoint

/-! JSON documents. Integers are exact, fields keep the order in which their names first occur. -/

set_option autoImplicit false

namespace Netboot

inductive Json where
  | null
  | bool (value : Bool)
  | int (value : Int)
  | float (value : Float)
  | str (value : CodePoints)
  | arr (items : List Json)
  | obj (fields : List (CodePoints × Json))
  deriving Inhabited

namespace Json

def named (fields : List (String × Json)) : List (CodePoints × Json) :=
  fields.map fun (name, value) => (CodePoints.ofString name, value)

def record (fields : List (String × Json)) : Json := .obj (named fields)

/-- Set a field: in place when the name is there, else at the end. -/
def setField (fields : List (CodePoints × Json)) (name : CodePoints) (value : Json) :
    List (CodePoints × Json) :=
  if (fields.lookup name).isSome then
    fields.map fun field => if field.1 == name then (name, value) else field
  else fields ++ [(name, value)]

def field? (json : Json) (name : String) : Option Json :=
  match json with
  | .obj fields => fields.lookup (CodePoints.ofString name)
  | _ => none

/-- Null, false, zero, and anything empty count as false. -/
def truthy : Json → Bool
  | .null => false
  | .bool value => value
  | .int value => value != 0
  | .float value => value != 0
  | .str value => !value.isEmpty
  | .arr items => !items.isEmpty
  | .obj fields => !fields.isEmpty

/-- The text of a value inside a list or an object: strings are quoted. -/
def nested : Json → List Char
  | .null => "None".toList
  | .bool true => "True".toList
  | .bool false => "False".toList
  | .int value => value.repr.toList
  | .float value => Decimal.chars value
  | .str value => value.quoted
  | .arr items => '[' :: nestedItems items ++ [']']
  | .obj fields => '{' :: nestedFields fields ++ ['}']
where
  nestedItems : List Json → List Char
    | [] => []
    | [item] => nested item
    | item :: rest => nested item ++ ',' :: ' ' :: nestedItems rest
  nestedFields : List (CodePoints × Json) → List Char
    | [] => []
    | [(name, value)] => name.quoted ++ ':' :: ' ' :: nested value
    | (name, value) :: rest =>
      name.quoted ++ ':' :: ' ' :: nested value ++ ',' :: ' ' :: nestedFields rest

def plain : Json → CodePoints
  | .str value => value
  | value => .ofChars value.nested

def escapedChar (c : Char) : List Char :=
  if c = '"' ∨ c = '\\' then ['\\', c]
  else if c = '\n' then ['\\', 'n']
  else if c.toNat < 0x20 ∨ c.toNat = 0x7f then '\\' :: 'u' :: Text.hex 4 c.toNat
  else [c]

def escapedPoint : CodePoint → List Char
  | .char c => escapedChar c
  | .surrogate offset => '\\' :: 'u' :: Text.hex 4 (0xd800 + offset)

def literal (text : CodePoints) : List Char := '"' :: text.flatMap escapedPoint ++ ['"']

def floatChars (x : Float) : List Char :=
  match String.ofList (Decimal.chars x) with
  | "inf" => "Infinity".toList
  | "-inf" => "-Infinity".toList
  | "nan" => "NaN".toList
  | text => text.toList

def chars : Json → List Char
  | .null => "null".toList
  | .bool true => "true".toList
  | .bool false => "false".toList
  | .int value => value.repr.toList
  | .float value => floatChars value
  | .str value => literal value
  | .arr items => '[' :: itemChars items ++ [']']
  | .obj fields => '{' :: fieldChars fields ++ ['}']
where
  itemChars : List Json → List Char
    | [] => []
    | [item] => chars item
    | item :: rest => chars item ++ ',' :: itemChars rest
  fieldChars : List (CodePoints × Json) → List Char
    | [] => []
    | [(name, value)] => literal name ++ ':' :: chars value
    | (name, value) :: rest => literal name ++ ':' :: chars value ++ ',' :: fieldChars rest

def text (json : Json) : String := .ofList json.chars

end Json

end Netboot
