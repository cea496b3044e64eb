import Netboot.Json
import Netboot.Text.Utf8

/-! Reading the fields of documents. A field that is absent or of another kind has a default. -/

set_option autoImplicit false

namespace Netboot.Json

def has (json : Json) (name : String) : Bool := (json.field? name).isSome

def get (json : Json) (name : String) : Json := (json.field? name).getD .null

def string? : Json → Option String
  | .str value => value.toString?
  | _ => none

def integer? : Json → Option Int
  | .int value => some value
  | .bool value => some (if value then 1 else 0)
  | _ => none

def number : Json → Float
  | .float value => value
  | .int value => .ofInt value
  | _ => 0

def items : Json → List Json
  | .arr items => items
  | _ => []

/-- Bytes are a text, which stands for its UTF-8, or an object with hexadecimal digits. -/
def toBytes : Json → Bytes
  | .str value => (value.toString?.map Bytes.ofString).getD []
  | json => (((json.get "hex").string?.bind Bytes.ofHex?)).getD []

def fields : Json → List (CodePoints × Json)
  | .obj fields => fields
  | _ => []

def ofBytes (bytes : Bytes) : Json :=
  match bytes.toString? with
  | some text => .str text
  | none => .record [("hex", .str bytes.toHex)]

def string (json : Json) : String := json.string?.getD ""

def strAt (json : Json) (name : String) (default : String := "") : String :=
  ((json.get name).string?).getD default

def strAt? (json : Json) (name : String) : Option String := (json.get name).string?

def intAt (json : Json) (name : String) (default : Int := 0) : Int :=
  ((json.get name).integer?).getD default

def natAt (json : Json) (name : String) : Nat := (json.intAt name).toNat

def flagAt (json : Json) (name : String) : Bool := (json.get name).truthy

def listAt (json : Json) (name : String) : List Json := (json.get name).items

def strsAt (json : Json) (name : String) : List String := (json.listAt name).map string

def bytesAt (json : Json) (name : String) : Bytes := (json.get name).toBytes

def packetAt (json : Json) (name : String) : Bytes := ((json.strAt? name).bind Bytes.ofHex?).getD []

def texts (json : Json) : List (String × String) :=
  json.fields.filterMap fun (name, value) => name.toString?.map fun name => (name, value.string)

end Netboot.Json
