import Netboot.Address.V4
import Netboot.Dhcp.Assignment

/-! Options by name and their values. -/

set_option autoImplicit false

namespace Netboot.Dhcp

/-- An option with an assigned code goes by its name. -/
inductive Key where
  | named (name : String)
  | code (code : Int)
  deriving DecidableEq, Repr

inductive Value where
  | none
  | bytes (content : Bytes)
  | text (content : String)
  | number (value : Int)
  | address (address : V4)
  | list (items : List Value)
  deriving Inhabited, Repr

abbrev Entry := Key × List Value

abbrev Options := List Entry

/-- A number asks for that many zero bytes, which a negative one cannot, nor one past all memory. -/
inductive Value.Fault where
  | negativeCount
  | noSize
  | noMemory
  deriving DecidableEq, Repr

def Value.Fault.message : Value.Fault → String
  | .negativeCount => "negative count"
  | .noSize => "the count is not a size"
  | .noMemory => "the count is past all memory"

/-- Sizes are signed words; some bytes of the largest are taken by what holds the others. -/
def sizeLimit : Int := 2 ^ 63
def sizeOverhead : Int := 34

def memoryLimit : Int := 2 ^ 36

def zeroCount (value : Int) : Except Value.Fault Nat :=
  if value < -sizeLimit ∨ sizeLimit - sizeOverhead < value then .error .noSize
  else if value < 0 then .error .negativeCount
  else if memoryLimit < value then .error .noMemory
  else .ok value.toNat

def Value.toBytes : Value → Except Value.Fault Bytes
  | .none => .ok []
  | .bytes content => .ok content
  | .text content => .ok (Bytes.ofString content)
  | .number value => (zeroCount value).map (List.replicate · 0)
  | .address a => .ok (Bytes.ofString a.text)
  | .list items => itemBytes items
where
  itemBytes : List Value → Except Value.Fault Bytes
    | [] => .ok []
    | item :: rest => do return (← item.toBytes) ++ (← itemBytes rest)

namespace Options

def set (options : Options) (key : Key) (values : List Value) : Options :=
  if (options.lookup key).isSome then
    options.map fun entry => if entry.1 == key then (key, values) else entry
  else options ++ [(key, values)]

def ofList (entries : List Entry) : Options :=
  entries.foldl (fun options entry => set options entry.1 entry.2) []

/-- The first value of the first of the keys that has any. -/
def first? (options : Options) (keys : List Key) : Option Value :=
  keys.findSome? fun key => ((options.lookup key).getD []).head?

def firstBytes (options : Options) (keys : List Key) : Except Value.Fault Bytes :=
  ((first? options keys).getD .none).toBytes

def firstAddress? (options : Options) (name : String) : Option V4 :=
  match first? options [.named name] with
  | some (.address a) => some a
  | _ => none

end Options

end Netboot.Dhcp
