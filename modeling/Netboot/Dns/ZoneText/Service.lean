import Netboot.Dns.ServiceParameter
import Netboot.Dns.ZoneText

/-! Service bindings as zone files write them: a priority, a target and `key=value` parameters. -/

set_option autoImplicit false

namespace Netboot.Dns.ZoneText

/-- The number of a key: its name with either kind of dash, or `key` and a number. -/
def keyNumber? (name : List Char) : Option Nat :=
  let upper := name.map fun c => if c = '-' then '_' else c.toUpper
  match ServiceParameter.keyNames.lookup (.ofList upper), upper with
  | some key, _ => some key
  | none, 'K' :: 'E' :: 'Y' :: digits =>
    if digits.head? = some '0' && digits ≠ ['0'] then none
    else (numberOf? digits).filter (· < 65536)
  | none, _ => none

def isNumbered (name : List Char) : Bool := (name.map Char.toLower).take 3 == "key".toList

/-- Fields between commas, where a backslash takes the byte behind it as it is. -/
def commaFields (field : Bytes) : Bytes → Except Fault (List Bytes)
  | [] => .ok [field]
  | [0x5c] => .error .unexpectedEnd
  | 0x5c :: b :: rest => commaFields (field ++ [b]) rest
  | b :: rest =>
    if b = 0x2c then (commaFields [] rest).map (field :: ·)
    else commaFields (field ++ [b]) rest

def protocolBytes (name : Bytes) : Except Fault Bytes := do
  require (0 < name.length && name.length < 256)
  return UInt8.ofNat name.length :: name

def mandatoryBytes (value : List Char) : Except Fault Bytes := do
  let keys ← (Text.fields ',' value).mapM fun name => required (keyNumber? name)
  let bytes := (keys.mergeSort).flatMap (Bytes.ofNat 2)
  require (ServiceParameter.mandatoryKeys? bytes).isSome
  return bytes

def valueBytes (key : Nat) (value : List Char) : Except Fault Bytes :=
  if key = ServiceParameter.mandatory then mandatoryBytes value
  else if key = ServiceParameter.protocols then do
    let names ← commaFields [] (← unescapeBytes value)
    return (← names.mapM protocolBytes).flatten
  else if ServiceParameter.isFlag key then do
    require value.isEmpty
    return []
  else if key = ServiceParameter.port then do
    let port ← integer value
    require (0 ≤ port && port < 65536)
    return Bytes.ofNat 2 port.toNat
  else if key = ServiceParameter.v4Hints then
    ((Text.fields ',' value).mapM address4).map (·.flatten)
  else if key = ServiceParameter.v6Hints then
    ((Text.fields ',' value).mapM address6).map (·.flatten)
  else if key = ServiceParameter.encryption then do
    require !value.contains '\\'
    base64Bytes value
  else unescapeBytes value

/-- The bytes of a value under a numbered key. Of a port the first two count. -/
def numberedBytes (key : Nat) (value : List Char) : Except Fault Bytes := do
  let bytes ← unescapeBytes value
  let bytes := if key = ServiceParameter.port then bytes.take 2 else bytes
  require (ServiceParameter.isValid ⟨key, bytes⟩)
  return bytes

/-- A parameter with its value, where one is written. -/
def parameter (done : List ServiceParameter) (name : List Char) (value : Option (List Char)) :
    Except Fault ServiceParameter := do
  let bytes ← unescapeBytes name
  let name := bytes.map fun b => Char.ofNat b.toNat
  let key ← required (keyNumber? name)
  require !(done.any (·.key == key))
  match value with
  | none =>
    require !(ServiceParameter.needsValue key)
    return ⟨key, []⟩
  | some value =>
    return ⟨key, ← if isNumbered name then numberedBytes key value else valueBytes key value⟩

def quotedValue : Reader (List Char) := do
  match ← next with
  | .quoted true value => return value
  | _ => throw .malformed

/-- A word split at its first equals sign; one that ends in it goes on with a quoted value. -/
def splitParameter (word : List Char) : Reader (List Char × Option (List Char)) := do
  match Text.cut? '=' word with
  | none => return (word, none)
  | some (name, []) => return (name, some (← quotedValue))
  | some (name, value) =>
    require !name.isEmpty
    return (name, some value)

def parameters (done : List ServiceParameter) :
    (fuel : Nat) → Reader (List ServiceParameter)
  | 0 => return done
  | fuel + 1 => do
    match ← next with
    | .stop => return done
    | .word text =>
      let (name, value) ← splitParameter text
      let parameter ← parameter done name value
      parameters (ServiceParameter.insert parameter done) fuel
    | _ => throw .malformed

def service : Reader Rdata := do
  let priority ← word 2
  let target ← name
  if priority.toNat = 0 then endOfLine
  let parameters ← parameters [] (← get).tokens.length
  expect (ServiceParameter.areSound parameters)
  return [.bytes priority, .name target .exact,
    .bytes (parameters.flatMap ServiceParameter.toBytes)]

end Netboot.Dns.ZoneText
