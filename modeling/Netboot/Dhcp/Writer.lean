import Netboot.Address.HostName
import Netboot.Dhcp.MessageType
import Netboot.Dhcp.Reader

/-! Writing the options of a packet: a code, a length, and the bytes of the values. -/

set_option autoImplicit false

namespace Netboot.Dhcp

inductive EncodeFault where
  | valueMismatch
  | tooLong
  | unknownName (name : String)
  | notBytes
  | count (fault : Value.Fault)
  | host (fault : HostName.Fault)
  | notAddress
  | incompleteRoute
  deriving DecidableEq, Repr

def word (width : Nat) (value : Int) : Except EncodeFault Bytes :=
  if 0 ≤ value ∧ value < 256 ^ width then .ok (Bytes.ofNat width value.toNat)
  else .error .valueMismatch

def numericBytes (text : List Char) : Except EncodeFault Bytes :=
  if text.contains '\x00' then .error .valueMismatch
  else match V4.ofNumericLine? text with
    | some a => .ok a.toBytes
    | none => .error .notAddress

def hostBytes (text : List Char) : Except EncodeFault Bytes :=
  if text.contains '\x00' then .error .valueMismatch
  else match V4.ofNumericLine? text with
    | some a => .ok a.toBytes
    | none => ((HostName.first text).mapError .host).map (·.toBytes)

def visibleText : Bytes → List Char
  | [] => []
  | a :: rest =>
    match Text.charAt a rest with
    | some (c, n) => c :: visibleText (rest.drop n)
    | none => '\\' :: 'x' :: Text.hex 2 a.toNat ++ visibleText rest
termination_by bytes => bytes.length
decreasing_by
  · simp only [List.length_drop, List.length_cons]; omega
  · simp

/-- Each of several hosts has to have an address, but together they have none. -/
def severalHosts : List Value → Except EncodeFault Unit
  | [] => .error .notAddress
  | .text content :: rest => do
    let _ ← hostBytes content.toList
    severalHosts rest
  | .bytes content :: rest => do
    let _ ← hostBytes (visibleText content)
    severalHosts rest
  | _ :: rest => severalHosts rest

def addressBytes : Value → Except EncodeFault Bytes
  | .none => .ok V4.zero.toBytes
  | .address a => .ok a.toBytes
  | .text content => hostBytes content.toList
  | .bytes content => hostBytes (visibleText content)
  | .number value => numericBytes (toString value).toList
  | .list items => do
    severalHosts items
    throw .notAddress

def wordBytes (width : Nat) : Value → Except EncodeFault Bytes
  | .none => word width 0
  | .number value => word width value
  | _ => .error .valueMismatch

def itemByte : Value → Except EncodeFault UInt8
  | .number value =>
    if 0 ≤ value ∧ value < 256 then .ok (UInt8.ofNat value.toNat) else .error .valueMismatch
  | _ => .error .notBytes

/-- The bytes of a raw value. A number asks for zero bytes; more than an option holds is too long
without their being written. -/
def rawBytes : Value → Except EncodeFault Bytes
  | .number value => do
    let count ← (zeroCount value).mapError .count
    if maxContent < count then throw .tooLong
    return List.replicate count 0
  | .bytes content => .ok content
  | .text content => .ok (Bytes.ofString content)
  | .address a => .ok (Bytes.ofString a.text)
  | .list items => items.mapM itemByte
  | .none => .error .notBytes
where
  maxContent : Nat := 255

/-- A route `address/length:router`, with either mark between any two of its parts. -/
def routeBytes (text : List Char) : Except EncodeFault Bytes :=
  if text.isEmpty then .ok []
  else match (Text.fields '/' text).flatMap (Text.fields ':') with
    | base :: length :: rest => do
      let length ← (Text.integer (.ofList length)).mapError fun _ => .valueMismatch
      if length < 0 ∨ 32 < length then return []
      let base ← numericBytes base
      let router ← match rest with
        | router :: _ => numericBytes router
        | [] => throw .incompleteRoute
      return UInt8.ofNat length.toNat :: base.take ((length.toNat + 7) / 8) ++ router
    | _ => .error .incompleteRoute

/-- The bytes of a route. What states no route at all is left out. -/
def routeItem : Value → Except EncodeFault Bytes
  | .none => .ok []
  | .text content => routeBytes content.toList
  | .address a => routeBytes a.text.toList
  | .number value => if value = 0 then .ok [] else .error .incompleteRoute
  | .bytes content => if content.isEmpty then .ok [] else .error .notAddress
  | .list items => if items.isEmpty then .ok [] else .error .notAddress

def listItems : Value → List Value
  | .list items => items
  | value => [value]

def concatBytes (encode : Value → Except EncodeFault Bytes) (values : List Value) :
    Except EncodeFault Bytes :=
  values.foldlM (fun bytes value => (encode value).map (bytes ++ ·)) []

def valueNames : List (String × List (String × Int)) := [
  ("message-type", MessageType.all.map (fun kind => (kind.name, (kind.code : Int))) ++ [
    ("force_renew", 9), ("lease_query", 10), ("lease_unassigned", 11), ("lease_unknown", 12),
    ("lease_active", 13)]),
  ("forcerenew_nonce_capable", [("HMAC-MD5", 1)])]

def namedValue (names : List (String × Int)) (value : Value) : Except EncodeFault Value :=
  match value with
  | .text name => match names.lookup name with
    | some code => .ok (.number code)
    | none => .error (.unknownName name)
  | value => .ok value

def optionWord (assigned : Assignment) (value : Value) : Except EncodeFault Bytes :=
  match valueNames.lookup assigned.name with
  | some names => do wordBytes assigned.form.itemSize (← namedValue names value)
  | none => wordBytes assigned.form.itemSize value

def valueBytes (assigned : Assignment) (value : Value) : Except EncodeFault Bytes :=
  match assigned.form with
  | .raw => rawBytes value
  | .string => match value with
    | .none => .ok []
    | value => rawBytes value
  | .address => addressBytes value
  | .word32 | .word16 | .word8 => optionWord assigned value
  | .byteList => concatBytes (optionWord assigned) (listItems value)
  | .routes => concatBytes routeItem (listItems value)

def codeBytes : Value → Except EncodeFault Bytes
  | .bytes content => .ok content
  | _ => .error .notBytes

def framed (code : Int) (content : Bytes) : Except EncodeFault Bytes :=
  if code < 0 ∨ 255 < code ∨ 255 < content.length then .error .tooLong
  else .ok (UInt8.ofNat code.toNat :: UInt8.ofNat content.length :: content)

/-- The bytes of an option. One without values or with an unassigned name is left out. -/
def Entry.toBytes (entry : Entry) : Except EncodeFault Bytes :=
  if entry.2.isEmpty then .ok []
  else match entry.1 with
    | .code code => do framed code (← concatBytes codeBytes entry.2)
    | .named name => match assignmentNamed? name with
      | none => .ok []
      | some assigned => do framed assigned.code (← concatBytes (valueBytes assigned) entry.2)

def entriesBytes : List Entry → Except EncodeFault Bytes
  | [] => .ok [endCode]
  | entry :: rest => do return (← entry.toBytes) ++ (← entriesBytes rest)

end Netboot.Dhcp
