import Netboot.Dns.AddressPrefix
import Netboot.Dns.Digest
import Netboot.Dns.Location
import Netboot.Dns.Message
import Netboot.Dns.Position
import Netboot.Dns.Reader
import Netboot.Dns.ServiceParameter
import Netboot.Dns.TypeBitmap

/-! Reading the data of records from the wire. -/

set_option autoImplicit false

namespace Netboot.Dns.Reader

def ruledName (rule : NameRule) : Reader Part := do
  return .name (← nameWithin (if rule.takesPointers then pointerLimit else 0)) rule

/-- A client subnet names a family and a prefix no longer than its addresses, with zeros behind the
prefix. -/
def isSubnet (content : Bytes) : Bool :=
  match content with
  | a :: b :: source :: scope :: rest =>
    let limit := if a = 0 ∧ b = 1 then 32 else if a = 0 ∧ b = 2 then 128 else 0
    limit != 0 && source.toNat ≤ limit && scope.toNat ≤ limit &&
      rest.length == (source.toNat + 7) / 8 &&
      (source.toNat % 8 = 0 || (rest.getLastD 0).toNat % 2 ^ (8 - source.toNat % 8) = 0)
  | _ => false

/-- A cookie of the client, with or without one of the server. -/
def isCookie (content : Bytes) : Bool :=
  content.length == 8 || (16 ≤ content.length && content.length ≤ 40)

/-- The content of an option in its usual form. An explained error (15) has a code and a text, which
a zero may end; a report channel (18) is a name; option 22 is text. -/
def optionContent? (code : Nat) (content : Bytes) : Option Bytes :=
  match code with
  | 8 => if isSubnet content then some content else none
  | 10 => if isCookie content then some content else none
  | 15 =>
    let text := content.drop 2
    let text := if text.getLast? = some 0 then text.dropLast else text
    if 2 ≤ content.length && (Text.decode? text).isSome then some (content.take 2 ++ text) else none
  | 18 => (run (do
      let _ ← nameWithin 0
      check ((← left) == 0)) content).map fun _ => content
  | 22 => (Text.decode? content).map fun _ => content
  | _ => some content

def option : Reader (Nat × Bytes) := do
  let code ← word 2
  let content ← take (← word 2)
  return (code, ← required (optionContent? code content))

def options : Reader (List (Nat × Bytes)) := do toEnd option (← left)

def position : Reader Bytes := do
  let latitude ← counted 1
  let longitude ← counted 1
  let altitude ← counted 1
  check (Position.isValid latitude.tail longitude.tail altitude.tail)
  return latitude ++ longitude ++ altitude

def gatewayOf (kind : Nat) : Reader Part := do
  match kind with
  | 0 => return .bytes []
  | 1 => return .bytes (← take 4)
  | 2 => return .bytes (← take 16)
  | 3 => ruledName .exact
  | _ => required none

def gateway (form : GatewayForm) : Reader Rdata := do
  match form with
  | .key =>
    let head ← take 3
    let gateway ← gatewayOf (head.getD 1 0).toNat
    return [.bytes head, gateway, .bytes (← rest)]
  | .relay =>
    let head ← take 2
    return [.bytes head, ← gatewayOf ((head.getD 1 0).toNat % 128)]

def identity : Reader Bytes := do
  let head ← take 4
  let tag ← take (head.getD 0 0).toNat
  return head ++ tag ++ (← take (Bytes.toNat (head.drop 2)))

def service : Reader Rdata := do
  let priority ← take 2
  let target ← ruledName .exact
  let content ← rest
  check (priority.toNat != 0 || content.isEmpty)
  let parameters ← required (ServiceParameter.listOfBytes? 0 [] content)
  check (ServiceParameter.areSound parameters)
  return [.bytes priority, target, .bytes (parameters.flatMap ServiceParameter.toBytes)]

def bytesField : Field → Reader Bytes
  | .word width => take width
  | .seconds | .address4 => take 4
  | .address6 => take 16
  | .string | .salt | .hashedName => counted 1
  | .secondString => do
    if (← left) = 0 then return []
    let second ← counted 1
    return if second.length = 1 then [] else second
  | .strings => do
    let read ← toEnd (counted 1) (← left)
    check !read.isEmpty
    return read.flatten
  | .tag => do
    let tag ← counted 1
    check (1 < tag.length && tag.tail.all fun b => (Char.ofNat b.toNat).isAlphanum)
    return tag
  | .rest | .hex | .base64 | .network => rest
  | .target => do
    let target ← rest
    check !target.isEmpty
    return target
  | .hardware size => take size
  | .locator => take 8
  | .recordType | .certificate => take 2
  | .algorithm | .scheme => take 1
  | .types => do
    let windows ← rest
    check (TypeBitmap.isValid 0 windows)
    return windows
  | .location => do required (Location.normalize? (← rest))
  | .position => position
  | .prefixes => do
    let items ← required (AddressPrefix.listOfBytes? (← rest))
    return items.flatMap AddressPrefix.toBytes
  | .ports => do
    let head ← take 5
    return head ++ (← rest)
  | .identity => identity
  | .sized | .sizedRest => counted 2
  | .signature => do
    let content ← counted 2
    let codes ← take 4
    return content ++ codes ++ (← counted 2)
  | .options => do return (← options).flatMap Extension.optionBytes
  | .name _ | .names _ | .signed _ | .gateway _ | .service => required none

def field : Field → Reader Rdata
  | .name rule => do return [← ruledName rule]
  | .names rule => do toEnd (ruledName rule) (← left)
  | .signed signer => do
    let head ← take 18
    return [.bytes head, ← ruledName signer]
  | .gateway form => gateway form
  | .service => service
  | f => do return [.bytes (← bytesField f)]

def rdata (rdclass type : Nat) : Reader Rdata := do
  match layout? rdclass type with
  | none => return [.bytes (← rest)]
  | some layout =>
    let data := (← layout.mapM field).flatten
    check (Rdata.isSound type data)
    return data

end Netboot.Dns.Reader
