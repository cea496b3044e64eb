import Netboot.Dns.AddressPrefix
import Netboot.Dns.Digest
import Netboot.Dns.Mnemonic
import Netboot.Dns.Moment
import Netboot.Dns.Position
import Netboot.Dns.TypeBitmap
import Netboot.Dns.ZoneText.Location
import Netboot.Dns.ZoneText.Service
import Netboot.Text.Base32

/-! The fields of records as zone files write them. -/

set_option autoImplicit false

namespace Netboot.Dns.ZoneText

def countedString : Reader Bytes := do counted 1 (← octets)

def secondString : Reader Bytes := do
  match ← upTo 1 with
  | token :: _ =>
    let content ← tokenBytes token
    if content.isEmpty then return [] else counted 1 content
  | [] => return []

def stringBytes (token : Token) : Except Fault Bytes := do
  let content ← tokenBytes token
  require (content.length < 256)
  return UInt8.ofNat content.length :: content

def strings : Reader Bytes := do
  let left ← remaining
  if left.isEmpty then throw .unexpectedEnd
  return (← left.mapM fun token => (stringBytes token : Except Fault Bytes)).flatten

def isTagByte (b : UInt8) : Bool := (Char.ofNat b.toNat).isAlphanum

def tag : Reader Bytes := do
  let content ← octets
  require (!content.isEmpty && content.all isTagByte && content.length < 256)
  counted 1 content

def code (width : Nat) (number? : List Char → Option Nat) : Reader Bytes := do
  return Bytes.ofNat width (← required (number? (← string)))

def hardware (size : Nat) : Reader Bytes := do
  let parts := Text.fields '-' (← string)
  require (parts.length == size && parts.all (·.length == 2))
  hexBytes parts.flatten

def locatorWord (text : List Char) : Except Fault Bytes := do
  match Text.integerIn 16 (.ofList text) with
  | .ok value =>
    require (text.length == 4 && 0 ≤ value)
    return Bytes.ofNat 2 value.toNat
  | .error _ => throw .malformed

def locator : Reader Bytes := do
  let text ← identifier
  let words := [text.take 4, (text.drop 5).take 4, (text.drop 10).take 4, text.drop 15]
  require ([4, 9, 14].all fun i => text[i]? == some ':')
  return (← words.mapM fun word => (locatorWord word : Except Fault Bytes)).flatten

/-- What a signature is about: the type, algorithm, count of labels, times and key it covers, and
its signer. -/
def signed (signer : NameRule) : Reader Rdata := do
  let type ← code 2 Mnemonic.recordType?
  let algorithm ← code 1 Mnemonic.algorithm?
  let labels ← number
  let ttl ← seconds
  let expiration ← required (Moment.ofText? (← string))
  let inception ← required (Moment.ofText? (← string))
  let key ← number
  let moments := [expiration, inception]
  expect (labels < 256 && key < 65536 && moments.all fun time => 0 ≤ time && time < 2 ^ 32)
  return [.bytes (type ++ algorithm ++ Bytes.ofNat 1 labels ++ ttl ++
    moments.flatMap (fun time => Bytes.ofNat 4 time.toNat) ++ Bytes.ofNat 2 key),
    .name (← name) signer]

def salt : Reader Bytes := do
  let text ← string
  counted 1 (← if text = ['-'] then pure [] else hexBytes text)

def hashedName : Reader Bytes := do
  counted 1 (← required (Text.Base32.decode? (← string)))

def types : Reader Bytes := do
  let words ← (← remaining).mapM fun token => (tokenChars token : Except Fault (List Char))
  let types ← words.mapM fun word => required (Mnemonic.recordType? word)
  require !(types.contains 0)
  return TypeBitmap.ofTypes types

def position : Reader Bytes := do
  let latitude ← octets
  let longitude ← octets
  let altitude ← octets
  expect (Position.isValid latitude longitude altitude)
  return (← counted 1 latitude) ++ (← counted 1 longitude) ++ (← counted 1 altitude)

def network : Reader Bytes := do
  match ← string with
  | '0' :: 'x' :: digits => hexBytes (digits.filter (· != '.'))
  | _ => throw .malformed

def addressPrefix (text : List Char) : Except Fault Bytes := do
  let (negated, text) := match text with
    | '!' :: rest => (true, rest)
    | text => (false, text)
  let (family, rest) ← required (Text.cut? ':' text)
  let family ← integer family
  let (address, length) ← required (Text.cut? '/' rest)
  let length ← integer length
  let address ← match family with
    | 1 => address4 address
    | 2 => address6 address
    | _ => throw .malformed
  let item : AddressPrefix := ⟨family.toNat, negated, length.toNat, address⟩
  require (0 ≤ length && item.isValid)
  return item.toBytes

def prefixes : Reader Bytes := do
  let items ← (← remaining).mapM fun token => do
    (addressPrefix (← tokenChars token) : Except Fault Bytes)
  return items.flatten

def ports : Reader Bytes := do
  let address ← address4 (← string)
  let protocol ← required (numberOf? (← string))
  expect (protocol < 256)
  let ports ← (← remaining).mapM fun token => do
    (required (numberOf? (← tokenChars token)) : Except Fault Nat)
  return address ++ Bytes.ofNat 1 protocol ++ shortestBitmap ports

def gatewayOf (kind : Nat) : Reader Part := do
  match kind with
  | 0 =>
    require ((← string) == ['.'])
    return .bytes []
  | 1 => return .bytes (← address4 (← string))
  | 2 => return .bytes (← address6 (← string))
  | 3 => return .name (← name) .exact
  | _ => throw .malformed

/-- A precedence, the kind of gateway, an algorithm, the gateway and a key; or a preference, a flag,
the kind and the relay. -/
def gateway (form : GatewayForm) : Reader Rdata := do
  let precedence ← word 1
  match form with
  | .key =>
    let kind ← word 1
    let algorithm ← word 1
    let gateway ← gatewayOf kind.toNat
    let key ← base64Bytes (← runOn false)
    return [.bytes (precedence ++ kind ++ algorithm), gateway, .bytes key]
  | .relay =>
    let optional ← word 1
    require (optional.toNat < 2)
    let kind ← word 1
    require (kind.toNat < 128)
    let flagged := kind.toNat + 128 * optional.toNat
    return [.bytes (precedence ++ Bytes.ofNat 1 flagged), ← gatewayOf kind.toNat]

def identity : Reader Bytes := do
  let algorithm ← word 1
  let tag ← hexBytes (← string)
  let key ← base64Bytes (← string)
  expect (tag.length < 256 && key.length < 65536)
  return Bytes.ofNat 1 tag.length ++ algorithm ++ Bytes.ofNat 2 key.length ++ tag ++ key

def names (rule : NameRule) : Reader Rdata := do
  let names ← (← remaining).mapM fun token => (nameOf token : Except Fault Name)
  return names.map (.name · rule)

def sized (size : Nat) : Reader Bytes := do
  let content ← base64Bytes (← string)
  require (content.length == size)
  return content

/-- A signature of a message: its size and bytes, the message's number, a result, and other data
behind its size. -/
def signature : Reader Bytes := do
  let size ← word 2
  let content ← sized size.toNat
  let id ← word 2
  let result ← code 2 Mnemonic.result?
  let otherSize ← word 2
  let other ← if otherSize.toNat = 0 then pure [] else sized otherSize.toNat
  return size ++ content ++ id ++ result ++ otherSize ++ other

def bytesField : Field → Reader Bytes
  | .word width => word width
  | .seconds => seconds
  | .address4 => do address4 (← identifier)
  | .address6 => do address6 (← identifier)
  | .string => countedString
  | .secondString => secondString
  | .strings => strings
  | .tag => tag
  | .rest => octets
  | .target => do
    let content ← octets
    require !content.isEmpty
    return content
  | .hex => do hexBytes (← runOn false)
  | .base64 => do base64Bytes (← runOn false)
  | .hardware size => hardware size
  | .locator => locator
  | .recordType => code 2 Mnemonic.recordType?
  | .algorithm => code 1 Mnemonic.algorithm?
  | .certificate => code 2 Mnemonic.certificate?
  | .scheme => code 1 Mnemonic.scheme?
  | .salt => salt
  | .hashedName => hashedName
  | .types => types
  | .location => location
  | .position => position
  | .network => network
  | .prefixes => prefixes
  | .ports => ports
  | .identity => identity
  | .sized => do counted 2 (← base64Bytes (← string))
  | .sizedRest => do counted 2 (← base64Bytes (← runOn true))
  | .signature => signature
  | .options | .name _ | .names _ | .signed _ | .gateway _ | .service => throw .malformed

def field : Field → Reader Rdata
  | .name rule => do return [.name (← name) rule]
  | .names rule => names rule
  | .signed signer => signed signer
  | .gateway form => gateway form
  | .service => service
  | f => do return [.bytes (← bytesField f)]

def record (type : Nat) (layout : List Field) : Reader Rdata := do
  let data := (← layout.mapM field).flatten
  require ((← get).sound && Rdata.isSound type data)
  return data

end Netboot.Dns.ZoneText
