import Netboot.Address.V6
import Netboot.Dns.Layout
import Netboot.Dns.Name.Text
import Netboot.Dns.ZoneText.Token
import Netboot.Text.Base64
import Netboot.Text.Case
import Netboot.Text.Integer

/-! Readers of what a line in a zone file holds: words, numbers, names, times and bytes. -/

set_option autoImplicit false

namespace Netboot.Dns.ZoneText

structure State where
  tokens : List Token
  sound : Bool := true

abbrev Reader := StateT State (Except Fault)

def next : Reader Token := do
  let state ← get
  match state.tokens with
  | .fault cause :: _ => throw cause
  | .stop :: _ | [] => return .stop
  | token :: rest =>
    set { state with tokens := rest }
    return token

def expect (condition : Bool) : Reader Unit :=
  modify fun state => { state with sound := state.sound && condition }

def required {α : Type} (value : Option α) : Except Fault α :=
  match value with
  | some value => .ok value
  | none => .error .malformed

def require (condition : Bool) : Except Fault Unit :=
  if condition then .ok () else .error .malformed

def wordChars : Token → Except Fault (List Char)
  | .word text => unescapeChars text
  | .quoted _ text => do
    let _ ← unescapeChars text
    throw .malformed
  | .stop | .fault _ => .error .malformed

def tokenChars : Token → Except Fault (List Char)
  | .word text | .quoted _ text => unescapeChars text
  | .stop | .fault _ => .error .malformed

def tokenBytes : Token → Except Fault Bytes
  | .word text | .quoted _ text => unescapeBytes text
  | .stop | .fault _ => .error .malformed

def identifier : Reader (List Char) := do wordChars (← next)

def string : Reader (List Char) := do tokenChars (← next)

def octets : Reader Bytes := do tokenBytes (← next)

def numberOf? (text : List Char) : Option Nat :=
  if !text.isEmpty && text.all Text.isAsciiDigit && text.length ≤ Text.integerDigitLimit then
    some (Text.asciiValue text)
  else none

def number : Reader Nat := do required (numberOf? (← identifier))

def word (width : Nat) : Reader Bytes := do
  let value ← number
  require (value < 256 ^ width)
  return Bytes.ofNat width value

def nameOf : Token → Except Fault Name
  | .word text => (Name.parse text).mapError .name
  | _ => .error .malformed

def name : Reader Name := do nameOf (← next)

def upTo : (limit : Nat) → Reader (List Token)
  | 0 => return []
  | limit + 1 => do
    match ← next with
    | .stop => return []
    | token => return token :: (← upTo limit)

def remaining : Reader (List Token) := do upTo (← get).tokens.length

def runWords : (fuel : Nat) → Reader (List Char)
  | 0 => return []
  | fuel + 1 => do
    match ← next with
    | .stop => return []
    | token =>
      let chars ← wordChars token
      return chars ++ (← runWords fuel)

/-- The words that are left, run together; there may have to be any. -/
def runOn (optional : Bool) : Reader (List Char) := do
  let chars ← runWords (← get).tokens.length
  require (optional || !chars.isEmpty)
  return chars

def counted (width : Nat) (content : Bytes) : Reader Bytes := do
  expect (content.length < 256 ^ width)
  return Bytes.ofNat width content.length ++ content

def hexBytes (digits : List Char) : Except Fault Bytes := required (Bytes.ofHexDigits? digits)

def base64Bytes (text : List Char) : Except Fault Bytes := required (Text.Base64.decode? text)

def unitSeconds? (c : Char) : Option Nat :=
  match Text.lower [c] with
  | ['w'] => some 604800
  | ['d'] => some 86400
  | ['h'] => some 3600
  | ['m'] => some 60
  | ['s'] => some 1
  | _ => none

/-- Add up a time in units. `current` is the number read since the last unit, if any. -/
def unitSum (total : Nat) (current : Option Nat) : List Char → Option Nat
  | [] => if current.isNone then some total else none
  | c :: rest =>
    match Name.asciiDigit? c, current with
    | some d, current => unitSum total (some (current.getD 0 * 10 + d)) rest
    | none, some n => (unitSeconds? c).bind fun unit => unitSum (total + n * unit) none rest
    | none, none => none

/-- A time to live: seconds, or numbers with units. -/
def seconds? (text : List Char) : Option Nat :=
  (if text.isEmpty then none else (numberOf? text).or (unitSum 0 none text)).filter (· < 2 ^ 32)

def seconds : Reader Bytes := do
  match seconds? (← identifier) with
  | some n => return Bytes.ofNat 4 n
  | none => throw .badTtl

def address4 (text : List Char) : Except Fault Bytes :=
  required ((V4.parse? (.ofList text)).map (·.toBytes))

def address6 (text : List Char) : Except Fault Bytes :=
  required (((V6.parse? (.ofList text)).filter (·.zone.isNone)).map (·.toBytes))

def integer (text : List Char) : Except Fault Int :=
  required (Text.integer (.ofList text)).toOption

def endOfLine : Reader Unit := do
  match ← next with
  | .stop => return ()
  | _ => throw .malformed

def opaqueMark : List Char := ['\\', '#']

def opaque? : Reader Bytes := do
  require ((← next) == .word opaqueMark)
  let length ← number
  let content ← hexBytes (← runOn true)
  require (content.length == length)
  return content

end Netboot.Dns.ZoneText
