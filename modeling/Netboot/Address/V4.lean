import Netboot.Text.Blank
import Netboot.Text.Quoted
import Netboot.Text.Utf8

/-! IPv4 addresses and their dotted text. -/

set_option autoImplicit false

namespace Netboot

structure V4 where
  toNat : Nat
  bounded : toNat < 2 ^ 32
  deriving DecidableEq, Repr

namespace V4

@[ext] theorem ext {a b : V4} (same : a.toNat = b.toNat) : a = b := by
  cases a; cases b; cases same; rfl

instance : LE V4 := ⟨fun a b => a.toNat ≤ b.toNat⟩
instance : LT V4 := ⟨fun a b => a.toNat < b.toNat⟩
instance (a b : V4) : Decidable (a ≤ b) := inferInstanceAs (Decidable (a.toNat ≤ b.toNat))
instance (a b : V4) : Decidable (a < b) := inferInstanceAs (Decidable (a.toNat < b.toNat))

def ofNat? (n : Nat) : Option V4 := if h : n < 2 ^ 32 then some ⟨n, h⟩ else none

def ofNat (n : Nat) : V4 := ⟨n % 2 ^ 32, Nat.mod_lt _ (by decide)⟩

def zero : V4 := ⟨0, by decide⟩
def broadcast : V4 := ⟨2 ^ 32 - 1, by decide⟩

instance : Inhabited V4 := ⟨zero⟩

def isLoopback (a : V4) : Bool := a.toNat / 2 ^ 24 == 127

def octets (a : V4) : List Nat :=
  [a.toNat / 2 ^ 24, a.toNat / 2 ^ 16 % 256, a.toNat / 2 ^ 8 % 256, a.toNat % 256]

def text (a : V4) : String := ".".intercalate (a.octets.map Nat.repr)

instance : ToString V4 := ⟨text⟩

def toBytes (a : V4) : Bytes := Bytes.ofNat 4 a.toNat

def ofBytes (bytes : Bytes) : V4 := ofNat bytes.toNat

inductive Fault where
  | empty
  | slash (text : String)
  | octetCount (text : String)
  | emptyOctet (text : String)
  | notDecimal (octet text : String)
  | longOctet (octet text : String)
  | leadingZero (octet text : String)
  | largeOctet (octet : Nat) (text : String)
  | manySlashes (text : String)
  deriving DecidableEq, Repr

def Fault.message : Fault → String
  | .empty => "Address cannot be empty"
  | .slash text => s!"Unexpected '/' in {Text.quoted text}"
  | .octetCount text => s!"Expected 4 octets in {Text.quoted text}"
  | .emptyOctet text => s!"Empty octet not permitted in {Text.quoted text}"
  | .notDecimal octet text =>
    s!"Only decimal digits permitted in {Text.quoted octet} in {Text.quoted text}"
  | .longOctet octet text =>
    s!"At most 3 characters permitted in {Text.quoted octet} in {Text.quoted text}"
  | .leadingZero octet text =>
    s!"Leading zeros are not permitted in {Text.quoted octet} in {Text.quoted text}"
  | .largeOctet octet text => s!"Octet {octet} (> 255) not permitted in {Text.quoted text}"
  | .manySlashes text => s!"Only one '/' permitted in {Text.quoted text}"

def octet (text : String) (digits : List Char) : Except Fault (Fin 256) :=
  if digits.isEmpty then .error (.emptyOctet text)
  else if !digits.all Text.isAsciiDigit then .error (.notDecimal (.ofList digits) text)
  else if 3 < digits.length then .error (.longOctet (.ofList digits) text)
  else if 1 < digits.length && digits.head? == some '0' then
    .error (.leadingZero (.ofList digits) text)
  else if h : Text.asciiValue digits < 256 then .ok ⟨Text.asciiValue digits, h⟩
  else .error (.largeOctet (Text.asciiValue digits) text)

/-- Read four decimal octets between full stops; a slash is an octet fault like any other. -/
def ofQuad (text : String) : Except Fault V4 :=
  if text.isEmpty then .error .empty
  else match Text.fields '.' text.toList with
    | [a, b, c, d] => do
      let a ← octet text a
      let b ← octet text b
      let c ← octet text c
      let d ← octet text d
      return ⟨a * 2 ^ 24 + b * 2 ^ 16 + c * 2 ^ 8 + d, by omega⟩
    | _ => .error (.octetCount text)

def parse (text : String) : Except Fault V4 :=
  if text.toList.contains '/' then .error (.slash text) else ofQuad text

def parse? (text : String) : Option V4 := (parse text).toOption

end V4

end Netboot
