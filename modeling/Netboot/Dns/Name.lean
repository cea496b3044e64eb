import Netboot.Text.Utf8

/-! Domain names as lists of labels, the one nearest the host first. -/

set_option autoImplicit false

namespace Netboot.Dns

-- Sums of numbers start from the core's zero, whatever algebra a module imports.
attribute [local instance (high)] Zero.ofOfNat0

abbrev Label := Bytes

structure Name where
  labels : List Label
  absolute : Bool := true
  deriving DecidableEq, Repr

namespace Name

def root : Name := ⟨[], true⟩

instance : Inhabited Name := ⟨root⟩

def maxLabel : Nat := 63
def maxSize : Nat := 255

def size (name : Name) : Nat :=
  (name.labels.map fun label => label.length + 1).sum + if name.absolute then 1 else 0

def lowerByte (b : UInt8) : UInt8 := if 0x41 ≤ b && b ≤ 0x5a then b + 0x20 else b

def key (name : Name) : List Label := name.labels.map (·.map lowerByte)

def same (a b : Name) : Bool := a.absolute == b.absolute && a.key == b.key

def isSpecial (c : Char) : Bool := "\"().;\\@$".toList.contains c

def byteText (b : UInt8) : List Char :=
  let c := Char.ofNat b.toNat
  if isSpecial c then ['\\', c]
  else if 0x20 < b && b < 0x7f then [c]
  else '\\' :: [b.toNat / 100, b.toNat / 10 % 10, b.toNat % 10].map fun d => Char.ofNat (48 + d)

def labelText (label : Label) : List Char := label.flatMap byteText

def text (name : Name) : String :=
  if name.labels.isEmpty then (if name.absolute then "." else "@")
  else
    let inner := ['.'].intercalate (name.labels.map labelText)
    .ofList (if name.absolute then inner ++ ['.'] else inner)

/-- Why a text is not a name. A label is too long as well when it has no form in ASCII. -/
inductive Fault where
  | emptyLabel
  | badEscape
  | escapeRange
  | longLabel
  | tooLong
  deriving DecidableEq, Repr

def checked (labels : List Label) (absolute : Bool) : Except Fault Name :=
  let name : Name := ⟨labels, absolute⟩
  if labels.any (maxLabel < ·.length) then .error .longLabel
  else if maxSize < name.size then .error .tooLong
  else if labels.any (·.isEmpty) then .error .emptyLabel
  else .ok name

end Name

end Netboot.Dns
