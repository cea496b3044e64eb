import Netboot.Address.Numeric
import Netboot.Text.Case

/-! Addresses of hosts where no name service can be asked: a host is a numeric address, the machine
itself, or a network, which stands for its first address. -/

set_option autoImplicit false

namespace Netboot.HostName

inductive Fault where
  /-- No host goes by the name. -/
  | unknown
  /-- A name with an empty label or one that is too long. -/
  | label
  /-- A pattern for many hosts. -/
  | pattern
  /-- The length behind the slash is no length of a prefix. -/
  | prefixLength
  deriving DecidableEq, Repr

def wildcard : Char := '*'

def maxLabel : Nat := 63

def lawfulLabels (name : List Char) : Bool :=
  let labels := Text.fields '.' name
  labels.all (·.length ≤ maxLabel) && labels.dropLast.all (!·.isEmpty)

def isNumberRange (label : List Char) : Bool :=
  match Text.fields '-' label with
  | [first, last] =>
    !first.isEmpty && first.all Text.isAsciiDigit && !last.isEmpty && last.all Text.isAsciiDigit
  | _ => false

def itself : List Char := ['l', 'o', 'c', 'a', 'l', 'h', 'o', 's', 't']

def loopback : V4 := .ofNat 0x7f000001

def address (name : List Char) : Except Fault V4 :=
  if !lawfulLabels name then .error .label
  else match V4.ofNumeric? name with
    | some a => .ok a
    | none =>
      if name.map Text.lowerAscii = itself then .ok loopback
      else if (Text.fields '.' name).any isNumberRange then .error .pattern
      else .error .unknown

/-- The first address of the network of `base` whose prefix has `length` bits. Below zero bits it
starts where all networks do. -/
def firstAddress (base : V4) (length : Int) : Except Fault V4 :=
  if 32 < length then .error .prefixLength
  else
    let size := 2 ^ (32 - length).toNat
    .ok (.ofNat (base.toNat / size * size))

def first (text : List Char) : Except Fault V4 :=
  if text.contains wildcard then .error .pattern
  else match Text.cut? '/' text with
    | none => address text
    | some (host, length) => do
      let length ← (Text.integer (.ofList length)).mapError fun _ => .prefixLength
      -- a name that no one goes by is found out before a length out of range
      let base ← address host
      firstAddress base length

end Netboot.HostName
