import Netboot.Dns.Name

/-! The data of records: a list of parts. -/

set_option autoImplicit false

namespace Netboot.Dns

/-- How a name inside a record's data is treated. A linked one may point back at an earlier name
when it is written, and like a followed one may be a pointer when it is read; the others stand in
full. Letter case counts in exact names alone. -/
inductive NameRule where
  | linked
  | followed
  | plain
  | exact
  deriving DecidableEq, Repr

def NameRule.takesPointers (rule : NameRule) : Bool := rule == .linked || rule == .followed

inductive Part where
  | bytes (content : Bytes)
  | name (name : Name) (rule : NameRule)
  deriving DecidableEq, Repr

abbrev Rdata := List Part

def Part.key : Part → Part
  | .bytes content => .bytes content
  | .name n .exact => .name n .exact
  | .name n rule => .name ⟨n.key, n.absolute⟩ rule

def Rdata.same (a b : Rdata) : Bool := a.map Part.key == b.map Part.key

def labelBytes (label : Label) : Bytes := UInt8.ofNat label.length :: label

def plainLabels (labels : List Label) : Bytes := labels.flatMap labelBytes ++ [0]

def Rdata.plainBytes (data : Rdata) : Bytes :=
  data.flatMap fun
    | .bytes content => content
    | .name name _ => plainLabels name.labels

end Netboot.Dns
