import Netboot.Dhcp.Option

/-! Reading the options of a packet: a code, a length, and so many bytes. -/

set_option autoImplicit false

namespace Netboot.Dhcp

def padCode : UInt8 := 0
def endCode : UInt8 := 255

def Form.itemSize : Form → Nat
  | .address | .word32 => 4
  | .word16 => 2
  | _ => 1

def Form.item (form : Form) (bytes : Bytes) : Value :=
  match form with
  | .address => .address (V4.ofBytes bytes)
  | _ => .number bytes.toNat

/-- Cut into items of `size` bytes; none when some are left over. -/
def chunks? (size : Nat) (bytes : Bytes) : Option (List Bytes) :=
  if bytes.length % size = 0 then
    some ((List.range (bytes.length / size)).map fun i => (bytes.drop (i * size)).take size)
  else none

def route? (bytes : Bytes) : Option (Value × Bytes) :=
  match bytes with
  | [] => none
  | length :: rest =>
    let octets := (length.toNat + 7) / 8
    if 4 < octets ∨ rest.length < octets + 4 then none
    else
      let base := V4.ofBytes (Bytes.fit 4 (rest.take octets))
      let router := V4.ofBytes ((rest.drop octets).take 4)
      some (.text s!"{base}/{length.toNat}:{router}", rest.drop (octets + 4))

def routes? (fuel : Nat) (bytes : Bytes) : Option (List Value) :=
  match fuel, bytes with
  | _, [] => some []
  | 0, _ => none
  | fuel + 1, bytes => do
    let (route, rest) ← route? bytes
    return route :: (← routes? fuel rest)

def Form.values? (form : Form) (bytes : Bytes) : Option (List Value) :=
  match form with
  | .raw | .string => some [.bytes bytes]
  | .byteList => some [.list (bytes.map fun b => .number b.toNat)]
  | .routes => (routes? bytes.length bytes).map fun routes => [.list routes]
  | .address | .word32 | .word16 | .word8 =>
    if bytes.isEmpty then none
    else (chunks? form.itemSize bytes).map (·.map form.item)

def entry? (code : UInt8) (content : Bytes) : Option Entry :=
  match assignment? code.toNat with
  | some assigned => (assigned.form.values? content).map fun values => (.named assigned.name, values)
  | none => some (.code (code.toNat : Int), [.bytes content])

/-- The options of a packet in order. Padding and end marks are passed over, and reading stops at
an option that is cut off or does not fit its form. -/
def entries (bytes : Bytes) : List Entry :=
  match bytes with
  | [] => []
  | code :: rest =>
    if code = padCode ∨ code = endCode then entries rest
    else match rest with
      | [] => []
      | length :: rest =>
        if rest.length < length.toNat then []
        else match entry? code (rest.take length.toNat) with
          | none => []
          | some entry => entry :: entries (rest.drop length.toNat)
termination_by bytes.length
decreasing_by all_goals simp only [List.length_cons, List.length_drop]; omega

def Options.ofBytes (bytes : Bytes) : Options := .ofList (entries bytes)

end Netboot.Dhcp
