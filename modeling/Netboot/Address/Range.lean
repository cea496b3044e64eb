import Netboot.Address.Prefix

/-! Inclusive ranges of addresses, and the range that a network leaves for its clients. -/

set_option autoImplicit false

namespace Netboot

structure Range where
  first : V4
  last : V4
  ordered : first ≤ last
  deriving DecidableEq, Repr

namespace Range

def size (range : Range) : Nat := range.last.toNat - range.first.toNat + 1

def contains (range : Range) (a : V4) : Bool := range.first ≤ a && a ≤ range.last

def text (range : Range) : String := s!"{range.first} - {range.last}"

instance : ToString Range := ⟨text⟩

structure Empty where
  first : V4
  last : V4
  deriving DecidableEq, Repr

def Empty.message (empty : Empty) : String := s!"empty address range {empty.first} - {empty.last}"

def between (first last : V4) : Except Empty Range :=
  if h : first ≤ last then .ok ⟨first, last, h⟩ else .error ⟨first, last⟩

inductive Fault where
  | tooSmall (network : Prefix)
  | unusableHost (host : V4) (network : Prefix)
  | empty (empty : Empty)
  | outOfSpace
  deriving DecidableEq, Repr

def Fault.message : Fault → String
  | .tooSmall network => s!"{network} has {network.size} addresses, at least 4 are required"
  | .unusableHost host network => s!"{host} is not a usable address in {network}"
  | .empty bounds => bounds.message
  | .outOfSpace => "the address space ends here"

/-- The next address, unless the space ends; past `host` when that comes next. -/
def stepUp (a host : V4) : Option V4 := do
  let next ← V4.ofNat? (a.toNat + 1)
  if next = host then V4.ofNat? (next.toNat + 1) else some next

/-- The address before, unless the space starts; past `host` when that comes next. -/
def stepDown (a host : V4) : Option V4 := do
  let next ← if a.toNat = 0 then none else V4.ofNat? (a.toNat - 1)
  if next = host then (if next.toNat = 0 then none else V4.ofNat? (next.toNat - 1)) else some next

/-- The addresses a server at `host` can lease out in `network`: neither bound is the network
address, the broadcast address or the host. -/
def plan (network : Prefix) (host : V4) : Except Fault Range :=
  if network.size < 4 then .error (.tooSmall network)
  else if !network.contains host || host = network.base || host = network.broadcast then
    .error (.unusableHost host network)
  else match stepUp network.base host, stepDown network.broadcast host with
    | some first, some last => (between first last).mapError .empty
    | _, _ => .error .outOfSpace

end Range

end Netboot
