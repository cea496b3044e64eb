import Netboot.Address.V4
import Netboot.Text.Integer

/-! IPv4 networks, and addresses written together with the length of their network's prefix. -/

set_option autoImplicit false

namespace Netboot

def hostCount (length : Nat) : Nat := 2 ^ (32 - length)

structure Cidr where
  address : V4
  length : Nat
  length_le : length ≤ 32
  deriving DecidableEq, Repr

/-- A network: an address without host bits, and the length of the prefix. -/
structure Prefix where
  base : V4
  length : Nat
  length_le : length ≤ 32
  aligned : base.toNat % hostCount length = 0
  deriving DecidableEq, Repr

namespace Prefix

def size (network : Prefix) : Nat := hostCount network.length

def text (network : Prefix) : String := s!"{network.base}/{network.length}"

instance : ToString Prefix := ⟨text⟩

def netmask (network : Prefix) : V4 := .ofNat (2 ^ 32 - network.size)

theorem base_add_size_le (network : Prefix) : network.base.toNat + network.size ≤ 2 ^ 32 := by
  have split : 2 ^ 32 = network.size * 2 ^ network.length := by
    rw [size, hostCount, ← Nat.pow_add, Nat.sub_add_cancel network.length_le]
  obtain ⟨k, hk⟩ := Nat.dvd_of_mod_eq_zero network.aligned
  have below := network.base.bounded
  rw [split, hk, show hostCount network.length = network.size from rfl] at below
  have steps : k + 1 ≤ 2 ^ network.length := Nat.lt_of_mul_lt_mul_left below
  calc network.base.toNat + network.size
      = network.size * (k + 1) := by rw [hk, Nat.mul_add, Nat.mul_one]; rfl
    _ ≤ network.size * 2 ^ network.length := Nat.mul_le_mul_left _ steps
    _ = 2 ^ 32 := split.symm

theorem size_pos (network : Prefix) : 0 < network.size := Nat.two_pow_pos _

def broadcast (network : Prefix) : V4 :=
  ⟨network.base.toNat + (network.size - 1), by
    have := network.base_add_size_le
    have := network.size_pos
    omega⟩

def contains (network : Prefix) (a : V4) : Bool :=
  network.base ≤ a && a ≤ network.broadcast

end Prefix

namespace Cidr

def network (cidr : Cidr) : Prefix where
  base := ⟨cidr.address.toNat - cidr.address.toNat % hostCount cidr.length,
    Nat.lt_of_le_of_lt (Nat.sub_le _ _) cidr.address.bounded⟩
  length := cidr.length
  length_le := cidr.length_le
  aligned := by
    have whole : cidr.address.toNat - cidr.address.toNat % hostCount cidr.length =
        hostCount cidr.length * (cidr.address.toNat / hostCount cidr.length) := by
      have := Nat.div_add_mod cidr.address.toNat (hostCount cidr.length)
      omega
    exact (congrArg (· % hostCount cidr.length) whole).trans (Nat.mul_mod_right _ _)

def text (cidr : Cidr) : String := s!"{cidr.address}/{cidr.length}"

instance : ToString Cidr := ⟨text⟩

inductive Fault where
  | address (fault : V4.Fault)
  | netmask (text : String)
  deriving DecidableEq, Repr

def Fault.message : Fault → String
  | .address fault => fault.message
  | .netmask text => s!"{Text.quoted text} is not a valid netmask"

def maskLength? (mask : Nat) : Option Nat :=
  (List.range 33).find? fun length => 2 ^ 32 - hostCount length == mask

/-- Read a prefix length: a decimal number up to 32, a netmask, or the complement of one. -/
def lengthOfText? (text : String) : Option Nat :=
  let digits := text.toList
  if !digits.isEmpty && digits.all Text.isAsciiDigit then
    if Text.integerDigitLimit < digits.length then none
    else if Text.asciiValue digits ≤ 32 then some (Text.asciiValue digits) else none
  else match V4.ofQuad text with
    | .ok mask => maskLength? mask.toNat <|> maskLength? (2 ^ 32 - 1 - mask.toNat)
    | .error _ => none

def ofParts (address mask : String) : Except Fault Cidr := do
  let address ← (V4.parse address).mapError .address
  match lengthOfText? mask with
  | some length =>
    if h : length ≤ 32 then .ok ⟨address, length, h⟩ else .error (.netmask mask)
  | none => .error (.netmask mask)

/-- Read `address` or `address/mask`; without a mask the network is the address alone. -/
def parse (text : String) : Except Fault Cidr :=
  match Text.fields '/' text.toList with
  | [address] => do
    let address ← (V4.parse (.ofList address)).mapError .address
    return ⟨address, 32, Nat.le_refl _⟩
  | [address, mask] => ofParts (.ofList address) (.ofList mask)
  | _ => .error (.address (.manySlashes text))

end Cidr

end Netboot
