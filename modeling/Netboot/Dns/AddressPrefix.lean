import Netboot.Text.Utf8

/-! Lists of address prefixes. -/

set_option autoImplicit false

namespace Netboot.Dns

structure AddressPrefix where
  family : Nat
  negated : Bool
  length : Nat
  address : Bytes
  deriving DecidableEq, Repr

namespace AddressPrefix

def addressSize? (family : Nat) : Option Nat :=
  match family with
  | 1 => some 4
  | 2 => some 16
  | _ => none

def longestAddress : Nat := 63

def dropZeros (address : Bytes) : Bytes := (address.reverse.dropWhile (· == 0)).reverse

def isValid (item : AddressPrefix) : Bool :=
  match addressSize? item.family with
  | some size => item.address.length ≤ size && item.length ≤ 8 * size
  | none => item.address.length ≤ longestAddress

def toBytes (item : AddressPrefix) : Bytes :=
  let address := dropZeros item.address
  Bytes.ofNat 2 item.family ++
    [UInt8.ofNat item.length, UInt8.ofNat (address.length + if item.negated then 128 else 0)] ++
    address

def listOfBytes? (bytes : Bytes) : Option (List AddressPrefix) :=
  match bytes with
  | [] => some []
  | high :: low :: length :: size :: rest =>
    let count := size.toNat % 128
    let item : AddressPrefix :=
      ⟨Bytes.toNat [high, low], 128 ≤ size.toNat, length.toNat, rest.take count⟩
    if count ≤ rest.length && item.isValid then
      (listOfBytes? (rest.drop count)).map (item :: ·)
    else none
  | _ => none
termination_by bytes.length
decreasing_by simp only [List.length_drop, List.length_cons]; omega

end AddressPrefix

end Netboot.Dns
