import Netboot.Text.Utf8

/-! Base32 with the extended hexadecimal alphabet, without padding. -/

set_option autoImplicit false

namespace Netboot.Text.Base32

/-- The five bits a character of either case stands for. Letters past the alphabet have the values
of the plain one. -/
def value? (c : Char) : Option Nat :=
  let c := c.toUpper
  if '0' ≤ c ∧ c ≤ '9' then some (c.toNat - '0'.toNat)
  else if 'A' ≤ c ∧ c ≤ 'V' then some (c.toNat - 'A'.toNat + 10)
  else if 'W' ≤ c ∧ c ≤ 'Z' then some (c.toNat - 'A'.toNat)
  else none

def lastGroups : List Nat := [0, 2, 4, 5, 7]

def groupBytes : List Nat → Bytes
  | a :: b :: c :: d :: e :: f :: g :: h :: rest =>
    Bytes.ofNat 5 ([a, b, c, d, e, f, g, h].foldl (fun n v => n * 32 + v) 0) ++ groupBytes rest
  | group =>
    let bits := (group ++ List.replicate (8 - group.length) 0).foldl (fun n v => n * 32 + v) 0
    (Bytes.ofNat 5 bits).take (group.length * 5 / 8)

def decode? (text : List Char) : Option Bytes :=
  if lastGroups.contains (text.length % 8) then (text.mapM value?).map groupBytes else none

end Netboot.Text.Base32
