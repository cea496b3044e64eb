import Netboot.Text.Utf8

/-! Base64, read leniently: characters outside the alphabet do not count. -/

set_option autoImplicit false

namespace Netboot.Text.Base64

def value? (c : Char) : Option Nat :=
  if 'A' ≤ c ∧ c ≤ 'Z' then some (c.toNat - 'A'.toNat)
  else if 'a' ≤ c ∧ c ≤ 'z' then some (c.toNat - 'a'.toNat + 26)
  else if '0' ≤ c ∧ c ≤ '9' then some (c.toNat - '0'.toNat + 52)
  else if c = '+' then some 62
  else if c = '/' then some 63
  else none

/-- The bytes of a group of up to four values: one fewer than there are values. -/
def groupBytes (group : List Nat) : Bytes :=
  let bits := (group ++ List.replicate (4 - group.length) 0).foldl (fun n v => n * 64 + v) 0
  (Bytes.ofNat 3 bits).take (group.length - 1)

/-- Decode from inside a group, `pads` of whose places are taken by equals signs. The group that
they complete is the last. -/
def decodeFrom? (group : List Nat) (pads : Nat) : List Char → Option Bytes
  | [] => if group.isEmpty then some [] else none
  | c :: rest =>
    if c = '=' then
      if group.length < 2 then decodeFrom? group pads rest
      else if 4 ≤ group.length + pads + 1 then some (groupBytes group)
      else decodeFrom? group (pads + 1) rest
    else match value? c with
      | none => decodeFrom? group pads rest
      | some v =>
        if group.length < 3 then decodeFrom? (group ++ [v]) 0 rest
        else (decodeFrom? [] 0 rest).map (groupBytes (group ++ [v]) ++ ·)

def decode? (text : List Char) : Option Bytes := decodeFrom? [] 0 text

end Netboot.Text.Base64
