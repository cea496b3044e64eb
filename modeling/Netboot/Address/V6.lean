import Netboot.Address.V4

/-! IPv6 addresses with an optional zone, and their text. -/

set_option autoImplicit false

namespace Netboot

structure V6 where
  toNat : Nat
  bounded : toNat < 2 ^ 128
  zone : Option String := none
  deriving DecidableEq, Repr

namespace V6

def groups (a : V6) : List Nat :=
  (List.range 8).map fun i => a.toNat / 2 ^ (16 * (7 - i)) % 2 ^ 16

def toBytes (a : V6) : Bytes := Bytes.ofNat 16 a.toNat

def ofGroups (groups : List Nat) (zone : Option String) : V6 :=
  ⟨groups.foldl (fun n g => n * 2 ^ 16 + g) 0 % 2 ^ 128, Nat.mod_lt _ (by decide), zone⟩

def group? (text : List Char) : Option Nat :=
  if text.isEmpty || 4 < text.length then none
  else text.foldlM (fun n c => (Text.hexValue? c).map (n * 16 + ·)) 0

def spellQuad? (parts : List (List Char)) : Option (List (List Char)) :=
  match parts.getLast? with
  | some last =>
    if last.contains '.' then
      (V4.parse? (.ofList last)).map fun a =>
        parts.dropLast ++ [Text.hex 1 (a.toNat / 2 ^ 16), Text.hex 1 (a.toNat % 2 ^ 16)]
    else some parts
  | none => none

/-- The groups on the two sides of the abbreviation at place `i`. An empty first or last part
is allowed only next to it. -/
def sides? (parts : List (List Char)) (i : Nat) : Option (List (List Char) × List (List Char)) :=
  let high := parts.take i
  let low := parts.drop (i + 1)
  let high := if high.head? = some [] then (if high.length = 1 then some [] else none) else some high
  let low := if low.getLast? = some [] then (if low.length = 1 then some [] else none) else some low
  match high, low with
  | some high, some low => if high.length + low.length < 8 then some (high, low) else none
  | _, _ => none

def groups? (text : List Char) : Option (List Nat) := do
  let parts := Text.fields ':' text
  if parts.length < 3 then none
  let parts ← spellQuad? parts
  if 9 < parts.length then none
  let inner := (List.range parts.length).filter fun i =>
    0 < i && i + 1 < parts.length && parts[i]? == some []
  match inner with
  | [] => if parts.length = 8 then parts.mapM group? else none
  | [i] => do
    let (high, low) ← sides? parts i
    let high ← high.mapM group?
    let low ← low.mapM group?
    return high ++ List.replicate (8 - (high.length + low.length)) 0 ++ low
  | _ => none

def parse? (text : String) : Option V6 :=
  if text.toList.contains '/' then none
  else match Text.cut? '%' text.toList with
    | none => (groups? text.toList).map fun groups => ofGroups groups none
    | some (address, zone) =>
      if zone.isEmpty || zone.contains '%' then none
      else (groups? address).map fun groups => ofGroups groups (some (.ofList zone))

def zeroRun (groups : List Nat) : Nat := (groups.takeWhile (· == 0)).length

/-- Where the longest run of zero groups starts, and its length; the first of equal ones. -/
def longestZeroRun (groups : List Nat) : Nat × Nat :=
  (List.range groups.length).foldl
    (fun best i => let run := zeroRun (groups.drop i); if best.2 < run then (i, run) else best)
    (0, 0)

def text (a : V6) : String :=
  let write (groups : List Nat) : List Char :=
    [':'].intercalate (groups.map fun g => Text.hex 1 g)
  let (start, length) := longestZeroRun a.groups
  let digits :=
    if length < 2 then write a.groups
    else write (a.groups.take start) ++ [':', ':'] ++ write (a.groups.drop (start + length))
  .ofList digits ++ (match a.zone with
    | some zone => "%" ++ zone
    | none => "")

instance : ToString V6 := ⟨text⟩

end V6

inductive Address where
  | v4 (a : V4)
  | v6 (a : V6)
  deriving DecidableEq, Repr

namespace Address

def text : Address → String
  | .v4 a => a.text
  | .v6 a => a.text

instance : ToString Address := ⟨text⟩

def parse? (text : String) : Option Address :=
  (V4.parse? text).map .v4 <|> (V6.parse? text).map .v6

end Address

end Netboot
