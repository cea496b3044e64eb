import Netboot.Address.V6
import Netboot.Text.Case

/-! Names answered from local records: addresses of both versions and raw record lines. -/

set_option autoImplicit false

namespace Netboot

/-- Values listed under keys, keys and values each in order of first insertion. -/
abbrev Table (α : Type) := List (String × List α)

namespace Table

variable {α : Type} [BEq α]

def values (table : Table α) (key : String) : List α := (table.lookup key).getD []

def has (table : Table α) (key : String) : Bool := (table.lookup key).isSome

def add (table : Table α) (key : String) (value : α) : Table α × Bool :=
  if (table.values key).contains value then (table, false)
  else if table.has key then
    (table.map fun entry =>
      if entry.1 == key then (entry.1, entry.2 ++ [value]) else entry, true)
  else (table ++ [(key, [value])], true)

end Table

/-- The form under which a name is kept: without blank ends, in lower case, ending in a dot. -/
def canonicalName (name : String) : String :=
  let text := Text.lower (Text.strip name.toList)
  .ofList (if text.getLast? = some '.' then text else text ++ ['.'])

structure NameStore where
  v4 : Table V4 := []
  v6 : Table V6 := []
  raw : Table String := []
  registrations : Nat := 0

namespace NameStore

def empty : NameStore := {}

def registerAddress (store : NameStore) (name : String) (address : Address) : NameStore × Bool :=
  match address with
  | .v4 a =>
    let (table, added) := store.v4.add (canonicalName name) a
    ({ store with v4 := table, registrations := store.registrations + added.toNat }, added)
  | .v6 a =>
    let (table, added) := store.v6.add (canonicalName name) a
    ({ store with v6 := table, registrations := store.registrations + added.toNat }, added)

structure NotAddress where
  text : String
  deriving DecidableEq, Repr

def NotAddress.message (fault : NotAddress) : String :=
  s!"{Text.quoted fault.text} does not appear to be an IPv4 or IPv6 address"

def register (store : NameStore) (name text : String) : NameStore × Except NotAddress Bool :=
  match Address.parse? text with
  | none => (store, .error ⟨text⟩)
  | some address =>
    let (store, added) := store.registerAddress name address
    (store, .ok added)

def registerRaw (store : NameStore) (name line : String) : NameStore × Bool :=
  let (table, added) := store.raw.add (canonicalName name) line
  ({ store with raw := table }, added)

def resolveV4 (store : NameStore) (name : String) : List V4 := store.v4.values (canonicalName name)

def resolveV6 (store : NameStore) (name : String) : List V6 := store.v6.values (canonicalName name)

def rawRecords (store : NameStore) (name : String) : List String :=
  store.raw.values (canonicalName name)

def resolve (store : NameStore) (name : String) : List Address :=
  (store.resolveV4 name).map .v4 ++ (store.resolveV6 name).map .v6

def knows (store : NameStore) (name : String) : Bool :=
  store.v4.has (canonicalName name) || store.v6.has (canonicalName name) ||
    store.raw.has (canonicalName name)

end NameStore

end Netboot
