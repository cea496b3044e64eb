import Netboot.Address.Pool
import Netboot.Lease.Clock

/-! Leases of clients on the addresses of a pool.

Every operation that needs the time takes the clock's reading as an argument, and every operation
returns the store it leaves behind, also when it is refused.
-/

set_option autoImplicit false

namespace Netboot

structure Lease where
  address : V4
  expires : Instant
  deriving DecidableEq, Repr

def Lease.expired (lease : Lease) (now : Instant) : Bool := lease.expires ≤ now

/-- `leases` is keyed by client; `active` is the number of leases last published. -/
structure LeaseStore where
  pool : Pool
  term : Span
  strict : Bool
  leases : List (String × Lease)
  active : Nat

namespace LeaseStore

def ofPool (pool : Pool) (term : Span) (strict : Bool) : LeaseStore where
  pool := pool
  term := term
  strict := strict
  leases := []
  active := 0

def size (store : LeaseStore) : Nat := store.leases.length

def lease? (store : LeaseStore) (client : String) : Option Lease := store.leases.lookup client

inductive Fault where
  | exhausted (exhausted : Pool.Exhausted)
  | duplicate (client : String) (held : V4)
  | pastCalendar
  deriving DecidableEq, Repr

def Fault.message : Fault → String
  | .exhausted cause => cause.message
  | .duplicate client held => s!"{client} already holds {held}"
  | .pastCalendar => "date value out of range"

def reap (store : LeaseStore) (now : Instant) : LeaseStore where
  pool := (store.leases.filter (·.2.expired now)).foldl
    (fun pool entry => (pool.free entry.2.address).1) store.pool
  term := store.term
  strict := store.strict
  leases := store.leases.filter (!·.2.expired now)
  active := store.active

def publish (store : LeaseStore) : LeaseStore := { store with active := store.leases.length }

def renew (store : LeaseStore) (client : String) (expires : Instant) : LeaseStore :=
  { store with leases := store.leases.map fun entry =>
      if entry.1 == client then (entry.1, { entry.2 with expires := expires }) else entry }

def record (store : LeaseStore) (client : String) (lease : Lease) : LeaseStore :=
  { store with leases := store.leases ++ [(client, lease)] }

/-- Lease an address to a client who holds none. The address is marked before the expiry is
computed, and stays marked when that fails. -/
def grant (store : LeaseStore) (now : Instant) (client : String) (requested : Option V4) :
    LeaseStore × Except Fault V4 :=
  match store.pool.allocate requested with
  | .error exhausted => (store, .error (.exhausted exhausted))
  | .ok (address, pool) =>
    let marked := { store with pool := pool }
    match now.after? store.term.seconds with
    | none => (marked, .error .pastCalendar)
    | some expires => ((marked.record client ⟨address, expires⟩).publish, .ok address)

/-- Lease an address to a client. Leases expired by now are reaped first; a live lease of the
client is renewed in place. -/
def allocateAt (store : LeaseStore) (now : Instant) (client : String) (requested : Option V4) :
    LeaseStore × Except Fault V4 :=
  let store := (store.reap now).publish
  match store.lease? client with
  | none => store.grant now client requested
  | some held =>
    if store.strict then (store, .error (.duplicate client held.address))
    else match now.after? store.term.seconds with
      | none => (store, .error .pastCalendar)
      | some expires => (store.renew client expires, .ok held.address)

def allocate (store : LeaseStore) (now : Instant) (client : String) (requested : Option V4) :
    LeaseStore × Except Fault V4 :=
  if now.representable then store.allocateAt now client requested
  else (store, .error .pastCalendar)

/-- Free an address and drop the leases on it; tells whether it was taken. -/
def release (store : LeaseStore) (address : V4) : LeaseStore × Bool :=
  let (pool, freed) := store.pool.free address
  ({ store with
      leases := store.leases.filter (!·.2.address == address)
      pool := pool }.publish, freed)

/-- The client's lease, if it is live at the clock reading `now`. Only a lease on record is a reason
to read the clock. -/
def lookup (store : LeaseStore) (now : Instant) (client : String) : Except Fault (Option Lease) :=
  match store.lease? client with
  | none => .ok none
  | some lease =>
    if now.representable then .ok ((some lease).filter (!·.expired now))
    else .error .pastCalendar

end LeaseStore

end Netboot
