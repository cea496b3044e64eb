import Netboot.Dhcp.Server
import Netboot.Proofs.Lease.Balance

/-! What the address service can do to its leases with one datagram.

`Handling` lists every way a datagram can end. What one datagram keeps is read off it, whichever
message it is: the books, the leases of other clients, and the address of a client who does not
release it.
-/

set_option autoImplicit false

namespace Netboot.Dhcp

structure Arrival where
  clock : Readings
  data : Bytes

namespace Arrival

def client? (arrival : Arrival) : Option String := (Message.parse? arrival.data).map (·.clientMac)

def kind? (arrival : Arrival) : Option MessageType :=
  (Message.parse? arrival.data).bind (·.options.kind?)

/-- Every way the service deals with a datagram: the leases it leaves, and the address it tells the
client. An allocated address is given back only when no lease on it was found before. -/
inductive Handling (arrival : Arrival) (store : LeaseStore) : LeaseStore → Option V4 → Prop
  | kept : Handling arrival store store none
  | allocated {client : String} {requested : Option V4} {next : LeaseStore} {address : V4} :
      arrival.client? = some client →
      store.allocate arrival.clock.allocate client requested = (next, .ok address) →
      Handling arrival store next (some address)
  | failed {client : String} {requested : Option V4} {next : LeaseStore}
      {fault : LeaseStore.Fault} : arrival.client? = some client →
      store.allocate arrival.clock.allocate client requested = (next, .error fault) →
      Handling arrival store next none
  | givenBack {client : String} {requested : Option V4} {next : LeaseStore} {address : V4}
      {found : Option Lease} : arrival.client? = some client →
      store.lookup arrival.clock.lookup client = .ok found →
      (∀ lease, found = some lease → address ≠ lease.address) →
      store.allocate arrival.clock.allocate client requested = (next, .ok address) →
      Handling arrival store (next.release address).1 none
  | released {client : String} {lease : Lease} : arrival.client? = some client →
      arrival.kind? = some .release →
      store.lookup arrival.clock.lookup client = .ok (some lease) →
      Handling arrival store (store.release lease.address).1 none

namespace Handling

variable {arrival : Arrival} {store next : LeaseStore} {told : Option V4} {range : Range}
  {others : Finset V4} {client : String} {lease : Lease}

theorem keeps_terms (handling : arrival.Handling store next told) :
    next.term = store.term ∧ next.strict = store.strict := by
  cases handling with
  | kept | released => exact ⟨rfl, rfl⟩
  | allocated _ ran | failed _ ran => exact (LeaseStore.allocate_eq ran).keeps_terms
  | givenBack _ _ _ ran => exact (LeaseStore.allocate_eq ran).keeps_terms

/-- Only addresses on which there is a lease are given back, so the others stay taken. -/
theorem balanced (handling : arrival.Handling store next told)
    (before : store.Balanced range others) : ∃ more, others ⊆ more ∧ next.Balanced range more := by
  cases handling with
  | kept => exact ⟨others, Finset.Subset.refl _, before⟩
  | allocated _ ran | failed _ ran =>
    obtain ⟨more, grown, -, after⟩ := before.allocate (LeaseStore.allocate_eq ran)
    exact ⟨more, grown, after⟩
  | givenBack _ _ _ ran =>
    obtain ⟨more, grown, -, after⟩ := before.allocate (LeaseStore.allocate_eq ran)
    obtain ⟨expires, -, recorded⟩ := LeaseStore.lease?_of_allocate_ok ran
    exact ⟨more, grown, after.release_held (LeaseStore.Balanced.mem_held_of_lease? recorded)⟩
  | released _ _ looked =>
    have recorded := (LeaseStore.lookup_some looked).1
    exact ⟨others, Finset.Subset.refl _,
      before.release_held (LeaseStore.Balanced.mem_held_of_lease? recorded)⟩

theorem lease?_told {a : V4} (handling : arrival.Handling store next (some a))
    (sender : arrival.client? = some client) :
    ∃ expires, arrival.clock.allocate.after? store.term.seconds = some expires ∧
      next.lease? client = some ⟨a, expires⟩ := by
  cases handling with
  | allocated sent ran =>
    cases sent.symm.trans sender
    exact LeaseStore.lease?_of_allocate_ok ran

theorem lease?_of_ne (handling : arrival.Handling store next told)
    (before : store.Balanced range others) (apart : arrival.client? ≠ some client)
    (found : store.lease? client = some lease)
    (alive : lease.expired arrival.clock.allocate = false) :
    next.lease? client = some lease := by
  cases handling with
  | kept => exact found
  | @allocated sender requested _ _ sent ran | @failed sender requested _ _ sent ran =>
    have other : client ≠ sender := by
      rintro rfl
      exact apart sent
    have kept := LeaseStore.lease?_allocate_of_ne requested other found alive
    rwa [ran] at kept
  | @givenBack sender requested allocated address _ sent _ _ ran =>
    have other : client ≠ sender := by
      rintro rfl
      exact apart sent
    have kept := LeaseStore.lease?_allocate_of_ne requested other found alive
    rw [ran] at kept
    -- The address that is given back is on the sender's lease, and no other lease is on it.
    obtain ⟨more, -, -, after⟩ := before.allocate (LeaseStore.allocate_eq ran)
    obtain ⟨expires, -, recorded⟩ := LeaseStore.lease?_of_allocate_ok ran
    exact LeaseStore.lease?_release_of_ne kept fun same => other (after.client_eq kept recorded same)
  | released sent _ looked =>
    have recorded := (LeaseStore.lookup_some looked).1
    refine LeaseStore.lease?_release_of_ne found fun same => apart ?_
    rw [before.client_eq found recorded same]
    exact sent

/-- A client with a live lease keeps its address as long as it does not release it. -/
theorem lease?_self (handling : arrival.Handling store next told)
    (sender : arrival.client? = some client) (holding : arrival.kind? ≠ some .release)
    (found : store.lease? client = some lease)
    (known : lease.expired arrival.clock.lookup = false)
    (alive : lease.expired arrival.clock.allocate = false) :
    ∃ expires, next.lease? client = some ⟨lease.address, expires⟩ ∧
      (expires = lease.expires ∨
        arrival.clock.allocate.after? store.term.seconds = some expires) := by
  cases handling with
  | kept => exact ⟨lease.expires, found, .inl rfl⟩
  | @allocated _ requested _ _ sent ran | @failed _ requested _ _ sent ran =>
    cases sent.symm.trans sender
    obtain ⟨expires, kept, renewed, -⟩ :=
      LeaseStore.lease?_allocate_self requested found alive
    rw [ran] at kept
    exact ⟨expires, kept, renewed⟩
  | @givenBack _ requested _ address _ sent looked apart ran =>
    cases sent.symm.trans sender
    -- The lookup found the lease, so the client was given its own address.
    obtain ⟨expires, -, -, same⟩ :=
      LeaseStore.lease?_allocate_self requested found alive
    rw [ran] at same
    exact absurd (same address rfl) (apart lease (LeaseStore.found_of_alive found known looked))
  | released _ kind => exact absurd kind holding

end Handling

end Arrival

end Netboot.Dhcp
