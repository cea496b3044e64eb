import Netboot.Lease.Store
import Netboot.Proofs.Keyed

/-! How a lease store changes: every way an allocation can end, and the leases that an operation
leaves as they are. -/

set_option autoImplicit false

namespace Netboot

/-! ## Expiry -/

theorem Instant.le_iff {t u : Instant} : t ≤ u ↔ t.micros ≤ u.micros := Iff.rfl

theorem Instant.lt_iff {t u : Instant} : t < u ↔ t.micros < u.micros := Iff.rfl

theorem Instant.micros_add (t : Instant) (seconds : Int) :
    (t + seconds).micros = t.micros + seconds * microsPerSecond := rfl

theorem Instant.eq_of_after? {t u : Instant} {span : Int} (later : t.after? span = some u) :
    u = t + span := by
  unfold after? at later
  split at later
  · exact (Option.some.inj later).symm
  · cases later

theorem Lease.alive_iff {lease : Lease} {now : Instant} :
    lease.expired now = false ↔ now < lease.expires := by
  rw [expired, decide_eq_false_iff_not, Instant.le_iff, Instant.lt_iff]
  omega

namespace LeaseStore

variable {store : LeaseStore} {now : Instant} {client other : String} {lease : Lease}

/-! ## Looking up a client -/

theorem mem_of_lease? (found : store.lease? client = some lease) : (client, lease) ∈ store.leases :=
  mem_of_lookup found

theorem lookup_filter {entries : List (String × Lease)} {keep : String × Lease → Bool}
    (found : entries.lookup client = some lease) (kept : keep (client, lease) = true) :
    (entries.filter keep).lookup client = some lease := by
  obtain ⟨before, after, split, others⟩ := List.lookup_eq_some_iff.mp found
  refine List.lookup_eq_some_iff.mpr ⟨before.filter keep, after.filter keep, ?_, ?_⟩
  · rw [split, List.filter_append, List.filter_cons_of_pos kept]
  · intro entry member
    exact others entry (List.mem_filter.mp member).1

theorem lookup_some (found : store.lookup now client = .ok (some lease)) :
    store.lease? client = some lease ∧ lease.expired now = false := by
  unfold lookup at found
  cases recorded : store.lease? client with
  | none =>
    rw [recorded] at found
    cases found
  | some held =>
    simp only [recorded] at found
    split at found
    · obtain ⟨same, alive⟩ := Option.filter_eq_some_iff.mp (Except.ok.inj found)
      exact ⟨same, by simpa using alive⟩
    · cases found

theorem lookup_of_alive (recorded : store.lease? client = some lease)
    (alive : lease.expired now = false) :
    store.lookup now client =
      if now.representable then .ok (some lease) else .error .pastCalendar := by
  simp [lookup, recorded, Option.filter, alive]

theorem found_of_alive (recorded : store.lease? client = some lease)
    (alive : lease.expired now = false) {found : Option Lease}
    (looked : store.lookup now client = .ok found) : found = some lease := by
  rw [lookup_of_alive recorded alive] at looked
  split at looked
  · exact (Except.ok.inj looked).symm
  · cases looked

/-! ## Reaping -/

def live (store : LeaseStore) (now : Instant) : LeaseStore := (store.reap now).publish

@[simp] theorem leases_live (store : LeaseStore) (now : Instant) :
    (store.live now).leases = store.leases.filter (!·.2.expired now) := rfl

@[simp] theorem term_live (store : LeaseStore) (now : Instant) : (store.live now).term = store.term :=
  rfl

theorem lease?_live (found : store.lease? client = some lease) (alive : lease.expired now = false) :
    (store.live now).lease? client = some lease :=
  lookup_filter found (by simp [alive])

/-! ## Allocation -/

def mark (store : LeaseStore) (pool : Pool) : LeaseStore := { store with pool := pool }

/-- Every way an allocation can end, with the store it leaves and its result. Only a `leaked` one
marks an address that nobody is given. -/
inductive Allocation (store : LeaseStore) (now : Instant) (client : String) (requested : Option V4) :
    LeaseStore → Except Fault V4 → Prop
  | unread : now.representable = false →
      Allocation store now client requested store (.error .pastCalendar)
  | duplicate {held : Lease} : (store.live now).lease? client = some held → store.strict = true →
      Allocation store now client requested (store.live now)
        (.error (.duplicate client held.address))
  | unrenewable {held : Lease} : (store.live now).lease? client = some held →
      store.strict = false → now.after? store.term.seconds = none →
      Allocation store now client requested (store.live now) (.error .pastCalendar)
  | renewed {held : Lease} {expires : Instant} :
      (store.live now).lease? client = some held → store.strict = false →
      now.after? store.term.seconds = some expires →
      Allocation store now client requested ((store.live now).renew client expires)
        (.ok held.address)
  | exhausted {cause : Pool.Exhausted} : (store.live now).lease? client = none →
      (store.live now).pool.allocate requested = .error cause →
      Allocation store now client requested (store.live now) (.error (.exhausted cause))
  | leaked {address : V4} {pool : Pool} : (store.live now).lease? client = none →
      (store.live now).pool.allocate requested = .ok (address, pool) →
      now.after? store.term.seconds = none →
      Allocation store now client requested ((store.live now).mark pool)
        (.error .pastCalendar)
  | granted {address : V4} {pool : Pool} {expires : Instant} :
      (store.live now).lease? client = none →
      (store.live now).pool.allocate requested = .ok (address, pool) →
      now.after? store.term.seconds = some expires →
      Allocation store now client requested
        (((store.live now).mark pool).record client ⟨address, expires⟩).publish (.ok address)

theorem allocateAt_eq (store : LeaseStore) (now : Instant) (client : String)
    (requested : Option V4) :
    store.allocateAt now client requested =
      match (store.live now).lease? client with
      | none => (store.live now).grant now client requested
      | some held =>
        if store.strict then (store.live now, .error (.duplicate client held.address))
        else match now.after? store.term.seconds with
          | none => (store.live now, .error .pastCalendar)
          | some expires => ((store.live now).renew client expires, .ok held.address) := rfl

theorem allocate_ends (store : LeaseStore) (now : Instant) (client : String)
    (requested : Option V4) :
    Allocation store now client requested (store.allocate now client requested).1
      (store.allocate now client requested).2 := by
  unfold allocate
  split
  next read =>
    rw [allocateAt_eq]
    cases found : (store.live now).lease? client with
    | some held =>
      cases strict : store.strict with
      | true => exact .duplicate found strict
      | false =>
        cases term : now.after? store.term.seconds with
        | none => exact .unrenewable found strict term
        | some expires => exact .renewed found strict term
    | none =>
      simp only [grant, term_live]
      cases taken : (store.live now).pool.allocate requested with
      | error cause => exact .exhausted found taken
      | ok result =>
        cases term : now.after? store.term.seconds with
        | none => exact .leaked found taken term
        | some expires => exact .granted found taken term
  next unread => exact .unread (by simpa using unread)

theorem allocate_eq {requested : Option V4} {next : LeaseStore} {result : Except Fault V4}
    (ran : store.allocate now client requested = (next, result)) :
    Allocation store now client requested next result := by
  have ends := allocate_ends store now client requested
  rwa [ran] at ends

theorem Allocation.keeps_terms {requested : Option V4} {next : LeaseStore} {result : Except Fault V4}
    (ends : Allocation store now client requested next result) :
    next.term = store.term ∧ next.strict = store.strict := by
  cases ends <;> exact ⟨rfl, rfl⟩

/-! ## What stays -/

theorem lease?_renew (store : LeaseStore) (client other : String) (expires : Instant) :
    (store.renew client expires).lease? other =
      (store.lease? other).map fun lease =>
        if other = client then { lease with expires := expires } else lease := by
  -- Renewing changes no entry's client.
  rw [lease?, renew, lookup_map fun entry => by split <;> rfl, lease?]
  by_cases same : other = client <;> simp [same]

theorem lease?_record (store : LeaseStore) (client other : String) (lease : Lease) :
    (store.record client lease).lease? other =
      (store.lease? other).or (if other = client then some lease else none) := by
  unfold record lease?
  rw [List.lookup_append, List.lookup_cons, List.lookup_nil]
  by_cases same : other = client
  · simp [same]
  · have passed : (other == client) = false := beq_false_of_ne same
    simp [passed, same]

@[simp] theorem lease?_publish (store : LeaseStore) (client : String) :
    store.publish.lease? client = store.lease? client := rfl

@[simp] theorem lease?_mark (store : LeaseStore) (pool : Pool) (client : String) :
    (store.mark pool).lease? client = store.lease? client := rfl

theorem lease?_allocate_of_ne (requested : Option V4) (others : other ≠ client)
    (found : store.lease? other = some lease) (alive : lease.expired now = false) :
    (store.allocate now client requested).1.lease? other = some lease := by
  have kept := lease?_live found alive
  generalize result : store.allocate now client requested = ended
  obtain ⟨next, result⟩ := ended
  cases allocate_eq result with
  | unread => exact found
  | duplicate | unrenewable | exhausted | leaked => exact kept
  | renewed => rw [lease?_renew, kept, Option.map_some, if_neg others]
  | granted =>
    rw [lease?_publish, lease?_record, lease?_mark, kept, Option.some_or]

theorem lease?_release_of_ne {address : V4} (found : store.lease? client = some lease)
    (apart : lease.address ≠ address) : (store.release address).1.lease? client = some lease :=
  lookup_filter found (by simpa using apart)

theorem lease?_of_allocate_ok {requested : Option V4} {next : LeaseStore} {address : V4}
    (ran : store.allocate now client requested = (next, .ok address)) :
    ∃ expires, now.after? store.term.seconds = some expires ∧
      next.lease? client = some ⟨address, expires⟩ := by
  cases allocate_eq ran with
  | @renewed held expires found strict term =>
    exact ⟨expires, term, by rw [lease?_renew, found, Option.map_some, if_pos rfl]⟩
  | @granted _ pool expires new taken term =>
    refine ⟨expires, term, ?_⟩
    rw [lease?_publish, lease?_record, lease?_mark, new, Option.none_or, if_pos rfl]

theorem allocate_of_alive (requested : Option V4) (read : now.representable = true)
    (lenient : store.strict = false) (found : store.lease? client = some lease)
    (alive : lease.expired now = false) {expires : Instant}
    (term : now.after? store.term.seconds = some expires) :
    store.allocate now client requested =
      ((store.live now).renew client expires, .ok lease.address) := by
  rw [allocate, if_pos read, allocateAt_eq, lease?_live found alive]
  simp only [lenient, Bool.false_eq_true, if_false, term]

theorem lease?_allocate_self (requested : Option V4)
    (found : store.lease? client = some lease) (alive : lease.expired now = false) :
    ∃ expires, (store.allocate now client requested).1.lease? client =
        some ⟨lease.address, expires⟩ ∧
      (expires = lease.expires ∨ now.after? store.term.seconds = some expires) ∧
      ∀ address, (store.allocate now client requested).2 = .ok address → address = lease.address := by
  have kept := lease?_live found alive
  generalize result : store.allocate now client requested = ended
  obtain ⟨next, result⟩ := ended
  cases allocate_eq result with
  | unread => exact ⟨lease.expires, found, .inl rfl, nofun⟩
  | duplicate | unrenewable => exact ⟨lease.expires, kept, .inl rfl, nofun⟩
  | @renewed held expires same strict term =>
    cases kept.symm.trans same
    refine ⟨expires, ?_, .inr term, fun address told => (Except.ok.inj told).symm⟩
    rw [lease?_renew, kept, Option.map_some, if_pos rfl]
  | exhausted new | leaked new | granted new => cases kept.symm.trans new

end LeaseStore

end Netboot
