import Netboot.Proofs.Lease.Balance

/-! Runs of a lease store: any calls in any order, at any clock readings.

As long as the calendar holds, every address of the range is free, leased once, or reserved and never
given back. Past the calendar's end a failing allocation can take an address for nobody;
`allocate_error_taken_iff` says exactly when.
-/

set_option autoImplicit false

namespace Netboot.LeaseStore

variable {store : LeaseStore} {range : Range} {others : Finset V4}

inductive Call where
  | allocate (now : Instant) (client : String) (requested : Option V4)
  | release (address : V4)
  | lookup (now : Instant) (client : String)
  deriving DecidableEq, Repr

namespace Call

def run (store : LeaseStore) : Call → LeaseStore
  | .allocate now client requested => (store.allocate now client requested).1
  | .release address => (store.release address).1
  | .lookup _ _ => store

/-- The call fails because a date is past the calendar's end. -/
def PastCalendar (store : LeaseStore) : Call → Prop
  | .allocate now client requested =>
    (store.allocate now client requested).2 = .error .pastCalendar
  | .release _ => False
  | .lookup now client => store.lookup now client = .error .pastCalendar

instance (store : LeaseStore) (call : Call) : Decidable (call.PastCalendar store) :=
  match call with
  | .allocate now client requested =>
    inferInstanceAs (Decidable ((store.allocate now client requested).2 = .error .pastCalendar))
  | .release _ => inferInstanceAs (Decidable False)
  | .lookup now client =>
    inferInstanceAs (Decidable (store.lookup now client = .error .pastCalendar))

def released : Call → Finset V4
  | .release address => {address}
  | .allocate _ _ _ | .lookup _ _ => ∅

end Call

/-- The store after calls made one after another, some of which may have failed. -/
def after (store : LeaseStore) (calls : List Call) : LeaseStore := calls.foldl Call.run store

theorem after_append (store : LeaseStore) (calls later : List Call) :
    store.after (calls ++ later) = (store.after calls).after later := List.foldl_append

theorem after_allocate {next : LeaseStore} {now : Instant} {client : String}
    {requested : Option V4} {result : Except Fault V4}
    (ran : store.allocate now client requested = (next, result)) :
    store.after [.allocate now client requested] = next := congrArg Prod.fst ran

theorem Call.run_keeps_terms (store : LeaseStore) (call : Call) :
    (call.run store).term = store.term ∧ (call.run store).strict = store.strict := by
  cases call with
  | allocate now client requested => exact (store.allocate_ends now client requested).keeps_terms
  | release address => exact ⟨rfl, rfl⟩
  | lookup now client => exact ⟨rfl, rfl⟩

theorem after_keeps_terms (store : LeaseStore) (calls : List Call) :
    (store.after calls).term = store.term ∧ (store.after calls).strict = store.strict := by
  induction calls generalizing store with
  | nil => exact ⟨rfl, rfl⟩
  | cons call rest ih =>
    obtain ⟨term, strict⟩ := ih (call.run store)
    obtain ⟨sameTerm, sameStrict⟩ := call.run_keeps_terms store
    exact ⟨term.trans sameTerm, strict.trans sameStrict⟩

def InCalendar (store : LeaseStore) : List Call → Prop
  | [] => True
  | call :: rest => ¬ call.PastCalendar store ∧ (call.run store).InCalendar rest

instance decidableInCalendar (store : LeaseStore) :
    (calls : List Call) → Decidable (store.InCalendar calls)
  | [] => inferInstanceAs (Decidable True)
  | call :: rest =>
    have := decidableInCalendar (call.run store) rest
    inferInstanceAs (Decidable (¬ call.PastCalendar store ∧ (call.run store).InCalendar rest))

/-- The addresses that a run gives back, taken or not. -/
def released : List Call → Finset V4
  | [] => ∅
  | call :: rest => call.released ∪ released rest

/-- Of the taken addresses that nobody holds a call frees those only that it gives back. -/
theorem Balanced.call (balanced : store.Balanced range others) (call : Call) :
    ∃ more, others \ call.released ⊆ more ∧ (call.run store).Balanced range more := by
  cases call with
  | allocate now client requested =>
    obtain ⟨more, grown, -, next⟩ := balanced.allocate (store.allocate_ends now client requested)
    exact ⟨more, Finset.sdiff_subset.trans grown, next⟩
  | release address =>
    refine ⟨others.erase address, ?_, balanced.release address⟩
    rw [Call.released, Finset.sdiff_singleton_eq_erase]
  | lookup now client => exact ⟨others, Finset.sdiff_subset, balanced⟩

theorem Balanced.call_inCalendar (balanced : store.Balanced range others) {call : Call}
    (inCalendar : ¬ call.PastCalendar store) :
    (call.run store).Balanced range (others \ call.released) := by
  cases call with
  | allocate now client requested =>
    obtain ⟨more, -, same, next⟩ := balanced.allocate (store.allocate_ends now client requested)
    rw [Call.released, Finset.sdiff_empty, ← same inCalendar]
    exact next
  | release address =>
    rw [Call.released, Finset.sdiff_singleton_eq_erase]
    exact balanced.release address
  | lookup now client =>
    rw [Call.released, Finset.sdiff_empty]
    exact balanced

theorem Balanced.after_inCalendar (balanced : store.Balanced range others) {calls : List Call}
    (inCalendar : store.InCalendar calls) :
    (store.after calls).Balanced range (others \ released calls) := by
  induction calls generalizing store others with
  | nil =>
    rw [released, Finset.sdiff_empty]
    exact balanced
  | cons call rest ih =>
    obtain ⟨first, later⟩ := inCalendar
    have next := ih (balanced.call_inCalendar first) later
    rwa [sdiff_sdiff, Finset.sup_eq_union] at next

/-- In every run within the calendar distinct clients hold distinct addresses, the leased addresses
lie in the range and are taken, the taken addresses are the leased ones and, apart from them, the
reserved ones never given back, and the counts agree. -/
theorem addresses_accounted_for (range : Range) (reserved : List V4) (term : Span) (strict : Bool)
    (calls : List Call)
    (inCalendar : (ofPool (Pool.ofReserved range reserved) term strict).InCalendar calls) :
    let store := (ofPool (Pool.ofReserved range reserved) term strict).after calls
    let kept := (reserved.toFinset ∩ range.addresses) \ released calls
    (store.leases.map (·.1)).Nodup ∧
    (∀ client other first second, store.lease? client = some first →
      store.lease? other = some second → client ≠ other → first.address ≠ second.address) ∧
    (∀ client lease, store.lease? client = some lease →
      range.contains lease.address = true ∧ store.pool.isAllocated lease.address = true) ∧
    store.pool.taken = store.held ∪ kept ∧ Disjoint store.held kept ∧
    store.pool.available + kept.card + store.size = range.size ∧
    store.active = store.size := by
  intro store kept
  have balanced : store.Balanced range kept :=
    (balanced_ofPool range reserved term strict).after_inCalendar inCalendar
  refine ⟨balanced.clients, ?_, ?_, balanced.taken, balanced.apart, balanced.available_add,
    balanced.published⟩
  · intro client other first second holdsFirst holdsSecond apart same
    exact apart (balanced.client_eq holdsFirst holdsSecond same)
  · intro client lease found
    have member := Balanced.mem_held_of_lease? found
    exact ⟨Range.mem_addresses.mp (balanced.held_subset member),
      Pool.mem_taken_iff_isAllocated.mp (balanced.mem_taken_of_held member)⟩

/-- One client is given the address it asks for and another the lowest free one; the reserved
address is given back, and the first client gets it once its lease has expired. -/
theorem addresses_accounted_for_of_four_calls :
    let range : Range := ⟨.ofNat 1, .ofNat 3, by decide⟩
    let calls : List Call := [.allocate 0 "a" (some (.ofNat 2)), .allocate 1 "b" (some (.ofNat 1)),
      .release (.ofNat 1), .allocate 60 "a" (some (.ofNat 1))]
    let store := ofPool (Pool.ofReserved range [.ofNat 1]) ⟨60, by decide⟩ false
    store.InCalendar calls ∧ ((store.after calls).lease? "a").map (·.address) = some (.ofNat 1) ∧
      (store.after calls).active = (store.after calls).size := by
  intro range calls store
  have inCalendar : store.InCalendar calls := by decide +kernel
  have moved : ((store.after calls).lease? "a").map (·.address) = some (.ofNat 1) := by
    decide +kernel
  have accounted := addresses_accounted_for range [.ofNat 1] ⟨60, by decide⟩ false calls inCalendar
  exact ⟨inCalendar, moved, accounted.2.2.2.2.2.2⟩

/-! ## Allocations that fail -/

/-- The stores that a new one can become. -/
inductive Reachable : LeaseStore → Prop
  | fresh (range : Range) (reserved : List V4) (term : Span) (strict : Bool) :
      Reachable (ofPool (Pool.ofReserved range reserved) term strict)
  | call {store : LeaseStore} (call : Call) : Reachable store → Reachable (call.run store)

theorem Reachable.balanced (reachable : store.Reachable) :
    ∃ range others, store.Balanced range others := by
  induction reachable with
  | fresh range reserved term strict => exact ⟨_, _, balanced_ofPool range reserved term strict⟩
  | call call _ ih =>
    obtain ⟨range, others, balanced⟩ := ih
    obtain ⟨more, -, next⟩ := balanced.call call
    exact ⟨range, more, next⟩

theorem Reachable.after (reachable : store.Reachable) (calls : List Call) :
    (store.after calls).Reachable := by
  induction calls generalizing store with
  | nil => exact reachable
  | cons call rest ih => exact ih (.call call reachable)

/-- A client without a live lease could be given an address, but the lease would expire past the
calendar's end. -/
def Leaks (store : LeaseStore) (now : Instant) (client : String) : Prop :=
  (store.reap now).lease? client = none ∧
  (∃ a, (store.reap now).pool.range.contains a = true ∧ a ∉ (store.reap now).pool.taken) ∧
  now.after? store.term.seconds = none

/-- Apart from a leak a failing allocation leaves the leases and the taken addresses as reaping
leaves them. A leak leaves the leases too, and takes one free address that nobody holds. -/
theorem allocate_error_taken_iff (reachable : store.Reachable) {now : Instant}
    (read : now.representable = true) {client : String} {requested : Option V4} {fault : Fault}
    (failed : (store.allocate now client requested).2 = .error fault) :
    let reaped := store.reap now
    let next := (store.allocate now client requested).1
    next.leases = reaped.leases ∧
    (next.pool.taken = reaped.pool.taken ↔ ¬ store.Leaks now client) ∧
    (store.Leaks now client → ∃ a ∈ reaped.pool.range.addresses, a ∉ reaped.pool.taken ∧
      next.pool.taken = insert a reaped.pool.taken ∧ a ∉ next.held) := by
  obtain ⟨range, others, balanced⟩ := reachable.balanced
  have live := balanced.live now
  -- One case for each way in which an allocation fails; only the leaking one grows the pool.
  have ends := store.allocate_ends now client requested
  generalize store.allocate now client requested = ended at ends failed
  obtain ⟨next, result⟩ := ended
  cases failed
  intro reaped next
  cases ends with
  | unread unread => cases read.symm.trans unread
  | duplicate found | unrenewable found =>
    have held : ¬ store.Leaks now client := fun leaks => by cases leaks.1.symm.trans found
    exact ⟨rfl, iff_of_true rfl held, fun leaks => absurd leaks held⟩
  | exhausted new full =>
    have held : ¬ store.Leaks now client := fun ⟨_, ⟨a, inside, free⟩, _⟩ => by
      have all := live.sound.allocate_error full
      exact free (all ▸ Range.mem_addresses.mpr inside)
    exact ⟨rfl, iff_of_true rfl held, fun leaks => absurd leaks held⟩
  | @leaked a pool new taken past =>
    have takes := live.sound.allocate_ok taken
    have leaks : store.Leaks now client :=
      ⟨new, ⟨a, Range.mem_addresses.mp takes.inside, takes.free⟩, past⟩
    have grown : pool.taken ≠ reaped.pool.taken := fun same =>
      takes.free (same ▸ takes.taken ▸ Finset.mem_insert_self _ _)
    exact ⟨rfl, iff_of_false grown (not_not.mpr leaks), fun _ => ⟨a, takes.inside, takes.free,
      takes.taken, fun member => takes.free (live.mem_taken_of_held member)⟩⟩

/-- The lease of a single address would end after year 9999. -/
theorem allocate_error_taken_iff_of_long_term :
    let range : Range := ⟨.ofNat 0x0a000001, .ofNat 0x0a000001, by decide⟩
    let store := ofPool (Pool.ofReserved range []) ⟨1000000000000, by decide⟩ false
    let next := (store.allocate 63839664000 "a" none).1
    store.Reachable ∧ (store.allocate 63839664000 "a" none).2 = .error .pastCalendar ∧
      (next.pool.taken = (store.reap 63839664000).pool.taken ↔ ¬ store.Leaks 63839664000 "a") := by
  intro range store next
  have reachable : store.Reachable := .fresh range [] _ false
  have failed : (store.allocate 63839664000 "a" none).2 = .error .pastCalendar := by
    decide +kernel
  exact ⟨reachable, failed, (allocate_error_taken_iff reachable (by decide) failed).2.1⟩

/-- An allocation that fails for the calendar takes the only address of the range, though it was free
and no lease is on it. -/
theorem allocate_error_takes_only_address :
    let range : Range := ⟨.ofNat 0x0a000001, .ofNat 0x0a000001, by decide⟩
    let store := ofPool (Pool.ofReserved range []) ⟨1000000000000, by decide⟩ false
    let next := (store.allocate 63839664000 "a" none).1
    store.Reachable ∧ (store.allocate 63839664000 "a" none).2 = .error .pastCalendar ∧
      (store.reap 63839664000).pool.isAllocated (.ofNat 0x0a000001) = false ∧
      next.pool.isAllocated (.ofNat 0x0a000001) = true ∧ next.leases = [] := by
  intro range store next
  exact ⟨.fresh range [] _ false, by decide +kernel, by decide, by decide +kernel,
    by decide +kernel⟩

end Netboot.LeaseStore
