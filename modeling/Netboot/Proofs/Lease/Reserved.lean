import Netboot.Proofs.Lease.Calls

/-! Reserved addresses.

A reserved address is taken though nobody holds a lease on it. Expiry passes it by, so it stays out of
circulation until it is given back like an address that was leased.
-/

set_option autoImplicit false

namespace Netboot

theorem Pool.allocate_of_free {pool : Pool} {a : V4} (inside : pool.range.contains a = true)
    (free : a ∉ pool.taken) : pool.allocate (some a) = .ok (a, pool.set (pool.offset a)) := by
  have clear : pool.test (pool.offset a) = false :=
    Bool.eq_false_iff.mpr fun set => free (mem_taken.mpr ⟨inside, set⟩)
  have contained : pool.contains a = true := inside
  simp only [allocate, contained, clear, Bool.not_false, Bool.and_self, if_true]

namespace LeaseStore

variable {store : LeaseStore} {range : Range} {others : Finset V4} {now : Instant}
  {client : String} {requested : Option V4} {a : V4}

namespace Balanced

theorem after (balanced : store.Balanced range others) (calls : List Call) :
    ∃ more, others \ released calls ⊆ more ∧ (store.after calls).Balanced range more := by
  induction calls generalizing store others with
  | nil => exact ⟨others, Finset.sdiff_subset, balanced⟩
  | cons call rest ih =>
    obtain ⟨next, kept, balancedNext⟩ := balanced.call call
    obtain ⟨last, keptLater, balancedLast⟩ := ih balancedNext
    refine ⟨last, ?_, balancedLast⟩
    rw [released, ← Finset.sup_eq_union, ← sdiff_sdiff]
    exact (Finset.sdiff_subset_sdiff kept (Finset.Subset.refl _)).trans keptLater

/-- What an allocation answers with was leased or free: an address of the range that is not taken
for nobody. -/
theorem allocate_told (balanced : store.Balanced range others)
    (told : (store.allocate now client requested).2 = .ok a) :
    a ∈ range.addresses ∧ a ∉ others := by
  have live := balanced.live now
  have ends := store.allocate_ends now client requested
  generalize store.allocate now client requested = ended at ends told
  obtain ⟨next, result⟩ := ended
  cases told
  cases ends with
  | renewed found =>
    have held := mem_held_of_lease? found
    exact ⟨live.held_subset held, Finset.disjoint_left.mp live.apart held⟩
  | granted new taken =>
    have takes := live.sound.allocate_ok taken
    have inside := takes.inside
    have free := takes.free
    rw [live.range] at inside
    rw [live.taken, Finset.mem_union, not_or] at free
    exact ⟨inside, free.2⟩

theorem lease?_of_mem (balanced : store.Balanced range others) {lease : Lease}
    (member : (client, lease) ∈ store.leases) : store.lease? client = some lease := by
  cases found : store.lease? client with
  | none => exact absurd (List.lookup_eq_none_iff.mp found _ member) (by simp)
  | some other =>
    have same := List.inj_on_of_nodup_map balanced.clients (mem_of_lease? found) member rfl
    exact congrArg (fun entry => some entry.2) same

theorem lease?_live_of_lookup (balanced : store.Balanced range others)
    (missing : store.lookup now client = .ok none) : (store.live now).lease? client = none := by
  cases found : (store.live now).lease? client with
  | none => rfl
  | some lease =>
    obtain ⟨member, alive⟩ := List.mem_filter.mp (mem_of_lease? found)
    have same := found_of_alive (balanced.lease?_of_mem member) (by simpa using alive) missing
    cases same

/-- Once an address of the range has been given back, a client without a live lease is granted it on
request. -/
theorem allocate_released (balanced : store.Balanced range others)
    (inside : range.contains a = true) (read : now.representable = true) {expires : Instant}
    (term : now.after? store.term.seconds = some expires)
    (missing : (store.release a).1.lookup now client = .ok none) :
    ((store.release a).1.allocate now client (some a)).2 = .ok a := by
  have given := balanced.release a
  have live := given.live now
  -- The call ends the lease on the address, or else the reservation.
  have free : a ∉ ((store.release a).1.live now).pool.taken := by
    rw [live.taken, Finset.mem_union, not_or]
    refine ⟨fun held => ?_, Finset.notMem_erase a others⟩
    have before := (given.mem_held_live.mp held).1
    rw [held_release] at before
    exact Finset.notMem_erase a _ before
  have contained : ((store.release a).1.live now).pool.range.contains a = true := by
    rw [live.range]
    exact inside
  have sameTerm : (store.release a).1.term = store.term := rfl
  rw [LeaseStore.allocate, if_pos read, allocateAt_eq, given.lease?_live_of_lookup missing]
  simp only [LeaseStore.grant, Pool.allocate_of_free contained free, term_live, sameTerm, term]

end Balanced

/-- No allocation answers with a reserved address as long as no call gave it back. But a call may do
so at any time, and then the address is leased to the next client that asks for it. -/
theorem reserved_until_released (range : Range) (reserved : List V4) (term : Span) (strict : Bool)
    (calls : List Call) (member : a ∈ reserved) :
    let store := (ofPool (Pool.ofReserved range reserved) term strict).after calls
    (a ∉ released calls → ∀ now client requested, (store.allocate now client requested).2 ≠ .ok a) ∧
    (range.contains a = true → ∀ now client expires, now.representable = true →
      now.after? term.seconds = some expires → (store.release a).1.lookup now client = .ok none →
      ((store.release a).1.allocate now client (some a)).2 = .ok a) := by
  intro store
  obtain ⟨more, kept, balanced⟩ :=
    (balanced_ofPool range reserved term strict).after calls
  refine ⟨fun never now client requested told => ?_, fun inside now client expires read later missing => ?_⟩
  · obtain ⟨inside, apart⟩ := balanced.allocate_told told
    refine apart (kept (Finset.mem_sdiff.mpr ⟨?_, never⟩))
    exact Finset.mem_inter.mpr ⟨List.mem_toFinset.mpr member, inside⟩
  · have sameTerm : store.term = term :=
      (after_keeps_terms (ofPool (Pool.ofReserved range reserved) term strict) calls).1
    exact balanced.allocate_released inside read (sameTerm ▸ later) missing

/-- A range of two addresses, the first of them reserved. -/
theorem reserved_until_released_of_two_addresses :
    let range : Range := ⟨.ofNat 0x0a000001, .ofNat 0x0a000002, by decide⟩
    let store := ofPool (Pool.ofReserved range [.ofNat 0x0a000001]) ⟨3600, by decide⟩ false
    V4.ofNat 0x0a000001 ∈ [V4.ofNat 0x0a000001] ∧
      (∀ now client requested, ((store.after [.allocate 0 "a" (some (.ofNat 0x0a000001))]).allocate
        now client requested).2 ≠ .ok (.ofNat 0x0a000001)) ∧
      ((store.release (.ofNat 0x0a000001)).1.allocate 0 "a" (some (.ofNat 0x0a000001))).2 =
        .ok (.ofNat 0x0a000001) := by
  intro range store
  have member : V4.ofNat 0x0a000001 ∈ [V4.ofNat 0x0a000001] := List.mem_singleton_self _
  have asked := reserved_until_released range [.ofNat 0x0a000001] ⟨3600, by decide⟩ false
    [.allocate 0 "a" (some (.ofNat 0x0a000001))] member
  have untouched := reserved_until_released range [.ofNat 0x0a000001] ⟨3600, by decide⟩ false []
    member
  exact ⟨member, asked.1 (by decide),
    untouched.2 (by decide) 0 "a" 3600 (by decide) (by decide) (by decide)⟩

/-- The reserved address of a range is given back, and then it is leased. -/
theorem reserved_leased_after_release :
    let range : Range := ⟨.ofNat 0x0a000001, .ofNat 0x0a000002, by decide⟩
    let store := ofPool (Pool.ofReserved range [.ofNat 0x0a000001]) ⟨3600, by decide⟩ false
    ((store.after [.release (.ofNat 0x0a000001)]).allocate 0 "a" none).2 =
      .ok (.ofNat 0x0a000001) := by
  intro range store
  decide +kernel

end LeaseStore

end Netboot
