import Netboot.Proofs.Address.Pool
import Netboot.Proofs.Lease.Store

/-! The books of a lease store.

A lease is kept in the record of its client, as a bit of the pool, in the pool's counter and in the
published number of leases. `Balanced` says that they tell the same story, and what is taken though
nobody holds it. Every operation keeps it, and only a failing allocation adds to the latter.
-/

set_option autoImplicit false

namespace Netboot.LeaseStore

variable {store next : LeaseStore} {range : Range} {others : Finset V4} {now : Instant}
  {client : String} {requested : Option V4} {result : Except Fault V4}

/-- The addresses that clients hold leases on, live or not. -/
def held (store : LeaseStore) : Finset V4 := (store.leases.map (·.2.address)).toFinset

theorem mem_held {a : V4} : a ∈ store.held ↔ ∃ entry ∈ store.leases, entry.2.address = a := by
  rw [held, List.mem_toFinset, List.mem_map]

/-- No client and no address has two leases, and the taken addresses are those of the leases and,
apart from them, `others`. -/
structure Balanced (store : LeaseStore) (range : Range) (others : Finset V4) : Prop where
  range : store.pool.range = range
  sound : store.pool.Sound
  clients : (store.leases.map (·.1)).Nodup
  addresses : (store.leases.map (·.2.address)).Nodup
  taken : store.pool.taken = store.held ∪ others
  apart : Disjoint store.held others
  published : store.active = store.size

theorem balanced_ofPool (range : Range) (reserved : List V4) (term : Span) (strict : Bool) :
    (ofPool (Pool.ofReserved range reserved) term strict).Balanced range
      (reserved.toFinset ∩ range.addresses) where
  range := Pool.range_ofReserved range reserved
  sound := Pool.sound_ofReserved range reserved
  clients := List.nodup_nil
  addresses := List.nodup_nil
  taken := (Pool.taken_ofReserved range reserved).trans (Finset.empty_union _).symm
  apart := Finset.disjoint_empty_left _
  published := rfl

namespace Balanced

theorem entry_eq (balanced : store.Balanced range others) {first second : String × Lease}
    (inFirst : first ∈ store.leases) (inSecond : second ∈ store.leases)
    (same : first.2.address = second.2.address) : first = second :=
  List.inj_on_of_nodup_map balanced.addresses inFirst inSecond same

theorem client_eq (balanced : store.Balanced range others) {other : String} {first second : Lease}
    (holdsFirst : store.lease? client = some first) (holdsSecond : store.lease? other = some second)
    (same : first.address = second.address) : client = other :=
  congrArg Prod.fst (balanced.entry_eq (mem_of_lease? holdsFirst) (mem_of_lease? holdsSecond) same)

theorem mem_held_of_lease? {lease : Lease} (found : store.lease? client = some lease) :
    lease.address ∈ store.held := mem_held.mpr ⟨_, mem_of_lease? found, rfl⟩

theorem mem_taken_of_held (balanced : store.Balanced range others) {a : V4} (member : a ∈ store.held) :
    a ∈ store.pool.taken := by
  rw [balanced.taken]
  exact Finset.mem_union_left _ member

theorem held_subset (balanced : store.Balanced range others) : store.held ⊆ range.addresses := by
  intro a member
  rw [← balanced.range]
  exact store.pool.taken_subset (balanced.mem_taken_of_held member)

theorem card_held (balanced : store.Balanced range others) : store.held.card = store.size := by
  rw [held, List.toFinset_card_of_nodup balanced.addresses, List.length_map, size]

theorem available_add (balanced : store.Balanced range others) :
    store.pool.available + others.card + store.size = range.size := by
  have counted : store.pool.taken.card = store.size + others.card := by
    rw [balanced.taken, Finset.card_union_of_disjoint balanced.apart, balanced.card_held]
  have bounded : store.pool.taken.card ≤ store.pool.range.size := by
    rw [← Range.card_addresses]
    exact Finset.card_le_card store.pool.taken_subset
  rw [balanced.sound.available_eq]
  rw [balanced.range] at bounded ⊢
  omega

end Balanced

/-! ## Reaping -/

theorem foldl_free {pool : Pool} (sound : pool.Sound) (entries : List (String × Lease)) :
    let freed := entries.foldl (fun pool entry => (pool.free entry.2.address).1) pool
    freed.Sound ∧ freed.range = pool.range ∧
      ∀ a, a ∈ freed.taken ↔ a ∈ pool.taken ∧ ∀ entry ∈ entries, entry.2.address ≠ a := by
  induction entries generalizing pool with
  | nil => exact ⟨sound, rfl, fun a => by simp⟩
  | cons entry rest ih =>
    obtain ⟨freed, range, taken⟩ := ih (sound.free entry.2.address)
    refine ⟨freed, range.trans (Pool.range_free pool _), fun a => ?_⟩
    rw [List.foldl_cons, taken, Pool.taken_free, Finset.mem_erase, List.forall_mem_cons]
    tauto

/-- As no address has two leases, an address stays leased unless an expired lease was on it. -/
theorem Balanced.mem_held_live (balanced : store.Balanced range others) {a : V4} :
    a ∈ (store.live now).held ↔
      a ∈ store.held ∧ ∀ entry ∈ store.leases.filter (·.2.expired now), entry.2.address ≠ a := by
  rw [mem_held, mem_held, leases_live]
  constructor
  · rintro ⟨entry, inLive, rfl⟩
    obtain ⟨inStore, alive⟩ := List.mem_filter.mp inLive
    refine ⟨⟨entry, inStore, rfl⟩, fun reaped dead same => ?_⟩
    obtain ⟨alsoInStore, expired⟩ := List.mem_filter.mp dead
    cases balanced.entry_eq alsoInStore inStore same
    simp [expired] at alive
  · rintro ⟨⟨entry, inStore, rfl⟩, kept⟩
    refine ⟨entry, List.mem_filter.mpr ⟨inStore, ?_⟩, rfl⟩
    cases expired : entry.2.expired now with
    | false => rfl
    | true => exact absurd rfl (kept entry (List.mem_filter.mpr ⟨inStore, expired⟩))

theorem Balanced.live (balanced : store.Balanced range others) (now : Instant) :
    (store.live now).Balanced range others := by
  obtain ⟨sound, sameRange, taken⟩ :=
    foldl_free balanced.sound (store.leases.filter (·.2.expired now))
  have subset : (store.live now).leases.Sublist store.leases := List.filter_sublist
  have apart : Disjoint (store.live now).held others :=
    balanced.apart.mono_left fun a member => (balanced.mem_held_live.mp member).1
  refine ⟨sameRange.trans balanced.range, sound, balanced.clients.sublist (subset.map _),
    balanced.addresses.sublist (subset.map _), ?_, apart, rfl⟩
  ext a
  refine (taken a).trans ?_
  rw [balanced.taken, Finset.mem_union, Finset.mem_union, balanced.mem_held_live]
  -- Reaping frees leased addresses only, so it passes the others by.
  have passed : a ∈ others → ∀ entry ∈ store.leases.filter (·.2.expired now),
      entry.2.address ≠ a := by
    rintro member entry dead rfl
    have inHeld := mem_held.mpr ⟨entry, (List.mem_filter.mp dead).1, rfl⟩
    exact Finset.disjoint_left.mp balanced.apart inHeld member
  tauto

/-! ## Allocation and release -/

theorem map_renew {α : Type} (store : LeaseStore) (client : String) (expires : Instant)
    (view : String × Lease → α)
    (timeless : ∀ owner lease, view (owner, { lease with expires := expires }) = view (owner, lease)) :
    (store.renew client expires).leases.map view = store.leases.map view := by
  rw [renew, List.map_map]
  refine List.map_congr_left fun entry _ => ?_
  dsimp only [Function.comp]
  split
  · exact timeless entry.1 entry.2
  · rfl

theorem Balanced.renew (balanced : store.Balanced range others) (client : String)
    (expires : Instant) : (store.renew client expires).Balanced range others := by
  have clients := map_renew store client expires (·.1) fun _ _ => rfl
  have addresses := map_renew store client expires (·.2.address) fun _ _ => rfl
  have held : (store.renew client expires).held = store.held := congrArg List.toFinset addresses
  refine ⟨balanced.range, balanced.sound, ?_, ?_, ?_, ?_, ?_⟩
  · rw [clients]
    exact balanced.clients
  · rw [addresses]
    exact balanced.addresses
  · rw [held]
    exact balanced.taken
  · rw [held]
    exact balanced.apart
  · exact balanced.published.trans (List.length_map _).symm

theorem held_record (store : LeaseStore) (client : String) (lease : Lease) :
    (store.record client lease).held = insert lease.address store.held := by
  ext a
  simp only [held, record, List.map_append, List.map_cons, List.map_nil, List.toFinset_append,
    List.toFinset_cons, List.toFinset_nil, Finset.mem_union, Finset.mem_insert,
    Finset.notMem_empty, or_false]
  exact or_comm

theorem Balanced.grant (balanced : store.Balanced range others) {a : V4} {pool : Pool}
    (takes : store.pool.Takes a pool) (new : store.lease? client = none) (expires : Instant) :
    (((store.mark pool).record client ⟨a, expires⟩).publish).Balanced range others := by
  have fresh : a ∉ store.held ∪ others := balanced.taken ▸ takes.free
  rw [Finset.mem_union, not_or] at fresh
  have unknown : client ∉ store.leases.map (·.1) := fun member => by
    obtain ⟨entry, inStore, same⟩ := List.mem_map.mp member
    have differs := List.lookup_eq_none_iff.mp new entry inStore
    simp [same] at differs
  have unused : a ∉ store.leases.map (·.2.address) := fun member =>
    fresh.1 (List.mem_toFinset.mpr member)
  have held : (((store.mark pool).record client ⟨a, expires⟩).publish).held =
      insert a store.held := held_record (store.mark pool) client ⟨a, expires⟩
  refine ⟨takes.range.trans balanced.range, takes.sound, ?_, ?_, ?_, ?_, rfl⟩
  · change ((store.leases ++ [(client, (⟨a, expires⟩ : Lease))]).map (·.1)).Nodup
    rw [List.map_append]
    exact balanced.clients.append (List.nodup_singleton _) (by simpa using unknown)
  · change ((store.leases ++ [(client, (⟨a, expires⟩ : Lease))]).map (·.2.address)).Nodup
    rw [List.map_append]
    exact balanced.addresses.append (List.nodup_singleton _) (by simpa using unused)
  · rw [held, Finset.insert_union, ← balanced.taken]
    exact takes.taken
  · rw [held, Finset.disjoint_insert_left]
    exact ⟨fresh.2, balanced.apart⟩

/-- An address just taken that nobody is given joins the others. -/
theorem Balanced.leak (balanced : store.Balanced range others) {a : V4} {pool : Pool}
    (takes : store.pool.Takes a pool) : (store.mark pool).Balanced range (insert a others) where
  range := takes.range.trans balanced.range
  sound := takes.sound
  clients := balanced.clients
  addresses := balanced.addresses
  taken := by
    rw [Finset.union_insert]
    exact takes.taken.trans (congrArg _ balanced.taken)
  apart := by
    have fresh : a ∉ store.held := fun member => takes.free (balanced.mem_taken_of_held member)
    exact Finset.disjoint_insert_right.mpr ⟨fresh, balanced.apart⟩
  published := balanced.published

/-- An allocation keeps the books. The other taken addresses stay, and they grow only when the
calendar fails it. -/
theorem Balanced.allocate (balanced : store.Balanced range others)
    (ends : Allocation store now client requested next result) :
    ∃ more, others ⊆ more ∧ (result ≠ .error .pastCalendar → more = others) ∧
      next.Balanced range more := by
  have live := balanced.live now
  cases ends with
  | unread => exact ⟨others, Finset.Subset.refl _, fun _ => rfl, balanced⟩
  | duplicate | unrenewable | exhausted => exact ⟨others, Finset.Subset.refl _, fun _ => rfl, live⟩
  | renewed => exact ⟨others, Finset.Subset.refl _, fun _ => rfl, live.renew client _⟩
  | leaked new taken =>
    exact ⟨_, Finset.subset_insert _ _, fun other => absurd rfl other,
      live.leak (live.sound.allocate_ok taken)⟩
  | granted new taken =>
    exact ⟨others, Finset.Subset.refl _, fun _ => rfl,
      live.grant (live.sound.allocate_ok taken) new _⟩

theorem held_release (store : LeaseStore) (a : V4) :
    (store.release a).1.held = store.held.erase a := by
  ext b
  rw [Finset.mem_erase, mem_held, mem_held]
  change (∃ entry ∈ store.leases.filter _, _) ↔ _
  constructor
  · rintro ⟨entry, member, rfl⟩
    obtain ⟨inStore, kept⟩ := List.mem_filter.mp member
    exact ⟨by simpa using kept, entry, inStore, rfl⟩
  · rintro ⟨apart, entry, inStore, rfl⟩
    exact ⟨entry, List.mem_filter.mpr ⟨inStore, by simpa using apart⟩, rfl⟩

theorem Balanced.release (balanced : store.Balanced range others) (a : V4) :
    (store.release a).1.Balanced range (others.erase a) := by
  have subset : (store.release a).1.leases.Sublist store.leases := List.filter_sublist
  refine ⟨(Pool.range_free _ a).trans balanced.range, balanced.sound.free a,
    balanced.clients.sublist (subset.map _), balanced.addresses.sublist (subset.map _), ?_, ?_, rfl⟩
  · rw [held_release, ← Finset.erase_union_distrib, ← balanced.taken]
    exact Pool.taken_free _ a
  · rw [held_release]
    exact balanced.apart.mono (Finset.erase_subset _ _) (Finset.erase_subset _ _)

theorem Balanced.release_held (balanced : store.Balanced range others) {a : V4}
    (member : a ∈ store.held) : (store.release a).1.Balanced range others := by
  have apart : a ∉ others := Finset.disjoint_left.mp balanced.apart member
  have released := balanced.release a
  rwa [Finset.erase_eq_of_notMem apart] at released

end Netboot.LeaseStore
