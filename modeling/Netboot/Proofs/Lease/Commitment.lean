import Netboot.Proofs.Lease.Calls

/-! What an allocation changes beyond the reaping of expired leases.

It renews a live lease, gives a new one, or takes an address for nobody; otherwise the next reaping
finds what it would have found without the allocation.
-/

set_option autoImplicit false

namespace Netboot.LeaseStore

variable {store next : LeaseStore} {range : Range} {others : Finset V4} {now : Instant}
  {client : String} {requested : Option V4} {result : Except Fault V4}

/-- The addresses that can still be leased. -/
def free (store : LeaseStore) : Finset V4 := store.pool.range.addresses \ store.pool.taken

theorem mem_free {a : V4} :
    a ∈ store.free ↔ store.pool.range.contains a = true ∧ a ∉ store.pool.taken := by
  rw [free, Finset.mem_sdiff, Range.mem_addresses]

/-- The live leases and the free addresses are the same, as both are after reaping. -/
def SameReaped (next store : LeaseStore) (now : Instant) : Prop :=
  (next.reap now).leases = (store.reap now).leases ∧ (next.reap now).free = (store.reap now).free

theorem SameReaped.refl (store : LeaseStore) (now : Instant) : store.SameReaped store now :=
  ⟨rfl, rfl⟩

/-! ## Reaping -/

theorem reap_of_live (live : ∀ entry ∈ store.leases, entry.2.expired now = false) :
    store.reap now = store := by
  have dead : store.leases.filter (·.2.expired now) = [] := by
    rw [List.filter_eq_nil_iff]
    intro entry member
    simp [live entry member]
  have kept : store.leases.filter (!·.2.expired now) = store.leases := by
    rw [List.filter_eq_self]
    intro entry member
    simp [live entry member]
  rw [reap, dead, kept]
  rfl

theorem expired_of_mem_live {entry : String × Lease} (member : entry ∈ (store.live now).leases) :
    entry.2.expired now = false := by
  simpa using (List.mem_filter.mp member).2

theorem reap_of_leases_live (same : next.leases = (store.live now).leases) :
    next.reap now = next := by
  apply reap_of_live
  intro entry member
  rw [same] at member
  exact expired_of_mem_live member

theorem sameReaped_of_live (leases : next.leases = (store.live now).leases)
    (pool : next.pool = (store.live now).pool) : next.SameReaped store now := by
  rw [SameReaped, reap_of_leases_live leases]
  exact ⟨leases, by rw [free, pool]; rfl⟩

/-! ## What an allocation can change -/

/-- The client's live lease is renewed for another time. -/
def Extends (store : LeaseStore) (now : Instant) (client : String) : Prop :=
  ∃ lease ends, (store.reap now).lease? client = some lease ∧
    now.after? store.term.seconds = some ends ∧ ends ≠ lease.expires

/-- The client without a live lease is given one that lasts. -/
def Creates (store : LeaseStore) (now : Instant) (client : String) : Prop :=
  (store.reap now).lease? client = none ∧ (store.reap now).free.Nonempty ∧
    (now.after? store.term.seconds).isSome ∧ 0 < store.term.seconds

/-- An allocation changes a live lease or a free address. -/
def Commits (store : LeaseStore) (now : Instant) (client : String) : Prop :=
  now.representable = true ∧
    (store.Extends now client ∨ store.Creates now client ∨ store.Leaks now client)

theorem renew_eq_self (clients : (store.leases.map (·.1)).Nodup) {lease : Lease}
    (found : store.lease? client = some lease) : store.renew client lease.expires = store := by
  have kept : store.leases.map (fun entry =>
      if entry.1 == client then (entry.1, { entry.2 with expires := lease.expires }) else entry) =
      store.leases := by
    conv_rhs => rw [← List.map_id store.leases]
    refine List.map_congr_left fun entry member => ?_
    split
    next owner =>
      -- No client has two leases, so the entry is the one that was found.
      have same : entry = (client, lease) :=
        List.inj_on_of_nodup_map clients member (mem_of_lease? found) (eq_of_beq owner)
      rw [same]
      rfl
    · rfl
  rw [renew, kept]

theorem commits_iff_of_found (read : now.representable = true) {lease : Lease}
    (found : (store.live now).lease? client = some lease) :
    store.Commits now client ↔
      ∃ ends, now.after? store.term.seconds = some ends ∧ ends ≠ lease.expires := by
  constructor
  · rintro ⟨-, ⟨_, ends, again, term, other⟩ | ⟨new, -⟩ | ⟨new, -⟩⟩
    · cases found.symm.trans again
      exact ⟨ends, term, other⟩
    · cases found.symm.trans new
    · cases found.symm.trans new
  · rintro ⟨ends, term, other⟩
    exact ⟨read, .inl ⟨lease, ends, found, term, other⟩⟩

theorem commits_iff_of_new (read : now.representable = true)
    (new : (store.live now).lease? client = none) :
    store.Commits now client ↔ (store.live now).free.Nonempty ∧
      (now.after? store.term.seconds = none ∨ 0 < store.term.seconds) := by
  constructor
  · rintro ⟨-, ⟨_, _, found, -⟩ | ⟨-, free, -, lasts⟩ | ⟨-, ⟨a, free⟩, past⟩⟩
    · cases found.symm.trans new
    · exact ⟨free, .inr lasts⟩
    · exact ⟨⟨a, mem_free.mpr free⟩, .inl past⟩
  · rintro ⟨free, ends⟩
    refine ⟨read, .inr ?_⟩
    cases term : now.after? store.term.seconds with
    | none =>
      obtain ⟨a, member⟩ := free
      exact .inr ⟨new, ⟨a, mem_free.mp member⟩, term⟩
    | some last =>
      have lasts := ends.resolve_left (by rw [term]; nofun)
      exact .inl ⟨new, free, by rw [term]; rfl, lasts⟩

/-! ## Renewed and new leases -/

theorem not_sameReaped_renew {lease : Lease} {ends : Instant}
    (found : (store.live now).lease? client = some lease) (other : ends ≠ lease.expires) :
    ¬ ((store.live now).renew client ends).SameReaped store now := by
  rintro ⟨leases, -⟩
  have member : (client, lease) ∈ (((store.live now).renew client ends).reap now).leases := by
    rw [leases]
    exact mem_of_lease? found
  obtain ⟨entry, -, renewed⟩ := List.mem_map.mp (List.mem_filter.mp member).1
  split at renewed
  · exact other (congrArg (·.2.expires) renewed)
  next elsewhere =>
    rw [renewed] at elsewhere
    exact elsewhere (beq_self_eq_true client)

theorem not_sameReaped_record {pool : Pool} {lease : Lease}
    (new : (store.live now).lease? client = none) (lasts : lease.expired now = false) :
    ¬ (((store.live now).mark pool).record client lease).publish.SameReaped store now := by
  rintro ⟨leases, -⟩
  have member : (client, lease) ∈
      ((((store.live now).mark pool).record client lease).publish.reap now).leases := by
    refine List.mem_filter.mpr ⟨List.mem_append_right _ List.mem_cons_self, ?_⟩
    simpa using lasts
  rw [leases] at member
  have absent := List.lookup_eq_none_iff.mp new _ member
  simp at absent

theorem mem_free_of_takes {pool : Pool} {a : V4} (takes : store.pool.Takes a pool) :
    a ∈ store.free := mem_free.mpr ⟨Range.mem_addresses.mp takes.inside, takes.free⟩

theorem not_sameReaped_mark {pool : Pool} {a : V4} (takes : (store.live now).pool.Takes a pool) :
    ¬ ((store.live now).mark pool).SameReaped store now := by
  rintro ⟨-, same⟩
  have settled : ((store.live now).mark pool).reap now = (store.live now).mark pool :=
    reap_of_leases_live rfl
  rw [settled] at same
  have unmarked : a ∈ ((store.live now).mark pool).free := by
    rw [same]
    exact mem_free_of_takes takes
  refine (mem_free.mp unmarked).2 ?_
  rw [mark, takes.taken]
  exact Finset.mem_insert_self _ _

/-- A new lease that has already expired gives its address back at the next reaping. -/
theorem sameReaped_record {pool : Pool} {a : V4} {lease : Lease}
    (takes : (store.live now).pool.Takes a pool) (on : lease.address = a)
    (dead : lease.expired now = true) :
    (((store.live now).mark pool).record client lease).publish.SameReaped store now := by
  let next := (((store.live now).mark pool).record client lease).publish
  -- The other leases are live, so the new one alone is reaped.
  have alive : ∀ entry ∈ (store.live now).leases, entry.2.expired now = false :=
    fun entry => expired_of_mem_live
  have reaped : (next.reap now).pool = (pool.free a).1 := by
    have last : next.leases.filter (·.2.expired now) = [(client, lease)] := by
      change ((store.live now).leases ++ [(client, lease)]).filter (·.2.expired now) = _
      have others : (store.live now).leases.filter (·.2.expired now) = [] :=
        List.filter_eq_nil_iff.mpr fun entry member => by simp [alive entry member]
      rw [List.filter_append, others]
      simp [dead]
    rw [reap, last, ← on]
    rfl
  constructor
  · change ((store.live now).leases ++ [(client, lease)]).filter (!·.2.expired now) = _
    have others : (store.live now).leases.filter (!·.2.expired now) = (store.live now).leases :=
      List.filter_eq_self.mpr fun entry member => by simp [alive entry member]
    rw [List.filter_append, others]
    simp [dead, live, publish]
  · rw [free, reaped, Pool.range_free, Pool.taken_free, takes.taken, takes.range,
      Finset.erase_insert takes.free]
    rfl

theorem sameReaped_allocate_iff (balanced : store.Balanced range others)
    (lenient : store.strict = false) (now : Instant) (client : String) (requested : Option V4) :
    (store.allocate now client requested).1.SameReaped store now ↔ ¬ store.Commits now client := by
  have live := balanced.live now
  by_cases read : now.representable = true
  case neg =>
    have unread : (store.allocate now client requested).1 = store := by rw [allocate, if_neg read]
    rw [unread]
    exact iff_of_true (.refl store now) fun commits => read commits.1
  obtain ⟨next, result, ran⟩ :
      ∃ next result, store.allocate now client requested = (next, result) := ⟨_, _, rfl⟩
  rw [ran]
  change next.SameReaped store now ↔ ¬ store.Commits now client
  -- One case for each way in which an allocation ends.
  cases allocate_eq ran with
  | unread unread => cases unread.symm.trans read
  | duplicate _ strict => cases strict.symm.trans lenient
  | unrenewable found _ past =>
    rw [commits_iff_of_found read found, past]
    exact iff_of_true (sameReaped_of_live rfl rfl) (by simp)
  | @renewed held ends found _ term =>
    rw [commits_iff_of_found read found, term]
    by_cases same : ends = held.expires
    · rw [same, renew_eq_self live.clients found]
      exact iff_of_true (sameReaped_of_live rfl rfl) (by simp)
    · exact iff_of_false (not_sameReaped_renew found same) (by simpa using same)
  | exhausted new full =>
    have none : (store.live now).free = ∅ := by
      rw [free, live.sound.allocate_error full, Finset.sdiff_self]
    rw [commits_iff_of_new read new, none]
    exact iff_of_true (sameReaped_of_live rfl rfl) (by simp)
  | @leaked a pool new taken past =>
    have takes := live.sound.allocate_ok taken
    rw [commits_iff_of_new read new, past]
    exact iff_of_false (not_sameReaped_mark takes)
      (not_not.mpr ⟨⟨a, mem_free_of_takes takes⟩, .inl rfl⟩)
  | @granted a pool ends new taken term =>
    have takes := live.sound.allocate_ok taken
    have lasts : (Lease.mk a ends).expired now = false ↔ 0 < store.term.seconds := by
      rw [Lease.alive_iff, Instant.eq_of_after? term, Instant.lt_iff, Instant.micros_add,
        Instant.microsPerSecond]
      omega
    rw [commits_iff_of_new read new, term]
    by_cases long : 0 < store.term.seconds
    · exact iff_of_false (not_sameReaped_record new (lasts.mpr long))
        (not_not.mpr ⟨⟨a, mem_free_of_takes takes⟩, .inr long⟩)
    · have dead : (Lease.mk a ends).expired now = true :=
        Bool.not_eq_false _ ▸ fun alive => long (lasts.mp alive)
      exact iff_of_true (sameReaped_record takes rfl dead) (by simp [long])

theorem allocate_ok_of_commits (balanced : store.Balanced range others)
    (lenient : store.strict = false) (commits : store.Commits now client) {ends : Instant}
    (term : now.after? store.term.seconds = some ends) (requested : Option V4) :
    ∃ next a, store.allocate now client requested = (next, .ok a) := by
  have live := balanced.live now
  obtain ⟨next, result, ran⟩ :
      ∃ next result, store.allocate now client requested = (next, result) := ⟨_, _, rfl⟩
  cases allocate_eq ran with
  | unread unread => cases unread.symm.trans commits.1
  | duplicate _ strict => cases strict.symm.trans lenient
  | unrenewable _ _ past | leaked _ _ past => cases past.symm.trans term
  | exhausted new full =>
    obtain ⟨⟨a, member⟩, -⟩ := (commits_iff_of_new commits.1 new).mp commits
    obtain ⟨inside, unmarked⟩ := mem_free.mp member
    rw [live.sound.allocate_error full] at unmarked
    exact absurd (Range.mem_addresses.mpr inside) unmarked
  | renewed | granted => exact ⟨_, _, ran⟩

end Netboot.LeaseStore
