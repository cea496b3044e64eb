import Netboot.Proofs.Dhcp.Runs
import Netboot.Proofs.Lease.Calls

/-! Whatever the service does to its leases, it does by calls on their store. -/

set_option autoImplicit false

namespace Netboot.Dhcp

variable (host : Host) (network : Prefix) {store : LeaseStore} {clock : Readings}
  {message : Message}

theorem discover_calls : ∃ calls,
    (discover host network clock store message).1 = store.after calls := by
  unfold discover
  simp only
  split
  all_goals
    next ran => exact ⟨_, (LeaseStore.after_allocate ran).symm⟩

theorem leaseWanted_calls : ∃ calls,
    (leaseWanted host network clock store message).1 = store.after calls := by
  unfold leaseWanted
  split
  next next address ran =>
    have allocated := LeaseStore.after_allocate ran
    split
    · refine ⟨[.allocate clock.allocate message.clientMac (wanted message), .release address], ?_⟩
      rw [← allocated]
      rfl
    · exact ⟨_, allocated.symm⟩
  · next ran => exact ⟨_, (LeaseStore.after_allocate ran).symm⟩
  · next ran => exact ⟨_, (LeaseStore.after_allocate ran).symm⟩

theorem request_calls : ∃ calls,
    (request host network clock store message).1 = store.after calls := by
  unfold request
  split
  · exact ⟨[], rfl⟩
  split
  · split
    · exact ⟨[], rfl⟩
    · exact leaseWanted_calls host network
  · exact leaseWanted_calls host network
  · exact ⟨[], rfl⟩

theorem release_calls : ∃ calls, (release clock store message).1 = store.after calls := by
  unfold release
  split
  next lease looked => exact ⟨[.release lease.address], rfl⟩
  · exact ⟨[], rfl⟩
  · exact ⟨[], rfl⟩

theorem leaseAnswer_calls (clock : Readings) (store : LeaseStore) (message : Message) : ∃ calls,
    (leaseAnswer host network clock store message).1 = store.after calls := by
  unfold leaseAnswer
  split
  · exact discover_calls host network
  · exact request_calls host network
  · exact release_calls
  · exact ⟨[], rfl⟩

namespace Server

theorem handle_calls (store : LeaseStore) (arrival : Arrival) : ∃ calls,
    ((authoritative host network store).handle arrival.clock arrival.data).1 =
      .authoritative host network (store.after calls) := by
  unfold handle
  cases Message.parse? arrival.data with
  | none => exact ⟨[], rfl⟩
  | some message =>
    obtain ⟨calls, same⟩ := leaseAnswer_calls host network arrival.clock store message
    exact ⟨calls, congrArg (authoritative host network) same⟩

theorem after_calls (store : LeaseStore) (arrivals : List Arrival) : ∃ calls,
    (authoritative host network store).after arrivals =
      .authoritative host network (store.after calls) := by
  induction arrivals generalizing store with
  | nil => exact ⟨[], rfl⟩
  | cons arrival rest ih =>
    obtain ⟨first, handled⟩ := handle_calls host network store arrival
    obtain ⟨later, reached⟩ := ih (store.after first)
    refine ⟨first ++ later, ?_⟩
    rw [LeaseStore.after_append, ← reached, ← handled]
    rfl

end Server

end Netboot.Dhcp
