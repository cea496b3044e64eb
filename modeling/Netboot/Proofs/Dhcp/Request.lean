import Netboot.Proofs.Dhcp.Clients
import Netboot.Proofs.Lease.Commitment
import Netboot.Proofs.Lease.Reserved

/-! Which requests are acknowledged, and with which address.

A request is acknowledged the address that its client is entitled to, and is refused where there is
none. On the way to a refusal another address may have been leased; nothing of that is left.
-/

set_option autoImplicit false

namespace Netboot

namespace LeaseStore

variable {store : LeaseStore} {range : Range} {others : Finset V4} {now ends : Instant}
  {client : String} {asked : Option V4} {a : V4}

/-- The address that a client can have, by the leases that are live: its own if it asks for no
other, else the one it asks for, else the lowest that is free. -/
inductive Entitles (store : LeaseStore) (now : Instant) (client : String) (asked : Option V4) :
    V4 → Prop
  | own {lease : Lease} : (store.reap now).lease? client = some lease →
      asked = none ∨ asked = some lease.address → Entitles store now client asked lease.address
  | lowest {a : V4} : (store.reap now).lease? client = none → asked = none →
      a ∈ (store.reap now).free → (∀ b ∈ (store.reap now).free, a ≤ b) →
      Entitles store now client asked a
  | named {a : V4} : (store.reap now).lease? client = none → asked = some a →
      a ∈ (store.reap now).free → Entitles store now client asked a

theorem lookup_of_representable (read : now.representable = true) (client : String) :
    store.lookup now client = .ok ((store.lease? client).filter (!·.expired now)) := by
  unfold lookup
  cases store.lease? client with
  | none => rfl
  | some lease => exact if_pos read

theorem allocate_of_new (read : now.representable = true)
    (new : (store.live now).lease? client = none)
    (term : now.after? store.term.seconds = some ends) (requested : Option V4) :
    store.allocate now client requested =
      match (store.live now).pool.allocate requested with
      | .error cause => (store.live now, .error (.exhausted cause))
      | .ok (a, pool) =>
        ((((store.live now).mark pool).record client ⟨a, ends⟩).publish, .ok a) := by
  rw [allocate, if_pos read, allocateAt_eq, new]
  simp only [grant, term_live, term]
  cases (store.live now).pool.allocate requested <;> rfl

namespace Balanced

/-- A lease that is given back at once leaves nothing behind. -/
theorem sameReaped_giveBack (balanced : store.Balanced range others) {pool : Pool}
    (takes : (store.live now).pool.Takes a pool) :
    ((((store.live now).mark pool).record client ⟨a, ends⟩).publish.release a).1.SameReaped
      store now := by
  have live := balanced.live now
  let next := ((((store.live now).mark pool).record client ⟨a, ends⟩).publish.release a).1
  have leases : next.leases = (store.live now).leases := by
    change ((store.live now).leases ++ [(client, (⟨a, ends⟩ : Lease))]).filter _ = _
    -- The address was free, so the new lease is the only one on it.
    have others : (store.live now).leases.filter (!·.2.address == a) = (store.live now).leases := by
      refine List.filter_eq_self.mpr fun entry member => ?_
      have apart : entry.2.address ≠ a := by
        rintro rfl
        exact takes.free (live.mem_taken_of_held (mem_held.mpr ⟨entry, member, rfl⟩))
      simpa using apart
    rw [List.filter_append, others]
    simp
  have pools : next.pool = (pool.free a).1 := rfl
  refine ⟨?_, ?_⟩
  · rw [reap_of_leases_live leases]
    exact leases
  · rw [reap_of_leases_live leases, free, pools, Pool.range_free, Pool.taken_free, takes.taken,
      takes.range, Finset.erase_insert takes.free]
    rfl

theorem free_of_exhausted (balanced : store.Balanced range others) {cause : Pool.Exhausted}
    (full : (store.live now).pool.allocate asked = .error cause) : (store.reap now).free = ∅ := by
  change (store.live now).free = ∅
  rw [free, (balanced.live now).sound.allocate_error full, Finset.sdiff_self]

/-- What the pool gives a client without a live lease is the address that it is entitled to, unless
it asks for another. -/
theorem entitles_iff_of_new (balanced : store.Balanced range others)
    (new : (store.live now).lease? client = none) {pool : Pool}
    (taken : (store.live now).pool.allocate asked = .ok (a, pool)) (b : V4) :
    store.Entitles now client asked b ↔ b = a ∧ (asked = none ∨ asked = some a) := by
  have free := mem_free_of_takes ((balanced.live now).sound.allocate_ok taken)
  constructor
  · rintro (⟨found, -⟩ | ⟨-, rfl, member, least⟩ | ⟨-, rfl, member⟩)
    · cases found.symm.trans new
    · obtain ⟨inside, unmarked⟩ := mem_free.mp member
      have low : a ≤ b :=
        Pool.allocateLowest_least taken (Range.mem_addresses.mpr inside) unmarked
      have high : b ≤ a := least a free
      exact ⟨V4.ext (Nat.le_antisymm high low), .inl rfl⟩
    · obtain ⟨inside, unmarked⟩ := mem_free.mp member
      have given : (store.live now).pool.allocate (some b) = .ok (b, _) :=
        Pool.allocate_of_free inside unmarked
      cases taken.symm.trans given
      exact ⟨rfl, .inr rfl⟩
  · rintro ⟨rfl, rfl | rfl⟩
    · refine .lowest new rfl free fun c member => ?_
      obtain ⟨inside, unmarked⟩ := mem_free.mp member
      exact Pool.allocateLowest_least taken (Range.mem_addresses.mpr inside) unmarked
    · exact .named new rfl free

end Balanced

theorem entitles_iff_of_found {lease : Lease} (found : (store.live now).lease? client = some lease)
    (b : V4) : store.Entitles now client asked b ↔
      b = lease.address ∧ (asked = none ∨ asked = some lease.address) := by
  constructor
  · rintro (⟨again, agreed⟩ | ⟨new, -⟩ | ⟨new, -⟩)
    · cases found.symm.trans again
      exact ⟨rfl, agreed⟩
    · cases found.symm.trans new
    · cases found.symm.trans new
  · rintro ⟨rfl, agreed⟩
    exact .own found agreed

end LeaseStore

namespace Dhcp

/-- Whoever reads the answer reads a refusal: of no address, and with no options but the kind of
message and the server. -/
def Answer.Refuses (answer : Answer) (server : V4) : Prop :=
  ∃ header, header.yiaddr = V4.zero ∧ Message.ofBytes? answer.payload = some ⟨header, [
    (.named "message-type", [.number MessageType.nak.code]),
    (.named "server_id", [.address server])]⟩

theorem Answer.Refuses.tells {answer : Answer} {server : V4} (refuses : answer.Refuses server) :
    answer.Tells .nak V4.zero := by
  obtain ⟨header, zero, read⟩ := refuses
  exact ⟨_, read, Options.kind?_cons .nak _, zero⟩

theorem refuse_refuses (host : Host) (message : Message) :
    ∃ sent, refuse host message = .ok (some sent) ∧ sent.Refuses host.ip := by
  obtain ⟨sent, refused, -, -, read⟩ :=
    @answer_sent host message.header .nak none "" [] (by decide) (by simp) (by decide)
  exact ⟨sent, refused, _, rfl, read⟩

section Request

variable (host : Host) (network : Prefix) {store : LeaseStore} {range : Range}
  {others : Finset V4} {now ends : Instant} {message : Message}

/-- A request with this outcome is acknowledged the address that its client is entitled to, which
is leased to it until `ends`, or it is refused and has changed nothing. -/
def Decided (host : Host) (network : Prefix) (store : LeaseStore) (now ends : Instant)
    (message : Message) (outcome : LeaseStore × Except Fault (Option Answer)) : Prop :=
  (∃ a, (∀ b, store.Entitles now message.clientMac (wanted message) b ↔ b = a) ∧
    outcome.2 = grant host network outcome.1 message .ack a ∧
    outcome.1.term = store.term ∧ outcome.1.lease? message.clientMac = some ⟨a, ends⟩) ∨
  (∀ b, ¬ store.Entitles now message.clientMac (wanted message) b) ∧
    outcome.2 = refuse host message ∧ outcome.1.SameReaped store now

theorem any_ne_iff {asked : Option V4} {a : V4} :
    asked.any (· != a) = true ↔ ¬ (asked = none ∨ asked = some a) := by
  cases asked <;> simp

theorem leaseWanted_decided_of_new (balanced : store.Balanced range others)
    (read : now.representable = true) (term : now.after? store.term.seconds = some ends)
    (new : (store.live now).lease? message.clientMac = none) :
    Decided host network store now ends message
      (leaseWanted host network (.at now) store message) := by
  have clock : (Readings.at now).allocate = now := rfl
  rw [leaseWanted, clock, LeaseStore.allocate_of_new read new term]
  cases taken : (store.live now).pool.allocate (wanted message) with
  | error cause =>
    refine .inr ⟨fun b entitled => ?_, rfl, LeaseStore.sameReaped_of_live rfl rfl⟩
    have none := balanced.free_of_exhausted taken
    cases entitled with
    | own found => cases found.symm.trans new
    | lowest _ _ member | named _ _ member =>
      rw [none] at member
      exact absurd member (Finset.notMem_empty b)
  | ok result =>
    obtain ⟨a, pool⟩ := result
    have entitled := balanced.entitles_iff_of_new new taken
    have takes := (balanced.live now).sound.allocate_ok taken
    dsimp only
    split
    next other =>
      -- The address taken is not the one asked for, and is given back before the refusal.
      refine .inr ⟨fun b claim => ?_, rfl, balanced.sameReaped_giveBack takes⟩
      exact any_ne_iff.mp other ((entitled b).mp claim).2
    next agreed =>
      have agreed := not_not.mp (mt any_ne_iff.mpr agreed)
      refine .inl ⟨a, fun b => (entitled b).trans (and_iff_left agreed), rfl, rfl, ?_⟩
      rw [LeaseStore.lease?_publish, LeaseStore.lease?_record, LeaseStore.lease?_mark, new,
        Option.none_or, if_pos rfl]

theorem request_decided (balanced : store.Balanced range others) (lenient : store.strict = false)
    (read : now.representable = true) (term : now.after? store.term.seconds = some ends)
    (own : acceptsOther host message = false) :
    Decided host network store now ends message
      (request host network (.at now) store message) := by
  have looked := @LeaseStore.lookup_of_representable store now read message.clientMac
  have clock : (Readings.at now).lookup = now := rfl
  rw [request, own, if_neg Bool.false_ne_true, clock, looked]
  cases found : (store.lease? message.clientMac).filter (!·.expired now) with
  | none =>
    rw [found] at looked
    exact leaseWanted_decided_of_new host network balanced read term
      (balanced.lease?_live_of_lookup looked)
  | some lease =>
    rw [found] at looked
    obtain ⟨recorded, alive⟩ := LeaseStore.lookup_some looked
    have live := LeaseStore.lease?_live recorded alive
    have entitled := @LeaseStore.entitles_iff_of_found store now message.clientMac (wanted message)
      lease live
    dsimp only
    split
    next other =>
      refine .inr ⟨fun b claim => ?_, rfl, .refl store now⟩
      exact any_ne_iff.mp other ((entitled b).mp claim).2
    next same =>
      have agreed := not_not.mp (mt any_ne_iff.mpr same)
      have renewed := LeaseStore.allocate_of_alive (wanted message) read lenient recorded alive term
      have allocating : (Readings.at now).allocate = now := rfl
      rw [leaseWanted, allocating, renewed]
      dsimp only
      rw [if_neg same]
      refine .inl ⟨lease.address, fun b => (entitled b).trans (and_iff_left agreed), rfl, rfl, ?_⟩
      rw [LeaseStore.lease?_renew, live, Option.map_some, if_pos rfl]

end Request

/-- In every run a request for this server is acknowledged an address exactly if its client is
entitled to that: to its own, or without a live lease to the free one that it asks for, or to the
lowest free one where it asks for none. The client has then a lease on the address for the whole
lease time. Every other request is refused, and leaves the live leases of all clients and the free
addresses as they were. -/
theorem request_acknowledged_iff (network : Prefix) (host : Host) (range : Range)
    (reserved : List V4)
    (mode : host.mode = .authoritative network (Pool.ofReserved range reserved))
    (tellable : 0 ≤ host.leaseTime ∧ host.leaseTime < 2 ^ 32) :
    ∃ server, Server.ofHost? host = some server ∧
      ∀ (earlier : List Arrival) (now : Instant) (data : Bytes) (message : Message),
        now.representable = true → (now + host.leaseTime).representable = true →
        Message.parse? data = some message → message.options.kind? = some .request →
        message.IsFor host.ip →
        let client := message.clientMac
        let asked : Option V4 := message.options.firstAddress? "requested_addr" <|>
          if message.header.ciaddr = V4.zero then none else some message.header.ciaddr
        ∃ store next sent, server.after earlier = .authoritative host network store ∧
          (server.after earlier).handle (.at now) data =
            (.authoritative host network next, .ok (some sent)) ∧
          (∀ a, sent.Tells .ack a ↔ store.Entitles now client asked a) ∧
          (∀ a, sent.Tells .ack a → next.lease? client = some ⟨a, now + host.leaseTime⟩) ∧
          ((∀ a, ¬ sent.Tells .ack a) → sent.Refuses host.ip ∧ next.SameReaped store now) := by
  obtain ⟨fresh, built, serving⟩ := ofHost?_serving mode tellable
  refine ⟨_, built, fun earlier now data message read dates parsed kind own => ?_⟩
  intro client asked
  obtain ⟨store, reached, servingThen⟩ := serving.after_any host network tellable earlier
  obtain ⟨others, -, balanced⟩ := servingThen.balanced
  have term : now.after? store.term.seconds = some (now + host.leaseTime) := by
    rw [servingThen.term]
    exact if_pos dates
  have decided := request_decided host network balanced servingThen.lenient read term
    own.acceptsOther_eq
  -- The server is only known by an equation, which can be used once it is a variable.
  have handled : (server : Server) → server = .authoritative host network store →
      server.handle (.at now) data =
        (.authoritative host network (request host network (.at now) store message).1,
          (request host network (.at now) store message).2) := by
    rintro _ rfl
    rw [Server.handle, parsed]
    simp only [Server.handleMessage, leaseAnswer, kind]
  rw [handled _ reached]
  refine ⟨store, (request host network (.at now) store message).1, ?_⟩
  obtain ⟨a, entitled, granted, sameTerm, leased⟩ | ⟨never, refused, kept⟩ := decided
  · obtain ⟨bytes, options⟩ := Message.options_of_parse? parsed
    have fits : 0 ≤ (request host network (.at now) store message).1.term.seconds ∧
        (request host network (.at now) store message).1.term.seconds < 2 ^ 32 := by
      rw [sameTerm, servingThen.term]
      exact tellable
    obtain ⟨sent, answered, tells⟩ := grant_tells host network fits options .ack a
    -- An acknowledgement tells one address, so being told it and being entitled to it are the same.
    have only (b : V4) : sent.Tells .ack b ↔ b = a :=
      ⟨fun told => (Answer.tells_unique told tells).2, fun same => same ▸ tells⟩
    refine ⟨sent, reached, by rw [granted, answered], fun b => (only b).trans (entitled b).symm,
      fun b told => (only b).mp told ▸ leased, fun none => absurd tells (none a)⟩
  · obtain ⟨sent, answered, refuses⟩ := refuse_refuses host message
    have silent (b : V4) : ¬ sent.Tells .ack b := fun told =>
      MessageType.noConfusion (Answer.tells_unique told refuses.tells).1
    exact ⟨sent, reached, by rw [refused, answered],
      fun b => iff_of_false (silent b) (never b), fun b told => absurd told (silent b),
      fun _ => ⟨refuses, kept⟩⟩

/-- A request for an address outside the range is refused. The last free address, leased on the
way, is there for the next client. -/
theorem request_acknowledged_iff_of_last_free :
    let strange : Bytes := requestFrom 1 [53, 1, 3, 50, 4, 10, 0, 0, 9]
    let plain : Bytes := requestFrom 2 [53, 1, 3]
    ∃ server, Server.ofHost? smallHost = some server ∧
      (∃ store next sent, server = .authoritative smallHost smallNetwork store ∧
        server.handle (.at 10) strange =
          (.authoritative smallHost smallNetwork next, .ok (some sent)) ∧
        sent.Refuses (.ofNat 0x0a000001) ∧ next.SameReaped store 10) ∧
      ∃ next sent, (server.after [⟨.at 10, strange⟩]).handle (.at 20) plain =
          (.authoritative smallHost smallNetwork next, .ok (some sent)) ∧
        sent.Tells .ack (.ofNat 0x0a000002) ∧
        next.lease? "02:00:00:00:00:02" =
          some ⟨.ofNat 0x0a000002, (20 : Instant) + smallHost.leaseTime⟩ := by
  intro strange plain
  obtain ⟨server, built, decided⟩ := request_acknowledged_iff smallNetwork smallHost smallRange
    [.ofNat 0x0a000001] rfl (by decide)
  have present (data : Bytes) (own : data = strange ∨ data = plain) :
      (Message.parse? data).any fun message => message.options.kind? = some .request ∧
        message.IsFor smallHost.ip := by
    obtain rfl | rfl := own <;> decide +kernel
  have refused : server.Tells ⟨.at 10, strange⟩ "02:00:00:00:00:01" .nak V4.zero := by
    cases built
    decide +kernel
  have acknowledged : (server.after [⟨.at 10, strange⟩]).Tells ⟨.at 20, plain⟩
      "02:00:00:00:00:02" .ack (.ofNat 0x0a000002) := by
    cases built
    decide +kernel
  refine ⟨server, built, ?_, ?_⟩
  · obtain ⟨message, parsed, asks⟩ := (Option.any_eq_true _ _).mp (present strange (.inl rfl))
    obtain ⟨kind, own⟩ := of_decide_eq_true asks
    obtain ⟨store, next, sent, reached, handled, -, -, otherwise⟩ :=
      decided [] 10 strange message (by decide) (by decide) parsed kind own
    obtain ⟨-, answer, answered, tells⟩ := refused
    cases answered.symm.trans (congrArg Prod.snd handled)
    have silent (a : V4) : ¬ sent.Tells .ack a := fun told =>
      MessageType.noConfusion (Answer.tells_unique told tells).1
    obtain ⟨refuses, kept⟩ := otherwise silent
    exact ⟨store, next, sent, reached, handled, refuses, kept⟩
  · obtain ⟨message, parsed, asks⟩ := (Option.any_eq_true _ _).mp (present plain (.inr rfl))
    obtain ⟨kind, own⟩ := of_decide_eq_true asks
    obtain ⟨store, next, sent, -, handled, -, leased, -⟩ :=
      decided [⟨.at 10, strange⟩] 20 plain message (by decide) (by decide) parsed kind own
    obtain ⟨sender, answer, answered, tells⟩ := acknowledged
    cases answered.symm.trans (congrArg Prod.snd handled)
    rw [Arrival.client?, parsed] at sender
    have client : message.clientMac = "02:00:00:00:00:02" := Option.some.inj sender
    exact ⟨next, sent, handled, tells, client ▸ leased _ tells⟩

end Dhcp

end Netboot
