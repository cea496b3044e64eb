import Netboot.Proofs.Address.Range
import Netboot.Proofs.Dhcp.Runs

/-! What clients can rely on, whatever datagrams others send.

Two clients are never told to use one address at a time, and no client takes from another what that
was offered.
-/

set_option autoImplicit false

namespace Netboot.Dhcp

section Hosts

variable {host : Host} {network : Prefix} {store : LeaseStore} {range : Range} {reserved : List V4}

theorem ofHost?_serving
    (mode : host.mode = .authoritative network (Pool.ofReserved range reserved))
    (tellable : 0 ≤ host.leaseTime ∧ host.leaseTime < 2 ^ 32) :
    ∃ store, Server.ofHost? host = some (.authoritative host network store) ∧
      Serving store range (reserved.toFinset ∩ range.addresses) host.leaseTime := by
  have bounded : -86399999913600 ≤ host.leaseTime ∧ host.leaseTime ≤ 86399999999999 := by omega
  refine ⟨LeaseStore.ofPool (Pool.ofReserved range reserved) ⟨host.leaseTime, bounded⟩ false, ?_, ?_⟩
  · simp only [Server.ofHost?, mode, Span.ofSeconds?, dif_pos bounded, Option.map_some]
  · exact ⟨⟨_, Finset.Subset.refl _, LeaseStore.balanced_ofPool range reserved _ false⟩, rfl, rfl⟩

theorem Serving.answered {reserved : Finset V4} {term : Int}
    (serving : Serving store range reserved term) (tellable : 0 ≤ term ∧ term < 2 ^ 32)
    {arrival : Arrival} {sent : Answer}
    (answered : ((Server.authoritative host network store).handle arrival.clock arrival.data).2 =
      .ok (some sent)) :
    sent.Tells .nak V4.zero ∨ ∃ a, sent.Assigns a ∧ a ∈ range.addresses ∧ a ∉ reserved := by
  obtain ⟨next, told, -, handling, faithful, servingNext⟩ :=
    serving.handle host network tellable arrival
  obtain nak | ⟨a, assigns, rfl⟩ := faithful sent answered
  · exact .inl nak
  · refine .inr ⟨a, assigns, ?_⟩
    obtain ⟨others, inside, balanced⟩ := servingNext.balanced
    cases handling with
    | allocated sender ran =>
      obtain ⟨expires, -, recorded⟩ := LeaseStore.lease?_of_allocate_ok ran
      have held := LeaseStore.Balanced.mem_held_of_lease? recorded
      refine ⟨balanced.held_subset held, fun member => ?_⟩
      exact Finset.disjoint_left.mp balanced.apart held (inside member)

theorem Serving.assigned_of_holds {reserved : Finset V4} {term : Int}
    (serving : Serving store range reserved term) (tellable : 0 ≤ term ∧ term < 2 ^ 32)
    {arrival : Arrival} {client other : String} {a : V4} {ends : Instant}
    (holds : Holds store client a ends) (before : arrival.clock.allocate < ends)
    (assigns : (Server.authoritative host network store).Assigns arrival other a) :
    client = other := by
  obtain ⟨sender, sent, answered, assigned⟩ := assigns.sent
  obtain ⟨next, -, handling, servingNext⟩ :=
    serving.assigned host network tellable answered assigned
  by_contra apart
  obtain ⟨lease, found, rfl, lasts⟩ := holds
  obtain ⟨others, -, balanced⟩ := serving.balanced
  have alive := Lease.alive_iff.mpr (Int.lt_of_lt_of_le before lasts)
  have elsewhere : arrival.client? ≠ some client := by
    rw [sender]
    exact fun same => apart (Option.some.inj same).symm
  -- Both clients would have a lease on the address afterwards.
  have kept := handling.lease?_of_ne balanced elsewhere found alive
  obtain ⟨expires, -, recorded⟩ := handling.lease?_told sender
  obtain ⟨more, -, balancedNext⟩ := servingNext.balanced
  exact apart (balancedNext.client_eq kept recorded rfl)

/-- From being assigned an address on, a client that does not release it holds it for the lease
time. -/
theorem Serving.holds_between {reserved : Finset V4} {term : Int}
    (serving : Serving store range reserved term) (tellable : 0 ≤ term ∧ term < 2 ^ 32)
    {earlier between : List Arrival} {first second : Arrival} {client : String} {a : V4}
    (chronological : Chronological (earlier ++ first :: (between ++ [second])))
    (assigns : (Server.authoritative host network store).Assigns first client a)
    (early : second.clock.allocate < first.clock.allocate + term)
    (holding : ∀ arrival ∈ between, ¬ arrival.Releases client) :
    ∃ next, (Server.authoritative host network store).after (first :: between) =
        .authoritative host network next ∧ Serving next range reserved term ∧
      Holds next client a (first.clock.allocate + term) := by
  obtain ⟨fromFirst, within, around⟩ := chronological.around
  obtain ⟨sender, sent, answered, assigned⟩ := assigns.sent
  obtain ⟨next, handled, handling, servingNext⟩ :=
    serving.assigned host network tellable answered assigned
  -- All that is handled in between is handled within the lease time.
  have before : ∀ arrival ∈ between, arrival.Before (first.clock.allocate + term) term := by
    intro arrival member
    obtain ⟨started, went, ended⟩ := around arrival member
    simp only [Instant.le_iff, Instant.lt_iff, Instant.micros_add] at *
    refine ⟨?_, ?_, ?_⟩
    all_goals simp only [Instant.le_iff, Instant.lt_iff, Instant.micros_add]; omega
  obtain ⟨last, reached, done⟩ := servingNext.holds_after host network
    tellable (serving.holds handling sender) before holding
  refine ⟨last, ?_, done⟩
  rw [← reached, ← handled]
  rfl

end Hosts

/-! ## Addresses of their own -/

/-- In every run an answer is a refusal, or assigns an address in the planned range that is none of
the host's, the network's and the broadcast address. And once an address is assigned to a client it
is assigned to no other, unless the lease time has passed or the client has released it. -/
theorem assigned_to_one_client (network : Prefix) (host : Host) (range : Range)
    (reserved : List V4) (planned : Range.plan network host.ip = .ok range)
    (mode : host.mode = .authoritative network (Pool.ofReserved range reserved))
    (own : host.ip ∈ reserved) (tellable : 0 ≤ host.leaseTime ∧ host.leaseTime < 2 ^ 32) :
    ∃ server, Server.ofHost? host = some server ∧
      (∀ (earlier : List Arrival) (arrival : Arrival) (sent : Answer),
        ((server.after earlier).handle arrival.clock arrival.data).2 = .ok (some sent) →
        sent.Tells .nak V4.zero ∨ ∃ a, sent.Assigns a ∧ range.contains a = true ∧
          a ≠ host.ip ∧ a ≠ network.base ∧ a ≠ network.broadcast) ∧
      ∀ (earlier between : List Arrival) (first second : Arrival) (client other : String) (a : V4),
        Chronological (earlier ++ first :: (between ++ [second])) →
        (server.after earlier).Assigns first client a →
        (server.after (earlier ++ first :: between)).Assigns second other a → client ≠ other →
        first.clock.allocate + host.leaseTime ≤ second.clock.allocate ∨
          ∃ arrival ∈ between, arrival.Releases client := by
  obtain ⟨store, built, serving⟩ := ofHost?_serving mode tellable
  refine ⟨_, built, ?_, ?_⟩
  · intro earlier arrival sent answered
    obtain ⟨reached, same, servingThen⟩ := serving.after_any host network tellable earlier
    rw [same] at answered
    obtain nak | ⟨a, assigns, inside, unreserved⟩ := servingThen.answered tellable answered
    · exact .inl nak
    have contained := Range.mem_addresses.mp inside
    obtain ⟨low, high⟩ := Range.contains_iff.mp contained
    obtain ⟨aboveBase, belowBroadcast⟩ := Range.plan_inside planned
    refine .inr ⟨a, assigns, contained, ?_, ?_, ?_⟩
    · rintro rfl
      exact unreserved (Finset.mem_inter.mpr ⟨List.mem_toFinset.mpr own, inside⟩)
    · rintro rfl
      omega
    · rintro rfl
      omega
  · intro earlier between first second client other a chronological assigned again apart
    -- Were neither the case, the first client would still hold the address as the other is told it.
    by_contra neither
    obtain ⟨early, holding⟩ := not_or.mp neither
    have early : second.clock.allocate < first.clock.allocate + host.leaseTime := by
      rw [Instant.le_iff] at early
      rw [Instant.lt_iff]
      omega
    have holding : ∀ arrival ∈ between, ¬ arrival.Releases client :=
      fun arrival member releases => holding ⟨arrival, member, releases⟩
    obtain ⟨reached, same, servingThen⟩ := serving.after_any host network tellable earlier
    rw [same] at assigned
    obtain ⟨last, sameLast, servingLast, holds⟩ :=
      servingThen.holds_between tellable chronological assigned early holding
    rw [Server.after_append, same, sameLast] at again
    exact apart (servingLast.assigned_of_holds tellable holds early again)

def requestFrom (n : UInt8) (options : Bytes) : Bytes :=
  ({ Header.blank with chaddr := [2, 0, 0, 0, 0, n] } : Header).toBytes ++ magic ++ options ++
    [endCode]

def smallNetwork : Prefix := ⟨.ofNat 0x0a000000, 30, by decide, by decide⟩

def smallRange : Range := ⟨.ofNat 0x0a000002, .ofNat 0x0a000002, by decide⟩

def smallHost : Host where
  ip := .ofNat 0x0a000001
  gateway := .ofNat 0x0a000001
  forwarders := []
  mode := .authoritative smallNetwork (Pool.ofReserved smallRange [.ofNat 0x0a000001])
  interface := "eth0"
  serverRoot := ""
  tftpRoot := ""
  controlplane := ""

/-- A second client is offered the only address, as the first has released it. -/
theorem assigned_to_one_client_of_release :
    let first : Arrival := ⟨.at 0, requestFrom 1 [53, 1, 1]⟩
    let back : Arrival := ⟨.at 10, requestFrom 1 [53, 1, 7]⟩
    let second : Arrival := ⟨.at 20, requestFrom 2 [53, 1, 1]⟩
    ∃ server, Server.ofHost? smallHost = some server ∧
      server.Assigns first "02:00:00:00:00:01" (.ofNat 0x0a000002) ∧
      (server.after [first, back]).Assigns second "02:00:00:00:00:02" (.ofNat 0x0a000002) ∧
      ∃ arrival ∈ [back], arrival.Releases "02:00:00:00:00:01" := by
  intro first back second
  obtain ⟨server, built, -, exclusive⟩ := assigned_to_one_client smallNetwork smallHost smallRange
    [.ofNat 0x0a000001] (by decide) rfl (by decide) (by decide)
  have offered : server.Assigns first "02:00:00:00:00:01" (.ofNat 0x0a000002) := by
    cases built
    decide +kernel
  have offeredAgain :
      (server.after [first, back]).Assigns second "02:00:00:00:00:02" (.ofNat 0x0a000002) := by
    cases built
    decide +kernel
  have early : ¬ first.clock.allocate + smallHost.leaseTime ≤ second.clock.allocate := by decide
  refine ⟨server, built, offered, offeredAgain, ?_⟩
  exact (exclusive [] [back] first second _ _ _ (by decide) offered offeredAgain
    (by decide)).resolve_left early

/-! ## Clients apart -/

/-- The message asks for the address: by name, or as the one the client has. -/
def Message.AsksFor (message : Message) (a : V4) : Prop :=
  message.options.firstAddress? "requested_addr" = some a ∨
    message.options.firstAddress? "requested_addr" = none ∧ message.header.ciaddr = a

instance (message : Message) (a : V4) : Decidable (message.AsksFor a) :=
  inferInstanceAs (Decidable (_ ∨ _))

/-- The message goes to this server, or to whichever hears it. -/
def Message.IsFor (message : Message) (server : V4) : Prop :=
  message.options.firstAddress? "server_id" = none ∨
    message.options.firstAddress? "server_id" = some server

instance (message : Message) (server : V4) : Decidable (message.IsFor server) :=
  inferInstanceAs (Decidable (_ ∨ _))

/-- The clock readings are dates, and a lease from then on ends on one. -/
def Arrival.InCalendar (arrival : Arrival) (term : Int) : Prop :=
  arrival.clock.lookup.representable = true ∧ arrival.clock.allocate.representable = true ∧
    (arrival.clock.allocate + term).representable = true

instance (arrival : Arrival) (term : Int) : Decidable (arrival.InCalendar term) :=
  inferInstanceAs (Decidable (_ ∧ _))

theorem Message.AsksFor.wanted_eq {message : Message} {a b : V4} (asks : message.AsksFor a)
    (asked : wanted message = some b) : b = a := by
  unfold wanted at asked
  obtain named | ⟨unnamed, here⟩ := asks
  · rw [named] at asked
    exact (Option.some.inj asked).symm
  · rw [unnamed, here] at asked
    split at asked
    · cases asked
    · exact (Option.some.inj asked).symm

theorem Message.IsFor.acceptsOther_eq {host : Host} {message : Message}
    (own : message.IsFor host.ip) : acceptsOther host message = false := by
  unfold acceptsOther
  obtain unnamed | named := own
  · rw [unnamed]
    rfl
  · rw [named]
    simp

theorem Serving.told_of_holds {host : Host} {network : Prefix} {store : LeaseStore} {range : Range}
    {reserved : Finset V4} {term : Int} (serving : Serving store range reserved term)
    (tellable : 0 ≤ term ∧ term < 2 ^ 32) {last : Arrival} {message : Message} {a : V4}
    {ends : Instant} (parsed : Message.parse? last.data = some message)
    (holds : Holds store message.clientMac a ends) (looking : last.clock.lookup < ends)
    (early : last.clock.allocate < ends) (dates : last.InCalendar term) :
    (message.options.kind? = some .request → message.IsFor host.ip → message.AsksFor a →
      (Server.authoritative host network store).Tells last message.clientMac .ack a) ∧
    (message.options.kind? = some .discover →
      (Server.authoritative host network store).Tells last message.clientMac .offer a) := by
  obtain ⟨lease, found, rfl, lasts⟩ := holds
  obtain ⟨bytes, read⟩ := Message.options_of_parse? parsed
  obtain ⟨lookupDate, allocateDate, endDate⟩ := dates
  have known := Lease.alive_iff.mpr (Int.lt_of_lt_of_le looking lasts)
  have alive := Lease.alive_iff.mpr (Int.lt_of_lt_of_le early lasts)
  have fits : 0 ≤ store.term.seconds ∧ store.term.seconds < 2 ^ 32 := by
    rw [serving.term]
    exact tellable
  have later : last.clock.allocate.after? store.term.seconds = some (last.clock.allocate + term) := by
    rw [serving.term]
    exact if_pos endDate
  have sender : last.client? = some message.clientMac := by
    rw [Arrival.client?, parsed, Option.map_some]
  have handled : ((Server.authoritative host network store).handle last.clock last.data).2 =
      (leaseAnswer host network last.clock store message).2 := by
    rw [Server.handle, parsed]
    rfl
  refine ⟨fun kind own asks => ⟨sender, ?_⟩, fun kind => ⟨sender, ?_⟩⟩
  · rw [handled, leaseAnswer, kind]
    exact request_of_alive host network fits serving.lenient read found lookupDate known
      allocateDate alive later own.acceptsOther_eq fun b asked => asks.wanted_eq asked
  · rw [handled, leaseAnswer, kind]
    exact discover_of_alive host network fits serving.lenient read found allocateDate alive later

/-- In every run no datagram changes the live lease of a client other than its sender. So what a
client was offered is its own for the lease time: whatever others send, its request for the address
is acknowledged, and a new discovery is answered with the same offer. -/
theorem clients_do_not_interfere (network : Prefix) (host : Host) (range : Range)
    (reserved : List V4)
    (mode : host.mode = .authoritative network (Pool.ofReserved range reserved))
    (tellable : 0 ≤ host.leaseTime ∧ host.leaseTime < 2 ^ 32) :
    ∃ server, Server.ofHost? host = some server ∧
      (∀ (earlier : List Arrival) (arrival : Arrival) (client : String) (lease : Lease),
        arrival.client? ≠ some client → (server.after earlier).lease? client = some lease →
        lease.expired arrival.clock.allocate = false →
        (server.after (earlier ++ [arrival])).lease? client = some lease) ∧
      ∀ (earlier others : List Arrival) (offer last : Arrival) (message : Message) (a : V4),
        Chronological (earlier ++ offer :: (others ++ [last])) →
        Message.parse? last.data = some message →
        (server.after earlier).Tells offer message.clientMac .offer a →
        (∀ arrival ∈ others, arrival.client? ≠ some message.clientMac) →
        last.InCalendar host.leaseTime →
        last.clock.allocate < offer.clock.allocate + host.leaseTime →
        (message.options.kind? = some .request → message.IsFor host.ip → message.AsksFor a →
          (server.after (earlier ++ offer :: others)).Tells last message.clientMac .ack a) ∧
        (message.options.kind? = some .discover →
          (server.after (earlier ++ offer :: others)).Tells last message.clientMac .offer a) := by
  obtain ⟨store, built, serving⟩ := ofHost?_serving mode tellable
  refine ⟨_, built, ?_, ?_⟩
  · intro earlier arrival client lease elsewhere found alive
    obtain ⟨reached, same, servingThen⟩ := serving.after_any host network tellable earlier
    obtain ⟨next, told, handled, handling, -, -⟩ :=
      servingThen.handle host network tellable arrival
    obtain ⟨taken, -, balanced⟩ := servingThen.balanced
    rw [Server.after_append, same]
    rw [same] at found
    change ((Server.authoritative host network reached).handle arrival.clock arrival.data).1.lease?
      client = some lease
    rw [handled]
    exact handling.lease?_of_ne balanced elsewhere found alive
  · intro earlier others offer last message a chronological parsed offered apart dates early
    obtain ⟨reached, same, servingThen⟩ := serving.after_any host network tellable earlier
    rw [same] at offered
    -- A release by others is none of the client's.
    have holding : ∀ arrival ∈ others, ¬ arrival.Releases message.clientMac :=
      fun arrival member releases => apart arrival member releases.1
    obtain ⟨next, sameNext, servingNext, holds⟩ :=
      servingThen.holds_between tellable chronological (.inl offered) early holding
    have looking : last.clock.lookup < offer.clock.allocate + host.leaseTime :=
      Int.lt_of_le_of_lt chronological.around.2.1 early
    rw [Server.after_append, same, sameNext]
    exact servingNext.told_of_holds tellable parsed holds looking early dates

/-- Another client requests the address that was offered; the first client's request for it is still
acknowledged. -/
theorem clients_do_not_interfere_of_rival :
    let offer : Arrival := ⟨.at 0, requestFrom 1 [53, 1, 1]⟩
    let rival : Arrival := ⟨.at 10, requestFrom 2 [53, 1, 3, 50, 4, 10, 0, 0, 2]⟩
    let last : Arrival := ⟨.at 20, requestFrom 1 [53, 1, 3, 50, 4, 10, 0, 0, 2]⟩
    ∃ server, Server.ofHost? smallHost = some server ∧
      server.Tells offer "02:00:00:00:00:01" .offer (.ofNat 0x0a000002) ∧
      (server.after [offer, rival]).Tells last "02:00:00:00:00:01" .ack (.ofNat 0x0a000002) := by
  intro offer rival last
  obtain ⟨server, built, -, own⟩ := clients_do_not_interfere smallNetwork smallHost smallRange
    [.ofNat 0x0a000001] rfl (by decide)
  have present : (Message.parse? last.data).isSome = true := by decide +kernel
  obtain ⟨message, parsed⟩ := Option.isSome_iff_exists.mp present
  have sender : message.clientMac = "02:00:00:00:00:01" := by
    have read : last.client? = some "02:00:00:00:00:01" := by decide +kernel
    rw [Arrival.client?, parsed] at read
    exact Option.some.inj read
  have asks : message.options.kind? = some .request ∧ message.IsFor smallHost.ip ∧
      message.AsksFor (.ofNat 0x0a000002) := by
    have read : (Message.parse? last.data).all fun message => message.options.kind? = some .request ∧
        message.IsFor smallHost.ip ∧ message.AsksFor (.ofNat 0x0a000002) := by
      decide +kernel
    rwa [parsed, Option.all_some, decide_eq_true_eq] at read
  have offered : server.Tells offer "02:00:00:00:00:01" .offer (.ofNat 0x0a000002) := by
    cases built
    decide +kernel
  have apart : ∀ arrival ∈ [rival], arrival.client? ≠ some "02:00:00:00:00:01" := by decide +kernel
  rw [← sender] at offered apart ⊢
  exact ⟨server, built, offered, (own [] [rival] offer last message _ (by decide) parsed offered
    apart (by decide) (by decide)).1 asks.1 asks.2.1 asks.2.2⟩

end Netboot.Dhcp
