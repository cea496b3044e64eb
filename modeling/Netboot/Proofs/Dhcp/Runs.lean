import Netboot.Proofs.Dhcp.Server

/-! Runs of an authoritative service: any datagrams in any order, as the clock goes on.

Two clients are never told to use one address at a time, and no client can take from another what it
was offered.
-/

set_option autoImplicit false

namespace Netboot.Dhcp

namespace Server

def after (server : Server) (arrivals : List Arrival) : Server :=
  arrivals.foldl (fun server arrival => (server.handle arrival.clock arrival.data).1) server

def Tells (server : Server) (arrival : Arrival) (client : String) (kind : MessageType) (a : V4) :
    Prop :=
  arrival.client? = some client ∧
    ∃ sent, (server.handle arrival.clock arrival.data).2 = .ok (some sent) ∧ sent.Tells kind a

instance (server : Server) (arrival : Arrival) (client : String) (kind : MessageType) (a : V4) :
    Decidable (server.Tells arrival client kind a) :=
  have : Decidable (∃ sent, (server.handle arrival.clock arrival.data).2 = .ok (some sent) ∧
      sent.Tells kind a) :=
    match (server.handle arrival.clock arrival.data).2 with
    | .ok (some sent) => decidable_of_iff (sent.Tells kind a)
        ⟨fun tells => ⟨sent, rfl, tells⟩, fun ⟨_, same, tells⟩ => by
          cases same
          exact tells⟩
    | .ok none => isFalse nofun
    | .error _ => isFalse nofun
  inferInstanceAs (Decidable (_ ∧ _))

def Assigns (server : Server) (arrival : Arrival) (client : String) (a : V4) : Prop :=
  server.Tells arrival client .offer a ∨ server.Tells arrival client .ack a

instance (server : Server) (arrival : Arrival) (client : String) (a : V4) :
    Decidable (server.Assigns arrival client a) :=
  inferInstanceAs (Decidable (_ ∨ _))

theorem Assigns.sent {server : Server} {arrival : Arrival} {client : String} {a : V4}
    (assigns : server.Assigns arrival client a) : arrival.client? = some client ∧
      ∃ sent, (server.handle arrival.clock arrival.data).2 = .ok (some sent) ∧ sent.Assigns a := by
  obtain ⟨sender, sent, answered, tells⟩ | ⟨sender, sent, answered, tells⟩ := assigns
  · exact ⟨sender, sent, answered, .inl tells⟩
  · exact ⟨sender, sent, answered, .inr tells⟩

theorem after_append (server : Server) (arrivals later : List Arrival) :
    server.after (arrivals ++ later) = (server.after arrivals).after later := List.foldl_append

def lease? (server : Server) (client : String) : Option Lease :=
  server.store?.bind (·.lease? client)

end Server

/-- The clock never goes back, neither within a datagram's handling nor from one to the next. -/
def Chronological (arrivals : List Arrival) : Prop :=
  (∀ arrival ∈ arrivals, arrival.clock.lookup ≤ arrival.clock.allocate) ∧
    arrivals.Pairwise fun earlier later => earlier.clock.allocate ≤ later.clock.lookup

instance (arrivals : List Arrival) : Decidable (Chronological arrivals) :=
  inferInstanceAs (Decidable (_ ∧ _))

def Arrival.Releases (arrival : Arrival) (client : String) : Prop :=
  arrival.client? = some client ∧ arrival.kind? = some .release

/-! ## What every run keeps -/

/-- The leases of an authoritative service: balanced books in which the reserved addresses stay
taken, and the lease time of its host. -/
structure Serving (store : LeaseStore) (range : Range) (reserved : Finset V4) (term : Int) : Prop where
  balanced : ∃ others, reserved ⊆ others ∧ store.Balanced range others
  term : store.term.seconds = term
  lenient : store.strict = false

section Runs

variable (host : Host) (network : Prefix) {store : LeaseStore} {range : Range}
  {reserved : Finset V4} {term : Int}

theorem Arrival.Handling.serving {arrival : Arrival} {next : LeaseStore} {told : Option V4}
    (handling : arrival.Handling store next told) (serving : Serving store range reserved term) :
    Serving next range reserved term := by
  obtain ⟨others, inside, balanced⟩ := serving.balanced
  obtain ⟨more, grown, after⟩ := handling.balanced balanced
  obtain ⟨sameTerm, sameStrict⟩ := handling.keeps_terms
  exact ⟨⟨more, inside.trans grown, after⟩, sameTerm ▸ serving.term, sameStrict.trans serving.lenient⟩

theorem Serving.handle (serving : Serving store range reserved term)
    (tellable : 0 ≤ term ∧ term < 2 ^ 32) (arrival : Arrival) :
    let outcome := (Server.authoritative host network store).handle arrival.clock arrival.data
    ∃ next told, outcome.1 = .authoritative host network next ∧
      arrival.Handling store next told ∧ Faithful outcome.2 told ∧
      Serving next range reserved term := by
  have fits : 0 ≤ store.term.seconds ∧ store.term.seconds < 2 ^ 32 := by
    rw [serving.term]
    exact tellable
  obtain ⟨next, same, told, handling, faithful⟩ := handle_dealt host network fits arrival
  exact ⟨next, told, same, handling, faithful, handling.serving serving⟩

/-- Every run leaves the service with its host and network, its leases in order, and whatever else
each of its datagrams keeps. -/
theorem Serving.after (serving : Serving store range reserved term)
    (tellable : 0 ≤ term ∧ term < 2 ^ 32) {arrivals : List Arrival} (Kept : LeaseStore → Prop)
    (start : Kept store)
    (step : ∀ arrival ∈ arrivals, ∀ store next told, Serving store range reserved term →
      arrival.Handling store next told → Kept store → Kept next) :
    ∃ next, (Server.authoritative host network store).after arrivals =
      .authoritative host network next ∧ Serving next range reserved term ∧ Kept next := by
  induction arrivals generalizing store with
  | nil => exact ⟨store, rfl, serving, start⟩
  | cons arrival rest ih =>
    obtain ⟨next, told, same, handling, -, servingNext⟩ := serving.handle host network tellable arrival
    have kept := step arrival List.mem_cons_self store next told serving handling start
    obtain ⟨last, reached, done⟩ := ih servingNext kept
      fun arrival member => step arrival (.tail _ member)
    refine ⟨last, ?_, done⟩
    rw [← reached, ← same]
    rfl

theorem Serving.after_any (serving : Serving store range reserved term)
    (tellable : 0 ≤ term ∧ term < 2 ^ 32) (arrivals : List Arrival) :
    ∃ next, (Server.authoritative host network store).after arrivals =
      .authoritative host network next ∧ Serving next range reserved term := by
  obtain ⟨next, reached, kept, -⟩ :=
    serving.after host network tellable (fun _ => True) trivial fun _ _ _ _ _ _ _ _ => trivial
  exact ⟨next, reached, kept⟩

theorem Serving.assigned (serving : Serving store range reserved term)
    (tellable : 0 ≤ term ∧ term < 2 ^ 32) {arrival : Arrival} {sent : Answer} {a : V4}
    (answered : ((Server.authoritative host network store).handle arrival.clock arrival.data).2 =
      .ok (some sent))
    (assigns : sent.Assigns a) :
    ∃ next, ((Server.authoritative host network store).handle arrival.clock arrival.data).1 =
        .authoritative host network next ∧
      arrival.Handling store next (some a) ∧ Serving next range reserved term := by
  obtain ⟨next, told, same, handling, faithful, kept⟩ := serving.handle host network tellable arrival
  cases faithful.told_eq answered assigns
  exact ⟨next, same, handling, kept⟩

/-! ## Holding an address -/

/-- The client has a lease on the address that lasts at least until `ends`. -/
def Holds (store : LeaseStore) (client : String) (a : V4) (ends : Instant) : Prop :=
  ∃ lease, store.lease? client = some lease ∧ lease.address = a ∧ ends ≤ lease.expires

theorem Serving.holds (serving : Serving store range reserved term) {arrival : Arrival}
    {next : LeaseStore} {a : V4} (handling : arrival.Handling store next (some a))
    {client : String} (sender : arrival.client? = some client) :
    Holds next client a (arrival.clock.allocate + term) := by
  obtain ⟨expires, later, recorded⟩ := handling.lease?_told sender
  rw [serving.term] at later
  refine ⟨_, recorded, rfl, ?_⟩
  rw [Instant.eq_of_after? later]
  exact Int.le_refl _

/-- The datagram is handled before `ends`, and its lease would not end earlier. -/
structure Arrival.Before (arrival : Arrival) (ends : Instant) (term : Int) : Prop where
  lookup : arrival.clock.lookup < ends
  allocate : arrival.clock.allocate < ends
  renewal : ends ≤ arrival.clock.allocate + term

/-- Until its lease ends, a client holds its address through every datagram but its own release. -/
theorem Serving.holds_handling (serving : Serving store range reserved term) {arrival : Arrival}
    {next : LeaseStore} {told : Option V4} (handling : arrival.Handling store next told)
    {client : String} {a : V4} {ends : Instant} (holds : Holds store client a ends)
    (before : arrival.Before ends term) (holding : ¬ arrival.Releases client) :
    Holds next client a ends := by
  obtain ⟨lease, found, rfl, lasts⟩ := holds
  have known : lease.expired arrival.clock.lookup = false :=
    Lease.alive_iff.mpr (Int.lt_of_lt_of_le before.lookup lasts)
  have alive : lease.expired arrival.clock.allocate = false :=
    Lease.alive_iff.mpr (Int.lt_of_lt_of_le before.allocate lasts)
  -- The client's own messages renew the lease; those of others miss it.
  by_cases sender : arrival.client? = some client
  · have kept : arrival.kind? ≠ some .release := fun kind => holding ⟨sender, kind⟩
    obtain ⟨expires, recorded, same | renewed⟩ :=
      handling.lease?_self sender kept found known alive
    · exact ⟨_, recorded, rfl, same ▸ lasts⟩
    · rw [serving.term] at renewed
      refine ⟨_, recorded, rfl, ?_⟩
      rw [Instant.eq_of_after? renewed]
      exact before.renewal
  · obtain ⟨others, -, balanced⟩ := serving.balanced
    exact ⟨lease, handling.lease?_of_ne balanced sender found alive, rfl, lasts⟩

theorem Serving.holds_after (serving : Serving store range reserved term)
    (tellable : 0 ≤ term ∧ term < 2 ^ 32) {client : String} {a : V4} {ends : Instant}
    {arrivals : List Arrival} (holds : Holds store client a ends)
    (before : ∀ arrival ∈ arrivals, arrival.Before ends term)
    (holding : ∀ arrival ∈ arrivals, ¬ arrival.Releases client) :
    ∃ next, (Server.authoritative host network store).after arrivals =
      .authoritative host network next ∧ Serving next range reserved term ∧
      Holds next client a ends :=
  serving.after host network tellable (Holds · client a ends) holds
    fun arrival member _ _ _ serving handling holds =>
      serving.holds_handling handling holds (before arrival member) (holding arrival member)

theorem Chronological.around {earlier between : List Arrival} {first second : Arrival}
    (chronological : Chronological (earlier ++ first :: (between ++ [second]))) :
    first.clock.allocate ≤ second.clock.lookup ∧ second.clock.lookup ≤ second.clock.allocate ∧
    ∀ arrival ∈ between, first.clock.allocate ≤ arrival.clock.lookup ∧
      arrival.clock.lookup ≤ arrival.clock.allocate ∧
      arrival.clock.allocate ≤ second.clock.lookup := by
  obtain ⟨within, across⟩ := chronological
  have ordered := (List.pairwise_append.mp across).2.1
  obtain ⟨fromFirst, ordered⟩ := List.pairwise_cons.mp ordered
  have toSecond := (List.pairwise_append.mp ordered).2.2
  refine ⟨fromFirst second (by simp), within second (by simp), fun arrival member => ?_⟩
  exact ⟨fromFirst arrival (by simp [member]), within arrival (by simp [member]),
    toSecond arrival member second (by simp)⟩

end Runs

end Netboot.Dhcp
