import Mathlib
import Netboot.Proofs.Bootstrap
import Netboot.Proofs.Dhcp.Calls
import Netboot.Proofs.Dhcp.Clients
import Netboot.Proofs.Lease.Commitment
import Netboot.Proofs.Settings

/-! What a datagram leaves behind that is not answered.

It is what a single allocation leaves, if the datagram gets to one. That allocation commits to
nothing as long as the lease time fits its option and the lease ends on a date.
-/

set_option autoImplicit false

namespace Netboot.Dhcp

variable (host : Host) (network : Prefix) {store : LeaseStore} {clock : Readings}
  {message : Message}

/-! ## Datagrams without an answer -/

/-- The request accepts no other server's offer, and its client's lease can be looked up. -/
def Admits (host : Host) (clock : Readings) (store : LeaseStore) (message : Message) : Prop :=
  acceptsOther host message = false ∧
    ∃ found, store.lookup clock.lookup message.clientMac = .ok found

/-- The message gets as far as an allocation. -/
def Allocates (host : Host) (clock : Readings) (store : LeaseStore) (message : Message) : Prop :=
  message.options.kind? = some .discover ∨ Admits host clock store message

theorem discover_store : (discover host network clock store message).1 =
    (store.allocate clock.allocate message.clientMac
      (message.options.firstAddress? "requested_addr")).1 := by
  unfold discover
  simp only
  split
  all_goals
    next ran => rw [ran]

/-- Refusals are answers, so without one no allocated address is given back. -/
theorem leaseWanted_silent
    (silent : ∀ sent, (leaseWanted host network clock store message).2 ≠ .ok (some sent)) :
    (leaseWanted host network clock store message).1 =
      (store.allocate clock.allocate message.clientMac (wanted message)).1 := by
  obtain ⟨nak, refused, -⟩ := refuse_tells host message
  unfold leaseWanted at silent ⊢
  split at silent
  next next address ran =>
    rw [ran]
    split at silent
    · exact absurd refused (silent nak)
    next same => simp only [same, if_false, Bool.false_eq_true]
  · exact absurd refused (silent nak)
  next ran => rw [ran]

theorem request_silent
    (silent : ∀ sent, (request host network clock store message).2 ≠ .ok (some sent)) :
    (Admits host clock store message ∧ (request host network clock store message).1 =
      (store.allocate clock.allocate message.clientMac (wanted message)).1) ∨
    ¬ Admits host clock store message ∧ (request host network clock store message).1 = store := by
  obtain ⟨nak, refused, -⟩ := refuse_tells host message
  -- A client that accepts another server, or that cannot be looked up, leaves no trace.
  cases other : acceptsOther host message with
  | true =>
    refine .inr ⟨fun admits => Bool.noConfusion (other.symm.trans admits.1), ?_⟩
    rw [request, if_pos other]
  | false =>
    cases looked : store.lookup clock.lookup message.clientMac with
    | error fault =>
      refine .inr ⟨?_, ?_⟩
      · rintro ⟨-, found, again⟩
        cases looked.symm.trans again
      simp only [request, other, looked, Bool.false_eq_true, if_false]
    | ok found =>
      refine .inl ⟨⟨other, found, looked⟩, ?_⟩
      cases found with
      | none =>
        simp only [request, other, looked, Bool.false_eq_true, if_false] at silent ⊢
        exact leaseWanted_silent host network silent
      | some lease =>
        simp only [request, other, looked, Bool.false_eq_true, if_false] at silent ⊢
        split at silent
        · exact absurd refused (silent nak)
        next agreed =>
          rw [if_neg agreed]
          exact leaseWanted_silent host network silent

theorem leaseAnswer_silent
    (kind : message.options.kind? = some .discover ∨ message.options.kind? = some .request)
    (silent : ∀ sent, (leaseAnswer host network clock store message).2 ≠ .ok (some sent)) :
    (Allocates host clock store message ∧ ∃ requested,
      (leaseAnswer host network clock store message).1 =
        (store.allocate clock.allocate message.clientMac requested).1) ∨
    ¬ Allocates host clock store message ∧
      (leaseAnswer host network clock store message).1 = store := by
  obtain kind | kind := kind
  · refine .inl ⟨.inl kind, message.options.firstAddress? "requested_addr", ?_⟩
    rw [leaseAnswer, kind]
    exact discover_store host network
  · rw [leaseAnswer, kind] at silent ⊢
    obtain ⟨allocates, same⟩ | ⟨neither, same⟩ := request_silent host network silent
    · exact .inl ⟨.inr allocates, _, same⟩
    · refine .inr ⟨?_, same⟩
      rintro (discovers | allocates)
      · cases kind.symm.trans discovers
      · exact neither allocates

/-- An allocation that succeeds is answered, as long as the lease time fits its option. -/
theorem leaseAnswer_answers (tellable : 0 ≤ store.term.seconds ∧ store.term.seconds < 2 ^ 32)
    {bytes : Bytes} (read : message.options = .ofBytes bytes)
    (kind : message.options.kind? = some .discover ∨ message.options.kind? = some .request)
    (allocates : Allocates host clock store message)
    (granted : ∀ requested, ∃ next a,
      store.allocate clock.allocate message.clientMac requested = (next, .ok a)) :
    ∃ sent, (leaseAnswer host network clock store message).2 = .ok (some sent) := by
  have grants : ∀ next requested a kind,
      store.allocate clock.allocate message.clientMac requested = (next, .ok a) →
      ∃ sent, grant host network next message kind a = .ok (some sent) := by
    intro next requested a kind ran
    -- The lease time is told from the store after the allocation, which keeps it.
    rw [← (LeaseStore.allocate_eq ran).keeps_terms.1] at tellable
    obtain ⟨sent, told, -⟩ := grant_tells host network tellable read kind a
    exact ⟨sent, told⟩
  obtain ⟨nak, refused, -⟩ := refuse_tells host message
  have wants : ∃ sent, (leaseWanted host network clock store message).2 = .ok (some sent) := by
    obtain ⟨next, a, ran⟩ := granted (wanted message)
    simp only [leaseWanted, ran]
    split
    · exact ⟨nak, refused⟩
    · exact grants next _ a .ack ran
  obtain kind | kind := kind
  · obtain ⟨next, a, ran⟩ := granted (message.options.firstAddress? "requested_addr")
    simp only [leaseAnswer, kind, discover, ran]
    exact grants next _ a .offer ran
  · obtain discovers | ⟨own, found, looked⟩ := allocates
    · cases kind.symm.trans discovers
    simp only [leaseAnswer, kind, request, own, looked, Bool.false_eq_true, if_false]
    cases found with
    | none => exact wants
    | some lease =>
      simp only
      split
      · exact ⟨nak, refused⟩
      · exact wants

/-! ## Hosts of the bootstrap -/

theorem ofHost?_reachable {host : Host} {server : Server}
    (planned : Bootstrap.Planned host.mode host.ip) (authority : host.mode.isProxy = false)
    (built : Server.ofHost? host = some server) :
    ∃ network store, server = .authoritative host network store ∧ store.Reachable ∧
      store.strict = false ∧ store.term.seconds = host.leaseTime := by
  unfold Server.ofHost? at built
  split at built
  next network proxy =>
    rw [proxy] at authority
    cases authority
  next network pool mode =>
    obtain ⟨range, -, rfl⟩ := planned network pool mode
    obtain ⟨term, span, rfl⟩ := Option.map_eq_some_iff.mp built
    refine ⟨network, _, rfl, .fresh range [host.ip] term false, rfl, ?_⟩
    unfold Span.ofSeconds? at span
    split at span
    · cases span
      rfl
    · cases span

/-- A discovery or a request that is not answered changes no live lease and no free address, as long
as the lease time fits its option and the lease would end on a date. Beyond that it does exactly if
the message gets to an allocation that renews a lease, gives a lasting one, or takes an address for
nobody. -/
theorem unanswered_commits_iff {settings : Settings} {links : List Interface.Link}
    {outcomes : List Interface.Outcome} {negotiation : Bootstrap.Negotiation}
    {trace last : Bootstrap.Trace} {host : Host} {server : Server}
    (selected : (Bootstrap.select settings links).follow outcomes negotiation trace =
      (last, .ok host))
    (authority : host.mode.isProxy = false) (built : Server.ofHost? host = some server)
    (earlier : List Arrival) (arrival : Arrival) {message : Message}
    (parsed : Message.parse? arrival.data = some message)
    (kind : message.options.kind? = some .discover ∨ message.options.kind? = some .request)
    (unanswered : ∀ sent,
      ((server.after earlier).handle arrival.clock arrival.data).2 ≠ .ok (some sent)) :
    let now := arrival.clock.allocate
    ∃ network store next, server.after earlier = .authoritative host network store ∧
      ((server.after earlier).handle arrival.clock arrival.data).1 =
        .authoritative host network next ∧
      (0 ≤ host.leaseTime → host.leaseTime < 2 ^ 32 →
        (now + host.leaseTime).representable = true → next.SameReaped store now) ∧
      (next.SameReaped store now ↔ ¬ (Allocates host arrival.clock store message ∧
        store.Commits now message.clientMac)) := by
  intro now
  obtain ⟨network, fresh, rfl, reachable, lenient, term⟩ :=
    ofHost?_reachable ((Bootstrap.select_ends settings links).follow selected).1 authority built
  obtain ⟨calls, reached⟩ := Server.after_calls host network fresh earlier
  obtain ⟨sameTerm, sameStrict⟩ := fresh.after_keeps_terms calls
  obtain ⟨range, others, balanced⟩ := (reachable.after calls).balanced
  generalize fresh.after calls = store at reached sameTerm sameStrict balanced
  rw [← sameTerm] at term
  rw [← sameStrict] at lenient
  obtain ⟨bytes, read⟩ := Message.options_of_parse? parsed
  rw [reached, Server.handle, parsed] at unanswered
  have exact_iff : (leaseAnswer host network arrival.clock store message).1.SameReaped store now ↔
      ¬ (Allocates host arrival.clock store message ∧ store.Commits now message.clientMac) := by
    obtain ⟨allocates, requested, left⟩ | ⟨never, left⟩ :=
      leaseAnswer_silent host network kind unanswered
    · rw [left, LeaseStore.sameReaped_allocate_iff balanced lenient]
      exact not_congr (and_iff_right allocates).symm
    · rw [left]
      exact iff_of_true (.refl store now) fun both => never both.1
  refine ⟨network, store, _, reached, by rw [reached, Server.handle, parsed]; rfl, ?_, exact_iff⟩
  intro low high dates
  refine exact_iff.mpr ?_
  rintro ⟨allocates, commits⟩
  rw [← term] at low high dates
  -- The allocation would succeed, and its address could be told.
  have granted := LeaseStore.allocate_ok_of_commits balanced lenient commits (if_pos dates)
  obtain ⟨sent, answered⟩ :=
    leaseAnswer_answers host network ⟨low, high⟩ read kind allocates granted
  exact unanswered sent answered

/-! ## A host with one address to lease -/

def smallSettings (leaseTime : Int) : Settings where
  serverRoot := "."
  interface := "eth0"
  staticCidr := "10.0.0.1/30"
  tftpRoot := some "./tftp"
  leaseTime := leaseTime

def smallLink : Interface.Link := ⟨"eth0", [], ["02:00:00:00:00:fe"]⟩

def settledHost (leaseTime : Int) : Host where
  ip := .ofNat 0x0a000001
  gateway := .ofNat 0x0a000001
  forwarders := [Bootstrap.defaultForwarder]
  mode := .authoritative smallNetwork (Pool.ofReserved smallRange [.ofNat 0x0a000001])
  interface := "eth0"
  serverRoot := "."
  tftpRoot := "./tftp"
  controlplane := "controlplane.talos."
  leaseTime := leaseTime

open Bootstrap in
theorem select_small (leaseTime : Int) :
    ∃ last, (select (smallSettings leaseTime) [smallLink]).follow [] (.settled none) {} =
      (last, .ok (settledHost leaseTime)) := by
  have usable : Interface.usable [smallLink] = .ok ["eth0"] := by decide
  have cidr : Cidr.parse "10.0.0.1/30" = .ok ⟨.ofNat 0x0a000001, 30, by decide⟩ := by decide
  have mode : Mode.ofNetwork smallNetwork (.ofNat 0x0a000001) =
      .ok (.authoritative smallNetwork (Pool.ofReserved smallRange [.ofNat 0x0a000001])) := by
    have planned : Range.plan smallNetwork (.ofNat 0x0a000001) = .ok smallRange := by decide
    rw [Mode.ofNetwork, planned]
    rfl
  have succeeds (command : Interface.Command) : command.result .success = .ok () := by
    simp [Interface.Command.result, Interface.Outcome.success]
  have network : (Cidr.mk (.ofNat 0x0a000001) 30 (by decide)).network = smallNetwork := by
    decide
  have settled : host (smallSettings leaseTime) ⟨.ofNat 0x0a000001, .ofNat 0x0a000001, [],
      .authoritative smallNetwork (Pool.ofReserved smallRange [.ofNat 0x0a000001])⟩ =
      .ok (settledHost leaseTime) := rfl
  have followed : ((select (smallSettings leaseTime) [smallLink]).follow [] (.settled none) {}).2 =
      .ok (settledHost leaseTime) := by
    rw [smallSettings] at settled
    simp [select, usable, authoritative, smallSettings, cidr, network, mode, succeeds, settled,
      Plan.ofExcept, Plan.command, Plan.lease, Plan.bind, Plan.follow, Except.mapError, bind, pure]
  exact ⟨_, Prod.ext rfl followed⟩

/-- A request that accepts another server's offer is not answered, and changes nothing. -/
theorem unanswered_commits_iff_of_other_offer :
    let host := settledHost 3600
    let arrival : Arrival := ⟨.at 63839664000, requestFrom 1 [53, 1, 3, 54, 4, 10, 0, 0, 9]⟩
    ∃ server message, Server.ofHost? host = some server ∧
      Message.parse? arrival.data = some message ∧ message.options.kind? = some .request ∧
      (∀ sent, (server.handle arrival.clock arrival.data).2 ≠ .ok (some sent)) ∧
      ∃ network store next, server = .authoritative host network store ∧
        (server.handle arrival.clock arrival.data).1 = .authoritative host network next ∧
        next.SameReaped store arrival.clock.allocate := by
  intro host arrival
  obtain ⟨last, selected⟩ := select_small 3600
  obtain ⟨server, built, ignored⟩ : ∃ server, Server.ofHost? host = some server ∧
      (server.handle arrival.clock arrival.data).2 = .ok none := by
    refine ⟨_, rfl, ?_⟩
    decide +kernel
  have present : (Message.parse? arrival.data).any (·.options.kind? = some .request) = true := by
    decide +kernel
  obtain ⟨message, parsed, kind⟩ := (Option.any_eq_true _ _).mp present
  have kind : message.options.kind? = some .request := of_decide_eq_true kind
  have unanswered : ∀ sent, (server.handle arrival.clock arrival.data).2 ≠ .ok (some sent) := by
    intro sent answered
    cases ignored.symm.trans answered
  refine ⟨server, message, built, parsed, kind, unanswered, ?_⟩
  obtain ⟨network, store, next, before, after, keeps, -⟩ :=
    unanswered_commits_iff selected rfl built [] arrival parsed (.inr kind) unanswered
  exact ⟨network, store, next, before, after, keeps (by decide) (by decide) (by decide)⟩

def longTerm : Settings.Variables :=
  [("STATIC_CIDR", "10.0.0.1/30"), ("DHCP_LEASE_TIME", "4294967296")]

theorem smallSettings_read : Settings.ofVariables longTerm = .ok (smallSettings 4294967296) := by
  have cidr : Cidr.parse (Settings.textOr longTerm "STATIC_CIDR" "192.168.123.1/24") =
      .ok ⟨.ofNat 0x0a000001, 30, by decide⟩ := by
    decide
  have term : Settings.integerOr longTerm "DHCP_LEASE_TIME" 3600 = .ok 4294967296 := by
    decide
  rw [Settings.ofVariables_of_unset cidr rfl rfl term (by decide), smallSettings,
    ← Settings.absoluteName_controlplane]
  rfl

/-- A lease time past its option: the discovery is not answered, as its reply cannot be written, and
the only address is leased to the client all the same. -/
theorem unanswered_discovery_leases_address :
    let host := settledHost 4294967296
    let arrival : Arrival := ⟨.at 63839664000, requestFrom 1 [53, 1, 1]⟩
    Settings.ofVariables [("STATIC_CIDR", "10.0.0.1/30"), ("DHCP_LEASE_TIME", "4294967296")] =
        .ok (smallSettings 4294967296) ∧
      (∃ last, (Bootstrap.select (smallSettings 4294967296) [smallLink]).follow []
        (.settled none) {} = (last, .ok host)) ∧
      ∃ server, Server.ofHost? host = some server ∧
        (server.handle arrival.clock arrival.data).2 = .error (.reply (.option .valueMismatch)) ∧
        server.store?.map (·.leases) = some [] ∧
        (server.handle arrival.clock arrival.data).1.store?.map (·.leases) =
          some [("02:00:00:00:00:01", ⟨.ofNat 0x0a000002, 68134631296⟩)] := by
  intro host arrival
  refine ⟨smallSettings_read, select_small _, _, rfl, ?_, ?_, ?_⟩
  · decide +kernel
  · decide
  · decide +kernel

end Netboot.Dhcp
