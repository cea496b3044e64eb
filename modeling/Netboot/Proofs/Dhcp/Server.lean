import Netboot.Proofs.Dhcp.Handling
import Netboot.Proofs.Dhcp.Reply

/-! The address service deals with any datagram in one of the ways that `Handling` lists, and assigns
no address but the one that it tells. -/

set_option autoImplicit false

namespace Netboot.Dhcp

/-! ## Answers -/

/-- The answer offers or acknowledges the address. -/
def Answer.Assigns (answer : Answer) (a : V4) : Prop :=
  answer.Tells .offer a ∨ answer.Tells .ack a

/-- The outcome of a message, if it is answered: a refusal, or the assignment of the address told. -/
def Faithful (result : Except Fault (Option Answer)) (told : Option V4) : Prop :=
  ∀ sent, result = .ok (some sent) →
    sent.Tells .nak V4.zero ∨ ∃ a, sent.Assigns a ∧ told = some a

theorem Faithful.told_eq {result : Except Fault (Option Answer)} {told : Option V4}
    (faithful : Faithful result told) {sent : Answer} (answered : result = .ok (some sent)) {a : V4}
    (assigns : sent.Assigns a) : told = some a := by
  obtain nak | ⟨b, tells, rfl⟩ := faithful sent answered
  · obtain offer | ack := assigns
    · cases (Answer.tells_unique nak offer).1
    · cases (Answer.tells_unique nak ack).1
  · obtain first | first := tells <;> obtain second | second := assigns
    all_goals exact congrArg some (Answer.tells_unique first second).2

theorem faithful_silent (told : Option V4) : Faithful (.ok none) told := nofun

theorem faithful_error (fault : Fault) (told : Option V4) : Faithful (.error fault) told := nofun

theorem faithful_refuse (host : Host) (message : Message) (told : Option V4) :
    Faithful (refuse host message) told := by
  intro sent refused
  obtain ⟨nak, again, tells⟩ := refuse_tells host message
  cases again.symm.trans refused
  exact .inl tells

theorem faithful_grant (host : Host) (network : Prefix) {store : LeaseStore}
    (tellable : 0 ≤ store.term.seconds ∧ store.term.seconds < 2 ^ 32) {message : Message}
    {bytes : Bytes} (read : message.options = .ofBytes bytes) {kind : MessageType}
    (assigning : kind = .offer ∨ kind = .ack) (address : V4) :
    Faithful (grant host network store message kind address) (some address) := by
  intro sent granted
  obtain ⟨told, again, tells⟩ := grant_tells host network tellable read kind address
  cases again.symm.trans granted
  obtain rfl | rfl := assigning
  · exact .inr ⟨address, .inl tells, rfl⟩
  · exact .inr ⟨address, .inr tells, rfl⟩

/-! ## Messages -/

theorem Message.options_of_parse? {data : Bytes} {message : Message}
    (parsed : Message.parse? data = some message) :
    ∃ bytes, message.options = Options.ofBytes bytes :=
  ⟨_, (Message.parse?_some_iff.mp parsed).2.2⟩

def Arrival.Dealt (arrival : Arrival) (store : LeaseStore)
    (outcome : LeaseStore × Except Fault (Option Answer)) : Prop :=
  ∃ told, arrival.Handling store outcome.1 told ∧ Faithful outcome.2 told

section Messages

variable (host : Host) (network : Prefix) {store : LeaseStore} {arrival : Arrival}
  {message : Message} {bytes : Bytes}

theorem discover_dealt (tellable : 0 ≤ store.term.seconds ∧ store.term.seconds < 2 ^ 32)
    (sender : arrival.client? = some message.clientMac)
    (read : message.options = .ofBytes bytes) :
    arrival.Dealt store (discover host network arrival.clock store message) := by
  simp only [discover]
  split
  next next address ran =>
    have terms := (LeaseStore.allocate_eq ran).keeps_terms
    rw [← terms.1] at tellable
    exact ⟨some address, .allocated sender ran,
      faithful_grant host network tellable read (.inl rfl) address⟩
  next next cause ran => exact ⟨none, .failed sender ran, faithful_silent none⟩
  next next fault _ ran => exact ⟨none, .failed sender ran, faithful_error _ none⟩

theorem leaseWanted_dealt (tellable : 0 ≤ store.term.seconds ∧ store.term.seconds < 2 ^ 32)
    (sender : arrival.client? = some message.clientMac)
    (read : message.options = .ofBytes bytes) {found : Option Lease}
    (looked : store.lookup arrival.clock.lookup message.clientMac = .ok found)
    (agreed : ∀ lease, found = some lease → ∀ a, wanted message = some a → a = lease.address) :
    arrival.Dealt store (leaseWanted host network arrival.clock store message) := by
  unfold leaseWanted
  split
  next next address ran =>
    split
    next other =>
      -- A lease found before was on the wanted address, and this is not the wanted one.
      obtain ⟨a, asked, differs⟩ := (Option.any_eq_true _ _).mp other
      have apart : ∀ lease, found = some lease → address ≠ lease.address := by
        intro lease live same
        rw [same, ← agreed lease live a asked] at differs
        simp at differs
      exact ⟨none, .givenBack sender looked apart ran, faithful_refuse host message none⟩
    next =>
      have terms := (LeaseStore.allocate_eq ran).keeps_terms
      rw [← terms.1] at tellable
      exact ⟨some address, .allocated sender ran,
        faithful_grant host network tellable read (.inr rfl) address⟩
  next next cause ran => exact ⟨none, .failed sender ran, faithful_refuse host message none⟩
  next next fault _ ran => exact ⟨none, .failed sender ran, faithful_error _ none⟩

theorem request_dealt (tellable : 0 ≤ store.term.seconds ∧ store.term.seconds < 2 ^ 32)
    (sender : arrival.client? = some message.clientMac)
    (read : message.options = .ofBytes bytes) :
    arrival.Dealt store (request host network arrival.clock store message) := by
  unfold request
  split
  · exact ⟨none, .kept, faithful_silent none⟩
  split
  next lease looked =>
    split
    · exact ⟨none, .kept, faithful_refuse host message none⟩
    next agreed =>
      refine leaseWanted_dealt host network tellable sender read looked ?_
      intro live same a asked
      cases same
      simpa [asked] using agreed
  next looked => exact leaseWanted_dealt host network tellable sender read looked nofun
  next fault looked => exact ⟨none, .kept, faithful_error _ none⟩

theorem release_dealt (sender : arrival.client? = some message.clientMac)
    (kind : arrival.kind? = some .release) :
    arrival.Dealt store (release arrival.clock store message) := by
  unfold release
  split
  next lease looked => exact ⟨none, .released sender kind looked, faithful_silent none⟩
  next looked => exact ⟨none, .kept, faithful_silent none⟩
  next fault looked => exact ⟨none, .kept, faithful_error _ none⟩

end Messages

theorem handle_dealt (host : Host) (network : Prefix) {store : LeaseStore}
    (tellable : 0 ≤ store.term.seconds ∧ store.term.seconds < 2 ^ 32) (arrival : Arrival) :
    let outcome := (Server.authoritative host network store).handle arrival.clock arrival.data
    ∃ next, outcome.1 = .authoritative host network next ∧ arrival.Dealt store (next, outcome.2) := by
  unfold Server.handle
  cases parsed : Message.parse? arrival.data with
  | none => exact ⟨store, rfl, none, .kept, faithful_silent none⟩
  | some message =>
    have sender : arrival.client? = some message.clientMac := by
      rw [Arrival.client?, parsed, Option.map_some]
    have kind : arrival.kind? = message.options.kind? := by
      rw [Arrival.kind?, parsed, Option.bind_some]
    obtain ⟨bytes, read⟩ := Message.options_of_parse? parsed
    refine ⟨_, rfl, ?_⟩
    change arrival.Dealt store (leaseAnswer host network arrival.clock store message)
    unfold leaseAnswer
    split
    · exact discover_dealt host network tellable sender read
    · exact request_dealt host network tellable sender read
    next released => exact release_dealt sender (kind.trans released)
    · exact ⟨none, .kept, faithful_silent none⟩

/-! ## Clients with a live lease -/

section Live

variable (host : Host) (network : Prefix) {store : LeaseStore} {clock : Readings}
  {message : Message} {bytes : Bytes} {lease : Lease} {expires : Instant}

theorem discover_of_alive (tellable : 0 ≤ store.term.seconds ∧ store.term.seconds < 2 ^ 32)
    (lenient : store.strict = false) (read : message.options = .ofBytes bytes)
    (found : store.lease? message.clientMac = some lease)
    (allocating : clock.allocate.representable = true)
    (alive : lease.expired clock.allocate = false)
    (term : clock.allocate.after? store.term.seconds = some expires) :
    ∃ sent, (discover host network clock store message).2 = .ok (some sent) ∧
      sent.Tells .offer lease.address := by
  have renewed := LeaseStore.allocate_of_alive (message.options.firstAddress? "requested_addr")
    allocating lenient found alive term
  simp only [discover, renewed]
  refine grant_tells host network ?_ read .offer lease.address
  exact tellable

theorem request_of_alive (tellable : 0 ≤ store.term.seconds ∧ store.term.seconds < 2 ^ 32)
    (lenient : store.strict = false) (read : message.options = .ofBytes bytes)
    (found : store.lease? message.clientMac = some lease)
    (looking : clock.lookup.representable = true)
    (known : lease.expired clock.lookup = false)
    (allocating : clock.allocate.representable = true)
    (alive : lease.expired clock.allocate = false)
    (term : clock.allocate.after? store.term.seconds = some expires)
    (own : acceptsOther host message = false)
    (agreed : ∀ a, wanted message = some a → a = lease.address) :
    ∃ sent, (request host network clock store message).2 = .ok (some sent) ∧
      sent.Tells .ack lease.address := by
  have looked : store.lookup clock.lookup message.clientMac = .ok (some lease) := by
    rw [LeaseStore.lookup_of_alive found known, if_pos looking]
  have same : (wanted message).any (· != lease.address) = false := by
    cases asked : wanted message with
    | none => rfl
    | some a => simp [agreed a asked]
  have renewed := LeaseStore.allocate_of_alive (wanted message) allocating lenient found alive term
  simp only [request, own, looked, same, leaseWanted, renewed, Bool.false_eq_true, if_false]
  refine grant_tells host network ?_ read .ack lease.address
  exact tellable

end Live

end Netboot.Dhcp
