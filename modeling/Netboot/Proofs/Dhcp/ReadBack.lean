import Netboot.Dhcp.Client
import Netboot.Proofs.Dhcp.Calls
import Netboot.Proofs.Dhcp.Clients
import Netboot.Proofs.Dhcp.Reply

/-! Whatever this host answers is read back as it was meant.

The reader on the other side is the one that this host reads requests with. It finds the header of the
request turned into a reply, and the options that the answer was given, in order. As a request no
answer is read at all, so two services never answer each other.
-/

set_option autoImplicit false

namespace Netboot.Dhcp

/-! ## What an answer says -/

/-- Whoever reads the answer to a request finds this address, these bytes for the boot file, and these
options. -/
def Answer.ReadsAs (sent : Answer) (host : Host) (request : Header) (yiaddr : V4) (file : Bytes)
    (options : List Entry) : Prop :=
  Message.ofBytes? sent.payload = some {
    header := {
      op := 2
      htype := request.htype
      hlen := request.hlen
      hops := 0
      xid := request.xid
      secs := 0
      flags := request.flags
      ciaddr := request.ciaddr
      yiaddr := yiaddr
      siaddr := host.ip
      giaddr := request.giaddr
      chaddr := request.chaddr
      sname := List.replicate 64 0
      file := file }
    options := (.named "message-type", [.number sent.kind.code]) ::
      (.named "server_id", [.address host.ip]) :: options }

/-- A reply goes to the relay of its request, else to the client's address unless the client asks for
broadcast, else to everyone. -/
structure Answer.GoesTo (sent : Answer) (request : Header) : Prop where
  relayed : request.giaddr ≠ V4.zero → sent.destination = (request.giaddr, 67)
  direct : request.giaddr = V4.zero → request.ciaddr ≠ V4.zero → request.flags &&& 0x8000 = 0 →
    sent.destination = (request.ciaddr, 68)
  broadcast : request.giaddr = V4.zero →
    (request.ciaddr = V4.zero ∨ request.flags &&& 0x8000 ≠ 0) →
    sent.destination = (V4.ofNat 0xffffffff, 68)

/-- No service takes the answer for a request. -/
structure Answer.Ignored (sent : Answer) : Prop where
  unread : Message.parse? sent.payload = none
  served : ∀ (server : Server) (clock : Readings),
    server.handle clock sent.payload = (server, .ok none)
  booted : ∀ host : Host, bootAnswer host sent.payload = .ok none

def bootField (file : String) : Bytes :=
  Bytes.ofString file ++ List.replicate (128 - (Bytes.ofString file).length) 0

structure Answer.ReadsBack (sent : Answer) (host : Host) (request : Header) (yiaddr : V4)
    (file : String) (options : List Entry) : Prop where
  reads : sent.ReadsAs host request yiaddr (bootField file) options
  fits : (Bytes.ofString file).length ≤ 128
  ignored : sent.Ignored

theorem goesTo_destination {sent : Answer} {request : Header}
    (sends : sent.destination = request.destination) : sent.GoesTo request where
  relayed relay := by
    rw [sends, Header.destination, destination, if_pos relay]
    rfl
  direct plain own unicast := by
    rw [sends, Header.destination, destination, if_neg (not_not.mpr plain), if_pos ⟨own, unicast⟩]
    rfl
  broadcast plain either := by
    have everyone : ¬ (request.ciaddr ≠ V4.zero ∧ request.flags &&& broadcastFlag = 0) := by
      rintro ⟨own, unicast⟩
      exact either.elim own fun asks => asks unicast
    rw [sends, Header.destination, destination, if_neg (not_not.mpr plain), if_neg everyone]
    rfl

/-- What is read as a reply is not read as a request. -/
theorem Message.parse?_of_reply {bytes : Bytes} {message : Message}
    (read : Message.ofBytes? bytes = some message) (reply : message.header.op ≠ requestOp) :
    Message.parse? bytes = none := by
  obtain ⟨header, parsed, rfl⟩ := Option.map_eq_some_iff.mp read
  unfold Message.parse?
  cases optionBytes? bytes with
  | none => rfl
  | some options =>
    rw [parsed]
    exact if_neg reply

theorem Answer.ReadsAs.ignored {sent : Answer} {host : Host} {request : Header} {yiaddr : V4}
    {file : Bytes} {options : List Entry}
    (reads : sent.ReadsAs host request yiaddr file options) : sent.Ignored := by
  have unread : Message.parse? sent.payload = none :=
    Message.parse?_of_reply reads (show (2 : UInt8) ≠ requestOp by decide)
  refine ⟨unread, fun server clock => ?_, fun other => ?_⟩
  · rw [Server.handle, unread]
  · rw [bootAnswer, unread]
    rfl

theorem Answer.ReadsAs.back {sent : Answer} {host : Host} {request : Header} {yiaddr : V4}
    {file : String} {options : List Entry} (fits : (Bytes.ofString file).length ≤ 128)
    (reads : sent.ReadsAs host request yiaddr (Bytes.fit 128 (Bytes.ofString file)) options) :
    sent.ReadsBack host request yiaddr file options := by
  rw [Bytes.fit_of_length_le fits] at reads
  exact ⟨reads, fits, reads.ignored⟩

theorem readsAs_of_answer {host : Host} {request : Header} {kind : MessageType} {yiaddr : Option V4}
    {file : String} {options : List Entry} {sent : Answer}
    (answered : answer host request kind yiaddr file options = .ok (some sent))
    (ascii : Text.IsAscii file) (hardware : request.chaddr.length = 16)
    (kept : ∀ entry ∈ options, Entry.Kept entry)
    (distinct : (Key.named "message-type" :: .named "server_id" :: options.map (·.1)).Nodup) :
    sent.kind = kind ∧ sent.GoesTo request ∧
      sent.ReadsAs host request (yiaddr.getD V4.zero) (Bytes.fit 128 (Bytes.ofString file))
        options := by
  obtain ⟨again, same, rfl, sends, read⟩ :=
    answer_sent host request kind yiaddr ascii kept distinct
  cases answered.symm.trans same
  refine ⟨rfl, goesTo_destination sends, ?_⟩
  -- The hardware address of a request fills its field, so all of it comes back.
  rw [Answer.ReadsAs, read]
  simp only [Header.filled, Reply.header, Reply.entries, Header.addressSize,
    Bytes.fit_of_length hardware]
  rfl

/-! ## Answers of the address service -/

section

variable {host : Host} {network : Prefix} {store next : LeaseStore} {clock : Readings}
  {message : Message} {sent : Answer}

/-- The answer grants the address that is on the client's lease. -/
def Grants (host : Host) (network : Prefix) (next : LeaseStore) (message : Message)
    (kind : MessageType) (sent : Answer) : Prop :=
  ∃ a expires, next.lease? message.clientMac = some ⟨a, expires⟩ ∧
    grant host network next message kind a = .ok (some sent)

theorem discover_sent
    (answered : discover host network clock store message = (next, .ok (some sent))) :
    Grants host network next message .offer sent := by
  unfold discover at answered
  simp only at answered
  split at answered
  next ran =>
    obtain ⟨rfl, granted⟩ := Prod.mk.inj answered
    obtain ⟨expires, -, recorded⟩ := LeaseStore.lease?_of_allocate_ok ran
    exact ⟨_, expires, recorded, granted⟩
  · cases answered
  · cases answered

theorem leaseWanted_sent
    (answered : leaseWanted host network clock store message = (next, .ok (some sent))) :
    Grants host network next message .ack sent ∨ refuse host message = .ok (some sent) := by
  unfold leaseWanted at answered
  split at answered
  next ran =>
    split at answered
    · exact .inr (Prod.mk.inj answered).2
    · obtain ⟨rfl, granted⟩ := Prod.mk.inj answered
      obtain ⟨expires, -, recorded⟩ := LeaseStore.lease?_of_allocate_ok ran
      exact .inl ⟨_, expires, recorded, granted⟩
  -- Without an address left the client is refused; after a fault there is no answer.
  · exact .inr (Prod.mk.inj answered).2
  · cases answered

theorem request_sent
    (answered : request host network clock store message = (next, .ok (some sent))) :
    Grants host network next message .ack sent ∨ refuse host message = .ok (some sent) := by
  unfold request at answered
  split at answered
  · cases answered
  split at answered
  · split at answered
    · exact .inr (Prod.mk.inj answered).2
    · exact leaseWanted_sent answered
  · exact leaseWanted_sent answered
  · cases answered

theorem leaseAnswer_sent
    (answered : leaseAnswer host network clock store message = (next, .ok (some sent))) :
    (message.options.kind? = some .discover ∧ Grants host network next message .offer sent) ∨
      message.options.kind? = some .request ∧
        (Grants host network next message .ack sent ∨ refuse host message = .ok (some sent)) := by
  unfold leaseAnswer at answered
  split at answered
  next kind => exact .inl ⟨kind, discover_sent answered⟩
  next kind => exact .inr ⟨kind, request_sent answered⟩
  next =>
    unfold release at answered
    split at answered <;> cases answered
  · cases answered

theorem tellable_of_answer {header : Header} {kind : MessageType} {yiaddr : Option V4}
    {file : String}
    (answered : answer host header kind yiaddr file (leaseOptions host network store) =
      .ok (some sent)) :
    0 ≤ store.term.seconds ∧ store.term.seconds < 2 ^ 32 := by
  have time : Assigned "lease_time" ⟨51, "lease_time", .word32⟩ := ⟨rfl, rfl, rfl, by decide⟩
  obtain ⟨bytes, written⟩ := written_of_answer answered List.mem_cons_self
  exact Entry.word_of_written time rfl written

theorem fits_of_chosen {data : Bytes} (port : 0 ≤ host.ports.http ∧ host.ports.http < 2 ^ 16)
    (parsed : Message.parse? data = some message) {file : String}
    (chosen : message.options.bootFile host.bootUrl = .ok file) :
    (Bytes.ofString file).length ≤ 128 := by
  obtain ⟨bytes, read⟩ := Message.options_of_parse? parsed
  obtain ⟨again, same, -, short⟩ := bootFile_chosen host bytes
  rw [read] at chosen
  cases chosen.symm.trans same
  exact short port

variable {data : Bytes} (parsed : Message.parse? data = some message)
include parsed

theorem Grants.reads {kind : MessageType} (grants : Grants host network next message kind sent) :
    sent.kind = kind ∧ sent.GoesTo message.header ∧ ∃ a expires file,
      next.lease? message.clientMac = some ⟨a, expires⟩ ∧
      message.options.bootFile host.bootUrl = .ok file ∧
      sent.ReadsAs host message.header a (Bytes.fit 128 (Bytes.ofString file))
        (leaseOptions host network next) := by
  obtain ⟨a, expires, recorded, granted⟩ := grants
  obtain ⟨bytes, read⟩ := Message.options_of_parse? parsed
  obtain ⟨file, chosen, ascii, -⟩ := bootFile_chosen host bytes
  rw [← read] at chosen
  rw [grant, bootFile, chosen] at granted
  have answered : answer host message.header kind (some a) file (leaseOptions host network next) =
    .ok (some sent) := granted
  obtain ⟨same, goes, reads⟩ := readsAs_of_answer answered ascii (Message.hardware_of_parse? parsed)
    (kept_leaseOptions host network (tellable_of_answer answered))
    (distinct_leaseOptions host network next)
  exact ⟨same, goes, a, expires, file, recorded, chosen, reads⟩

theorem refuse_reads (refused : refuse host message = .ok (some sent)) :
    sent.kind = .nak ∧ sent.GoesTo message.header ∧
      sent.ReadsAs host message.header V4.zero (Bytes.fit 128 (Bytes.ofString "")) [] :=
  readsAs_of_answer refused (by decide) (Message.hardware_of_parse? parsed) (by simp) (by decide)

end

/-! ## Answers of the boot services -/

def bootReply (host : Host) (message : Message) (kind : MessageType) :
    Except Fault (Option Answer) := do
  answer host message.header kind none (← bootFile host message.options) pxeOptions

section

variable (host : Host) {message : Message}

theorem proxyAnswer_eq {pxe : Bool} (asked : message.options.isPxe = .ok pxe) :
    proxyAnswer host message =
      if pxe = true ∧ message.options.kind? = some .discover then bootReply host message .offer
      else .ok none := by
  rw [proxyAnswer, asked]
  cases pxe with
  | false => rfl
  | true =>
    by_cases discovers : message.options.kind? = some .discover
    · have both : true = true ∧ message.options.kind? = some .discover := ⟨rfl, discovers⟩
      rw [if_pos both]
      exact if_neg (not_not.mpr discovers)
    · have neither : ¬ (true = true ∧ message.options.kind? = some .discover) :=
        fun both => discovers both.2
      rw [if_neg neither]
      exact if_pos discovers

theorem bootAnswer_eq {data : Bytes} (parsed : Message.parse? data = some message) {pxe : Bool}
    (asked : message.options.isPxe = .ok pxe) :
    bootAnswer host data =
      if pxe = true ∧ (message.options.kind? = some .request ∨
        message.options.kind? = some .inform) then bootReply host message .ack
      else .ok none := by
  rw [bootAnswer, parsed]
  simp only [asked]
  cases pxe with
  | false => rfl
  | true =>
    by_cases neither : message.options.kind? ≠ some .request ∧ message.options.kind? ≠ some .inform
    · have silent : ¬ (true = true ∧ (message.options.kind? = some .request ∨
          message.options.kind? = some .inform)) := fun both => both.2.elim neither.1 neither.2
      rw [if_neg silent]
      exact if_pos neither
    · have asks : true = true ∧ (message.options.kind? = some .request ∨
          message.options.kind? = some .inform) :=
        ⟨rfl, (Decidable.not_and_iff_not_or_not.mp neither).imp not_not.mp not_not.mp⟩
      rw [if_pos asks]
      exact if_neg neither

theorem kept_pxeOptions : ∀ entry ∈ pxeOptions, Entry.Kept entry := by
  have vendor : Assigned "vendor_class_id" ⟨60, "vendor_class_id", .string⟩ :=
    ⟨rfl, rfl, rfl, by decide⟩
  intro entry member
  obtain rfl := List.mem_singleton.mp member
  exact Entry.kept_bytes vendor rfl (by decide)

theorem bootReply_sent {data : Bytes} (parsed : Message.parse? data = some message)
    (kind : MessageType) :
    ∃ file sent, message.options.bootFile host.bootUrl = .ok file ∧
      bootReply host message kind = .ok (some sent) ∧ sent.kind = kind ∧
      sent.GoesTo message.header ∧
      sent.ReadsAs host message.header V4.zero (Bytes.fit 128 (Bytes.ofString file)) pxeOptions := by
  obtain ⟨bytes, read⟩ := Message.options_of_parse? parsed
  obtain ⟨file, chosen, ascii, -⟩ := bootFile_chosen host bytes
  have distinct : (Key.named "message-type" :: .named "server_id" ::
      pxeOptions.map (·.1)).Nodup := by
    decide
  obtain ⟨sent, answered, -⟩ :=
    answer_sent host message.header kind none ascii kept_pxeOptions distinct
  rw [← read] at chosen
  refine ⟨file, sent, chosen, ?_, readsAs_of_answer answered ascii
    (Message.hardware_of_parse? parsed) kept_pxeOptions distinct⟩
  rw [bootReply, bootFile, chosen]
  exact answered

end

/-! ## All answers -/

/-- A client takes its lease from an acknowledgement as it was granted. -/
theorem ofAck_leaseOptions (header : Header) (kind : Value) (host : Host) (network : Prefix)
    (store : LeaseStore) :
    ObtainedLease.ofAck ⟨header, (.named "message-type", [kind]) ::
      (.named "server_id", [.address host.ip]) :: leaseOptions host network store⟩ = {
        address := header.yiaddr
        netmask := network.netmask
        routers := [host.gateway]
        nameServers := [host.ip]
        server := some host.ip } := by
  rfl

section

variable {host : Host} (port : 0 ≤ host.ports.http ∧ host.ports.http < 2 ^ 16) {data : Bytes}
  {request : Message} (parsed : Message.parse? data = some request)

include port parsed

theorem leaseAnswer_reads_back {network : Prefix} {store next : LeaseStore} {clock : Readings}
    {sent : Answer}
    (answered : leaseAnswer host network clock store request = (next, .ok (some sent))) :
    sent.GoesTo request.header ∧ ∃ yiaddr file options,
      sent.ReadsBack host request.header yiaddr file options ∧
      (sent.kind = .nak ∧ yiaddr = V4.zero ∧ file = "" ∧ options = [] ∨
        (sent.kind = .offer ∨ sent.kind = .ack) ∧
        (∃ expires, next.lease? request.clientMac = some ⟨yiaddr, expires⟩) ∧
        request.options.bootFile host.bootUrl = .ok file ∧
        options = leaseOptions host network store) := by
  -- No call changes the lease time, so the options tell the one that the store started with.
  obtain ⟨calls, reached⟩ := leaseAnswer_calls host network clock store request
  rw [answered] at reached
  have term : next.term = store.term := by
    rw [← (store.after_keeps_terms calls).1, ← reached]
  have options : leaseOptions host network next = leaseOptions host network store := by
    rw [leaseOptions, term, leaseOptions]
  obtain ⟨-, offered⟩ | ⟨-, acknowledged | refused⟩ := leaseAnswer_sent answered
  · obtain ⟨offer, goes, a, expires, file, recorded, chosen, reads⟩ := offered.reads parsed
    exact ⟨goes, a, file, _, reads.back (fits_of_chosen port parsed chosen),
      .inr ⟨.inl offer, ⟨expires, recorded⟩, chosen, options⟩⟩
  · obtain ⟨ack, goes, a, expires, file, recorded, chosen, reads⟩ := acknowledged.reads parsed
    exact ⟨goes, a, file, _, reads.back (fits_of_chosen port parsed chosen),
      .inr ⟨.inr ack, ⟨expires, recorded⟩, chosen, options⟩⟩
  · obtain ⟨nak, goes, reads⟩ := refuse_reads parsed refused
    exact ⟨goes, V4.zero, "", [], reads.back (by decide), .inl ⟨nak, rfl, rfl, rfl⟩⟩

theorem bootReply_reads_back {kind : MessageType} {sent : Answer}
    (answered : bootReply host request kind = .ok (some sent)) :
    sent.GoesTo request.header ∧ ∃ file, sent.ReadsBack host request.header V4.zero file pxeOptions ∧
      request.options.bootFile host.bootUrl = .ok file := by
  obtain ⟨file, again, chosen, same, -, goes, reads⟩ := bootReply_sent host parsed kind
  cases answered.symm.trans same
  exact ⟨goes, file, reads.back (fits_of_chosen port parsed chosen), chosen⟩

end

/-- An answer is read back with the fields of its request and with the address, the boot file and the
options that it was given, in order; as a request it is not read. It goes back the way of its request.
The lease that an acknowledgement grants is the one that its client obtains. -/
theorem answers_read_back (host : Host) (port : 0 ≤ host.ports.http ∧ host.ports.http < 2 ^ 16)
    {data : Bytes} {request : Message} (parsed : Message.parse? data = some request) :
    (∀ store clock next sent,
      (Server.authoritative host host.mode.network store).handle clock data =
        (next, .ok (some sent)) →
      sent.GoesTo request.header ∧ ∃ yiaddr file options,
        sent.ReadsBack host request.header yiaddr file options ∧
        (sent.kind = .nak ∧ yiaddr = V4.zero ∧ file = "" ∧ options = [] ∨
          (sent.kind = .offer ∨ sent.kind = .ack) ∧
          (∃ expires, next.lease? request.clientMac = some ⟨yiaddr, expires⟩) ∧
          request.options.bootFile host.bootUrl = .ok file ∧
          options = leaseOptions host host.mode.network store) ∧
        (sent.kind = .ack → ∃ ack, Message.ofBytes? sent.payload = some ack ∧
          ObtainedLease.ofAck ack = {
            address := yiaddr
            netmask := host.mode.network.netmask
            routers := [host.gateway]
            nameServers := [host.ip]
            server := some host.ip })) ∧
    (∀ clock next sent, (Server.proxy host).handle clock data = (next, .ok (some sent)) →
      sent.GoesTo request.header ∧ ∃ file,
        sent.ReadsBack host request.header V4.zero file pxeOptions ∧
        request.options.bootFile host.bootUrl = .ok file) ∧
    ∀ sent, bootAnswer host data = .ok (some sent) → ∃ file,
      sent.ReadsBack host request.header V4.zero file pxeOptions ∧
      request.options.bootFile host.bootUrl = .ok file := by
  obtain ⟨bytes, read⟩ := Message.options_of_parse? parsed
  have pxe : request.options.isPxe = .ok _ := read ▸ Options.isPxe_ofBytes
  refine ⟨?_, ?_, ?_⟩
  · intro store clock next sent answered
    rw [Server.handle, parsed] at answered
    cases outcome : leaseAnswer host host.mode.network clock store request with
    | mk left result =>
      simp only [Server.handleMessage, outcome] at answered
      obtain ⟨rfl, rfl⟩ := Prod.mk.inj answered
      obtain ⟨goes, a, file, options, back, holds⟩ := leaseAnswer_reads_back port parsed outcome
      refine ⟨goes, a, file, options, back, holds, fun acknowledges => ⟨_, back.reads, ?_⟩⟩
      -- An acknowledgement is no refusal, so it has the options of the lease.
      obtain ⟨nak, -⟩ | ⟨-, -, -, rfl⟩ := holds
      · cases nak.symm.trans acknowledges
      · exact ofAck_leaseOptions _ _ host _ store
  · intro clock next sent answered
    rw [Server.handle, parsed] at answered
    have answered : proxyAnswer host request = .ok (some sent) := (Prod.mk.inj answered).2
    rw [proxyAnswer_eq host pxe] at answered
    split at answered
    · exact bootReply_reads_back port parsed answered
    · cases answered
  · intro sent answered
    rw [bootAnswer_eq host parsed pxe] at answered
    split at answered
    · exact (bootReply_reads_back port parsed answered).2
    · cases answered

/-- The lease that a client obtains is the one that it was granted. -/
theorem answers_read_back_of_request :
    ∃ store sent ack, Server.ofHost? smallHost =
        some (.authoritative smallHost smallHost.mode.network store) ∧
      ((Server.authoritative smallHost smallHost.mode.network store).handle (.at 0)
        (requestFrom 1 [53, 1, 3])).2 = .ok (some sent) ∧
      Message.ofBytes? sent.payload = some ack ∧ ObtainedLease.ofAck ack = {
        address := .ofNat 0x0a000002
        netmask := .ofNat 0xfffffffc
        routers := [.ofNat 0x0a000001]
        nameServers := [.ofNat 0x0a000001]
        server := some (.ofNat 0x0a000001) } := by
  have present : (Message.parse? (requestFrom 1 [53, 1, 3])).isSome = true := by decide +kernel
  obtain ⟨request, parsed⟩ := Option.isSome_iff_exists.mp present
  obtain ⟨authority, -, -⟩ := answers_read_back smallHost (by decide) parsed
  let store := LeaseStore.ofPool (Pool.ofReserved smallRange [.ofNat 0x0a000001])
    ⟨3600, by decide⟩ false
  have told : (Server.authoritative smallHost smallHost.mode.network store).Tells
      ⟨.at 0, requestFrom 1 [53, 1, 3]⟩ "02:00:00:00:00:01" .ack (.ofNat 0x0a000002) := by
    decide +kernel
  obtain ⟨-, sent, answered, ack, read, kind, address⟩ := told
  cases outcome : (Server.authoritative smallHost smallHost.mode.network store).handle (.at 0)
    (requestFrom 1 [53, 1, 3]) with
  | mk next result =>
    rw [outcome] at answered
    obtain rfl : result = .ok (some sent) := answered
    obtain ⟨-, yiaddr, file, options, back, -, obtains⟩ := authority store (.at 0) next sent outcome
    have message := Option.some.inj (read.symm.trans back.reads)
    have acknowledges : sent.kind = .ack := by
      rw [message, Options.kind?_cons] at kind
      exact Option.some.inj kind
    obtain ⟨again, same, lease⟩ := obtains acknowledges
    cases read.symm.trans same
    rw [message] at address
    obtain rfl : yiaddr = .ofNat 0x0a000002 := address
    exact ⟨store, sent, ack, rfl, by rw [outcome], read, lease⟩

end Netboot.Dhcp
