import Netboot.Proofs.Dhcp.Boot
import Netboot.Proofs.Dhcp.Header

/-! Replies are written, whatever bytes the request came in, and say what they were meant to say to
whoever reads them. -/

set_option autoImplicit false

namespace Netboot.Dhcp

/-! ## Replies -/

theorem Reply.toBytes_of_kept {reply : Reply} (ascii : Text.IsAscii reply.bootFile)
    (kept : ∀ entry ∈ reply.entries, Entry.Kept entry)
    (distinct : (reply.entries.map (·.1)).Nodup) (request : Header) :
    ∃ payload, reply.toBytes request = .ok payload ∧
      Message.ofBytes? payload = some ⟨(reply.header request).filled, reply.entries⟩ := by
  obtain ⟨options, written, present, read⟩ := entriesBytes_of_kept kept
  refine ⟨(reply.header request).toBytes ++ magic ++ options, ?_, ?_⟩
  · have allowed : reply.bootFile.toList.all (·.toNat < 0x80) = true := ascii
    rw [Reply.toBytes, allowed, written]
    rfl
  · rw [Message.ofBytes?_append _ present, Options.ofBytes, read, Options.ofList_of_nodup distinct]

theorem Options.kind?_cons (kind : MessageType) (rest : Options) :
    Options.kind? ((.named "message-type", [.number kind.code]) :: rest) = some kind := by
  have first : Options.first? ((.named "message-type", [.number kind.code]) :: rest)
      [.named "message-type"] = some (.number kind.code) := by
    simp [Options.first?, List.lookup_cons]
  rw [Options.kind?, Options.messageType, first]
  cases kind <;> rfl

def Answer.Tells (answer : Answer) (kind : MessageType) (yiaddr : V4) : Prop :=
  ∃ message, Message.ofBytes? answer.payload = some message ∧
    message.options.kind? = some kind ∧ message.header.yiaddr = yiaddr

instance (answer : Answer) (kind : MessageType) (yiaddr : V4) :
    Decidable (answer.Tells kind yiaddr) :=
  match read : Message.ofBytes? answer.payload with
  | none => isFalse fun ⟨_, again, _⟩ => by cases read.symm.trans again
  | some message =>
    decidable_of_iff (message.options.kind? = some kind ∧ message.header.yiaddr = yiaddr)
      ⟨fun both => ⟨message, read, both⟩, fun ⟨_, again, both⟩ => by
        cases read.symm.trans again
        exact both⟩

theorem Answer.tells_unique {answer : Answer} {first second : MessageType} {a b : V4}
    (left : answer.Tells first a) (right : answer.Tells second b) : first = second ∧ a = b := by
  obtain ⟨message, read, kind, rfl⟩ := left
  obtain ⟨other, again, otherKind, rfl⟩ := right
  cases read.symm.trans again
  exact ⟨Option.some.inj (kind.symm.trans otherKind), rfl⟩

theorem kept_messageType (kind : MessageType) :
    Entry.Kept (.named "message-type", [.number kind.code]) := by
  have known : Assigned "message-type" ⟨53, "message-type", .word8⟩ := ⟨rfl, rfl, rfl, by decide⟩
  refine Entry.kept_word known (.inr (.inr rfl)) ?_
  cases kind <;> decide

theorem kept_serverId (a : V4) : Entry.Kept (.named "server_id", [.address a]) :=
  have known : Assigned "server_id" ⟨54, "server_id", .address⟩ := ⟨rfl, rfl, rfl, by decide⟩
  Entry.kept_address known rfl a

theorem answer_sent (host : Host) (request : Header) (kind : MessageType) (yiaddr : Option V4)
    {bootFile : String} {options : List Entry} (ascii : Text.IsAscii bootFile)
    (kept : ∀ entry ∈ options, Entry.Kept entry)
    (distinct : (Key.named "message-type" :: .named "server_id" :: options.map (·.1)).Nodup) :
    let reply : Reply := ⟨.number kind.code, host.ip, yiaddr, some host.ip, bootFile, options⟩
    ∃ sent, answer host request kind yiaddr bootFile options = .ok (some sent) ∧
      sent.kind = kind ∧ sent.destination = request.destination ∧
      Message.ofBytes? sent.payload = some ⟨(reply.header request).filled, reply.entries⟩ := by
  intro reply
  have keptAll : ∀ entry ∈ reply.entries, Entry.Kept entry := by
    intro entry member
    obtain rfl | member := List.mem_cons.mp member
    · exact kept_messageType kind
    obtain rfl | member := List.mem_cons.mp member
    · exact kept_serverId host.ip
    · exact kept entry member
  obtain ⟨payload, written, read⟩ : ∃ payload, reply.toBytes request = .ok payload ∧ _ :=
    Reply.toBytes_of_kept ascii keptAll distinct request
  refine ⟨⟨kind, payload, request.destination⟩, ?_, rfl, rfl, read⟩
  change ((reply.toBytes request).mapError _).map _ = _
  rw [written]
  rfl

theorem answer_tells (host : Host) (request : Header) (kind : MessageType) (yiaddr : Option V4)
    {bootFile : String} {options : List Entry} (ascii : Text.IsAscii bootFile)
    (kept : ∀ entry ∈ options, Entry.Kept entry)
    (distinct : (Key.named "message-type" :: .named "server_id" :: options.map (·.1)).Nodup) :
    ∃ sent, answer host request kind yiaddr bootFile options = .ok (some sent) ∧
      sent.Tells kind (yiaddr.getD V4.zero) := by
  obtain ⟨sent, answered, -, -, read⟩ := answer_sent host request kind yiaddr ascii kept distinct
  exact ⟨sent, answered, _, read, Options.kind?_cons kind _, rfl⟩

theorem written_of_answer {host : Host} {request : Header} {kind : MessageType}
    {yiaddr : Option V4} {bootFile : String} {options : List Entry} {sent : Answer}
    (answered : answer host request kind yiaddr bootFile options = .ok (some sent))
    {entry : Entry} (member : entry ∈ options) : ∃ part, entry.toBytes = .ok part := by
  let reply : Reply := ⟨.number kind.code, host.ip, yiaddr, some host.ip, bootFile, options⟩
  change ((reply.toBytes request).mapError _).map _ = _ at answered
  cases written : entriesBytes reply.entries with
  | ok bytes => exact written_of_entriesBytes written (.tail _ (.tail _ member))
  | error fault =>
    rw [Reply.toBytes, written] at answered
    split at answered <;> cases answered

theorem kept_leaseOptions (host : Host) (network : Prefix) {store : LeaseStore}
    (tellable : 0 ≤ store.term.seconds ∧ store.term.seconds < 2 ^ 32) :
    ∀ entry ∈ leaseOptions host network store, Entry.Kept entry := by
  have time : Assigned "lease_time" ⟨51, "lease_time", .word32⟩ := ⟨rfl, rfl, rfl, by decide⟩
  have mask : Assigned "subnet_mask" ⟨1, "subnet_mask", .address⟩ := ⟨rfl, rfl, rfl, by decide⟩
  have router : Assigned "router" ⟨3, "router", .address⟩ := ⟨rfl, rfl, rfl, by decide⟩
  have server : Assigned "name_server" ⟨6, "name_server", .address⟩ := ⟨rfl, rfl, rfl, by decide⟩
  intro entry member
  simp only [leaseOptions, List.mem_cons, List.not_mem_nil, or_false] at member
  obtain rfl | rfl | rfl | rfl := member
  · exact Entry.kept_word time (.inl rfl) tellable
  · exact Entry.kept_address mask rfl _
  · exact Entry.kept_address router rfl _
  · exact Entry.kept_address server rfl _

theorem distinct_leaseOptions (host : Host) (network : Prefix) (store : LeaseStore) :
    (Key.named "message-type" :: .named "server_id" ::
      (leaseOptions host network store).map (·.1)).Nodup := by
  change [Key.named "message-type", .named "server_id", .named "lease_time", .named "subnet_mask",
    .named "router", .named "name_server"].Nodup
  decide

theorem grant_tells (host : Host) (network : Prefix) {store : LeaseStore}
    (tellable : 0 ≤ store.term.seconds ∧ store.term.seconds < 2 ^ 32) {message : Message}
    {bytes : Bytes} (read : message.options = .ofBytes bytes) (kind : MessageType) (a : V4) :
    ∃ sent, grant host network store message kind a = .ok (some sent) ∧ sent.Tells kind a := by
  obtain ⟨file, chosen, ascii, -⟩ := bootFile_chosen host bytes
  have distinct := distinct_leaseOptions host network store
  have kept := kept_leaseOptions host network tellable
  obtain ⟨sent, answered, tells⟩ := answer_tells host message.header kind (some a) ascii kept distinct
  refine ⟨sent, ?_, tells⟩
  rw [grant, bootFile, read, chosen]
  exact answered

theorem refuse_tells (host : Host) (message : Message) :
    ∃ sent, refuse host message = .ok (some sent) ∧ sent.Tells .nak V4.zero :=
  answer_tells host message.header .nak none (by decide) (by simp) (by decide)

end Netboot.Dhcp
