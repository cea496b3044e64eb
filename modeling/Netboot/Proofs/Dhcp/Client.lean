import Netboot.Dhcp.Client
import Netboot.Proofs.Address.Text
import Netboot.Proofs.Dhcp.Option
import Netboot.Proofs.Result

/-! The client of another server: its two exchanges come to an end whatever that server sends, and
the lease that comes of them can be taken up exactly if its mask is one.
-/

set_option autoImplicit false

namespace Netboot

/-- The bits of a network's prefix, or all bits but those. -/
def V4.IsMask (mask : V4) : Prop :=
  ∃ length, length ≤ 32 ∧
    (mask.toNat = 2 ^ 32 - hostCount length ∨ mask.toNat = hostCount length - 1)

instance (mask : V4) : Decidable mask.IsMask :=
  inferInstanceAs (Decidable (∃ length, length ≤ 32 ∧ _))

namespace Cidr

theorem maskLength?_some {mask length : Nat} (found : maskLength? mask = some length) :
    length ≤ 32 ∧ 2 ^ 32 - hostCount length = mask := by
  have inside := List.mem_range.mp (List.mem_of_find?_eq_some found)
  have same : (2 ^ 32 - hostCount length == mask) = true :=
    List.find?_some (p := fun length => 2 ^ 32 - hostCount length == mask) found
  exact ⟨Nat.le_of_lt_succ inside, eq_of_beq same⟩

theorem maskLength?_isSome_iff {mask : Nat} :
    (maskLength? mask).isSome = true ↔ ∃ length, length ≤ 32 ∧ mask = 2 ^ 32 - hostCount length := by
  rw [maskLength?, List.find?_isSome]
  constructor
  · rintro ⟨length, inside, same⟩
    exact ⟨length, Nat.le_of_lt_succ (List.mem_range.mp inside), (eq_of_beq same).symm⟩
  · rintro ⟨length, inside, rfl⟩
    exact ⟨length, List.mem_range.mpr (Nat.lt_succ_of_le inside), beq_self_eq_true _⟩

/-- The text of an address has full stops in it, so it is read as a mask. -/
theorem lengthOfText?_text (mask : V4) : lengthOfText? mask.text =
    (maskLength? mask.toNat <|> maskLength? (2 ^ 32 - 1 - mask.toNat)) := by
  have dotted : '.' ∈ mask.text.toList := by
    rw [V4.toList_text, V4.octets]
    simp
  have numeral : mask.text.toList.all Text.isAsciiDigit = false :=
    List.all_eq_false.mpr ⟨'.', dotted, by decide⟩
  rw [lengthOfText?, numeral, Bool.and_false, if_neg Bool.false_ne_true, V4.ofQuad_text]

theorem hostCount_pos_le (length : Nat) : 0 < hostCount length ∧ hostCount length ≤ 2 ^ 32 :=
  ⟨Nat.two_pow_pos _, Nat.pow_le_pow_right (by decide) (Nat.sub_le _ _)⟩

theorem lengthOfText?_text_isSome_iff (mask : V4) :
    (lengthOfText? mask.text).isSome = true ↔ mask.IsMask := by
  have bounded := mask.bounded
  have complement (length : Nat) :
      2 ^ 32 - 1 - mask.toNat = 2 ^ 32 - hostCount length ↔ mask.toNat = hostCount length - 1 := by
    obtain ⟨positive, inside⟩ := hostCount_pos_le length
    omega
  rw [lengthOfText?_text, Option.orElse_eq_orElse, Option.orElse_eq_or, Option.isSome_or,
    Bool.or_eq_true, maskLength?_isSome_iff, maskLength?_isSome_iff]
  simp only [complement, V4.IsMask, and_or_left, exists_or]

theorem length_le_of_lengthOfText? {mask : V4} {length : Nat}
    (read : lengthOfText? mask.text = some length) : length ≤ 32 := by
  rw [lengthOfText?_text, Option.orElse_eq_orElse, Option.orElse_eq_or, Option.or_eq_some_iff] at read
  obtain found | ⟨-, found⟩ := read
  · exact (maskLength?_some found).1
  · exact (maskLength?_some found).1

theorem ofParts_text (a : V4) (mask : String) : ofParts a.text mask =
    match lengthOfText? mask with
    | some length =>
      if short : length ≤ 32 then .ok ⟨a, length, short⟩ else .error (.netmask mask)
    | none => .error (.netmask mask) := by
  have address : V4.parse a.text = .ok a := by
    have read := V4.parse?_text a
    unfold V4.parse? at read
    cases parsed : V4.parse a.text with
    | error fault =>
      rw [parsed] at read
      cases read
    | ok b =>
      rw [parsed] at read
      exact congrArg Except.ok (Option.some.inj read)
  rw [ofParts, address]
  cases lengthOfText? mask <;> rfl

end Cidr

namespace Dhcp

namespace ObtainedLease

theorem cidr_of_isMask {lease : ObtainedLease} (masks : lease.netmask.IsMask) :
    ∃ cidr, lease.cidr = .ok cidr := by
  obtain ⟨length, read⟩ :=
    Option.isSome_iff_exists.mp ((Cidr.lengthOfText?_text_isSome_iff lease.netmask).mpr masks)
  rw [cidr, Cidr.ofParts_text, read]
  exact ⟨_, dif_pos (Cidr.length_le_of_lengthOfText? read)⟩

theorem cidr_of_not_isMask {lease : ObtainedLease} (strange : ¬ lease.netmask.IsMask) :
    lease.cidr = .error (.netmask lease.netmask.text) := by
  have unread : Cidr.lengthOfText? lease.netmask.text = none :=
    Option.not_isSome_iff_eq_none.mp
      (mt (Cidr.lengthOfText?_text_isSome_iff lease.netmask).mp strange)
  rw [cidr, Cidr.ofParts_text, unread]

end ObtainedLease

theorem entriesBytes_of_written {list : List Entry}
    (written : ∀ entry ∈ list, ∃ part, entry.toBytes = .ok part) :
    ∃ bytes, entriesBytes list = .ok bytes := by
  induction list with
  | nil => exact ⟨_, rfl⟩
  | cons entry rest ih =>
    obtain ⟨front, here⟩ := written entry List.mem_cons_self
    obtain ⟨back, there⟩ := ih fun entry member => written entry (.tail _ member)
    exact ⟨front ++ back, by rw [entriesBytes, here, there]; rfl⟩

theorem addresses_of_read {code : UInt8} {content : Bytes} {entry : Entry} {name : String}
    (read : entry? code content = some entry) (named : entry.1 = .named name)
    (addressed : ∀ assigned ∈ assignments, assigned.name = name → assigned.form = .address) :
    ∀ value ∈ entry.2, ∃ a, value = .address a := by
  unfold entry? at read
  split at read
  next assigned found =>
    obtain ⟨values, written, rfl⟩ := Option.map_eq_some_iff.mp read
    have form := addressed assigned (List.mem_of_find?_eq_some found) (Key.named.inj named)
    simp only [form, Form.values?] at written
    split at written
    · cases written
    next =>
      obtain ⟨parts, -, rfl⟩ := Option.map_eq_some_iff.mp written
      intro value member
      obtain ⟨part, -, rfl⟩ := List.mem_map.mp member
      exact ⟨_, rfl⟩
  next =>
    cases read
    cases named

namespace Client

variable {client : Identity} {offer : Message} {datagram : Option Bytes}

theorem server_of_ofBytes? {data : Bytes} (read : Message.ofBytes? data = some offer) :
    offer.options.first? [.named "server_id"] = none ∨
      ∃ a, offer.options.first? [.named "server_id"] = some (.address a) := by
  obtain ⟨header, -, rfl⟩ := Option.map_eq_some_iff.mp read
  cases found : Message.optionBytes? data with
  | none => exact .inl rfl
  | some bytes =>
    change (Options.ofBytes bytes).first? [.named "server_id"] = none ∨
      ∃ a, (Options.ofBytes bytes).first? [.named "server_id"] = some (.address a)
    rw [@Options.first?_named bytes "server_id" [] nofun]
    cases values : lastValues? bytes "server_id" with
    | none => exact .inl rfl
    | some list =>
      obtain ⟨code, content, entry⟩ := read_of_lookup values
      have addresses := addresses_of_read entry rfl (by decide +kernel)
      cases list with
      | nil => exact .inl rfl
      | cons first rest =>
        obtain ⟨a, rfl⟩ := addresses first List.mem_cons_self
        exact .inr ⟨a, rfl⟩

/-- A name of no more than 255 bytes fits into an option. -/
def Identity.Sayable (client : Identity) : Prop := (Bytes.ofString client.hostname).length ≤ 255

instance (client : Identity) : Decidable client.Sayable := inferInstanceAs (Decidable (_ ≤ _))

theorem written_options (sayable : client.Sayable) :
    ∀ entry ∈ client.options, ∃ part, entry.toBytes = .ok part := by
  intro entry member
  unfold Identity.options at member
  split at member
  · cases member
  · obtain rfl := List.mem_singleton.mp member
    have written : Entry.toBytes (.named "hostname", [.text client.hostname]) =
        framed 12 (Bytes.ofString client.hostname) := rfl
    rw [written]
    exact ⟨_, framed_eq (by decide) (Nat.lt_succ_of_le sayable)⟩

theorem written_requested (a : V4) :
    ∃ part, Entry.toBytes (.named "requested_addr", [.address a]) = .ok part := by
  have known : Assigned "requested_addr" ⟨50, "requested_addr", .address⟩ :=
    ⟨rfl, rfl, rfl, by decide⟩
  exact (Entry.kept_address known rfl a).imp fun _ => And.left

theorem written_server {data : Bytes} (read : Message.ofBytes? data = some offer) :
    ∃ part, Entry.toBytes (.named "server_id",
      [(offer.options.first? [.named "server_id"]).getD .none]) = .ok part := by
  have known : Assigned "server_id" ⟨54, "server_id", .address⟩ := ⟨rfl, rfl, rfl, by decide⟩
  obtain none | ⟨a, some⟩ := server_of_ofBytes? read
  · rw [none]
    exact ⟨_, rfl⟩
  · rw [some]
    exact (Entry.kept_address known rfl a).imp fun _ => And.left

theorem discover_ok (sayable : client.Sayable) : ∃ frame, discover client = .ok frame := by
  have written : ∀ entry ∈ [typed .discover, (.named "param_req_list", [wantedOptions])] ++
      client.options, ∃ part, entry.toBytes = .ok part := by
    simp only [List.forall_mem_append, List.forall_mem_cons]
    exact ⟨⟨⟨_, rfl⟩, ⟨_, rfl⟩, nofun⟩, written_options sayable⟩
  obtain ⟨bytes, options⟩ := entriesBytes_of_written written
  rw [discover, clientFrame, options]
  exact ⟨_, rfl⟩

theorem request_ok (sayable : client.Sayable) {data : Bytes}
    (read : Message.ofBytes? data = some offer) : ∃ frame, request client offer = .ok frame := by
  have written : ∀ entry ∈ [typed .request,
      (.named "requested_addr", [.address offer.header.yiaddr]),
      (.named "server_id", [(offer.options.first? [.named "server_id"]).getD .none]),
      (.named "param_req_list", [wantedOptions])] ++ client.options,
      ∃ part, entry.toBytes = .ok part := by
    simp only [List.forall_mem_append, List.forall_mem_cons]
    exact ⟨⟨⟨_, rfl⟩, written_requested _, written_server read, ⟨_, rfl⟩, nofun⟩,
      written_options sayable⟩
  obtain ⟨bytes, options⟩ := entriesBytes_of_written written
  rw [request, clientFrame, options]
  exact ⟨_, rfl⟩

/-- The datagram that answers an exchange, if one does, holds a message. -/
def Readable (datagram : Option Bytes) : Prop :=
  ∀ data, datagram = some data → (Message.ofBytes? data).isSome = true

theorem received_ok (readable : Readable datagram) : ∃ message, received datagram = .ok message := by
  cases datagram with
  | none => exact ⟨none, rfl⟩
  | some data =>
    obtain ⟨message, read⟩ := Option.isSome_iff_exists.mp (readable data rfl)
    exact ⟨some message, by simp only [received, read]⟩

theorem read_of_received (answered : received datagram = .ok (some offer)) :
    ∃ data, datagram = some data ∧ Message.ofBytes? data = some offer := by
  cases datagram with
  | none => cases answered
  | some data =>
    refine ⟨data, rfl, ?_⟩
    unfold received at answered
    dsimp only at answered
    split at answered
    next message read => rw [read, Option.some.inj (Except.ok.inj answered)]
    next => cases answered

theorem negotiate_ok (sayable : client.Sayable) (timeout : Float) {meeting : Meeting}
    (offered : Readable meeting.offer) (acknowledged : Readable meeting.ack) :
    ∃ leased, (negotiate client timeout meeting).2 = .ok leased ∧
      ∀ lease, leased = some lease → ∃ ack, received meeting.ack = .ok (some ack) ∧
        ack.options.kind? = some .ack ∧ lease = .ofAck ack := by
  obtain ⟨frame, discovers⟩ := discover_ok sayable
  obtain ⟨answer, answers⟩ := received_ok offered
  delta negotiate
  rw [discovers, answers]
  cases answer with
  | none => exact ⟨none, rfl, nofun⟩
  | some offer =>
    dsimp only
    split
    · exact ⟨none, rfl, nofun⟩
    · obtain ⟨data, -, read⟩ := read_of_received answers
      obtain ⟨frame, requests⟩ := request_ok sayable read
      obtain ⟨last, ends⟩ := received_ok acknowledged
      delta accept
      rw [requests, ends]
      cases last with
      | none => exact ⟨none, rfl, nofun⟩
      | some ack =>
        by_cases kind : ack.options.kind? = some .ack
        · refine ⟨some (.ofAck ack), ?_, fun lease same => ⟨ack, rfl, kind, ?_⟩⟩
          · simp only [Except.map, kind, if_true]
          · exact (Option.some.inj same).symm
        · exact ⟨none, by simp only [Except.map, kind, if_false], nofun⟩

end Client

end Dhcp

end Netboot
