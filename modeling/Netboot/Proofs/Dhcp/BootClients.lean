import Netboot.Proofs.Dhcp.ReadBack

/-! Beside another address service nobody is given an address.

A proxy and the boot service answer network boot clients only, and tell them nothing but what to load.
Which datagrams count is said here of the bytes and of the last options that stand in them; whatever
else the bytes are, they are passed over without a fault.
-/

set_option autoImplicit false

namespace Netboot.Dhcp

/-! ## Datagrams of network boot clients -/

/-- A request with the magic, whose last vendor class is that of a network boot client and whose last
message type is one of these. -/
structure AsksToBoot (data : Bytes) (kinds : List MessageType) : Prop where
  long : 240 ≤ data.length
  op : data.head? = some 1
  marked : (data.drop 236).take 4 = [0x63, 0x82, 0x53, 0x63]
  vendor : Bytes.ofString "PXEClient" <+: lastContent (data.drop 240) "vendor_class_id"
  typed : ∃ kind ∈ kinds, ∃ rest,
    lastValues? (data.drop 240) "message-type" = some (.number kind.code :: rest)

/-- The boot script for a client of the boot loader, else the loader for the client's architecture. -/
structure Loads (host : Host) (data : Bytes) (file : String) : Prop where
  script : Bytes.ofString "iPXE" <:+: lastContent (data.drop 240) "user_class" →
    file = host.bootUrl ++ "/boot.ipxe"
  efi : ¬ Bytes.ofString "iPXE" <:+: lastContent (data.drop 240) "user_class" →
    Options.statedArch (data.drop 240) ∈ [7, 9] → file = "ipxe.efi"
  bios : ¬ Bytes.ofString "iPXE" <:+: lastContent (data.drop 240) "user_class" →
    Options.statedArch (data.drop 240) ∉ [7, 9] → file = "undionly.kpxe"

structure Answer.Boots (sent : Answer) (host : Host) (data : Bytes) (reply : Message) : Prop where
  read : Message.ofBytes? sent.payload = some reply
  unaddressed : reply.header.yiaddr = V4.zero
  unleased : ∀ name ∈ ["lease_time", "subnet_mask", "router", "name_server"],
    reply.options.lookup (.named name) = none
  vendor : reply.options.lookup (.named "vendor_class_id") =
    some [.bytes (Bytes.ofString "PXEClient")]
  file : ∃ file, Loads host data file ∧ reply.header.file = Bytes.fit 128 (Bytes.ofString file) ∧
    (0 ≤ host.ports.http ∧ host.ports.http < 2 ^ 16 → reply.header.file = bootField file)

variable {host : Host} {data : Bytes} {kinds : List MessageType}

theorem isPxe_true_iff {bytes : Bytes} : (Options.ofBytes bytes).isPxe = .ok true ↔
    Bytes.ofString "PXEClient" <+: lastContent bytes "vendor_class_id" := by
  rw [Options.isPxe_ofBytes, Except.ok.injEq]
  exact List.isPrefixOf_iff_prefix

theorem asksToBoot_iff : AsksToBoot data kinds ↔
    ∃ message, Message.parse? data = some message ∧ message.options.isPxe = .ok true ∧
      ∃ kind ∈ kinds, message.options.kind? = some kind := by
  constructor
  · rintro ⟨long, op, marked, vendor, kind, among, typed⟩
    -- A vendor class takes bytes behind the magic.
    have longer : 240 < data.length := by
      refine Nat.lt_of_le_of_ne long fun exact => ?_
      rw [exact, List.drop_length, lastContent, lastValues?, entries] at vendor
      exact absurd vendor (by decide)
    obtain ⟨header, read, -, -⟩ := Header.ofBytes?_of_long longer
    exact ⟨⟨header, .ofBytes (data.drop 240)⟩,
      Message.parse?_some_iff.mpr ⟨⟨longer, op, marked⟩, read, rfl⟩, isPxe_true_iff.mpr vendor,
      kind, among, Options.kind?_ofBytes.mpr typed⟩
  · rintro ⟨message, parsed, vendor, kind, among, typed⟩
    obtain ⟨layout, -, options⟩ := Message.parse?_some_iff.mp parsed
    rw [options] at vendor typed
    exact ⟨Nat.le_of_lt layout.long, layout.op, layout.marked, isPxe_true_iff.mp vendor, kind, among,
      Options.kind?_ofBytes.mp typed⟩

theorem asksToBoot_of_parse? {message : Message} (parsed : Message.parse? data = some message)
    {pxe : Bool} (asked : message.options.isPxe = .ok pxe) : AsksToBoot data kinds ↔
      pxe = true ∧ ∃ kind ∈ kinds, message.options.kind? = some kind := by
  rw [asksToBoot_iff]
  constructor
  · rintro ⟨again, same, vendor, typed⟩
    cases parsed.symm.trans same
    exact ⟨Except.ok.inj (asked.symm.trans vendor), typed⟩
  · rintro ⟨rfl, typed⟩
    exact ⟨message, parsed, asked, typed⟩

theorem loads_of_bootFile {file : String}
    (chosen : (Options.ofBytes (data.drop 240)).bootFile host.bootUrl = .ok file) :
    Loads host data file := by
  have occurs_iff : Text.occurs ipxeUserClass (lastContent (data.drop 240) "user_class") = true ↔
      Bytes.ofString "iPXE" <:+: lastContent (data.drop 240) "user_class" := Text.occurs_iff
  have efi_iff : Options.isEfi (Options.statedArch (data.drop 240)) = true ↔
      Options.statedArch (data.drop 240) ∈ [7, 9] := by
    simp only [Options.isEfi, Bool.or_eq_true, beq_iff_eq, List.mem_cons, List.not_mem_nil, or_false]
    omega
  rw [Options.bootFile_ofBytes] at chosen
  cases chosen
  constructor
  · intro script
    rw [if_pos (occurs_iff.mpr script)]
  · intro firmware arch
    rw [if_neg (occurs_iff.not.mpr firmware), if_pos (efi_iff.mpr arch)]
    rfl
  · intro firmware arch
    rw [if_neg (occurs_iff.not.mpr firmware), if_neg (efi_iff.not.mpr arch)]
    rfl

/-! ## Their answers -/

theorem bootReply_boots {message : Message} (parsed : Message.parse? data = some message)
    (kind : MessageType) :
    ∃ sent reply, bootReply host message kind = .ok (some sent) ∧ sent.kind = kind ∧
      sent.Boots host data reply := by
  obtain ⟨layout, -, options⟩ := Message.parse?_some_iff.mp parsed
  obtain ⟨file, sent, chosen, answered, same, -, reads⟩ := bootReply_sent host parsed kind
  refine ⟨sent, _, answered, same, reads, rfl, ?_, ?_, file, ?_, rfl, fun port => ?_⟩
  · intro name member
    simp only [List.mem_cons, List.not_mem_nil, or_false] at member
    obtain rfl | rfl | rfl | rfl := member <;> rfl
  · rfl
  · rw [options] at chosen
    exact loads_of_bootFile chosen
  · exact Bytes.fit_of_length_le (fits_of_chosen port parsed chosen)

/-- Without a fault exactly those are answered that ask to boot, and are told what to load. -/
def AnswersBoots (outcome : Except Fault (Option Answer)) (host : Host) (data : Bytes)
    (kinds : List MessageType) (kind : MessageType) : Prop :=
  ∃ result, outcome = .ok result ∧ (result.isSome = true ↔ AsksToBoot data kinds) ∧
    ∀ sent ∈ result, sent.kind = kind ∧ ∃ reply, sent.Boots host data reply

theorem answersBoots_of_none (unread : Message.parse? data = none) (kind : MessageType) :
    AnswersBoots (.ok none) host data kinds kind := by
  refine ⟨none, rfl, ?_, nofun⟩
  rw [asksToBoot_iff, unread]
  simp

theorem answersBoots_of_parse? {message : Message} (parsed : Message.parse? data = some message)
    {asks : Prop} [Decidable asks] (same : asks ↔ AsksToBoot data kinds) (kind : MessageType) :
    AnswersBoots (if asks then bootReply host message kind else .ok none) host data kinds kind := by
  split
  next asked =>
    obtain ⟨sent, reply, answered, typed, boots⟩ := bootReply_boots parsed kind
    refine ⟨some sent, answered, iff_of_true rfl (same.mp asked), ?_⟩
    intro other member
    obtain rfl := Option.mem_some_iff.mp member
    exact ⟨typed, reply, boots⟩
  next silent =>
    exact ⟨none, rfl, iff_of_false Bool.noConfusion fun asked => silent (same.mpr asked), nofun⟩

/-- Whatever bytes arrive, a proxy offers and the boot service acknowledges a file to load, to exactly
the network boot clients that ask for one, and neither assigns an address. -/
theorem only_boot_clients_answered (host : Host) (clock : Readings) (data : Bytes) :
    ((Server.proxy host).handle clock data).1 = .proxy host ∧
    AnswersBoots ((Server.proxy host).handle clock data).2 host data [.discover] .offer ∧
    AnswersBoots (bootAnswer host data) host data [.request, .inform] .ack := by
  cases parsed : Message.parse? data with
  | none =>
    rw [Server.handle, bootAnswer, parsed]
    exact ⟨rfl, answersBoots_of_none parsed .offer, answersBoots_of_none parsed .ack⟩
  | some message =>
    obtain ⟨bytes, read⟩ := Message.options_of_parse? parsed
    have pxe : message.options.isPxe = .ok _ := read ▸ Options.isPxe_ofBytes
    rw [Server.handle, parsed, bootAnswer_eq host parsed pxe]
    refine ⟨rfl, ?_, answersBoots_of_parse? parsed ?_ .ack⟩
    · change AnswersBoots (proxyAnswer host message) _ _ _ _
      rw [proxyAnswer_eq host pxe]
      refine answersBoots_of_parse? parsed ?_ .offer
      rw [asksToBoot_of_parse? parsed pxe]
      simp
    · rw [asksToBoot_of_parse? parsed pxe]
      simp

example : (Server.proxy smallHost).Tells
    ⟨.at 0, requestFrom 1 ([53, 1, 1, 60, 9] ++ Bytes.ofString "PXEClient")⟩
    "02:00:00:00:00:01" .offer V4.zero := by
  decide +kernel

end Netboot.Dhcp
