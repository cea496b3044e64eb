import Netboot.Dhcp.Message
import Netboot.Proofs.Text.Bytes

/-! The layout of a message: the header in front and the options behind the magic read back as they
were written. -/

set_option autoImplicit false

namespace Netboot.Dhcp

namespace Header

def filled (header : Header) : Header :=
  { header with
    chaddr := Bytes.fit addressSize header.chaddr
    sname := Bytes.fit snameSize header.sname
    file := Bytes.fit fileSize header.file }

def tailBytes (header : Header) : Bytes :=
  Bytes.ofNat 4 header.xid.toNat ++ (Bytes.ofNat 2 header.secs.toNat ++
  (Bytes.ofNat 2 header.flags.toNat ++ (header.ciaddr.toBytes ++ (header.yiaddr.toBytes ++
  (header.siaddr.toBytes ++ (header.giaddr.toBytes ++ (Bytes.fit addressSize header.chaddr ++
  (Bytes.fit snameSize header.sname ++ Bytes.fit fileSize header.file))))))))

theorem toBytes_eq (header : Header) :
    header.toBytes = header.op :: header.htype :: header.hlen :: header.hops :: header.tailBytes := by
  simp only [toBytes, tailBytes, List.append_assoc, List.cons_append, List.nil_append]

@[simp] theorem length_toBytes (header : Header) : header.toBytes.length = size := by
  simp [toBytes, size, addressSize, snameSize, fileSize]

theorem ofBytes?_toBytes (header : Header) (rest : Bytes) :
    ofBytes? (header.toBytes ++ rest) = some header.filled := by
  have xid : Bytes.toNat (Bytes.ofNat 4 header.xid.toNat) = header.xid.toNat :=
    Bytes.toNat_ofNat header.xid.toNat_lt
  have secs : Bytes.toNat (Bytes.ofNat 2 header.secs.toNat) = header.secs.toNat :=
    Bytes.toNat_ofNat header.secs.toNat_lt
  have flags : Bytes.toNat (Bytes.ofNat 2 header.flags.toNat) = header.flags.toNat :=
    Bytes.toNat_ofNat header.flags.toNat_lt
  have long : fixedSize ≤ 4 + (2 + (2 + (4 + (4 + (4 + (4 + (16 + (64 + (128 + rest.length)))))))))
      + 1 + 1 + 1 + 1 := by
    rw [fixedSize]
    omega
  simp only [toBytes_eq, List.cons_append, ofBytes?, filled, tailBytes, addressSize, snameSize,
    fileSize]
  -- Each field is cut out behind the fields before it, whose bytes are dropped whole.
  simp [List.drop_append, List.drop_eq_nil_of_le, xid, secs, flags, long]

theorem ofBytes?_of_long {bytes : Bytes} (long : 240 < bytes.length) :
    ∃ header, ofBytes? bytes = some header ∧ bytes.head? = some header.op ∧
      header.chaddr.length = addressSize := by
  match bytes with
  | op :: htype :: hlen :: hops :: rest =>
    simp only [List.length_cons] at long
    have whole : ¬ (op :: htype :: hlen :: hops :: rest).length < fixedSize := by
      simp only [List.length_cons, fixedSize]
      omega
    refine ⟨_, if_neg whole, rfl, ?_⟩
    simp only [List.length_take, List.length_drop, addressSize]
    omega
  | [] | [_] | [_, _] | [_, _, _] => exact absurd long (by simp)

end Header

namespace Message

/-- A request is longer than the header and the magic, which marks its options. -/
structure Layout (data : Bytes) : Prop where
  long : 240 < data.length
  op : data.head? = some requestOp
  marked : (data.drop 236).take 4 = magic

theorem optionBytes?_some_iff {data options : Bytes} :
    optionBytes? data = some options ↔
      (data.drop 236).take 4 = magic ∧ 240 < data.length ∧ options = data.drop 240 := by
  have behind : (data.drop 236).drop 4 = data.drop 240 := List.drop_drop
  have present : data.drop 240 ≠ [] ↔ 240 < data.length := by
    rw [ne_eq, List.drop_eq_nil_iff, Nat.not_le]
  simp only [optionBytes?, Header.size, behind, present]
  constructor
  · intro found
    split at found
    next marked =>
      cases found
      exact ⟨marked.1, marked.2, rfl⟩
    next => cases found
  · rintro ⟨marked, long, rfl⟩
    exact if_pos ⟨marked, long⟩

theorem parse?_some_iff {data : Bytes} {message : Message} :
    parse? data = some message ↔
      Layout data ∧ Header.ofBytes? data = some message.header ∧
        message.options = Options.ofBytes (data.drop 240) := by
  constructor
  · intro parsed
    obtain ⟨bytes, found, parsed⟩ := Option.bind_eq_some_iff.mp parsed
    obtain ⟨header, read, parsed⟩ := Option.bind_eq_some_iff.mp parsed
    obtain ⟨marked, long, rfl⟩ := optionBytes?_some_iff.mp found
    obtain ⟨same, again, op, -⟩ := Header.ofBytes?_of_long long
    cases read.symm.trans again
    split at parsed
    next request =>
      cases parsed
      exact ⟨⟨long, by rw [op, request], marked⟩, read, rfl⟩
    next => cases parsed
  · -- The header that was read is the one whose first byte says that this is a request.
    rintro ⟨⟨long, op, marked⟩, read, options⟩
    obtain ⟨same, again, first, -⟩ := Header.ofBytes?_of_long long
    cases read.symm.trans again
    have found := optionBytes?_some_iff.mpr ⟨marked, long, rfl⟩
    have request : message.header.op = requestOp := Option.some.inj (first.symm.trans op)
    unfold parse?
    rw [found, read]
    refine (if_pos request).trans ?_
    rw [← options]
    rfl

theorem hardware_of_parse? {data : Bytes} {message : Message}
    (parsed : parse? data = some message) : message.header.chaddr.length = 16 := by
  obtain ⟨layout, read, -⟩ := parse?_some_iff.mp parsed
  obtain ⟨header, again, -, hardware⟩ := Header.ofBytes?_of_long layout.long
  cases read.symm.trans again
  exact hardware

theorem optionBytes?_append (header : Header) {options : Bytes} (present : options ≠ []) :
    optionBytes? (header.toBytes ++ magic ++ options) = some options := by
  have behind : (header.toBytes ++ magic ++ options).drop Header.size = magic ++ options := by
    rw [List.append_assoc]
    exact List.drop_left' header.length_toBytes
  have marked : (magic ++ options).take 4 = magic := List.take_left' rfl
  have left : (magic ++ options).drop 4 = options := List.drop_left' rfl
  rw [optionBytes?, behind, marked, left]
  exact if_pos ⟨rfl, present⟩

theorem ofBytes?_append (header : Header) {options : Bytes} (present : options ≠ []) :
    ofBytes? (header.toBytes ++ magic ++ options) =
      some ⟨header.filled, Options.ofBytes options⟩ := by
  rw [ofBytes?, optionBytes?_append header present, List.append_assoc, Header.ofBytes?_toBytes]
  rfl

end Message

end Netboot.Dhcp
