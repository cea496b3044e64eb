import Netboot.Dhcp.Server
import Netboot.Proofs.Address.Text
import Netboot.Proofs.Dhcp.Option
import Netboot.Proofs.Text.Ascii

/-! What the options of any packet say of its client, and the file that the client is given. -/

set_option autoImplicit false

namespace Netboot

namespace Dhcp

theorem MessageType.ofCode?_eq_some_iff {code : Int} {kind : MessageType} :
    MessageType.ofCode? code = some kind ↔ code = kind.code := by
  constructor
  · intro found
    have same := List.find?_some found
    exact (beq_iff_eq.mp same).symm
  · rintro rfl
    cases kind <;> rfl

namespace Options

variable {bytes : Bytes}

theorem kind?_ofBytes {kind : MessageType} :
    (ofBytes bytes).kind? = some kind ↔
      ∃ rest, lastValues? bytes "message-type" = some (.number kind.code :: rest) := by
  have worded : ∀ assigned ∈ assignments, assigned.name = "message-type" →
      assigned.form = .word8 := by
    decide +kernel
  rw [kind?, messageType, first?_named bytes (by simp)]
  cases found : lastValues? bytes "message-type" with
  | none => simp [typeOf]
  | some values =>
    obtain ⟨code, content, read⟩ := read_of_lookup found
    obtain ⟨n, rest, numbers⟩ := words_of_read read rfl worded
    obtain rfl : values = .number n :: rest := numbers
    simp [typeOf, MessageType.ofCode?_eq_some_iff]

theorem isPxe_ofBytes :
    (ofBytes bytes).isPxe =
      .ok (pxeVendorClass.isPrefixOf (lastContent bytes "vendor_class_id")) := by
  have plain : (Key.named "vendor_class_id").IsPlain := by decide +kernel
  have unread : ∀ key ∈ [Key.code 60], ¬ key.IsRead := by decide
  rw [isPxe, firstBytes_plain bytes plain unread]
  rfl

theorem isIpxe_ofBytes :
    (ofBytes bytes).isIpxe = .ok (Text.occurs ipxeUserClass (lastContent bytes "user_class")) := by
  have plain : (Key.named "user_class").IsPlain := by decide +kernel
  have unread : ∀ key ∈ [Key.code 77], ¬ key.IsRead := by decide
  rw [isIpxe, firstBytes_plain bytes plain unread]
  rfl

def statedArch (bytes : Bytes) : Nat :=
  Bytes.toNat ((lastContent bytes "pxe_client_architecture").take 2)

theorem arch_ofBytes : (ofBytes bytes).arch = .ok (statedArch bytes : Int) := by
  have plain : (Key.named "pxe_client_architecture").IsPlain := by decide +kernel
  have unread : ∀ key ∈ [Key.named "client_arch", .code 93], ¬ key.IsRead := by
    decide +kernel
  rw [arch, statedArch]
  obtain found | ⟨found, empty⟩ := first?_plain bytes plain unread
  · rw [found]
    rfl
  · rw [found, empty]
    rfl

theorem bootFile_ofBytes (bytes : Bytes) (url : String) :
    (ofBytes bytes).bootFile url = .ok (
      if Text.occurs ipxeUserClass (lastContent bytes "user_class") then url ++ "/boot.ipxe"
      else if isEfi (statedArch bytes) then efiFile else biosFile) := by
  rw [bootFile, isIpxe_ofBytes, arch_ofBytes]
  cases Text.occurs ipxeUserClass (lastContent bytes "user_class") with
  | true => rfl
  | false => rfl

end Options

theorem isAscii_bootUrl (host : Host) : Text.IsAscii host.bootUrl := by
  refine Text.isAscii_append (Text.isAscii_append (Text.isAscii_append ?_ ?_) ?_) ?_
  · decide
  · exact Text.isAscii_v4 host.ip
  · decide
  · exact Text.isAscii_intRepr host.ports.http

theorem length_bootUrl_le {host : Host} (port : 0 ≤ host.ports.http ∧ host.ports.http < 2 ^ 16) :
    host.bootUrl.toList.length ≤ 28 := by
  obtain ⟨n, number⟩ := Int.eq_ofNat_of_zero_le port.1
  have short : (toString host.ports.http).toList.length ≤ 5 := by
    have small : n < 10 ^ 5 := by omega
    rw [number]
    change (n.repr).toList.length ≤ 5
    rw [Nat.toList_repr]
    exact (Nat.length_toDigits_le_iff (by decide) (by decide)).mpr small
  have address : (toString host.ip).toList.length ≤ 15 := V4.length_text_le host.ip
  have texts : host.bootUrl.toList =
      "http://".toList ++ (toString host.ip).toList ++ ":".toList ++
        (toString host.ports.http).toList := by
    simp only [← String.toList_append]
    rfl
  rw [texts]
  simp only [List.length_append]
  have front : "http://".toList.length = 7 := rfl
  have between : ":".toList.length = 1 := rfl
  omega

/-- Every packet is answered with a file whose name is ASCII, and fits its field when the port is a
port. -/
theorem bootFile_chosen (host : Host) (bytes : Bytes) :
    ∃ file, (Options.ofBytes bytes).bootFile host.bootUrl = .ok file ∧ Text.IsAscii file ∧
      (0 ≤ host.ports.http ∧ host.ports.http < 2 ^ 16 → (Bytes.ofString file).length ≤ 128) := by
  refine ⟨_, Options.bootFile_ofBytes bytes host.bootUrl, ?_⟩
  split
  · have ascii : Text.IsAscii (host.bootUrl ++ "/boot.ipxe") :=
      Text.isAscii_append (isAscii_bootUrl host) (by decide)
    refine ⟨ascii, fun port => ?_⟩
    have url := length_bootUrl_le port
    have path : "/boot.ipxe".toList.length = 10 := rfl
    rw [ascii.length_bytes, String.toList_append, List.length_append]
    omega
  · split
    · exact ⟨by decide, fun _ => by decide⟩
    · exact ⟨by decide, fun _ => by decide⟩

end Dhcp

end Netboot
