import Netboot.Proofs.Dns.Room
import Netboot.Proofs.Text.Bytes

/-! Messages without records and with all names in full: they are read as they are written. -/

set_option autoImplicit false

namespace Netboot.Dns

namespace Reader

variable {α β : Type} {reader : Reader α} {content more : Bytes} {value : α} {result : β}

/-- The reader takes this content for this value, wherever it stands. -/
def Reads (reader : Reader α) (content : Bytes) (value : α) : Prop :=
  ∀ front back stop, front.length + content.length ≤ stop →
    reader (front ++ content ++ back).toArray ⟨front.length, stop⟩ =
      some (value, ⟨front.length + content.length, stop⟩)

def ReadsAll (reader : Reader α) (content : Bytes) (value : α) : Prop :=
  ∀ front back, reader (front ++ content ++ back).toArray
      ⟨front.length, front.length + content.length⟩ =
    some (value, ⟨front.length + content.length, front.length + content.length⟩)

theorem reads_pure (value : α) : Reads (pure value) [] value := fun _ _ _ _ => rfl

theorem bind_run {next : α → Reader β} {message : Array UInt8} {cursor after : Cursor}
    (ran : reader message cursor = some (value, after)) :
    (reader >>= next) message cursor = next value message after := by
  change (reader message cursor).bind (fun ran => next ran.1 message ran.2) = _
  rw [ran]
  rfl

theorem Reads.bind {next : α → Reader β} (reads : Reads reader content value)
    (later : Reads (next value) more result) : Reads (reader >>= next) (content ++ more) result := by
  intro front back stop room
  rw [List.length_append] at room ⊢
  have here := reads front (more ++ back) stop (by omega)
  have there := later (front ++ content) back stop (by rw [List.length_append]; omega)
  rw [List.length_append] at there
  simp only [List.append_assoc, Nat.add_assoc] at here there ⊢
  rw [bind_run here, there]

theorem Reads.bind_end {next : α → Reader β} (reads : Reads reader content value)
    (later : Reads (next value) [] result) : Reads (reader >>= next) content result := by
  have whole := reads.bind later
  rwa [List.append_nil] at whole

theorem Reads.bind_all {next : α → Reader β} (reads : Reads reader content value)
    (later : ReadsAll (next value) more result) :
    ReadsAll (reader >>= next) (content ++ more) result := by
  intro front back
  have here := reads front (more ++ back) (front.length + (content ++ more).length) (by simp)
  have there := later (front ++ content) back
  rw [List.length_append] at here there ⊢
  simp only [List.append_assoc, Nat.add_assoc] at here there ⊢
  rw [bind_run here, there]

theorem extract_toArray (front content back : Bytes) :
    ((front ++ content ++ back).toArray.extract front.length
      (front.length + content.length)).toList = content := by
  simp

theorem reads_take (content : Bytes) : Reads (take content.length) content content := by
  intro front back stop room
  rw [take, if_pos room, extract_toArray]

theorem reads_word {width n : Nat} (small : n < 256 ^ width) :
    Reads (word width) (Bytes.ofNat width n) n := by
  have taken := reads_take (Bytes.ofNat width n)
  rw [Bytes.length_ofNat] at taken
  refine taken.bind_end ?_
  rw [Bytes.toNat_ofNat small]
  exact reads_pure n

theorem reads_times {spell : α → Bytes} {list : List α}
    (each : ∀ value ∈ list, Reads reader (spell value) value) :
    Reads (times reader list.length) (list.flatMap spell) list := by
  induction list with
  | nil => exact reads_pure []
  | cons first rest ih =>
    obtain ⟨here, others⟩ := List.forall_mem_cons.mp each
    exact here.bind ((ih others).bind_end (reads_pure _))

theorem reads_check {condition : Bool} (holds : condition = true) :
    Reads (check condition) [] () := by
  intro front back stop _
  rw [check, if_pos holds]
  rfl

theorem reads_within (reads : ReadsAll reader content value) :
    Reads (within content.length reader) content value := by
  intro front back stop room
  rw [within, if_pos room]
  dsimp only
  rw [reads front back]
  exact if_pos rfl

/-! ## Names -/

section
variable {message : Array UInt8} {stop pointers bound position furthest count : Nat}

theorem labels_of_root (start : position < stop) (byte : (message.getD position 0).toNat = 0) :
    labels message stop pointers bound position furthest =
      some ([], max furthest (position + 1)) := by
  rw [labels, if_pos start, byte]
  exact if_pos rfl

theorem labels_of_label (byte : (message.getD position 0).toNat = count) (given : count ≠ 0)
    (short : count < 64) (room : position + 1 + count ≤ stop) :
    labels message stop pointers bound position furthest =
      (labels message stop pointers bound (position + 1 + count)
        (max furthest (position + 1 + count))).map fun (rest, furthest) =>
          ((message.extract (position + 1) (position + 1 + count)).toList :: rest, furthest) := by
  have start : position < stop := by omega
  rw [labels, if_pos start, byte]
  dsimp only
  rw [if_neg given, if_pos short, if_pos room]

end

theorem getD_toArray (front back : Bytes) (b : UInt8) :
    (front ++ b :: back).toArray.getD front.length 0 = b := by
  simp [Array.getD_eq_getD_getElem?]

theorem labels_plainLabels {list : List Label}
    (sound : ∀ label ∈ list, label ≠ [] ∧ label.length ≤ Name.maxLabel) (pointers bound : Nat)
    {front back : Bytes} {stop furthest : Nat} (behind : furthest ≤ front.length)
    (room : front.length + (plainLabels list).length ≤ stop) :
    labels (front ++ plainLabels list ++ back).toArray stop pointers bound front.length furthest =
      some (list, front.length + (plainLabels list).length) := by
  -- A plain name has no pointers, so the place moves past one label after the other.
  induction list generalizing front furthest with
  | nil =>
    have byte : ((front ++ plainLabels [] ++ back).toArray.getD front.length 0).toNat = 0 := by
      rw [List.append_assoc]
      exact congrArg UInt8.toNat (getD_toArray front back 0)
    rw [labels_of_root room byte, Nat.max_eq_right (Nat.le_succ_of_le behind)]
    rfl
  | cons label rest ih =>
    obtain ⟨⟨given, short⟩, others⟩ := List.forall_mem_cons.mp sound
    unfold Name.maxLabel at short
    have some : label.length ≠ 0 := mt List.length_eq_zero_iff.mp given
    have spelled : front ++ plainLabels (label :: rest) ++ back =
        front ++ UInt8.ofNat label.length :: (label ++ (plainLabels rest ++ back)) := by
      simp [plainLabels, labelBytes]
    have moved : front ++ UInt8.ofNat label.length :: (label ++ (plainLabels rest ++ back)) =
        (front ++ labelBytes label) ++ plainLabels rest ++ back := by
      simp [labelBytes]
    have size : (plainLabels (label :: rest)).length =
        1 + label.length + (plainLabels rest).length := by
      simp [plainLabels, labelBytes]
      omega
    have next : (front ++ labelBytes label).length = front.length + 1 + label.length := by
      simp [labelBytes]
      omega
    have byte : ((front ++ UInt8.ofNat label.length :: (label ++ (plainLabels rest ++ back))).toArray.getD
        front.length 0).toNat = label.length := by
      rw [getD_toArray, UInt8.toNat_ofNat']
      omega
    have read : ((front ++ UInt8.ofNat label.length :: (label ++ (plainLabels rest ++ back))).toArray.extract
        (front.length + 1) (front.length + 1 + label.length)).toList = label := by
      simp
    rw [size] at room ⊢
    rw [spelled, labels_of_label byte some (by omega) (by omega), read, moved, ← next,
      ih others (Nat.le_of_eq (Nat.max_eq_right (by omega))) (by omega)]
    simp only [Option.map_some, next]
    congr 2
    omega

theorem reads_name {asked : Name} (whole : asked.IsWhole)
    (sound : ∀ label ∈ asked.labels, label ≠ [] ∧ label.length ≤ Name.maxLabel) :
    Reads name (plainLabels asked.labels) asked := by
  obtain ⟨list, rooted⟩ := asked
  obtain ⟨rfl, short⟩ := whole
  intro front back stop room
  rw [name, nameWithin]
  dsimp only
  rw [labels_plainLabels sound _ _ (Nat.le_refl _) room]
  exact if_pos short

end Reader

/-- A question as a message can hold it. -/
structure Question.IsSound (question : Question) : Prop where
  name : question.name.IsWhole
  labels : ∀ label ∈ question.name.labels, label ≠ [] ∧ label.length ≤ Name.maxLabel
  type : question.type < 2 ^ 16
  rdclass : question.rdclass < 2 ^ 16

instance (question : Question) : Decidable question.IsSound :=
  decidable_of_iff (question.name.IsWhole ∧
      (∀ label ∈ question.name.labels, label ≠ [] ∧ label.length ≤ Name.maxLabel) ∧
      question.type < 2 ^ 16 ∧ question.rdclass < 2 ^ 16)
    ⟨fun ⟨name, labels, type, rdclass⟩ => ⟨name, labels, type, rdclass⟩,
      fun ⟨name, labels, type, rdclass⟩ => ⟨name, labels, type, rdclass⟩⟩

def Question.plainBytes (question : Question) : Bytes :=
  plainLabels question.name.labels ++ (Bytes.ofNat 2 question.type ++ Bytes.ofNat 2 question.rdclass)

namespace Message

def plainBytes (message : Message) : Bytes :=
  message.header ++ (message.question.flatMap Question.plainBytes ++
    (message.extension.map Extension.toBytes).getD [])

def lookup (name : Name) (type : Nat) : Message :=
  { id := 1, flags := recursionFlag, question := [⟨name, type, internet⟩] }

/-- A message without records whose parts have room in its bytes; it is no update. -/
structure IsPlain (message : Message) : Prop extends message.IsBare where
  id : message.id < 2 ^ 16
  flags : message.flags < 2 ^ 16
  opcode : message.flags / 2 ^ 11 % 16 ≠ Reader.update
  count : message.question.length < 2 ^ 16
  sound : ∀ question ∈ message.question, question.IsSound
  extension : ∀ extension ∈ message.extension,
    extension.payload < 2 ^ 16 ∧ extension.flags < 2 ^ 32 ∧ extension.options = []
  unlimited : message.room = 0 ∧ message.block = 0

instance (message : Message) : Decidable message.IsPlain :=
  decidable_of_iff ((message.answer = [] ∧ message.authority = [] ∧ message.additional = []) ∧
      (message.id < 2 ^ 16 ∧ message.flags < 2 ^ 16) ∧
      message.flags / 2 ^ 11 % 16 ≠ Reader.update ∧ message.question.length < 2 ^ 16 ∧
      (∀ question ∈ message.question, question.IsSound) ∧
      (∀ extension ∈ message.extension,
        extension.payload < 2 ^ 16 ∧ extension.flags < 2 ^ 32 ∧ extension.options = []) ∧
      message.room = 0 ∧ message.block = 0)
    ⟨fun ⟨⟨answer, authority, additional⟩, ⟨id, flags⟩, opcode, count, sound, extension, unlimited⟩ =>
        ⟨⟨answer, authority, additional⟩, id, flags, opcode, count, sound, extension, unlimited⟩,
      fun ⟨⟨answer, authority, additional⟩, id, flags, opcode, count, sound, extension, unlimited⟩ =>
        ⟨⟨answer, authority, additional⟩, ⟨id, flags⟩, opcode, count, sound, extension, unlimited⟩⟩

theorem IsPlain.eq_of_parts {message : Message} (plain : message.IsPlain) :
    { id := message.id, flags := message.flags, question := message.question,
      extension := message.extension } = message := by
  obtain ⟨⟨answer, authority, additional⟩, -, -, -, -, -, -, room, block⟩ := plain
  cases message
  simp_all

end Message

namespace Reader

theorem reads_question {asked : Question} (sound : asked.IsSound) :
    Reads question asked.plainBytes asked :=
  (reads_name sound.name sound.labels).bind
    ((reads_word sound.type).bind ((reads_word sound.rdclass).bind_end (reads_pure asked)))

theorem reads_questions {list : List Question} (sound : ∀ question ∈ list, question.IsSound)
    {opcode : Nat} (usual : opcode ≠ update) :
    Reads (questions opcode list.length) (list.flatMap Question.plainBytes) list := by
  refine (reads_times fun question member => reads_question (sound question member)).bind_end ?_
  exact (reads_check (by simp [usual])).bind (reads_pure list)

theorem reads_root : Reads name [0] .root := by
  have whole : Name.root.IsWhole := by decide
  exact reads_name whole (by simp [Name.root])

theorem reads_head {content : Bytes} {asked : Head} (named : Reads name content asked.name)
    (type : asked.type < 2 ^ 16) (rdclass : asked.rdclass < 2 ^ 16) (ttl : asked.ttl < 2 ^ 32)
    (length : asked.length < 2 ^ 16) :
    Reads head (content ++ (Bytes.ofNat 2 asked.type ++ (Bytes.ofNat 2 asked.rdclass ++
      (Bytes.ofNat 4 asked.ttl ++ Bytes.ofNat 2 asked.length)))) asked :=
  named.bind ((reads_word type).bind ((reads_word rdclass).bind ((reads_word ttl).bind
    ((reads_word length).bind_end (reads_pure asked)))))

theorem readsAll_options : ReadsAll options [] [] := by
  intro front back
  have left : left (front ++ [] ++ back).toArray ⟨front.length, front.length⟩ =
      some (0, ⟨front.length, front.length⟩) := by
    change some (front.length - front.length, _) = _
    rw [Nat.sub_self]
  exact bind_run left

theorem reads_extension {message : Message} (first : message.extension = none) (opcode : Nat)
    {payload flags : Nat} (room : payload < 2 ^ 16) (bits : flags < 2 ^ 32) :
    Reads (record .additional opcode message) (Extension.toBytes ⟨payload, flags, []⟩)
      { message with extension := some ⟨payload, flags, []⟩ } := by
  have spelled : (Extension.toBytes ⟨payload, flags, []⟩) = [0] ++ (Bytes.ofNat 2 RecordType.opt ++
      (Bytes.ofNat 2 payload ++ (Bytes.ofNat 4 flags ++ Bytes.ofNat 2 0))) := by
    simp [Extension.toBytes]
  have head : Reads head _ ⟨.root, RecordType.opt, payload, flags, 0⟩ :=
    reads_head reads_root (by decide : RecordType.opt < 2 ^ 16) room bits (by decide : 0 < 2 ^ 16)
  rw [spelled]
  refine head.bind_end ?_
  refine (reads_check rfl).bind ?_
  refine (reads_check (by simp [first, Name.root])).bind ?_
  exact (reads_within readsAll_options).bind (reads_pure _)

theorem reads_additional {asked start : Message} (plain : asked.IsPlain)
    (first : start.extension = none) (opcode : Nat) :
    Reads (records .additional opcode asked.extension.toList.length start)
      ((asked.extension.map Extension.toBytes).getD [])
      { start with extension := asked.extension } := by
  cases found : asked.extension with
  | none =>
    have same : { start with extension := none } = start := by rw [← first]
    rw [same]
    exact reads_pure start
  | some extension =>
    obtain ⟨room, bits, bare⟩ := plain.extension extension found
    obtain ⟨payload, flags, _⟩ := extension
    cases bare
    exact (reads_extension first opcode room bits).bind_end (reads_pure _)

theorem readsAll_end (value : Message) : ReadsAll (do
    let cursor ← getThe Cursor
    check (cursor.position == cursor.stop)
    return value) [] value := by
  intro front back
  change (check (front.length == front.length) >>= fun _ => return value) _ _ = _
  have stopped : (front.length == front.length) = true := beq_self_eq_true _
  exact bind_run (reads_check stopped front back front.length (Nat.le_refl _))

theorem readsAll_message {asked : Message} (plain : asked.IsPlain) :
    ReadsAll message asked.plainBytes asked := by
  obtain ⟨⟨answer, authority, additional⟩, small, flags, opcode, count, sound, -, room, block⟩ :=
    id plain
  have tail : asked.extension.toList.length < 2 ^ 16 := by
    cases asked.extension <;> simp
  have counts : ∀ n ∈ [asked.question.length, 0, 0, asked.extension.toList.length], n < 2 ^ 16 := by
    simp [count, tail]
  have spelled : asked.plainBytes = Bytes.ofNat 2 asked.id ++ (Bytes.ofNat 2 asked.flags ++
      ([asked.question.length, 0, 0, asked.extension.toList.length].flatMap (Bytes.ofNat 2) ++
        (asked.question.flatMap Question.plainBytes ++
          ((asked.extension.map Extension.toBytes).getD [] ++ [])))) := by
    simp [Message.plainBytes, Message.header, answer, authority, additional, Message.recordCount]
  rw [spelled]
  refine (reads_word small).bind_all ((reads_word flags).bind_all ?_)
  refine (reads_times fun n member => reads_word (counts n member)).bind_all ?_
  refine (reads_questions sound opcode).bind_all ?_
  -- The two sections before the extension record are empty.
  refine (reads_pure _).bind_all ((reads_pure _).bind_all ?_)
  refine (reads_additional plain rfl _).bind_all ?_
  rw [plain.eq_of_parts]
  exact readsAll_end asked

end Reader

theorem Message.ofBytes?_plainBytes {message : Message} (plain : message.IsPlain) :
    ofBytes? message.plainBytes = some message := by
  have read := Reader.readsAll_message plain [] []
  simp only [List.nil_append, List.append_nil, List.length_nil, Nat.zero_add] at read
  rw [ofBytes?, Reader.run, read]
  rfl

end Netboot.Dns
