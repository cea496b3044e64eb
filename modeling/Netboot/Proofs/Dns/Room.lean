import Netboot.Proofs.Dns.Reader
import Netboot.Proofs.Dns.Writer

/-! Which messages without records fit the room of their receiver: those whose questions leave room
for the extension record. One question always does, since names are short.
-/

set_option autoImplicit false

namespace Netboot.Dns

-- Sums of numbers start from the core's zero, whatever algebra a module imports.
attribute [local instance (high)] Zero.ofOfNat0

theorem length_plainLabels (labels : List Label) :
    (plainLabels labels).length = Name.size ⟨labels, true⟩ := by
  have each : (labels.flatMap labelBytes).length =
      (labels.map fun label => label.length + 1).sum := by
    rw [List.length_flatMap]
    rfl
  rw [plainLabels, List.length_append, each]
  rfl

namespace Draft

variable {draft : Draft} {room : Nat} {question : Question}

theorem fitting_of_le (fits : draft.size ≤ room) : draft.fitting room = .ok draft := if_pos fits

theorem fitting_of_lt (exceeds : room < draft.size) : draft.fitting room = .error .tooBig :=
  if_neg (Nat.not_le.mpr exceeds)

theorem size_le_asks (questions : List Question) (draft : Draft) :
    draft.size ≤ (questions.foldl ask draft).size := by
  induction questions generalizing draft with
  | nil => exact Nat.le_refl _
  | cons question rest ih => exact Nat.le_trans (Nat.le_add_right _ _) (ih (draft.ask question))

theorem foldlM_addQuestion {questions : List Question} (start : draft.size ≤ room)
    (whole : ∀ question ∈ questions, question.name.IsWhole) :
    questions.foldlM (fun draft question => do (← Draft.addQuestion draft question).fitting room)
        draft =
      (questions.foldl ask draft).fitting room := by
  induction questions generalizing draft with
  | nil => exact (fitting_of_le start).symm
  | cons question rest ih =>
    obtain ⟨first, others⟩ := List.forall_mem_cons.mp whole
    rw [List.foldlM_cons, addQuestion_of_absolute first.absolute, List.foldl_cons]
    change (do let next ← (draft.ask question).fitting room; rest.foldlM _ next) = _
    by_cases fits : (draft.ask question).size ≤ room
    · rw [fitting_of_le fits]
      exact ih fits others
    · have exceeds := Nat.not_le.mp fits
      rw [fitting_of_lt exceeds, fitting_of_lt (Nat.lt_of_lt_of_le exceeds (size_le_asks rest _))]
      rfl

theorem extends_asks (questions : List Question) (draft : Draft) :
    draft.Extends (questions.foldl ask draft) := by
  induction questions generalizing draft with
  | nil => exact .refl draft
  | cons question rest ih => exact (extends_ask draft question).trans (ih (draft.ask question))

theorem size_ask_first (absolute : question.name.absolute = true) :
    (ask {} question).size = 16 + question.name.size := by
  obtain ⟨⟨labels, rooted⟩, type, rdclass⟩ := question
  obtain rfl : rooted = true := absolute
  have full : (linkedLabels [] 12 labels).1.length = Name.size ⟨labels, true⟩ := by
    rw [linkedLabels_of_longer (by simp), length_plainLabels]
  simp only [ask, add, List.length_append, Bytes.length_ofNat]
  omega

end Draft

namespace Extension

theorem length_toBytes (extension : Extension) :
    extension.toBytes.length = 11 + (extension.options.flatMap optionBytes).length := by
  simp only [toBytes, List.length_append, Bytes.length_ofNat, List.length_singleton]

theorem length_padded (extension : Extension) (block size : Nat) :
    (extension.padded block size).toBytes.length = extension.toBytes.length + 4 +
      (block - (size + (extension.toBytes.length + 4)) % block) % block := by
  have size : (extension.padded block size).toBytes.length = _ := length_toBytes _
  rw [size, padded, length_toBytes extension]
  simp only [List.flatMap_append, List.flatMap_cons, List.flatMap_nil, List.append_nil,
    List.length_append, optionBytes, Bytes.length_ofNat, List.length_replicate]
  omega

end Extension

namespace Message

structure IsBare (message : Message) : Prop where
  answer : message.answer = []
  authority : message.authority = []
  additional : message.additional = []

/-- The questions of a message with the extension record behind them. -/
def bareDraft (message : Message) : Draft :=
  let questions := message.question.foldl Draft.ask {}
  questions.add (message.extensionBytes questions.size) questions.places

/-- Without records the message is no larger than it may be. -/
def Fits (message : Message) : Prop := message.bareDraft.size ≤ message.limit

variable {message query : Message}

theorem smallestRoom_le_limit (message : Message) : smallestRoom ≤ message.limit :=
  Nat.le_min.mpr ⟨Nat.le_max_right _ _, by decide⟩

theorem reserve_le (message : Message) (size : Nat) :
    message.reserve ≤ (message.extensionBytes size).length := by
  unfold reserve extensionBytes
  split
  · exact Nat.le_refl 0
  · split
    · exact Nat.le_refl _
    · rw [Extension.length_padded]
      exact Nat.le_add_right _ _

/-- What is kept free for the extension record never decides, since that takes no less. -/
theorem toBytes_of_records {records : Draft}
    (whole : ∀ question ∈ message.question, question.name.IsWhole)
    (spare : 12 + message.reserve ≤ message.limit)
    (grown : (message.question.foldl Draft.ask {}).size ≤ records.size)
    (filled : (message.question.foldl Draft.ask {}).size ≤ message.limit - message.reserve →
      (message.answer ++ message.authority ++ message.additional).foldlM
          (Draft.addSet (message.limit - message.reserve)) (message.question.foldl Draft.ask {}) =
        records.fitting (message.limit - message.reserve)) :
    message.toBytes = (do
      let draft ← (records.add (message.extensionBytes records.size) records.places).fitting
        message.limit
      return message.header ++ draft.chunks.reverse.flatten) := by
  have start : ({} : Draft).size ≤ message.limit - message.reserve := Nat.le_sub_of_add_le spare
  have least := message.reserve_le records.size
  have size : (records.add (message.extensionBytes records.size) records.places).size =
    records.size + (message.extensionBytes records.size).length := rfl
  rw [toBytes, Draft.foldlM_addQuestion start whole]
  -- Where the first check fails, the last one would have failed too.
  by_cases room : (message.question.foldl Draft.ask {}).size ≤ message.limit - message.reserve
  · rw [Draft.fitting_of_le room]
    change ((message.answer ++ message.authority ++ message.additional).foldlM
      (Draft.addSet (message.limit - message.reserve)) (message.question.foldl Draft.ask {}) >>= _) = _
    rw [filled room]
    by_cases fits : records.size ≤ message.limit - message.reserve
    · rw [Draft.fitting_of_le fits]
      rfl
    · rw [Draft.fitting_of_lt (Nat.not_le.mp fits), Draft.fitting_of_lt (by omega)]
      rfl
  · rw [Draft.fitting_of_lt (Nat.not_le.mp room), Draft.fitting_of_lt (by omega)]
    rfl

section
variable (bare : message.IsBare)
  (whole : ∀ question ∈ message.question, question.name.IsWhole)
  (spare : 12 + message.reserve ≤ message.limit)
include bare whole spare

theorem toBytes_of_bare : message.toBytes = (do
    let draft ← message.bareDraft.fitting message.limit
    return message.header ++ draft.chunks.reverse.flatten) := by
  refine toBytes_of_records whole spare (Nat.le_refl _) fun room => ?_
  rw [bare.answer, bare.authority, bare.additional]
  exact (Draft.fitting_of_le room).symm

theorem toBytes_of_fits (fits : message.Fits) : ∃ bytes, message.toBytes = .ok bytes := by
  rw [toBytes_of_bare bare whole spare, Draft.fitting_of_le fits]
  exact ⟨_, rfl⟩

theorem toBytes_of_not_fits (exceeds : ¬ message.Fits) : message.toBytes = .error .tooBig := by
  rw [toBytes_of_bare bare whole spare, Draft.fitting_of_lt (Nat.not_le.mp exceeds)]
  rfl

end

/-! ## Replies -/

/-- What stands at the end of replies: an extension record without options, or none. The size is that
of whole blocks, if it is that of blocks at all. -/
structure EndsAsReply (message : Message) : Prop where
  options : ∀ extension, message.extension = some extension → extension.options = []
  block : message.block = 0 ∨ message.block = replyBlock

theorem endsAsReply_reply (query : Message) : query.reply.EndsAsReply where
  options := by
    intro extension found
    obtain ⟨-, -, rfl⟩ := Option.map_eq_some_iff.mp found
    rfl
  block := by
    unfold reply
    dsimp only
    split
    · exact .inr rfl
    · exact .inl rfl

namespace EndsAsReply

theorem length_toBytes (ends : message.EndsAsReply) {extension : Extension}
    (found : message.extension = some extension) : extension.toBytes.length = 11 := by
  rw [Extension.length_toBytes, ends.options extension found]
  rfl

theorem reserve_le (ends : message.EndsAsReply) : message.reserve ≤ 15 := by
  unfold reserve
  split
  · exact Nat.zero_le _
  next found =>
    rw [ends.length_toBytes found]
    split <;> decide

theorem spare (ends : message.EndsAsReply) : 12 + message.reserve ≤ message.limit := by
  have least := smallestRoom_le_limit message
  have kept := ends.reserve_le
  unfold smallestRoom at least
  omega

/-- Questions of less than a block stay within one, padded or not. -/
theorem size_extensionBytes_le (ends : message.EndsAsReply) {size : Nat}
    (small : size + 15 ≤ replyBlock) :
    size + (message.extensionBytes size).length ≤ replyBlock := by
  unfold extensionBytes
  split
  · exact Nat.le_of_add_right_le small
  next found =>
    split
    · rw [ends.length_toBytes found]
      omega
    next padded =>
      rw [Extension.length_padded, ends.length_toBytes found, ends.block.resolve_left padded]
      unfold replyBlock at small ⊢
      omega

theorem fits_of_size (ends : message.EndsAsReply)
    (small : (message.question.foldl Draft.ask {}).size + 15 ≤ replyBlock) : message.Fits := by
  have within : message.bareDraft.size ≤ replyBlock := ends.size_extensionBytes_le small
  have block : replyBlock ≤ smallestRoom := by decide
  exact Nat.le_trans within (Nat.le_trans block (smallestRoom_le_limit message))

theorem fits_of_short (ends : message.EndsAsReply) {questions : List Question}
    (asked : message.question = questions) (short : questions.length ≤ 1)
    (whole : ∀ question ∈ questions, question.name.IsWhole) : message.Fits := by
  refine ends.fits_of_size ?_
  rw [asked]
  match questions, short with
  | [], _ => decide
  | [question], _ =>
    obtain ⟨absolute, size⟩ := whole question List.mem_cons_self
    have first := Draft.size_ask_first absolute
    unfold Name.maxSize at size
    unfold replyBlock
    rw [List.foldl_cons, List.foldl_nil]
    omega

end EndsAsReply

end Message

end Netboot.Dns
