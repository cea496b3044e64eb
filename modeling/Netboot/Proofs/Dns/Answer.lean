import Mathlib.Data.Nat.Bitwise
import Netboot.Proofs.Dns.Address

/-! Replies, and those that give what the store holds. -/

set_option autoImplicit false

namespace Netboot.Dns

namespace Message

/-- A reply repeats the identification and the questions of its query, and tells a result. -/
structure RepliesTo (reply query : Message) (code : Nat) : Prop where
  id : reply.id = query.id
  question : reply.question = query.question
  isReply : reply.isReply = true
  rcode : reply.rcode = code

/-- The sender answers for the name itself. -/
def IsAuthoritative (message : Message) : Prop := message.flags &&& authoritativeFlag ≠ 0

variable {query message : Message} {code : Nat}

theorem isReply_eq (message : Message) : message.isReply = message.flags.testBit 15 := by
  have place : replyFlag = 2 ^ 15 := rfl
  rw [isReply, place, Nat.and_two_pow]
  cases message.flags.testBit 15 <;> rfl

theorem testBit_flags_reply (query : Message) : query.reply.flags.testBit 15 = true := by
  have first : replyFlag.testBit 15 = true := by decide
  simp [reply, Nat.testBit_or, first]

/-- The low bits of a reply's flags are free for the result code. -/
theorem flags_reply_mod (query : Message) : query.reply.flags % 16 = 0 := by
  have mask : ∀ flag, flag % 2 ^ 4 = 0 → (query.flags &&& flag) % 2 ^ 4 = 0 := by
    intro flag clear
    rw [Nat.and_mod_two_pow, clear, Nat.and_zero]
  change (replyFlag ||| (query.flags &&& recursionFlag) ||| (query.flags &&& opcodeMask)) % 2 ^ 4 = 0
  rw [Nat.or_mod_two_pow, Nat.or_mod_two_pow, mask recursionFlag (by decide),
    mask opcodeMask (by decide)]
  rfl

theorem extensionFlags_reply (query : Message) :
    (query.reply.extension.map (·.flags)).getD 0 = 0 := by
  unfold reply
  cases query.extension <;> rfl

theorem repliesTo_withRcode (query : Message) (small : code < 16) :
    (query.reply.withRcode code).RepliesTo query code where
  id := rfl
  question := rfl
  isReply := by
    have set := testBit_flags_reply query
    rw [Nat.testBit_eq_decide_div_mod_eq, decide_eq_true_iff] at set
    rw [isReply_eq, withRcode, Nat.testBit_eq_decide_div_mod_eq, decide_eq_true_iff]
    dsimp only
    omega
  rcode := by
    have extended : ((query.reply.withRcode code).extension.map (·.flags)).getD 0 = 0 :=
      extensionFlags_reply query
    rw [rcode, extended, withRcode]
    dsimp only
    rw [Nat.zero_shiftRight, Nat.zero_and, Nat.add_zero]
    omega

def localReply (query : Message) (answer : List RecordSet) : Message :=
  { query.reply with flags := query.reply.flags ||| authoritativeFlag, answer := answer }

theorem repliesTo_localReply (query : Message) (answer : List RecordSet) :
    (query.localReply answer).RepliesTo query 0 where
  id := rfl
  question := rfl
  isReply := by
    rw [isReply_eq, localReply]
    dsimp only
    rw [Nat.testBit_or, testBit_flags_reply, Bool.true_or]
  rcode := by
    have extended : ((query.localReply answer).extension.map (·.flags)).getD 0 = 0 :=
      extensionFlags_reply query
    have low : (query.reply.flags ||| authoritativeFlag) % 2 ^ 4 = 0 := by
      rw [Nat.or_mod_two_pow]
      change query.reply.flags % 16 ||| 0 = 0
      rw [flags_reply_mod, Nat.zero_or]
    rw [rcode, extended, localReply]
    dsimp only
    rw [Nat.zero_shiftRight, Nat.zero_and, Nat.add_zero]
    exact low

theorem isAuthoritative_localReply (query : Message) (answer : List RecordSet) :
    (query.localReply answer).IsAuthoritative := by
  rw [IsAuthoritative, localReply]
  dsimp only
  rw [Nat.and_or_distrib_right, Nat.and_self]
  exact fun none => absurd (Nat.or_eq_zero_iff.mp none).2 (by decide)

end Message

namespace Responder

variable {responder : Responder} {names : NameStore} {fates : List Fate} {data : Bytes}
  {query reply : Message} {question : Question} {more : List Question}

theorem resolve_of_question (decoded : Message.ofBytes? data = some query)
    (asked : query.question = question :: more) :
    responder.resolve names fates data = responder.resolveQuestion names fates query question := by
  simp only [resolve, decoded, asked]

theorem resolveQuestion_of_known (known : names.knows question.name.text = true) :
    responder.resolveQuestion names fates query question =
      { reply := (responder.answerLocal names query question).map some, outcome := some .local } := by
  rw [resolveQuestion, if_pos known]

theorem answerLocal_ok_iff :
    responder.answerLocal names query question = .ok reply ↔
      query.isReply = false ∧ ∃ values,
        localValues names question.name.text question.type = .ok values ∧
        ((values = [] ∧ reply = query.localReply []) ∨
          values ≠ [] ∧ ∃ records, responder.recordsOf question values = .ok records ∧
            reply = query.localReply [records]) := by
  unfold answerLocal replyTo
  cases query.isReply with
  | true => exact iff_of_false nofun fun both => nomatch both.1
  | false =>
    constructor
    · intro answered
      obtain ⟨empty, fresh, answered⟩ := ok_of_bind answered
      obtain ⟨values, held, answered⟩ := ok_of_bind answered
      cases fresh
      refine ⟨rfl, values, held, ?_⟩
      split at answered
      next none => exact .inl ⟨List.isEmpty_iff.mp none, (Except.ok.inj answered).symm⟩
      next some =>
        obtain ⟨records, made, answered⟩ := ok_of_bind answered
        exact .inr ⟨mt List.isEmpty_iff.mpr some, records, made, (Except.ok.inj answered).symm⟩
    · rintro ⟨-, values, held, ⟨rfl, rfl⟩ | ⟨given, records, made, rfl⟩⟩
      · simp only [bind, Except.bind, held, Bool.false_eq_true]
        rfl
      · have some : ¬ values.isEmpty = true := mt List.isEmpty_iff.mp given
        simp only [bind, Except.bind, held, Bool.false_eq_true, if_neg some, made]
        rfl

def sectionOf (responder : Responder) (question : Question) (contents : List Bytes) :
    List RecordSet :=
  if contents = [] then []
  else [.ofContents question.name question.type responder.ttl contents]

theorem recordCount_sectionOf (contents : List Bytes) :
    Message.recordCount (responder.sectionOf question contents) = contents.length := by
  cases contents with
  | nil => rfl
  | cons content rest => simp [sectionOf, Message.recordCount, RecordSet.ofContents]

section Values
variable {α : Type} {text : α → String} {bytes : α → Bytes} {values : List α}
  (held : localValues names question.name.text question.type = .ok (values.map text))
include held

theorem answerLocal_of_contents (fresh : query.isReply = false)
    (addressed : RecordType.IsAddress question.type)
    (read : ∀ v ∈ values, Rdata.ofText question.type (text v) = .ok (.ofContent (bytes v)))
    (distinct : (values.map bytes).Nodup) :
    responder.answerLocal names query question =
      .ok (query.localReply (responder.sectionOf question (values.map bytes))) := by
  refine answerLocal_ok_iff.mpr ⟨fresh, values.map text, held, ?_⟩
  rw [sectionOf]
  by_cases none : values = []
  · rw [none]
    exact .inl ⟨rfl, rfl⟩
  · have some : values.map text ≠ [] := mt List.map_eq_nil_iff.mp none
    rw [if_neg (mt List.map_eq_nil_iff.mp none)]
    exact .inr ⟨some, _, recordsOf_contents responder question addressed read distinct, rfl⟩

theorem answerLocal_of_unread {v : α} (member : v ∈ values) {cause : ZoneText.Fault}
    (unread : Rdata.ofText question.type (text v) = .error cause) :
    ∃ fault, responder.answerLocal names query question = .error fault := by
  cases answered : responder.answerLocal names query question with
  | error fault => exact ⟨fault, rfl⟩
  | ok reply =>
    obtain ⟨-, listed, same, either⟩ := answerLocal_ok_iff.mp answered
    cases held.symm.trans same
    obtain ⟨none, -⟩ | ⟨-, records, made, -⟩ := either
    · cases List.map_eq_nil_iff.mp none ▸ member
    · obtain ⟨fault, refused⟩ := recordsOf_of_unread responder question member unread
      cases refused.symm.trans made

end Values

theorem answerLocal_a (fresh : query.isReply = false) (asks : question.type = RecordType.a)
    (distinct : (names.resolveV4 question.name.text).Nodup) :
    responder.answerLocal names query question = .ok (query.localReply
      (responder.sectionOf question ((names.resolveV4 question.name.text).map V4.toBytes))) := by
  have held : localValues names question.name.text question.type =
      .ok ((names.resolveV4 question.name.text).map (·.text)) := by
    rw [asks]
    rfl
  exact answerLocal_of_contents held fresh (.inl asks) (fun a _ => asks ▸ Rdata.ofText_v4 a)
    (nodup_toBytes_v4 distinct)

theorem localValues_aaaa (names : NameStore) (asks : question.type = RecordType.aaaa) :
    localValues names question.name.text question.type =
      .ok ((names.resolveV6 question.name.text).map (·.text)) := by
  rw [asks]
  rfl

theorem answerLocal_aaaa (fresh : query.isReply = false) (asks : question.type = RecordType.aaaa)
    (distinct : (names.resolveV6 question.name.text).Nodup)
    (unzoned : ∀ a ∈ names.resolveV6 question.name.text, a.zone = none) :
    responder.answerLocal names query question = .ok (query.localReply
      (responder.sectionOf question ((names.resolveV6 question.name.text).map V6.toBytes))) :=
  answerLocal_of_contents (localValues_aaaa names asks) fresh (.inr asks)
    (fun a member => asks ▸ Rdata.ofText_v6 (unzoned a member)) (nodup_toBytes_v6 distinct unzoned)

theorem answerLocal_of_zoned (asks : question.type = RecordType.aaaa)
    (zoned : ∃ a ∈ names.resolveV6 question.name.text, a.zone ≠ none) :
    ∃ fault, responder.answerLocal names query question = .error fault := by
  obtain ⟨a, member, zoned⟩ := zoned
  obtain ⟨zone, found⟩ := Option.ne_none_iff_exists'.mp zoned
  obtain ⟨cause, unread⟩ := Rdata.ofText_zoned found
  exact answerLocal_of_unread (localValues_aaaa names asks) member (asks ▸ unread)

end Responder

end Netboot.Dns
