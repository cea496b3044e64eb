import Netboot.Proofs.Dns.Resolution

/-! Local answers and the question they answer. Their records have the name and the type in question, but
always the class of the Internet. So they match the question only where that asks for this class, though
the reply repeats any other class and is authoritative.
-/

set_option autoImplicit false

namespace Netboot.Dns

structure RecordSet.Matches (records : RecordSet) (question : Question) : Prop where
  name : records.name = question.name
  type : records.type = question.type
  rdclass : records.deleting.getD records.rdclass = question.rdclass

theorem RecordSet.IsAbout.matches_iff {records : RecordSet} {question : Question} {ttl : Int}
    (about : records.IsAbout question.name question.type ttl) :
    records.Matches question ↔ question.rdclass = internet := by
  constructor
  · rintro ⟨-, -, same⟩
    rw [← same, about.rdclass]
  · intro asks
    exact ⟨about.name, about.type, about.rdclass.trans asks.symm⟩

namespace Responder

section
variable {responder : Responder} {names : NameStore} {query reply : Message} {question : Question}
  {values : List String} {records : RecordSet}

theorem isAbout_of_recordsOf (given : values ≠ [])
    (made : responder.recordsOf question values = .ok records) :
    records.IsAbout question.name question.type responder.ttl := by
  obtain ⟨list, covers, read, -, rfl⟩ := (recordsOf_ok_iff responder question given).mp made
  refine ⟨rfl, rfl, rfl, rfl, RecordSet.gathered_ne_nil ?_⟩
  rintro rfl
  cases values with
  | nil => contradiction
  | cons value rest =>
    obtain ⟨data, others, -, -, none⟩ := mapM_cons_ok_iff.mp read
    cases none

theorem isAbout_of_answerLocal (answered : responder.answerLocal names query question = .ok reply) :
    ∃ sets, reply = query.localReply sets ∧
      (∀ records ∈ sets, records.IsAbout question.name question.type responder.ttl) ∧
      (sets = [] ↔ localValues names question.name.text question.type = .ok []) := by
  obtain ⟨-, values, held, ⟨rfl, rfl⟩ | ⟨given, records, made, rfl⟩⟩ := answerLocal_ok_iff.mp answered
  · exact ⟨[], rfl, nofun, iff_of_true rfl held⟩
  · refine ⟨[records], rfl, ?_, iff_of_false (List.cons_ne_nil _ _) fun none => ?_⟩
    · intro set member
      rw [List.mem_singleton.mp member]
      exact isAbout_of_recordsOf given made
    · cases held.symm.trans none
      exact given rfl

end

def hostQuestion (rdclass : Nat) : Question := ⟨hostName, RecordType.a, rdclass⟩

def hostQuery (rdclass : Nat) : Message :=
  { id := 1, flags := Message.recursionFlag, question := [hostQuestion rdclass] }

theorem knows_hostQuestion (rdclass : Nat) :
    (NameStore.empty.after hostCalls).knows (hostQuestion rdclass).name.text = true := by
  change (NameStore.empty.after hostCalls).knows hostName.text = true
  decide

theorem reply_hostQuery {rdclass : Nat} (plain : (hostQuery rdclass).IsPlain) :
    (hostResponder.resolve (NameStore.empty.after hostCalls) [] (hostQuery rdclass).plainBytes).reply =
      .ok (some ((hostQuery rdclass).localReply
        (hostResponder.sectionOf (hostQuestion rdclass) [[10, 0, 0, 9]]))) := by
  have fresh : (hostQuery rdclass).isReply = false := by
    change (Message.recursionFlag &&& Message.replyFlag != 0) = false
    decide
  have listed : ((NameStore.empty.after hostCalls).resolveV4 hostName.text).map V4.toBytes =
      [[10, 0, 0, 9]] := by
    decide
  have answered : hostResponder.answerLocal (NameStore.empty.after hostCalls) (hostQuery rdclass)
      (hostQuestion rdclass) = .ok ((hostQuery rdclass).localReply (hostResponder.sectionOf
        (hostQuestion rdclass)
        (((NameStore.empty.after hostCalls).resolveV4 hostName.text).map V4.toBytes))) :=
    answerLocal_a fresh rfl (NameStore.nodup_resolveV4_after hostCalls _)
  rw [resolve_of_question (Message.ofBytes?_plainBytes plain) rfl,
    resolveQuestion_of_known (knows_hostQuestion rdclass), answered, listed]
  rfl

/-- The records of a local answer, whatever the store holds. All of them have the name and the type in
question, in the reply and in its bytes, but the class of the Internet. They match the question just when
that is the class it asks for, or when there are none. -/
theorem local_answer_matches_iff (names : NameStore) (responder : Responder) (fates : List Fate)
    {data : Bytes} {query reply : Message} {question : Question} {more : List Question}
    (decoded : Message.ofBytes? data = some query) (posed : query.question = question :: more)
    (known : names.knows question.name.text = true)
    (produced : (responder.resolve names fates data).reply = .ok (some reply)) :
    reply.RepliesTo query 0 ∧ reply.IsAuthoritative ∧
    (∀ records ∈ reply.answer, records.IsAbout question.name question.type responder.ttl) ∧
    ((∀ records ∈ reply.answer, records.Matches question) ↔
      question.rdclass = internet ∨ reply.answer = []) ∧
    (reply.answer = [] ↔ localValues names question.name.text question.type = .ok []) ∧
    ∀ payload, (responder.resolve names fates data).payload = .ok payload →
      ∃ contents others size,
        List.Forall₂ Rdata.IsSpelled (reply.answer.flatMap (·.data)) contents ∧
        (more = [] → others = []) ∧ payload = some (reply.header ++
          (plainLabels question.name.labels ++ Bytes.ofNat 2 question.type ++
            Bytes.ofNat 2 question.rdclass ++ others) ++
          contents.flatMap (contentRecord question.name question.type responder.ttl.toNat) ++
          reply.extensionBytes size) := by
  have answered : responder.answerLocal names query question = .ok reply := by
    rw [resolve_of_question decoded posed, resolveQuestion_of_known known] at produced
    cases answered : responder.answerLocal names query question with
    | error fault => simp [answered, Except.map] at produced
    | ok found => simpa [answered, Except.map] using produced
  obtain ⟨sets, rfl, about, none⟩ := isAbout_of_answerLocal answered
  refine ⟨query.repliesTo_localReply sets, query.isAuthoritative_localReply sets, about, ?_, none, ?_⟩
  · constructor
    · intro all
      -- All sets have the same class, so the first speaks for them.
      cases sets with
      | nil => exact .inr rfl
      | cons records rest =>
        have first := List.mem_cons_self (a := records) (l := rest)
        exact .inl ((about records first).matches_iff.mp (all records first))
    · rintro (asks | empty) records member
      · exact (about records member).matches_iff.mpr asks
      · rw [empty] at member
        cases member
  · intro payload sent
    obtain ⟨bytes, wrote, rfl⟩ := written_of_payload produced sent
    have asked : (query.localReply sets).question = question :: more := posed
    obtain ⟨-, contents, others, size, spelled, alone, layout⟩ :=
      Message.toBytes_of_isAbout asked ⟨rfl, rfl⟩ wrote about
    exact ⟨contents, others, size, spelled, alone, congrArg some layout⟩

/-- An Internet query for the host: the one record that is given matches. -/
theorem local_answer_matches_iff_of_host :
    ∃ reply, (hostResponder.resolve (NameStore.empty.after hostCalls) []
        (hostQuery internet).plainBytes).reply = .ok (some reply) ∧
      reply.answer ≠ [] ∧ ∀ records ∈ reply.answer, records.Matches (hostQuestion internet) := by
  have plain : (hostQuery internet).IsPlain := by decide
  have produced := reply_hostQuery plain
  obtain ⟨-, -, -, matched, -⟩ := local_answer_matches_iff (NameStore.empty.after hostCalls)
    hostResponder [] (Message.ofBytes?_plainBytes plain) rfl (knows_hostQuestion internet) produced
  exact ⟨_, produced, List.cons_ne_nil _ _, matched.mpr (.inl rfl)⟩

def chaos : Nat := 3

/-- A query in another class is answered with a record of the Internet. -/
theorem chaos_query_mismatched :
    Message.ofBytes? (hostQuery chaos).plainBytes = some (hostQuery chaos) ∧
    (NameStore.empty.after hostCalls).knows (hostQuestion chaos).name.text = true ∧
    ∃ reply, (hostResponder.resolve (NameStore.empty.after hostCalls) []
        (hostQuery chaos).plainBytes).reply = .ok (some reply) ∧
      ∃ records ∈ reply.answer, ¬ records.Matches (hostQuestion chaos) := by
  have plain : (hostQuery chaos).IsPlain := by decide
  refine ⟨Message.ofBytes?_plainBytes plain, knows_hostQuestion chaos, _, reply_hostQuery plain, _,
    List.mem_cons_self, ?_⟩
  rintro ⟨-, -, rdclass⟩
  exact absurd rdclass (by decide)

end Responder

end Netboot.Dns
