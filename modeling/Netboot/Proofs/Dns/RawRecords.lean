import Netboot.Proofs.Dns.Answer
import Netboot.Proofs.Dns.Plain
import Netboot.Proofs.Names.Calls

/-! Raw records in local answers. A record has a place in the answer if all lines of its type under the
name are read and are about one type; of some types the last line takes the place of the others. For
the types of addresses no line is read, so their records are given only where an address says the same.
-/

set_option autoImplicit false

namespace Netboot.Dns.Responder

def wordOf (line : String) : String :=
  .ofList ((Text.cut? ' ' line.toList).getD (line.toList, [])).1

/-- The data behind it. -/
def valueOf (line : String) : String :=
  .ofList (Text.strip ((Text.cut? ' ' line.toList).getD (line.toList, [])).2)

def names? (type : Nat) (line : String) : Bool :=
  decide (RecordType.ofText? (wordOf line) = .ok (some type))

/-- The line is a record of the type with these data. -/
structure States (line : String) (type : Nat) (record : Rdata) : Prop where
  word : RecordType.ofText? (wordOf line) = .ok (some type)
  data : Rdata.ofText type (valueOf line) = .ok record

/-- The lines make up a set of one type in which the record has a place. -/
structure Agree (lines : List String) (type : Nat) (record : Rdata) : Prop where
  words : ∀ line ∈ lines, ∃ found, RecordType.ofText? (wordOf line) = .ok found
  values : ∀ line ∈ lines.filter (names? type), ∃ data,
    Rdata.ofText type (valueOf line) = .ok data ∧ data.covers type = record.covers type
  last : RecordType.singletons.contains type = true → ∃ line data,
    (lines.filter (names? type)).getLast? = some line ∧
      Rdata.ofText type (valueOf line) = .ok data ∧ data.same record = true

section
variable {type : Nat} {lines values : List String} {line : String} {record : Rdata}

theorem rawValues_cons (type : Nat) (line : String) (rest : List String) :
    rawValues type (line :: rest) = (do
      let found ← (RecordType.ofText? (wordOf line)).mapError .type
      let values ← rawValues type rest
      return if found = some type then valueOf line :: values else values) := rfl

theorem names?_of_word {found : Option Nat} (word : RecordType.ofText? (wordOf line) = .ok found) :
    names? type line = decide (found = some type) := by
  rw [names?, word]
  exact decide_eq_decide.mpr ⟨Except.ok.inj, congrArg Except.ok⟩

/-- The values are those of the lines that name the type, if every line has a word for some type or for
none. -/
theorem rawValues_ok_iff : rawValues type lines = .ok values ↔
    (∀ line ∈ lines, ∃ found, RecordType.ofText? (wordOf line) = .ok found) ∧
      values = (lines.filter (names? type)).map valueOf := by
  induction lines generalizing values with
  | nil => exact ⟨fun same => ⟨nofun, (Except.ok.inj same).symm⟩, fun ⟨_, same⟩ => same ▸ rfl⟩
  | cons line rest ih =>
    rw [rawValues_cons, List.forall_mem_cons, List.filter_cons]
    have kept {found : Option Nat} (word : RecordType.ofText? (wordOf line) = .ok found) :
        (if names? type line = true then line :: rest.filter (names? type)
          else rest.filter (names? type)).map valueOf =
        if found = some type then valueOf line :: (rest.filter (names? type)).map valueOf
          else (rest.filter (names? type)).map valueOf := by
      rw [apply_ite (List.map valueOf), List.map_cons, names?_of_word word]
      simp only [decide_eq_true_eq]
    constructor
    · intro read
      obtain ⟨found, word, read⟩ := ok_of_bind read
      obtain ⟨others, later, read⟩ := ok_of_bind read
      obtain ⟨words, rfl⟩ := ih.mp later
      have word := ok_of_mapError word
      refine ⟨⟨⟨found, word⟩, words⟩, ?_⟩
      rw [kept word]
      exact (Except.ok.inj read).symm
    · rintro ⟨⟨⟨found, word⟩, words⟩, same⟩
      rw [same, kept word, word, ih.mpr ⟨words, rfl⟩]
      rfl

theorem mem_filter_names? (member : line ∈ lines) (states : States line type record) :
    line ∈ lines.filter (names? type) :=
  List.mem_filter.mpr ⟨member, by rw [names?_of_word states.word, decide_eq_true_eq]⟩

/-- A record whose line stands among others is in the set made of them just when they agree. -/
theorem agree_iff (member : line ∈ lines) (states : States line type record) :
    Agree lines type record ↔
      (∀ line ∈ lines, ∃ found, RecordType.ofText? (wordOf line) = .ok found) ∧
      ∃ list covers, ((lines.filter (names? type)).map valueOf).mapM (Rdata.ofText type) = .ok list ∧
        (∀ data ∈ list, data.covers type = covers) ∧
        (RecordSet.gathered type list).any (·.same record) = true := by
  have chosen := mem_filter_names? member states
  -- The record itself is among those that are read, since its line is.
  have own {list : List Rdata}
      (read : ((lines.filter (names? type)).map valueOf).mapM (Rdata.ofText type) = .ok list) :
      record ∈ list := by
    obtain ⟨data, among, same⟩ := ok_of_mapM read (List.mem_map_of_mem chosen)
    cases states.data.symm.trans same
    exact among
  constructor
  · rintro ⟨words, values, last⟩
    have each : ∀ value ∈ (lines.filter (names? type)).map valueOf, ∃ data,
        Rdata.ofText type value = .ok data ∧ data.covers type = record.covers type := by
      intro value listed
      obtain ⟨line, among, rfl⟩ := List.mem_map.mp listed
      exact values line among
    obtain ⟨list, read, covers⟩ := exists_mapM_of_ok each
    refine ⟨words, list, _, read, covers, ?_⟩
    -- Of a singleton type the last line displaces all before it, of another every record stays.
    cases single : RecordType.singletons.contains type with
    | true =>
      obtain ⟨line, data, ended, stated, same⟩ := last single
      have ended : ((lines.filter (names? type)).map valueOf).getLast? = some (valueOf line) := by
        rw [List.getLast?_map, ended]
        rfl
      obtain ⟨found, final, given⟩ := getLast?_of_mapM read ended
      cases stated.symm.trans given
      rw [RecordSet.gathered_of_singleton single, final]
      simpa using same
    | false =>
      rw [RecordSet.any_same_gathered single]
      exact List.any_eq_true.mpr ⟨record, own read, Rdata.same_iff.mpr rfl⟩
  · rintro ⟨words, list, covers, read, agree, held⟩
    refine ⟨words, fun line among => ?_, fun single => ?_⟩
    · obtain ⟨data, listed, stated⟩ := ok_of_mapM read (List.mem_map_of_mem among)
      exact ⟨data, stated, (agree data listed).trans (agree record (own read)).symm⟩
    · have given : lines.filter (names? type) ≠ [] := List.ne_nil_of_mem chosen
      have ended := List.getLast?_eq_some_getLast given
      have final : ((lines.filter (names? type)).map valueOf).getLast? =
          some (valueOf ((lines.filter (names? type)).getLast given)) := by
        rw [List.getLast?_map, ended]
        rfl
      obtain ⟨data, last, stated⟩ := getLast?_of_mapM read final
      rw [RecordSet.gathered_of_singleton single, last] at held
      exact ⟨_, data, ended, stated, by simpa using held⟩

end

/-- Among the answers stands a record with these data, with the name, type and class in question and the
time to live of this responder. -/
def Carries (responder : Responder) (question : Question) (reply : Message) (record : Rdata) : Prop :=
  ∃ records ∈ reply.answer, (records.name = question.name ∧ records.type = question.type ∧
    records.rdclass = internet ∧ records.ttl = responder.ttl) ∧
    records.data.any (·.same record) = true

/-- The name is answered from here, with the record and all addresses of the type in question. -/
def Delivers (responder : Responder) (names : NameStore) (question : Question) (record : Rdata)
    (resolution : Resolution) : Prop :=
  ∃ reply, resolution.reply = .ok (some reply) ∧ Carries responder question reply record ∧
    (question.type = RecordType.a → ∀ a ∈ names.resolveV4 question.name.text,
      Carries responder question reply (.ofV4 a)) ∧
    (question.type = RecordType.aaaa → ∀ a ∈ names.resolveV6 question.name.text,
      Carries responder question reply (.ofV6 a))

section
variable {responder : Responder} {names : NameStore} {fates : List Fate} {query reply : Message}
  {question : Question} {record : Rdata} {resolution : Resolution} {contents : List Bytes}

theorem carries_sectionOf : Carries responder question
      (query.localReply (responder.sectionOf question contents)) record ↔
    ∃ content ∈ contents, (Rdata.ofContent content).same record = true := by
  rw [Carries, Message.localReply, sectionOf]
  by_cases none : contents = []
  · rw [if_pos none, none]
    simp
  · rw [if_neg none]
    simp [RecordSet.ofContents]

theorem carries_singleton {records : RecordSet} (name : records.name = question.name)
    (type : records.type = question.type) (rdclass : records.rdclass = internet)
    (ttl : records.ttl = responder.ttl) :
    Carries responder question (query.localReply [records]) record ↔
      records.data.any (·.same record) = true := by
  rw [Carries, Message.localReply]
  simp [name, type, rdclass, ttl]

theorem delivers_iff (known : names.knows question.name.text = true) :
    Delivers responder names question record
        (responder.resolveQuestion names fates query question) ↔
      ∃ reply, responder.answerLocal names query question = .ok reply ∧
        Carries responder question reply record ∧
        (question.type = RecordType.a → ∀ a ∈ names.resolveV4 question.name.text,
          Carries responder question reply (.ofV4 a)) ∧
        (question.type = RecordType.aaaa → ∀ a ∈ names.resolveV6 question.name.text,
          Carries responder question reply (.ofV6 a)) := by
  rw [resolveQuestion_of_known known, Delivers]
  cases responder.answerLocal names query question with
  | error fault => simp [Except.map]
  | ok found => simp [Except.map]

theorem delivers_contents_iff (known : names.knows question.name.text = true)
    (answered : responder.answerLocal names query question =
      .ok (query.localReply (responder.sectionOf question contents)))
    (v4 : question.type = RecordType.a →
      contents = (names.resolveV4 question.name.text).map V4.toBytes)
    (v6 : question.type = RecordType.aaaa →
      contents = (names.resolveV6 question.name.text).map V6.toBytes) :
    Delivers responder names question record
        (responder.resolveQuestion names fates query question) ↔
      ∃ content ∈ contents, (Rdata.ofContent content).same record = true := by
  have given {content : Bytes} (listed : content ∈ contents) : Carries responder question
      (query.localReply (responder.sectionOf question contents)) (.ofContent content) :=
    carries_sectionOf.mpr ⟨content, listed, Rdata.same_iff.mpr rfl⟩
  rw [delivers_iff known, answered]
  constructor
  · rintro ⟨reply, same, carried, -⟩
    rw [← Except.ok.inj same] at carried
    exact carries_sectionOf.mp carried
  · intro held
    refine ⟨_, rfl, carries_sectionOf.mpr held, fun asks a member => ?_, fun asks a member => ?_⟩
    · exact given (v4 asks ▸ List.mem_map_of_mem member)
    · exact given (v6 asks ▸ List.mem_map_of_mem member)

theorem delivers_a_iff (known : names.knows question.name.text = true)
    (fresh : query.isReply = false) (asks : question.type = RecordType.a)
    (distinct : (names.resolveV4 question.name.text).Nodup) :
    Delivers responder names question record
        (responder.resolveQuestion names fates query question) ↔
      ∃ a ∈ names.resolveV4 question.name.text, (Rdata.ofV4 a).same record = true := by
  rw [delivers_contents_iff known (answerLocal_a fresh asks distinct) (fun _ => rfl)
    fun other => nomatch asks.symm.trans other]
  simp only [List.mem_map, exists_exists_and_eq_and]
  rfl

theorem delivers_aaaa_iff (known : names.knows question.name.text = true)
    (fresh : query.isReply = false) (asks : question.type = RecordType.aaaa)
    (distinct : (names.resolveV6 question.name.text).Nodup) :
    Delivers responder names question record
        (responder.resolveQuestion names fates query question) ↔
      (∀ a ∈ names.resolveV6 question.name.text, a.zone = none) ∧
        ∃ a ∈ names.resolveV6 question.name.text, (Rdata.ofV6 a).same record = true := by
  by_cases unzoned : ∀ a ∈ names.resolveV6 question.name.text, a.zone = none
  · rw [delivers_contents_iff known (answerLocal_aaaa fresh asks distinct unzoned)
      (fun other => nomatch asks.symm.trans other) fun _ => rfl, and_iff_right unzoned]
    simp only [List.mem_map, exists_exists_and_eq_and]
    rfl
  · have zoned : ∃ a ∈ names.resolveV6 question.name.text, a.zone ≠ none := by
      simpa using unzoned
    obtain ⟨fault, failed⟩ := @answerLocal_of_zoned responder names query question asks zoned
    rw [delivers_iff known, failed]
    exact iff_of_false (fun ⟨_, same, _⟩ => nomatch same) fun both => unzoned both.1

theorem delivers_raw_iff {line : String} (known : names.knows question.name.text = true)
    (fresh : query.isReply = false) (other : ¬ RecordType.IsAddress question.type)
    (member : line ∈ names.rawRecords question.name.text)
    (states : States line question.type record) :
    Delivers responder names question record
        (responder.resolveQuestion names fates query question) ↔
      Agree (names.rawRecords question.name.text) question.type record := by
  have held : localValues names question.name.text question.type =
      rawValues question.type (names.rawRecords question.name.text) := by
    rw [localValues, if_neg fun asks => other (.inl asks), if_neg fun asks => other (.inr asks)]
  have given : ((names.rawRecords question.name.text).filter (names? question.type)).map valueOf ≠ [] :=
    List.ne_nil_of_mem (List.mem_map_of_mem (mem_filter_names? member states))
  rw [delivers_iff known, agree_iff member states]
  constructor
  · rintro ⟨reply, answered, carried, -⟩
    obtain ⟨-, values, read, either⟩ := answerLocal_ok_iff.mp answered
    obtain ⟨words, same⟩ := rawValues_ok_iff.mp (held.symm.trans read)
    obtain ⟨none, -⟩ | ⟨some, records, made, rfl⟩ := either
    · exact absurd (same.symm.trans none) given
    · obtain ⟨list, covers, read, agree, rfl⟩ := (recordsOf_ok_iff responder question some).mp made
      rw [carries_singleton rfl rfl rfl rfl] at carried
      exact ⟨words, list, covers, same ▸ read, agree, carried⟩
  · rintro ⟨words, list, covers, read, agree, carried⟩
    have made := (recordsOf_ok_iff responder question given).mpr ⟨list, covers, read, agree, rfl⟩
    refine ⟨_, answerLocal_ok_iff.mpr ⟨fresh, _, held.trans (rawValues_ok_iff.mpr ⟨words, rfl⟩),
      .inr ⟨given, _, made, rfl⟩⟩, (carries_singleton rfl rfl rfl rfl).mpr carried, ?_, ?_⟩
    · exact fun asks => absurd (.inl asks) other
    · exact fun asks => absurd (.inr asks) other

end

/-- A raw record among any registrations, and the answer for its name and type. Of a type of addresses
it is given only where an address was registered that says the same, and of any other type just when the
lines of that type agree. -/
theorem raw_record_answered_iff (calls : List NameStore.Call) (responder : Responder)
    (fates : List Fate) {data : Bytes} {query : Message} {question : Question} {more : List Question}
    {name line : String} {record : Rdata} (decoded : Message.ofBytes? data = some query)
    (fresh : query.isReply = false) (asked : query.question = question :: more)
    (registered : .registerRaw name line ∈ calls)
    (named : canonicalName name = canonicalName question.name.text)
    (states : States line question.type record) :
    let names := NameStore.empty.after calls
    let resolution := responder.resolve names fates data
    resolution.asked = [] ∧
    (question.type = RecordType.a → (Delivers responder names question record resolution ↔
      ∃ a ∈ names.resolveV4 question.name.text, (Rdata.ofV4 a).same record = true)) ∧
    (question.type = RecordType.aaaa → (Delivers responder names question record resolution ↔
      (∀ a ∈ names.resolveV6 question.name.text, a.zone = none) ∧
        ∃ a ∈ names.resolveV6 question.name.text, (Rdata.ofV6 a).same record = true)) ∧
    (¬ RecordType.IsAddress question.type → (Delivers responder names question record resolution ↔
      Agree (names.rawRecords question.name.text) question.type record)) := by
  intro names resolution
  have member := NameStore.mem_rawRecords_after registered named
  have known := NameStore.knows_of_mem_rawRecords member
  have resolved : resolution = responder.resolveQuestion names fates query question :=
    resolve_of_question decoded asked
  rw [resolved]
  refine ⟨?_, fun asks => ?_, fun asks => ?_, fun other => ?_⟩
  · rw [resolveQuestion_of_known known]
  · exact delivers_a_iff known fresh asks (NameStore.nodup_resolveV4_after calls _)
  · exact delivers_aaaa_iff known fresh asks (NameStore.nodup_resolveV6_after calls _)
  · exact delivers_raw_iff known fresh other member states

def rawCalls : List NameStore.Call :=
  [.registerRaw "n" "A 10.0.0.9", .registerRaw "N." "txt  talos", .registerRaw "n." "TXT \"a b\""]

def rawName : Name := ⟨[[0x6e]], true⟩

def talosText : Rdata := .ofContent [5, 0x74, 0x61, 0x6c, 0x6f, 0x73]

theorem raw_record_answered_iff_of_text :
    Delivers ⟨[], 60⟩ (NameStore.empty.after rawCalls) ⟨rawName, 16, internet⟩ talosText
      (Responder.resolve ⟨[], 60⟩ (NameStore.empty.after rawCalls) []
        (Message.lookup rawName 16).plainBytes) := by
  have read : Message.ofBytes? (Message.lookup rawName 16).plainBytes =
      some (Message.lookup rawName 16) :=
    Message.ofBytes?_plainBytes (by decide)
  have registered : .registerRaw "N." "txt  talos" ∈ rawCalls := by decide
  have states : States "txt  talos" 16 talosText := ⟨by decide, by decide +kernel⟩
  have other : States "TXT \"a b\"" 16 (.ofContent [3, 0x61, 0x20, 0x62]) :=
    ⟨by decide, by decide +kernel⟩
  have lines : (NameStore.empty.after rawCalls).rawRecords rawName.text =
      ["A 10.0.0.9", "txt  talos", "TXT \"a b\""] := by
    decide
  have texts : ["A 10.0.0.9", "txt  talos", "TXT \"a b\""].filter (names? 16) =
      ["txt  talos", "TXT \"a b\""] := by
    decide
  obtain ⟨-, -, -, agreed⟩ := raw_record_answered_iff rawCalls ⟨[], 60⟩ [] read rfl rfl registered
    (by decide) states
  refine (agreed (by decide)).mpr ?_
  rw [lines]
  refine ⟨?_, ?_, nofun⟩
  · intro line member
    simp only [List.mem_cons, List.not_mem_nil, or_false] at member
    obtain rfl | rfl | rfl := member
    · exact ⟨some 1, by decide⟩
    · exact ⟨_, states.word⟩
    · exact ⟨_, other.word⟩
  · intro line member
    dsimp only at member
    rw [texts] at member
    simp only [List.mem_cons, List.not_mem_nil, or_false] at member
    obtain rfl | rfl := member
    · exact ⟨_, states.data, rfl⟩
    · exact ⟨_, other.data, rfl⟩

/-- The address that a raw record states is not in the answer, though the name is known for it. -/
theorem raw_address_unanswered :
    .registerRaw "n" "A 10.0.0.9" ∈ rawCalls ∧
    States "A 10.0.0.9" RecordType.a (.ofV4 (.ofNat 0x0a000009)) ∧
    Message.ofBytes? (Message.lookup rawName RecordType.a).plainBytes =
      some (Message.lookup rawName RecordType.a) ∧
    (Responder.resolve ⟨[], 60⟩ (NameStore.empty.after rawCalls) []
      (Message.lookup rawName RecordType.a).plainBytes).reply =
        .ok (some ((Message.lookup rawName RecordType.a).localReply [])) := by
  have read : Message.ofBytes? (Message.lookup rawName RecordType.a).plainBytes =
      some (Message.lookup rawName RecordType.a) :=
    Message.ofBytes?_plainBytes (by decide)
  let question : Question := ⟨rawName, RecordType.a, internet⟩
  have known : (NameStore.empty.after rawCalls).knows question.name.text = true := by decide
  have none : (NameStore.empty.after rawCalls).resolveV4 question.name.text = [] := by decide
  have distinct : ((NameStore.empty.after rawCalls).resolveV4 question.name.text).Nodup :=
    NameStore.nodup_resolveV4_after rawCalls _
  refine ⟨by decide, ⟨by decide, by decide +kernel⟩, read, ?_⟩
  rw [resolve_of_question read rfl, resolveQuestion_of_known known,
    answerLocal_a rfl rfl distinct, none]
  rfl

end Netboot.Dns.Responder
