import Netboot.Proofs.Dns.Resolution

/-! How many addresses a reply has room for. Every registration under a name adds a record to the answers
for it, but the size of a reply is bounded by what the query allows. So a name that is known is answered
just as long as its records, with the questions and the extension record, stay below that bound.
-/

set_option autoImplicit false

namespace Netboot.Dns

-- Sums of numbers start from the core's zero, whatever algebra a module imports.
attribute [local instance (high)] Zero.ofOfNat0

theorem length_contentRecord (name : Name) (type ttl : Nat) (content : Bytes) :
    (contentRecord name type ttl content).length = (ownerBytes name).length + 10 + content.length := by
  simp only [contentRecord, List.length_append, Bytes.length_ofNat]

theorem length_ownerBytes (name : Name) :
    (ownerBytes name).length = if name.labels = [] then 1 else 2 := by
  unfold ownerBytes
  split
  · rfl
  · exact Bytes.length_ofNat ..

namespace Draft

variable {draft : Draft} {name : Name} {type room : Nat} {ttl : Int} {content : Bytes}
  {contents all : List Bytes}

def fill (name : Name) (type ttl : Nat) (draft : Draft) (contents : List Bytes) : Draft :=
  contents.foldl (fun draft content => draft.add (contentRecord name type ttl content) draft.places)
    draft

theorem size_fill {ttl size : Nat} (even : ∀ content ∈ contents, content.length = size) :
    (fill name type ttl draft contents).size =
      draft.size + contents.length * ((ownerBytes name).length + 10 + size) := by
  induction contents generalizing draft with
  | nil => simp [fill]
  | cons content rest ih =>
    obtain ⟨here, others⟩ := List.forall_mem_cons.mp even
    have later := @ih (draft.add (contentRecord name type ttl content) draft.places) others
    rw [fill] at later ⊢
    rw [List.foldl_cons, later, List.length_cons, Nat.succ_mul]
    simp only [add, length_contentRecord, here]
    omega

section
variable (knows : draft.Knows name) (timed : IsTtl ttl)
include knows timed

theorem addRecord_content (small : content.length ≤ dataLimit) :
    addRecord (.ofContents name type ttl all) draft (.ofContent content) =
      .ok (draft.add (contentRecord name type ttl.toNat content) draft.places) := by
  have lifetime : ttlBytes ttl = .ok (Bytes.ofNat 4 ttl.toNat) := if_pos timed
  simp only [addRecord, head, RecordSet.ofContents, knows.nameBytes, lifetime, bind, Except.bind,
    pure, Except.pure, rdataBytes_ofContent, Option.getD_none, if_neg (Nat.not_lt.mpr small)]
  rfl

theorem foldlM_addRecord (small : ∀ content ∈ contents, content.length ≤ dataLimit) :
    (contents.map Rdata.ofContent).foldlM (addRecord (.ofContents name type ttl all)) draft =
      .ok (fill name type ttl.toNat draft contents) := by
  induction contents generalizing draft with
  | nil => rfl
  | cons content rest ih =>
    obtain ⟨here, others⟩ := List.forall_mem_cons.mp small
    rw [List.map_cons, List.foldlM_cons, addRecord_content knows timed here]
    exact ih knows others

/-- The room is checked behind the last record. -/
theorem addSet_contents (given : contents ≠ [])
    (small : ∀ content ∈ contents, content.length ≤ dataLimit) :
    draft.addSet room (.ofContents name type ttl contents) =
      (fill name type ttl.toNat draft contents).fitting room := by
  have some : ¬ (RecordSet.ofContents name type ttl contents).data.isEmpty = true :=
    fun none => given (List.map_eq_nil_iff.mp (List.isEmpty_iff.mp none))
  rw [addSet, if_neg some]
  change (do (← (contents.map Rdata.ofContent).foldlM _ draft).fitting room) = _
  rw [foldlM_addRecord knows timed small]
  rfl

end

theorem knows_asks {question : Question} (absolute : question.name.absolute = true)
    (more : List Question) : ((question :: more).foldl ask {}).Knows question.name := by
  rw [List.foldl_cons]
  exact (extends_asks more _).knows (knows_ask_first absolute)

end Draft

namespace Message

def replySize (query : Message) (question : Question) (size count : Nat) : Nat :=
  let body := (query.question.foldl Draft.ask {}).size +
    count * ((ownerBytes question.name).length + 10 + size)
  body + (query.reply.extensionBytes body).length

section
variable {query : Message} {question : Question} {more : List Question}

theorem replySize_of_one (alone : query.question = [question])
    (absolute : question.name.absolute = true) (size count : Nat) :
    query.replySize question size count =
      let body := 16 + question.name.size + count * ((ownerBytes question.name).length + 10 + size)
      body + (query.reply.extensionBytes body).length := by
  rw [replySize, alone, List.foldl_cons, List.foldl_nil, Draft.size_ask_first absolute]

/-- A few addresses have room behind one question, whatever its name and the room of the receiver. -/
theorem replySize_le_of_few (alone : query.question = [question]) (whole : question.name.IsWhole)
    {count : Nat} (few : count ≤ 11) : query.replySize question 4 count ≤ query.reply.limit := by
  obtain ⟨absolute, short⟩ := whole
  have owner : (ownerBytes question.name).length ≤ 2 := by
    rw [length_ownerBytes]
    split <;> decide
  -- Eleven records behind the longest name, and the extension record, still make one block.
  have shares : count * ((ownerBytes question.name).length + 10 + 4) ≤ 11 * 16 :=
    Nat.mul_le_mul few (by omega)
  have small : 16 + question.name.size + count * ((ownerBytes question.name).length + 10 + 4) + 15 ≤
      replyBlock := by
    unfold Name.maxSize at short
    unfold replyBlock
    omega
  have block : replyBlock ≤ smallestRoom := by decide
  rw [replySize_of_one alone absolute]
  exact ((endsAsReply_reply query).size_extensionBytes_le small).trans
    (block.trans (smallestRoom_le_limit _))

/-- For as many addresses as this there is no room in any reply. -/
theorem lt_replySize_of_many (posed : query.question = question :: more)
    (absolute : question.name.absolute = true) {count : Nat} (many : 4368 ≤ count) :
    query.reply.limit < query.replySize question 4 count := by
  have bound : query.reply.limit ≤ largestRoom := Nat.min_le_right _ _
  have owner : 1 ≤ (ownerBytes question.name).length := by
    rw [length_ownerBytes]
    split <;> decide
  have shares : 4368 * 15 ≤ count * ((ownerBytes question.name).length + 10 + 4) :=
    Nat.mul_le_mul many (by omega)
  -- Even the root, which is spelled out in every record, is passed by the records themselves.
  have root : 1 ≤ question.name.size := by
    rw [Name.size, if_pos absolute]
    exact Nat.le_add_left _ _
  have first := Draft.size_le_asks more (Draft.ask {} question)
  rw [Draft.size_ask_first absolute] at first
  unfold largestRoom at bound
  rw [replySize, posed, List.foldl_cons]
  omega

end

end Message

namespace Responder

section
variable {responder : Responder} {query : Message} {question : Question} {more : List Question}
  {contents : List Bytes} {size : Nat}

theorem endsAsReply_localReply (query : Message) (answer : List RecordSet) :
    (query.localReply answer).EndsAsReply := by
  obtain ⟨options, block⟩ := Message.endsAsReply_reply query
  exact ⟨options, block⟩

theorem size_filled {type ttl : Nat} (even : ∀ content ∈ contents, content.length = size) :
    let records := Draft.fill question.name type ttl (query.question.foldl Draft.ask {}) contents
    (records.add (query.reply.extensionBytes records.size) records.places).size =
      query.replySize question size contents.length := by
  intro records
  have body : records.size = _ := Draft.size_fill even
  rw [Message.replySize, ← body]
  rfl

section
variable (posed : query.question = question :: more)
  (whole : ∀ question ∈ query.question, question.name.IsWhole)
  (timed : contents ≠ [] → Draft.IsTtl responder.ttl)
  (even : ∀ content ∈ contents, content.length = size) (small : size ≤ Draft.dataLimit)
include posed whole timed even small

/-- The records are written one behind the other, and the size of the whole decides. -/
theorem toBytes_localReply :
    let reply := query.localReply (responder.sectionOf question contents)
    let records := Draft.fill question.name question.type responder.ttl.toNat
      (query.question.foldl Draft.ask {}) contents
    reply.toBytes = (do
      let draft ← (records.add (reply.extensionBytes records.size) records.places).fitting reply.limit
      return reply.header ++ draft.chunks.reverse.flatten) := by
  intro reply records
  have absolute : question.name.absolute = true := by
    refine (whole question ?_).absolute
    rw [posed]
    exact List.mem_cons_self
  have knows := Draft.knows_asks absolute more
  have grown : (query.question.foldl Draft.ask {}).size ≤ records.size := by
    rw [Draft.size_fill even]
    exact Nat.le_add_right _ _
  refine Message.toBytes_of_records whole (endsAsReply_localReply query _).spare grown fun room => ?_
  -- Without data there is no set of records, so both sides are the questions.
  rw [← posed] at knows
  change ((responder.sectionOf question contents ++ [] ++ []).foldlM _ _) = _
  rw [List.append_nil, List.append_nil, sectionOf]
  by_cases none : contents = []
  · rw [if_pos none]
    simp only [records, none]
    exact (Draft.fitting_of_le room).symm
  · rw [if_neg none, List.foldlM_cons]
    simp only [List.foldlM_nil, bind_pure]
    exact Draft.addSet_contents knows (timed none) none
      fun content member => (even content member).trans_le small

end

section
variable {resolution : Resolution}
  (produced : resolution.reply =
    .ok (some (query.localReply (responder.sectionOf question contents))))
  (posed : query.question = question :: more)
include produced posed

theorem isTtl_of_payload {payload : Option Bytes} (sent : resolution.payload = .ok payload) :
    contents ≠ [] → Draft.IsTtl responder.ttl := by
  obtain ⟨bytes, wrote, -⟩ := written_of_payload produced sent
  have asked : (query.localReply (responder.sectionOf question contents)).question =
      question :: more := posed
  exact (Message.toBytes_ofContents asked ⟨rfl, rfl⟩ wrote rfl).1

variable (whole : ∀ question ∈ query.question, question.name.IsWhole)
  (timed : contents ≠ [] → Draft.IsTtl responder.ttl)
  (even : ∀ content ∈ contents, content.length = size) (small : size ≤ Draft.dataLimit)
include whole timed even small

theorem payload_of_le
    (fits : query.replySize question size contents.length ≤ query.reply.limit) :
    ∃ bytes, resolution.payload = .ok (some bytes) := by
  rw [payload_of_produced produced, toBytes_localReply posed whole timed even small,
    Draft.fitting_of_le]
  · exact ⟨_, rfl⟩
  · exact Nat.le_trans (Nat.le_of_eq (size_filled even)) fits

theorem payload_of_lt
    (exceeds : query.reply.limit < query.replySize question size contents.length) :
    resolution.payload = .error (.write .tooBig) := by
  rw [payload_of_produced produced, toBytes_localReply posed whole timed even small,
    Draft.fitting_of_lt]
  · rfl
  · exact Nat.lt_of_lt_of_eq exceeds (size_filled even).symm

end

end

theorem reply_of_known {calls : List NameStore.Call} {responder : Responder} {data : Bytes}
    {query : Message} {question : Question} {more : List Question}
    (decoded : Message.ofBytes? data = some query) (fresh : query.isReply = false)
    (posed : query.question = question :: more) (asks : question.type = RecordType.a)
    (known : (NameStore.empty.after calls).knows question.name.text = true) (fates : List Fate) :
    (responder.resolve (NameStore.empty.after calls) fates data).reply =
      .ok (some (query.localReply (responder.sectionOf question
        (((NameStore.empty.after calls).resolveV4 question.name.text).map V4.toBytes)))) := by
  have distinct := NameStore.nodup_resolveV4_after calls question.name.text
  rw [resolve_of_question decoded posed, resolveQuestion_of_known known,
    answerLocal_a fresh asks distinct]
  rfl

theorem length_toBytes_of_mem {addresses : List V4} :
    ∀ content ∈ addresses.map V4.toBytes, content.length = 4 := by
  intro content member
  obtain ⟨a, -, rfl⟩ := List.mem_map.mp member
  exact V4.length_toBytes a

/-- A query for the IPv4 addresses of a known name, after any registrations. It is answered just when
the time to live of its records can be written and the reply is no larger than the query allows; one that
is too large is a fault, and nothing is sent. A few addresses always have room behind one question, but no
reply has room for all numbers of them. -/
theorem known_name_answered_iff (calls : List NameStore.Call) (responder : Responder)
    (fates : List Fate) {data : Bytes} {query : Message} {question : Question} {more : List Question}
    (decoded : Message.ofBytes? data = some query) (fresh : query.isReply = false)
    (posed : query.question = question :: more) (asks : question.type = RecordType.a)
    (known : (NameStore.empty.after calls).knows question.name.text = true) :
    let addresses := (NameStore.empty.after calls).resolveV4 question.name.text
    let resolution := responder.resolve (NameStore.empty.after calls) fates data
    let size := query.replySize question 4 addresses.length
    ((∃ bytes, resolution.payload = .ok (some bytes)) ↔
      (addresses ≠ [] → Draft.IsTtl responder.ttl) ∧ size ≤ query.reply.limit) ∧
    ((addresses ≠ [] → Draft.IsTtl responder.ttl) → query.reply.limit < size →
      resolution.payload = .error (.write .tooBig)) ∧
    (Draft.IsTtl responder.ttl → more = [] → addresses.length ≤ 11 →
      ∃ bytes, resolution.payload = .ok (some bytes)) ∧
    (4368 ≤ addresses.length → ∃ fault, resolution.payload = .error fault) := by
  intro addresses resolution size
  have whole := Message.isWhole_of_ofBytes? decoded
  have first : question ∈ query.question := by
    rw [posed]
    exact List.mem_cons_self
  have produced : resolution.reply = _ := reply_of_known decoded fresh posed asks known fates
  have even := @length_toBytes_of_mem addresses
  have small : 4 ≤ Draft.dataLimit := by decide
  have given : addresses ≠ [] ↔ addresses.map V4.toBytes ≠ [] := not_congr List.map_eq_nil_iff.symm
  have same : size = query.replySize question 4 (addresses.map V4.toBytes).length := by
    rw [List.length_map]
  rw [given, same]
  -- A payload that is sent had a writable time to live, so room is all that can be missing.
  have fails {payload : Option Bytes} (sent : resolution.payload = .ok payload)
      (exceeds : query.reply.limit < size) : False := by
    have timed := isTtl_of_payload produced posed sent
    cases sent.symm.trans (payload_of_lt produced posed whole timed even small (same ▸ exceeds))
  refine ⟨⟨fun ⟨bytes, sent⟩ => ?_, fun ⟨timed, fits⟩ => ?_⟩, fun timed exceeds => ?_,
    fun inside alone few => ?_, fun many => ?_⟩
  · exact ⟨isTtl_of_payload produced posed sent, Nat.not_lt.mp fun exceeds => fails sent (same ▸ exceeds)⟩
  · exact payload_of_le produced posed whole timed even small fits
  · exact payload_of_lt produced posed whole timed even small exceeds
  · rw [alone] at posed
    have room := Message.replySize_le_of_few posed (whole question first) few
    exact payload_of_le produced posed whole (fun _ => inside) even small (same ▸ room)
  · have exceeds := Message.lt_replySize_of_many posed (whole question first).absolute many
    cases sent : resolution.payload with
    | error fault => exact ⟨fault, rfl⟩
    | ok payload => cases fails sent exceeds

/-- The host has one address, for which there is room. -/
theorem known_name_answered_iff_of_host :
    ∃ bytes, (hostResponder.resolve (NameStore.empty.after hostCalls) []
      (Message.lookup hostName RecordType.a).plainBytes).payload = .ok (some bytes) := by
  have read : Message.ofBytes? (Message.lookup hostName RecordType.a).plainBytes =
      some (Message.lookup hostName RecordType.a) :=
    Message.ofBytes?_plainBytes (by decide)
  have known : (NameStore.empty.after hostCalls).knows hostName.text = true := by decide
  have few : ((NameStore.empty.after hostCalls).resolveV4 hostName.text).length ≤ 11 := by
    decide
  obtain ⟨-, -, short, -⟩ := known_name_answered_iff hostCalls hostResponder [] read (by decide) rfl
    rfl known
  exact short ⟨by decide, by decide⟩ rfl few

def crowdedCalls : List NameStore.Call :=
  (List.range 31).map fun i => .register "n" ("10.0.0." ++ toString (i + 1))

def smallQuery : Message :=
  { Message.lookup hostName RecordType.a with extension := some ⟨512, 0, []⟩ }

/-- The name is known and the query well-formed, but no reply is sent. -/
theorem crowded_name_unanswered :
    Message.ofBytes? smallQuery.plainBytes = some smallQuery ∧ smallQuery.isReply = false ∧
    (NameStore.empty.after crowdedCalls).knows hostName.text = true ∧
    (hostResponder.resolve (NameStore.empty.after crowdedCalls) []
      smallQuery.plainBytes).payload = .error (.write .tooBig) := by
  have read : Message.ofBytes? smallQuery.plainBytes = some smallQuery :=
    Message.ofBytes?_plainBytes (by decide)
  have known : (NameStore.empty.after crowdedCalls).knows hostName.text = true := by decide +kernel
  have count : ((NameStore.empty.after crowdedCalls).resolveV4 hostName.text).length = 31 := by
    decide +kernel
  have produced : (hostResponder.resolve (NameStore.empty.after crowdedCalls) []
      smallQuery.plainBytes).reply = _ := reply_of_known read (by decide) rfl rfl known []
  have exceeds : smallQuery.reply.limit < smallQuery.replySize ⟨hostName, RecordType.a, internet⟩ 4 31 := by
    decide
  refine ⟨read, by decide, known, ?_⟩
  refine payload_of_lt produced rfl (by decide) (fun _ => ⟨by decide, by decide⟩) length_toBytes_of_mem
    (by decide) ?_
  rw [List.length_map, count]
  exact exceeds

end Responder

end Netboot.Dns
