import Netboot.Proofs.Dns.Answer
import Netboot.Proofs.Dns.Forwarding
import Netboot.Proofs.Dns.Plain
import Netboot.Proofs.Names.Calls

/-! What becomes of a datagram. A query for a name that is registered is answered from here, any other
goes to the forwarders, and the reply is sent if it fits.
-/

set_option autoImplicit false

namespace Netboot.Dns.Responder

section
variable {responder : Responder} {names : NameStore} {fates : List Fate} {query reply : Message}
  {question : Question} {more : List Question} {resolution : Resolution} {code : Nat}

/-- The query is answered from here, with a record for each of these data and no other. On the wire
they stand behind the questions. -/
structure Answers (responder : Responder) (query : Message) (question : Question)
    (more : List Question) (contents : List Bytes) (reply : Message)
    (resolution : Resolution) : Prop where
  asked : resolution.asked = []
  outcome : resolution.outcome = some .local
  produced : resolution.reply = .ok (some reply)
  repliesTo : reply.RepliesTo query 0
  authoritative : reply.IsAuthoritative
  answer : reply.answer = responder.sectionOf question contents
  bare : reply.authority = [] ∧ reply.additional = []
  count : Message.recordCount reply.answer = contents.length
  sent : ∀ payload, resolution.payload = .ok payload →
    (contents ≠ [] → Draft.IsTtl responder.ttl) ∧
    ∃ others size, (more = [] → others = []) ∧ payload = some (reply.header ++
      (plainLabels question.name.labels ++ Bytes.ofNat 2 question.type ++
        Bytes.ofNat 2 question.rdclass ++ others) ++
      contents.flatMap (contentRecord question.name question.type responder.ttl.toNat) ++
      reply.extensionBytes size)

/-- The reply tells a result and nothing else. It is sent if its questions leave room for the extension
record, as one question does. -/
structure Reports (query : Message) (code : Nat) (reply : Message)
    (resolution : Resolution) : Prop where
  produced : resolution.reply = .ok (some reply)
  repliesTo : reply.RepliesTo query code
  bare : reply.IsBare
  sent : reply.Fits → ∃ bytes, resolution.payload = .ok (some bytes)
  lost : ¬ reply.Fits → resolution.payload = .error (.write .tooBig)
  short : query.question.length ≤ 1 → reply.Fits

theorem payload_of_produced (produced : resolution.reply = .ok (some reply)) :
    resolution.payload = (reply.toBytes.mapError Fault.write).map some := by
  rw [Resolution.payload, produced]
  change (do return some (← reply.toBytes.mapError Fault.write)) = _
  cases reply.toBytes <;> rfl

theorem written_of_payload {payload : Option Bytes} (produced : resolution.reply = .ok (some reply))
    (sent : resolution.payload = .ok payload) :
    ∃ bytes, reply.toBytes = .ok bytes ∧ payload = some bytes := by
  rw [payload_of_produced produced] at sent
  cases wrote : reply.toBytes with
  | error fault =>
    rw [wrote] at sent
    cases sent
  | ok bytes =>
    rw [wrote] at sent
    exact ⟨bytes, rfl, (Except.ok.inj sent).symm⟩

theorem reports_of_produced (small : code < 16)
    (whole : ∀ question ∈ query.question, question.name.IsWhole)
    (produced : resolution.reply = .ok (some (query.reply.withRcode code))) :
    Reports query code (query.reply.withRcode code) resolution := by
  have bare : (query.reply.withRcode code).IsBare := ⟨rfl, rfl, rfl⟩
  have ends : (query.reply.withRcode code).EndsAsReply := by
    obtain ⟨options, block⟩ := Message.endsAsReply_reply query
    exact ⟨options, block⟩
  refine ⟨produced, Message.repliesTo_withRcode query small, bare, fun fits => ?_, fun exceeds => ?_, ?_⟩
  · obtain ⟨bytes, wrote⟩ := Message.toBytes_of_fits bare whole ends.spare fits
    refine ⟨bytes, ?_⟩
    rw [payload_of_produced produced, wrote]
    rfl
  · rw [payload_of_produced produced, Message.toBytes_of_not_fits bare whole ends.spare exceeds]
    rfl
  · exact fun short => ends.fits_of_short rfl short whole

theorem answers_of_contents {contents : List Bytes} (posed : query.question = question :: more)
    (known : names.knows question.name.text = true)
    (answered : responder.answerLocal names query question =
      .ok (query.localReply (responder.sectionOf question contents))) :
    ∃ reply, Answers responder query question more contents reply
      (responder.resolveQuestion names fates query question) := by
  rw [resolveQuestion_of_known known, answered]
  refine ⟨_, rfl, rfl, rfl, query.repliesTo_localReply _, query.isAuthoritative_localReply _, rfl,
    ⟨rfl, rfl⟩, recordCount_sectionOf _, fun payload sent => ?_⟩
  obtain ⟨written, wrote, rfl⟩ := written_of_payload rfl sent
  have asked : (query.localReply (responder.sectionOf question contents)).question =
      question :: more := posed
  obtain ⟨inside, others, size, alone, layout⟩ :=
    Message.toBytes_ofContents asked ⟨rfl, rfl⟩ wrote rfl
  exact ⟨inside, others, size, alone, congrArg some layout⟩

end

/-- What a datagram leads to, over any registrations. One that is no message is dropped, and a query
without a question is refused. A known name is answered from here with all addresses of the type in
question, unless one of them has a zone. Any other name is asked of the forwarders one after another,
up to the first that does not fail, and a query that all of them fail is answered with a failure. -/
theorem datagram_resolved (calls : List NameStore.Call) (responder : Responder) (fates : List Fate)
    (data : Bytes) :
    let names := NameStore.empty.after calls
    let resolution := responder.resolve names fates data
    (Message.ofBytes? data = none → resolution.asked = [] ∧ resolution.payload = .ok none ∧
      resolution.outcome = some .malformed) ∧
    ∀ query, Message.ofBytes? data = some query → query.isReply = false →
      (query.question = [] → resolution.asked = [] ∧
        ∃ reply, Reports query Message.formatError reply resolution) ∧
      ∀ question more, query.question = question :: more →
        (names.knows question.name.text = true →
          (question.type = RecordType.a → ∃ reply, Answers responder query question more
            ((names.resolveV4 question.name.text).map V4.toBytes) reply resolution) ∧
          (question.type = RecordType.aaaa →
            ((∀ a ∈ names.resolveV6 question.name.text, a.zone = none) →
              ∃ reply, Answers responder query question more
                ((names.resolveV6 question.name.text).map V6.toBytes) reply resolution) ∧
            ((∃ a ∈ names.resolveV6 question.name.text, a.zone ≠ none) →
              resolution.asked = [] ∧ resolution.outcome = some .local ∧
                ∃ fault, resolution.reply = .error fault))) ∧
        (names.knows question.name.text = false →
          (∀ place result, place < responder.forwarders.length →
            (∀ i < place, resultAt fates i = none) → resultAt fates place = some result →
              resolution = passedOn (responder.forwarders.take (place + 1)) result) ∧
          ((∀ i < responder.forwarders.length, resultAt fates i = none) →
            resolution.asked = responder.forwarders ∧ resolution.outcome = some .servfail ∧
              ∃ reply, Reports query Message.serverFailure reply resolution)) := by
  intro names resolution
  refine ⟨fun malformed => ?_, fun query decoded fresh => ⟨fun unasked => ?_, ?_⟩⟩
  · have dropped : resolution = { reply := .ok none, outcome := some .malformed } := by
      simp only [resolution, resolve, malformed]
    rw [dropped]
    exact ⟨rfl, rfl, rfl⟩
  · have whole := Message.isWhole_of_ofBytes? decoded
    have refused : resolution =
        { reply := .ok (some (query.reply.withRcode Message.formatError)) } := by
      simp only [resolution, resolve, decoded, unasked, replyTo, fresh]
      rfl
    rw [refused]
    exact ⟨rfl, _, reports_of_produced (by decide) whole rfl⟩
  intro question more posed
  -- From here on there is a first question, and whether its name is known decides.
  have whole := Message.isWhole_of_ofBytes? decoded
  have resolved : resolution = responder.resolveQuestion names fates query question :=
    resolve_of_question decoded posed
  rw [resolved]
  have distinctV4 := NameStore.nodup_resolveV4_after calls question.name.text
  have distinctV6 := NameStore.nodup_resolveV6_after calls question.name.text
  refine ⟨fun known => ⟨fun asks => ?_, fun asks => ⟨fun unzoned => ?_, fun zoned => ?_⟩⟩,
    fun unknown => ⟨?_, ?_⟩⟩
  · exact answers_of_contents posed known (answerLocal_a fresh asks distinctV4)
  · exact answers_of_contents posed known (answerLocal_aaaa fresh asks distinctV6 unzoned)
  · obtain ⟨fault, failed⟩ := @answerLocal_of_zoned responder names query question asks zoned
    rw [resolveQuestion_of_known known, failed]
    exact ⟨rfl, rfl, fault, rfl⟩
  · intro place result listed earlier answers
    rw [resolveQuestion_of_unknown unknown, forward_of_result listed earlier answers]
  · intro failed
    have reported : (replyTo query).map (·.withRcode Message.serverFailure) =
        .ok (query.reply.withRcode Message.serverFailure) := by
      rw [replyTo, fresh]
      rfl
    -- What is told of the outcome is read off the reply's own code.
    have code : (query.reply.withRcode Message.serverFailure).rcode = Message.serverFailure :=
      (query.repliesTo_withRcode (by decide)).rcode
    rw [resolveQuestion_of_unknown unknown, forward_of_failures failed, reported]
    refine ⟨rfl, ?_, _, reports_of_produced (by decide) whole rfl⟩
    simp only [passedOn, Except.toOption, Option.map_some, if_pos code]

def hostCalls : List NameStore.Call :=
  [.register "n" "fd00::5", .register "N." "10.0.0.9", .register " n. " "fd00::6"]

def hostResponder : Responder := ⟨[⟨"10.0.0.1", 53⟩, ⟨"10.0.0.2", 5353⟩], 60⟩

def hostName : Name := ⟨[[0x4e]], true⟩

def strangerName : Name := ⟨[[0x6d]], true⟩

def strangerReply : Message :=
  { id := 1, flags := 0x8183, question := [⟨strangerName, RecordType.a, internet⟩] }

/-- A registered name in another case, and one that is not registered: once the second forwarder
answers, and once none does. -/
theorem datagram_resolved_of_host :
    let names := NameStore.empty.after hostCalls
    let host := Message.lookup hostName RecordType.aaaa
    let stranger := Message.lookup strangerName RecordType.a
    (∃ reply, Answers hostResponder host ⟨hostName, RecordType.aaaa, internet⟩ []
      [[0xfd, 0, 0, 0, 0, 0, 0, 0, 0, 0, 0, 0, 0, 0, 0, 5],
        [0xfd, 0, 0, 0, 0, 0, 0, 0, 0, 0, 0, 0, 0, 0, 0, 6]] reply
      (hostResponder.resolve names [] host.plainBytes)) ∧
    hostResponder.resolve names [.lost, .replied strangerReply.plainBytes] stranger.plainBytes =
      passedOn hostResponder.forwarders (.ok strangerReply) ∧
    (hostResponder.resolve names [] stranger.plainBytes).asked = hostResponder.forwarders ∧
    ∃ bytes, (hostResponder.resolve names [] stranger.plainBytes).payload = .ok (some bytes) := by
  intro names host stranger
  have hostRead : Message.ofBytes? host.plainBytes = some host :=
    Message.ofBytes?_plainBytes (by decide)
  have strangerRead : Message.ofBytes? stranger.plainBytes = some stranger :=
    Message.ofBytes?_plainBytes (by decide)
  have replyRead : Message.ofBytes? strangerReply.plainBytes = some strangerReply :=
    Message.ofBytes?_plainBytes (by decide)
  have known : names.knows hostName.text = true := by decide
  have unknown : names.knows strangerName.text = false := by decide
  have unzoned : ∀ a ∈ names.resolveV6 hostName.text, a.zone = none := by decide
  have listed : (names.resolveV6 hostName.text).map V6.toBytes =
      [[0xfd, 0, 0, 0, 0, 0, 0, 0, 0, 0, 0, 0, 0, 0, 0, 5],
        [0xfd, 0, 0, 0, 0, 0, 0, 0, 0, 0, 0, 0, 0, 0, 0, 6]] := by
    decide
  have second : resultAt [.lost, .replied strangerReply.plainBytes] 1 = some (.ok strangerReply) := by
    rw [resultAt]
    change (Message.ofBytes? strangerReply.plainBytes).map Except.ok = _
    rw [replyRead]
    rfl
  obtain ⟨-, asked⟩ := datagram_resolved hostCalls hostResponder [] host.plainBytes
  obtain ⟨-, answered⟩ := asked host hostRead (by decide)
  obtain ⟨here, -⟩ := answered _ [] rfl
  obtain ⟨-, addresses⟩ := here known
  obtain ⟨reply, answers⟩ := (addresses rfl).1 unzoned
  refine ⟨⟨reply, listed ▸ answers⟩, ?_, ?_⟩
  · obtain ⟨-, asked⟩ := datagram_resolved hostCalls hostResponder
      [.lost, .replied strangerReply.plainBytes] stranger.plainBytes
    obtain ⟨-, answered⟩ := asked stranger strangerRead (by decide)
    obtain ⟨-, elsewhere⟩ := answered _ [] rfl
    exact (elsewhere unknown).1 1 _ (by decide) (by decide) second
  · obtain ⟨-, asked⟩ := datagram_resolved hostCalls hostResponder [] stranger.plainBytes
    obtain ⟨-, answered⟩ := asked stranger strangerRead (by decide)
    obtain ⟨-, elsewhere⟩ := answered _ [] rfl
    obtain ⟨all, -, reply, reports⟩ := (elsewhere unknown).2 (by decide)
    exact ⟨all, reports.sent (reports.short (by decide))⟩

def fullName (a b c d : UInt8) : Name :=
  ⟨[.replicate 63 a, .replicate 63 b, .replicate 63 c, .replicate 61 d], true⟩

def crowdedQuery : Message where
  id := 1
  flags := 256
  question := [⟨fullName 0x61 0x62 0x63 0x64, RecordType.a, internet⟩,
    ⟨fullName 0x65 0x66 0x67 0x68, RecordType.a, internet⟩]
  extension := some ⟨512, 0, []⟩

/-- Two long questions leave no room for the failure that is to be reported. -/
theorem crowded_query_unanswered :
    Message.ofBytes? crowdedQuery.plainBytes = some crowdedQuery ∧ crowdedQuery.isReply = false ∧
    ((⟨[], 60⟩ : Responder).resolve .empty [] crowdedQuery.plainBytes).payload =
      .error (.write .tooBig) := by
  have read : Message.ofBytes? crowdedQuery.plainBytes = some crowdedQuery :=
    Message.ofBytes?_plainBytes (by decide)
  have produced : ((⟨[], 60⟩ : Responder).resolve .empty [] crowdedQuery.plainBytes).reply =
      .ok (some (crowdedQuery.reply.withRcode Message.serverFailure)) := by
    rw [resolve_of_question read rfl, resolveQuestion_of_unknown (by decide)]
    rfl
  have exceeds : (crowdedQuery.reply.withRcode Message.serverFailure).toBytes = .error .tooBig := by
    decide +kernel
  refine ⟨read, by decide, ?_⟩
  rw [payload_of_produced produced, exceeds]
  rfl

end Netboot.Dns.Responder
