import Mathlib
import Netboot.Proofs.Dns.Answer
import Netboot.Proofs.Dns.Forwarding
import Netboot.Proofs.Dns.HostName
import Netboot.Proofs.Dns.Writer
import Netboot.Proofs.Names.Configured
import Netboot.Proofs.Web.Election

/-! The control plane's name, from the settings over the registrations to the answers that give its
addresses.
-/

set_option autoImplicit false

namespace Netboot.Dns

namespace Responder

variable {responder : Responder} {names : NameStore} {fates : List Fate} {data : Bytes}
  {query : Message} {question : Question} {more : List Question} {nodes : List V4}

def addressReply (responder : Responder) (query : Message) (question : Question)
    (nodes : List V4) : Message :=
  { query.reply with
    flags := query.reply.flags ||| Message.authoritativeFlag
    answer := [.ofV4s question.name responder.ttl nodes] }

theorem answerLocal_v4 (listed : names.resolveV4 question.name.text = nodes) (given : nodes ≠ [])
    (distinct : nodes.Nodup) (type : question.type = RecordType.a) :
    responder.answerLocal names query question =
      if query.isReply then .error .notQuery
      else .ok (responder.addressReply query question nodes) := by
  cases fresh : query.isReply with
  | true =>
    rw [answerLocal, replyTo, fresh]
    rfl
  | false =>
    have some : nodes.map V4.toBytes ≠ [] := by simpa using given
    rw [answerLocal_a fresh type (listed ▸ distinct), listed, sectionOf, if_neg some, type,
      ← RecordSet.ofV4s_eq]
    rfl

/-- The query goes to the forwarders, the first of them at least, and what they answer is the
reply. -/
structure PassesOn (responder : Responder) (fates : List Fate) (query : Message)
    (resolution : Resolution) : Prop where
  asked : resolution.asked = (forward query responder.forwarders fates).1
  first : resolution.asked.head? = responder.forwarders.head?
  reply : resolution.reply = (forward query responder.forwarders fates).2.map some
  outcome : resolution.outcome ≠ some .local

/-- The query is answered with these addresses and goes to no forwarder. On the wire each address
has its record between the questions and the extension, which is all that follows. -/
structure Gives (responder : Responder) (query : Message) (question : Question)
    (more : List Question) (nodes : List V4) (resolution : Resolution) : Prop where
  asked : resolution.asked = []
  outcome : resolution.outcome = some .local
  reply : resolution.reply =
    if query.isReply then .error .notQuery
    else .ok (some (responder.addressReply query question nodes))
  payload : ∀ payload, resolution.payload = .ok payload →
    let reply := responder.addressReply query question nodes
    ∃ others size, (more = [] → others = []) ∧ Message.recordCount reply.answer = nodes.length ∧
      payload = some (reply.header ++
        (plainLabels question.name.labels ++ Bytes.ofNat 2 question.type ++
          Bytes.ofNat 2 question.rdclass ++ others) ++
        nodes.flatMap (addressRecord responder.ttl.toNat) ++ reply.extensionBytes size)

theorem recordCount_addressReply (given : nodes ≠ []) :
    Message.recordCount (responder.addressReply query question nodes).answer = nodes.length := by
  have some : 1 ≤ nodes.length := List.length_pos_iff.mpr given
  simp [Message.recordCount, addressReply, RecordSet.ofV4s, some]

theorem passesOn_of_unknown (decoded : Message.ofBytes? data = some query)
    (asked : query.question = question :: more)
    (unknown : names.knows question.name.text = false) :
    responder.PassesOn fates query (responder.resolve names fates data) := by
  rw [resolve_of_question decoded asked, resolveQuestion_of_unknown unknown]
  exact ⟨rfl, head?_forward _ _ _, rfl, outcome_passedOn_ne _ _⟩

theorem gives_of_known (decoded : Message.ofBytes? data = some query)
    (asked : query.question = question :: more) (named : question.name.labels ≠ [])
    (type : question.type = RecordType.a) (known : names.knows question.name.text = true)
    (listed : names.resolveV4 question.name.text = nodes) (given : nodes ≠ [])
    (distinct : nodes.Nodup) :
    responder.Gives query question more nodes (responder.resolve names fates data) := by
  rw [resolve_of_question decoded asked, resolveQuestion_of_known known,
    answerLocal_v4 listed given distinct type]
  refine ⟨rfl, rfl, by split <;> rfl, fun payload sent => ?_⟩
  obtain ⟨replied, answered, sent⟩ := ok_of_bind sent
  dsimp only at answered
  split at answered
  · cases answered
  cases answered
  obtain ⟨bytes, wrote, sent⟩ := ok_of_bind sent
  cases sent
  have posed : (responder.addressReply query question nodes).question = question :: more := asked
  obtain ⟨others, size, alone, layout⟩ :=
    Message.toBytes_ofV4s posed rfl ⟨rfl, rfl⟩ named given (ok_of_mapError wrote)
  exact ⟨others, size, alone, recordCount_addressReply given, congrArg some layout⟩

end Responder

/-- The control plane's name, over any run of requests. Its addresses are those that were announced,
each once and in the order in which they were announced first, and each was counted. A query for
them, in any letter case, goes to the forwarders as long as there are none, and afterwards is
answered with all of them and nothing else. -/
theorem elected_nodes_answered {σ ε : Type} {vars : Settings.Variables} {settings : Settings}
    {host : HostName} {config : Dispatch.Config}
    (configured : vars.lookup "CONTROLPLANE" = some host.text)
    (read : Settings.ofVariables vars = .ok settings)
    (controlplane : config.controlplane = settings.controlplane)
    (menu : Option String) (app : Dispatch.App σ ε) (state : σ) (before : Nat)
    (requests : List Dispatch.Request) (responder : Responder) :
    let start : NameStore := { registrations := before }
    let names := Dispatch.serve config menu app state start requests
    let nodes := (Dispatch.announcements app state requests).eraseDups
    names.resolveV4 host.text = nodes ∧ names.registrations = before + nodes.length ∧
    ∀ fates data query question more, Message.ofBytes? data = some query →
      query.question = question :: more → question.type = RecordType.a →
      question.rdclass = internet → question.name.same host.name = true →
      let resolution := responder.resolve names fates data
      (nodes = [] → responder.PassesOn fates query resolution) ∧
      (nodes ≠ [] → responder.Gives query question more nodes resolution) := by
  intro start names nodes
  have key : canonicalName config.controlplane = host.key := by
    rw [controlplane, Settings.controlplane_of_ofVariables read, Settings.textOr, configured]
    exact host.canonicalName_absoluteName
  -- Only this name is ever registered, so its addresses are all that the names hold.
  have served : names = .ofNodes before host.key nodes :=
    Dispatch.serve_ofNodes config menu app before key state [] requests
  have distinct : nodes.Nodup := nodup_eraseDups _
  refine ⟨?_, by rw [served]; rfl, fun fates data query question more decoded asked type _ same => ?_⟩
  · rw [served]
    exact NameStore.resolveV4_ofNodes host.canonicalName_text
  have under := host.canonicalName_of_same same
  constructor
  · intro none
    refine Responder.passesOn_of_unknown decoded asked ?_
    rw [served, NameStore.knows_ofNodes under, none]
    rfl
  · intro given
    refine Responder.gives_of_known decoded asked (host.labels_ne_nil_of_same same) type ?_ ?_ given
      distinct
    · rw [served, NameStore.knows_ofNodes under]
      simpa using given
    · rw [served]
      exact NameStore.resolveV4_ofNodes under

def electedHost : HostName where
  labels := ["CP".toList, "Talos".toList]
  dotted := false
  given := by decide
  sound := by
    have all : (["CP".toList, "Talos".toList].all fun label =>
        label ≠ [] && label.length ≤ 63 && label.all isHostChar) = true := by decide
    simpa using all
  short := by decide

def electionSettings : Settings where
  serverRoot := "."
  interface := "eth0"
  staticCidr := "192.168.123.1/24"
  controlplane := "cp.talos."
  tftpRoot := some "./tftp"

theorem electionSettings_read :
    Settings.ofVariables [("CONTROLPLANE", "CP.Talos")] = .ok electionSettings := by
  have name : Settings.absoluteName "CP.Talos" = "cp.talos." := by decide
  rw [ofVariables_controlplane, name]
  rfl

def electionConfig : Dispatch.Config := ⟨"cp.talos.", "192.168.123.1", "8080"⟩

def scripted : Dispatch.App Unit Empty := fun _ _ => (⟨Dispatch.answer 200 [] [], none⟩, ())

def bootRequest (path query : String) : Dispatch.Request :=
  ⟨"http", some path, some (Bytes.ofString query)⟩

def elections : List Dispatch.Request := [
  bootRequest "/ipxe" "type=init&ip=10.0.0.5", bootRequest "/ipxe" "type=worker&ip=10.0.0.6",
  bootRequest "ipxe" "ip=10.0.0.7&type=ControlPlane", bootRequest "/ipxe" "type=init&ip=10.0.0.5"]

def nodeName : Name := ⟨[[0x63, 0x50], [0x74, 0x61, 0x6c, 0x6f, 0x73]], true⟩

def nodeQuestion : Question := ⟨nodeName, RecordType.a, internet⟩

def nodeQuery : Bytes :=
  [0, 1, 1, 0, 0, 1, 0, 0, 0, 0, 0, 0, 2, 0x63, 0x50, 5, 0x74, 0x61, 0x6c, 0x6f, 0x73, 0, 0, 1, 0, 1]

def nodeMessage : Message := { id := 1, flags := 256, question := [nodeQuestion] }

theorem nodeQuery_read : Message.ofBytes? nodeQuery = some nodeMessage := by cbv

def electionResponder : Responder := ⟨[⟨"1.1.1.1", 53⟩], 60⟩

def electedNodes : List V4 := [.ofNat 0x0a000005, .ofNat 0x0a000007]

/-- The control plane's name is looked up before and after two machines elected themselves. -/
theorem elected_nodes_answered_of_two_machines :
    let names := Dispatch.serve electionConfig none scripted () {} elections
    names.resolveV4 "CP.Talos" = electedNodes ∧ names.registrations = 2 ∧
      (electionResponder.resolve {} [] nodeQuery).asked = electionResponder.forwarders ∧
      (electionResponder.resolve names [] nodeQuery).asked = [] ∧
      (electionResponder.resolve names [] nodeQuery).payload = .ok (some (
        [0, 1, 0x85, 0, 0, 1, 0, 2, 0, 0, 0, 0] ++
        [2, 0x63, 0x50, 5, 0x74, 0x61, 0x6c, 0x6f, 0x73, 0, 0, 1, 0, 1] ++
        [0xc0, 12, 0, 1, 0, 1, 0, 0, 0, 60, 0, 4, 10, 0, 0, 5] ++
        [0xc0, 12, 0, 1, 0, 1, 0, 0, 0, 60, 0, 4, 10, 0, 0, 7])) := by
  intro names
  have named : [("CONTROLPLANE", "CP.Talos")].lookup "CONTROLPLANE" = some electedHost.text := rfl
  have nodes : (Dispatch.announcements scripted () elections).eraseDups = electedNodes := by
    decide +kernel
  have same : nodeName.same electedHost.name = true := by decide
  have controlplane : electionConfig.controlplane = electionSettings.controlplane := rfl
  obtain ⟨-, -, unheard⟩ := elected_nodes_answered named electionSettings_read controlplane none
    scripted () 0 [] electionResponder
  obtain ⟨listed, counted, heard⟩ := elected_nodes_answered named electionSettings_read controlplane
    none scripted () 0 elections electionResponder
  rw [nodes] at listed counted heard
  have first := (unheard [] nodeQuery nodeMessage nodeQuestion [] nodeQuery_read rfl rfl rfl same).1 rfl
  have last := (heard [] nodeQuery nodeMessage nodeQuestion [] nodeQuery_read rfl rfl rfl same).2
    (by decide)
  refine ⟨listed, counted, first.asked, last.asked, ?_⟩
  have reply : (electionResponder.resolve names [] nodeQuery).reply =
      .ok (some (electionResponder.addressReply nodeMessage nodeQuestion electedNodes)) := last.reply
  rw [Responder.Resolution.payload, reply]
  decide

end Netboot.Dns
