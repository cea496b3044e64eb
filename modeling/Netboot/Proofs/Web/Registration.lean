import Netboot.Proofs.Web.Dispatch
import Netboot.Proofs.Web.Served

/-! Which requests register a machine under the control plane's name.

Requests for the methods of a path aside, names are added only where the script of a profile is
served.
-/

set_option autoImplicit false

namespace Netboot.Web

variable {store : Profile.Store} {names : NameStore} {request : Request} {response : Response}

def Request.scope (request : Request) : Dispatch.Request :=
  ⟨"http", some request.target, some request.query⟩

/-- The query elects the machine to the control plane and announces the address. -/
def Request.Elects (request : Request) (a : V4) : Prop :=
  ∃ selection, Selection.ofQuery request.query = .ok selection ∧
    selection.role.elects = true ∧ selection.address = some a

theorem app_completed {method host : String} {scope : Dispatch.Request}
    (completed : (app method host store scope).1.failure = none) :
    ∃ response,
      respond store ⟨method, host, scope.path.getD "", scope.query.getD []⟩ = .ok response ∧
      (app method host store scope).1.messages = response.messages := by
  unfold app at completed ⊢
  split at completed
  next response answered => exact ⟨response, answered, rfl⟩
  · cases completed

def scriptHeaders : List (Bytes × Bytes) :=
  [(Bytes.ofString "content-type", Bytes.ofString plainText)]

theorem ofMessages_answer {status : Nat} {headers : List (Bytes × Bytes)} {body : Bytes}
    {type : String}
    (told : (headers.lookup (Bytes.ofString "content-type")).bind Bytes.toString? = some type)
    (bare : headers.lookup (Bytes.ofString "allow") = none) :
    Response.ofMessages (Dispatch.answer status headers body) = ⟨status, type, body, []⟩ := by
  simp only [Response.ofMessages, Dispatch.capture_answer, told, bare]
  rfl

theorem ofMessages_script (status : Nat) (text : String) :
    Response.ofMessages (script status text).messages = script status text := by
  have headers : (script status text).headers = scriptHeaders := rfl
  rw [Response.messages, headers]
  exact ofMessages_answer (by cbv) (by decide)

theorem handle_eq (config : Dispatch.Config) (store : Profile.Store) (names : NameStore)
    (request : Request) :
    handle config store names request =
      let result := (Dispatch.handle config (some config.menu)
        (app request.method request.host) store names request.scope).1
      ⟨match result.failure with
        | some fault => .error fault
        | none => .ok (Response.ofMessages result.sent), result.names, result.outcome⟩ := rfl

theorem handle_names (config : Dispatch.Config) (store : Profile.Store) (names : NameStore)
    (request : Request) :
    (handle config store names request).names = names ∨
      ∃ a response, request.Elects a ∧ Dispatch.isBootPath request.target = true ∧
        respond store request = .ok response ∧ response.status = 200 ∧
        handle config store names request = ⟨.ok (Response.ofMessages response.messages),
          (names.registerAddress config.controlplane (.v4 a)).1, some .relay⟩ := by
  obtain same | ⟨a, registers, handled⟩ := Dispatch.handle_names config (some config.menu)
    (app request.method request.host) store names request.scope
  · exact .inl same
  · obtain ⟨response, answered, sent⟩ := app_completed registers.completed
    refine .inr ⟨a, response, registers.elected, ?_, answered, ?_, ?_⟩
    · have applies := registers.applies
      simpa [Dispatch.applies, Request.scope] using applies
    · have found := registers.answered
      rw [sent, Response.messages, Dispatch.capture_answer] at found
      exact Int.ofNat_inj.mp found
    · rw [sent, Response.messages, Dispatch.capture_answer] at handled
      rw [handle_eq, handled]
      rfl

theorem handle_serves {labels : List (String × String)} {group : Profile.Group} {document : Json} {text : String}
    {a : V4} (config : Dispatch.Config) (names : NameStore)
    (boots : Dispatch.isBootPath request.target = true)
    (fetches : request.verb = "GET" ∨ request.verb = "HEAD")
    (read : Query.labels? request.query = some labels)
    (serves : store.Serves (.ofStrings labels) group document text) (elects : request.Elects a) :
    handle config store names request = ⟨.ok (script 200 text),
      (names.registerAddress config.controlplane (.v4 a)).1, some .relay⟩ := by
  have ran : app request.method request.host store request.scope =
      (⟨(script 200 text).messages, none⟩, store) := by
    simp only [app, Request.scope, Option.getD_some]
    rw [respond_serves boots fetches read serves]
  have registers : Dispatch.Registers (app request.method request.host store request.scope).1
      request.scope a := by
    refine ⟨?_, ?_, ?_, elects⟩
    · simpa [Dispatch.applies, Request.scope] using boots
    · rw [ran]
    · rw [ran, Response.messages, Dispatch.capture_answer]
      rfl
  have handled := Dispatch.handle_of_registers config (some config.menu) names registers
  rw [ran, Response.messages, Dispatch.capture_answer] at handled
  have received := ofMessages_script 200 text
  rw [Response.messages] at received
  rw [handle_eq, handled]
  exact congrArg (Handled.mk · _ _) (congrArg Except.ok received)

/-- The names change only where the script of a profile is the answer, except when the request asks
for the methods of the path. -/
theorem names_change_only_with_served_profile (config : Dispatch.Config) (store : Profile.Store)
    (names : NameStore) (request : Request) (asks : ¬ request.AsksMethods)
    (changed : (handle config store names request).names ≠ names) :
    ∃ labels group document text, Query.labels? request.query = some labels ∧
      store.Serves (.ofStrings labels) group document text ∧
      (handle config store names request).response = .ok (script 200 text) := by
  obtain same | ⟨a, response, -, boots, answered, found, handled⟩ :=
    handle_names config store names request
  · exact absurd same changed
  · obtain ⟨labels, group, document, text, read, serves, rfl⟩ :=
      respond_found boots asks answered found
    refine ⟨labels, group, document, text, read, serves, ?_⟩
    rw [handled, ofMessages_script]

/-! ## One announcement -/

def smallConfig : Dispatch.Config := ⟨"controlplane.talos.", "192.168.123.1", "8080"⟩

def announcement (method type : String) : Request :=
  ⟨method, "", "/ipxe", Bytes.ofString ("type=" ++ type ++ "&ip=10.0.0.5")⟩

def announced : V4 := .ofNat 0x0a000005

theorem announcement_verb : (announcement "GET" "init").verb = "GET" := by decide

theorem announcement_read (method : String) :
    Selection.ofQuery (announcement method "init").query =
      .ok { ip := "10.0.0.5", role := .init } := by
  cbv

theorem announcement_elects (method : String) : (announcement method "init").Elects announced := by
  refine ⟨_, announcement_read method, rfl, ?_⟩
  decide

theorem announcement_labels (method : String) :
    Query.labels? (announcement method "init").query =
      some [("type", "init"), ("ip", "10.0.0.5")] := by
  cbv

theorem handle_announcement {type : String} {labels : List (String × String)}
    (read : Query.labels? (announcement "GET" type).query = some labels)
    (elects : (announcement "GET" type).Elects announced) :
    handle smallConfig nodeStore {} (announcement "GET" type) = ⟨.ok (script 200 nodeScript),
      (({} : NameStore).registerAddress smallConfig.controlplane (.v4 announced)).1,
      some .relay⟩ := by
  have capitals : String.ofList ("GET".toList.flatMap Text.upperAscii) = "GET" := by
    decide
  have fetches : (announcement "GET" type).verb = "GET" := capitals
  exact handle_serves smallConfig {} rfl (.inl fetches) read (nodeStore_serves _) elects

/-- A machine that was served the profile of every machine is registered. -/
theorem names_change_with_node_script :
    ¬ (announcement "GET" "init").AsksMethods ∧
      (handle smallConfig nodeStore {} (announcement "GET" "init")).names ≠ {} ∧
      ∃ labels group document text,
        Query.labels? (announcement "GET" "init").query = some labels ∧
        nodeStore.Serves (.ofStrings labels) group document text ∧
        (handle smallConfig nodeStore {} (announcement "GET" "init")).response =
          .ok (script 200 text) := by
  have asks : ¬ (announcement "GET" "init").AsksMethods := by decide
  have handled := handle_announcement (announcement_labels "GET") (announcement_elects "GET")
  have changed : (handle smallConfig nodeStore {} (announcement "GET" "init")).names ≠ {} := by
    intro same
    rw [handled] at same
    exact absurd (congrArg NameStore.registrations same) (by decide)
  exact ⟨asks, changed, names_change_only_with_served_profile _ _ _ _ asks changed⟩

def emptyStore : Profile.Store := ⟨.dir [], [], 100⟩

/-- A request for the methods of the path registers a machine although the store holds no group, so
that no labels have a script. -/
theorem names_change_with_methods :
    (handle smallConfig emptyStore {} (announcement "OPTIONS" "init")).names.resolveV4
        smallConfig.controlplane = [announced] ∧
      ∀ labels group document text,
        ¬ emptyStore.Serves labels group document text := by
  refine ⟨by decide +kernel, ?_⟩
  intro labels group document text serves
  obtain ⟨groups, read, member⟩ := serves.listed
  have empty : emptyStore.groups = .ok [] := by cbv
  rw [empty] at read
  cases read
  cases member

end Netboot.Web
