import Netboot.Proofs.Names
import Netboot.Proofs.Query
import Netboot.Proofs.Web.Registration

/-! The machine that is registered is the one that the labels describe.

The labels select the profile, and a reading of its own tells whether a machine is registered, and
with which address. The two agree up to the letter case and the blank ends of the type, as long as
the query does not contradict itself.
-/

set_option autoImplicit false

namespace Netboot

def Role.folded (text : String) : String := .ofList (Text.lower (Text.strip text.toList))

theorem Role.folded_of_elects {text : String} (elects : (Role.parse text).elects = true) :
    Role.folded text = "init" ∨ Role.folded text = "controlplane" := by
  unfold Role.parse at elects
  split at elects
  next named => exact .inl named
  next named => exact .inr named
  · cases elects
  · cases elects

namespace Web

variable {request : Request} {a : V4}

/-- No two fields of the query contradict each other on the type of the machine or its address. -/
def Request.Consistent (request : Request) : Prop :=
  ∀ fields, Query.pairs request.query = .ok fields →
    Query.Agrees fields "type" ∧ Query.Agrees fields "ip"

theorem Request.Elects.labels (elects : request.Elects a) (consistent : request.Consistent) :
    ∃ labels type ip, Query.labels? request.query = some labels ∧
      labels.lookup "type" = some type ∧
      (Role.folded type = "init" ∨ Role.folded type = "controlplane") ∧
      labels.lookup "ip" = some ip ∧ V4.parse? ip = some a := by
  obtain ⟨selection, selected, elected, announced⟩ := elects
  cases read : Query.pairs request.query with
  | error fault =>
    rw [Selection.ofQuery, read] at selected
    cases selected
  | ok fields =>
    rw [Selection.ofQuery, read] at selected
    cases selected
    simp only [Selection.ofPairs] at elected
    simp only [Selection.address, Selection.ofPairs] at announced
    obtain ⟨types, addresses⟩ := consistent fields read
    -- No empty text names a role or an address, so there are fields with both keys.
    have typed : Query.lastValue fields "type" ≠ "" := by
      intro empty
      rw [empty] at elected
      exact absurd elected (by decide)
    have addressed : Query.lastValue fields "ip" ≠ "" := by
      intro empty
      have unparsed : V4.parse? "" = none := by rfl
      rw [empty, unparsed] at announced
      cases announced
    refine ⟨Query.firstOfEach fields, Query.lastValue fields "type", Query.lastValue fields "ip",
      Query.labels?_of_pairs read, ?_, Role.folded_of_elects elected, ?_, announced⟩
    · rw [Query.lookup_firstOfEach, Query.lookup_of_lastValue types typed]
    · rw [Query.lookup_firstOfEach, Query.lookup_of_lastValue addresses addressed]

/-- Where a consistent request registers an address, the labels of the query have that address and,
up to letter case and blank ends, a type that joins the control plane; the profile that is served
was selected by these labels. -/
theorem registers_as_labelled (config : Dispatch.Config) (store : Profile.Store)
    (names : NameStore) (request : Request) (a : V4) (consistent : request.Consistent)
    (absent : a ∉ names.resolveV4 config.controlplane)
    (registered : a ∈ (handle config store names request).names.resolveV4 config.controlplane) :
    ∃ labels type ip, Query.labels? request.query = some labels ∧
      labels.lookup "type" = some type ∧
      (Role.folded type = "init" ∨ Role.folded type = "controlplane") ∧
      labels.lookup "ip" = some ip ∧ V4.parse? ip = some a ∧
      (¬ request.AsksMethods → ∃ group document text,
        store.Serves (.ofStrings labels) group document text ∧
        (handle config store names request).response = .ok (script 200 text)) := by
  obtain same | ⟨b, response, elects, boots, answered, found, handled⟩ :=
    handle_names config store names request
  · rw [same] at registered
    exact absurd registered absent
  · rw [handled] at registered
    obtain listed | rfl := NameStore.mem_resolveV4_registerAddress.mp registered
    · exact absurd listed absent
    obtain ⟨labels, type, ip, read, typed, joins, addressed, parsed⟩ := elects.labels consistent
    refine ⟨labels, type, ip, read, typed, joins, addressed, parsed, ?_⟩
    intro asks
    obtain ⟨others, group, document, text, reread, serves, rfl⟩ :=
      respond_found boots asks answered found
    obtain rfl : labels = others := Option.some.inj (read.symm.trans reread)
    exact ⟨group, document, text, serves, by rw [handled, ofMessages_script]⟩

theorem announced_registered {type : String} {labels : List (String × String)}
    (read : Query.labels? (announcement "GET" type).query = some labels)
    (elects : (announcement "GET" type).Elects announced) :
    announced ∈ (handle smallConfig nodeStore {} (announcement "GET" type)).names.resolveV4
      smallConfig.controlplane := by
  have listed : announced ∈ (({} : NameStore).registerAddress smallConfig.controlplane
      (.v4 announced)).1.resolveV4 smallConfig.controlplane :=
    NameStore.mem_resolveV4_registerAddress.mpr (.inr rfl)
  rw [handle_announcement read elects]
  exact listed

/-- The labels of a machine that is registered as it announces itself. -/
theorem registers_as_labelled_of_init :
    (announcement "GET" "init").Consistent ∧
      announced ∉ ({} : NameStore).resolveV4 smallConfig.controlplane ∧
      announced ∈ (handle smallConfig nodeStore {} (announcement "GET" "init")).names.resolveV4
        smallConfig.controlplane ∧
      ∃ labels type ip, Query.labels? (announcement "GET" "init").query = some labels ∧
        labels.lookup "type" = some type ∧
        (Role.folded type = "init" ∨ Role.folded type = "controlplane") ∧
        labels.lookup "ip" = some ip ∧ V4.parse? ip = some announced ∧
        (¬ (announcement "GET" "init").AsksMethods → ∃ group document text,
          nodeStore.Serves (.ofStrings labels) group document text ∧
          (handle smallConfig nodeStore {} (announcement "GET" "init")).response =
            .ok (script 200 text)) := by
  have consistent : (announcement "GET" "init").Consistent := by
    intro fields read
    have known : Query.pairs (announcement "GET" "init").query =
        .ok [("type", "init"), ("ip", "10.0.0.5")] := by
      cbv
    obtain rfl := Except.ok.inj (known.symm.trans read)
    decide
  have absent : announced ∉ ({} : NameStore).resolveV4 smallConfig.controlplane := by
    intro listed
    cases listed
  have registered := announced_registered (announcement_labels "GET") (announcement_elects "GET")
  exact ⟨consistent, absent, registered,
    registers_as_labelled _ _ _ _ _ consistent absent registered⟩

/-- A machine that announces itself like this is registered and served a profile, though the type
label that selected the profile is neither of the two. -/
def RegistersUnlabelled (type : String) : Prop :=
  announced ∈ (handle smallConfig nodeStore {} (announcement "GET" type)).names.resolveV4
      smallConfig.controlplane ∧
    ∃ labels, Query.labels? (announcement "GET" type).query = some labels ∧
      nodeStore.Serves (.ofStrings labels) nodeGroup nodeDocument nodeScript ∧
      (handle smallConfig nodeStore {} (announcement "GET" type)).response =
        .ok (script 200 nodeScript) ∧
      labels.lookup "type" ≠ some "init" ∧ labels.lookup "type" ≠ some "controlplane"

theorem registersUnlabelled_of_labels {type : String} {labels : List (String × String)}
    (read : Query.labels? (announcement "GET" type).query = some labels)
    (elects : (announcement "GET" type).Elects announced)
    (other : labels.lookup "type" ≠ some "init" ∧ labels.lookup "type" ≠ some "controlplane") :
    RegistersUnlabelled type := by
  have handled := handle_announcement read elects
  refine ⟨announced_registered read elects, labels, read, nodeStore_serves _, ?_, other⟩
  rw [handled]

/-- The type in capital letters, and the type that a later field contradicts. -/
theorem type_label_differs_from_role :
    RegistersUnlabelled "CONTROLPLANE" ∧ RegistersUnlabelled "worker&type=init" := by
  have capitals : Query.labels? (announcement "GET" "CONTROLPLANE").query =
      some [("type", "CONTROLPLANE"), ("ip", "10.0.0.5")] := by
    cbv
  have first : Query.labels? (announcement "GET" "worker&type=init").query =
      some [("type", "worker"), ("ip", "10.0.0.5")] := by
    cbv
  refine ⟨registersUnlabelled_of_labels capitals ?_ (by decide),
    registersUnlabelled_of_labels first ?_ (by decide)⟩
  · refine ⟨{ ip := "10.0.0.5", role := .controlplane }, ?_, rfl, ?_⟩
    · cbv
    · rfl
  · refine ⟨{ ip := "10.0.0.5", role := .init }, ?_, rfl, ?_⟩
    · cbv
    · decide

end Web

end Netboot
