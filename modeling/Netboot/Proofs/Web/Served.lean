import Mathlib
import Netboot.Proofs.Profile
import Netboot.Proofs.Script.Section
import Netboot.Web

/-! What the boot application answers on the path of the boot scripts: status 200 stands for the
script of a profile, or for the list of methods that a client asked for.
-/

set_option autoImplicit false

namespace Netboot

/-! ## Profiles -/

namespace Profile.Store

variable {store : Store} {labels : Labels} {group : Group}

/-- The store has a script for a machine with these labels: one of its groups accepts them, that
group's profile is there, and its boot section can be rendered, in characters alone. -/
structure Serves (store : Store) (labels : Labels) (group : Group) (document : Json)
    (text : String) : Prop where
  selected : store.select labels = .ok (some group)
  listed : ∃ groups, store.groups = .ok groups ∧ group ∈ groups
  accepts : group.accepts (normalizeLabels labels) = true
  found : store.profile group.profile = .ok (some document)
  rendered : Script.profile (bootSection document) = .ok (CodePoints.ofString text)

theorem select_some (selected : store.select labels = .ok (some group)) :
    (∃ groups, store.groups = .ok groups ∧ group ∈ groups) ∧
      group.accepts (normalizeLabels labels) = true := by
  unfold select at selected
  cases read : store.groups with
  | error fault =>
    rw [read] at selected
    cases selected
  | ok groups =>
    rw [read] at selected
    have first := Except.ok.inj selected
    have member := List.mem_mergeSort.mp (List.mem_of_head? first)
    obtain ⟨inGroups, accepts⟩ := List.mem_filter.mp member
    exact ⟨⟨groups, rfl, inGroups⟩, accepts⟩

end Profile.Store

namespace Web

variable {store : Profile.Store} {labels : List (String × String)} {request : Request}
  {response : Response}

theorem profileScript?_found {labels : Labels} (answered : profileScript? store labels = some response)
    (found : response.status = 200) :
    ∃ group document text, store.Serves labels group document text ∧
      response = script 200 text := by
  unfold profileScript? at answered
  split at answered
  · cases answered
  · cases answered
    cases found
  next group selected =>
    split at answered
    · cases answered
    · cases answered
      cases found
    next document read =>
      simp only at answered
      split at answered
      next points rendered =>
        obtain ⟨text, encoded, rfl⟩ := Option.map_eq_some_iff.mp answered
        obtain rfl := CodePoints.toString?_eq_some_iff.mp encoded
        obtain ⟨listed, accepts⟩ := Profile.Store.select_some selected
        exact ⟨group, document, text, ⟨selected, listed, accepts, read, rendered⟩, rfl⟩
      · obtain ⟨text, -, rfl⟩ := Option.map_eq_some_iff.mp answered
        cases found
      · cases answered

/-! ## Requests -/

def Request.verb (request : Request) : String :=
  .ofList (request.method.toList.flatMap Text.upperAscii)

def Request.AsksMethods (request : Request) : Prop := request.verb = "OPTIONS"

instance (request : Request) : Decidable request.AsksMethods :=
  inferInstanceAs (Decidable (_ = _))

/-- Requests for the methods aside, status 200 on the path of the scripts stands for a script. -/
theorem respondOn_script_found {method : String} {query : Bytes}
    (asks : method ≠ "OPTIONS") (found : (respondOn store method query .script).status = 200) :
    ∃ labels group document text, Query.labels? query = some labels ∧
      store.Serves (.ofStrings labels) group document text ∧
      respondOn store method query .script = script 200 text := by
  have other : (method == "OPTIONS") = false := beq_false_of_ne asks
  simp only [respondOn, other, Bool.false_eq_true, if_false] at found ⊢
  split at found
  next allowed =>
    cases served : serve? store query .script with
    | none =>
      rw [served] at found
      cases found
    | some response =>
      rw [served] at found
      obtain ⟨labels, read, answered⟩ := Option.bind_eq_some_iff.mp served
      obtain ⟨group, document, text, serves, rfl⟩ := profileScript?_found answered found
      rw [if_pos allowed]
      exact ⟨labels, group, document, text, read, serves, rfl⟩
  · cases found

theorem respond_bootPath (boots : Dispatch.isBootPath request.target = true) :
    respond store request = (Text.decode? request.query).elim (.error .query) fun _ =>
      .ok (respondOn store request.verb request.query .script) := by
  have path : ∃ path, Target.path request.target = .ok path ∧ dropSlashes path = "ipxe".toList := by
    rw [Dispatch.isBootPath, Bool.or_eq_true, beq_iff_eq, beq_iff_eq] at boots
    obtain same | same := boots
    · exact ⟨"/ipxe".toList, by rw [same]; rfl, rfl⟩
    · exact ⟨"ipxe".toList, by rw [same]; rfl, rfl⟩
  obtain ⟨path, read, dropped⟩ := path
  have known : route? "ipxe".toList = some .script := rfl
  unfold respond
  simp only [read, Except.mapError, bind, Except.bind, dropped]
  cases Text.decode? request.query with
  | none => rfl
  | some query =>
    simp only [known]
    rfl

theorem respond_found (boots : Dispatch.isBootPath request.target = true)
    (asks : ¬ request.AsksMethods) (answered : respond store request = .ok response)
    (found : response.status = 200) :
    ∃ labels group document text, Query.labels? request.query = some labels ∧
      store.Serves (.ofStrings labels) group document text ∧ response = script 200 text := by
  rw [respond_bootPath boots] at answered
  cases decoded : Text.decode? request.query with
  | none =>
    rw [decoded] at answered
    cases answered
  | some query =>
    rw [decoded] at answered
    cases answered
    exact respondOn_script_found asks found

theorem respond_of_fetch (boots : Dispatch.isBootPath request.target = true)
    (fetches : request.verb = "GET" ∨ request.verb = "HEAD")
    (read : Query.labels? request.query = some labels) :
    respond store request = .ok ((profileScript? store (.ofStrings labels)).getD internalError) := by
  obtain ⟨query, decoded, -⟩ := Option.map_eq_some_iff.mp read
  have served : serve? store request.query .script = profileScript? store (.ofStrings labels) := by
    rw [serve?, read, Option.bind_some]
  rw [respond_bootPath boots, decoded]
  obtain verb | verb := fetches
  all_goals
    rw [verb]
    simp [respondOn, methods, served]

/-! ## Profiles that are served -/

theorem profileScript?_serves {labels : Labels} {group : Profile.Group} {document : Json} {text : String}
    (serves : store.Serves labels group document text) :
    profileScript? store labels = some (script 200 text) := by
  have rendered := serves.rendered
  simp only [Profile.Store.bootSection] at rendered
  simp only [profileScript?, serves.selected, serves.found, rendered, script?_ofString]

theorem respond_serves {group : Profile.Group} {document : Json} {text : String}
    (boots : Dispatch.isBootPath request.target = true)
    (fetches : request.verb = "GET" ∨ request.verb = "HEAD")
    (read : Query.labels? request.query = some labels)
    (serves : store.Serves (.ofStrings labels) group document text) :
    respond store request = .ok (script 200 text) := by
  rw [respond_of_fetch boots fetches read, profileScript?_serves serves, Option.getD_some]

/-! ## One profile for every machine -/

def singleStore (group profile : Bytes) : Profile.Store where
  files := .dir [
    (Bytes.ofString "groups", .dir [(Bytes.ofString "any.json", .file group)]),
    (Bytes.ofString "profiles", .dir [(Bytes.ofString "node.json", .file profile)])]
  root := []
  depth := 100

def nodeGroup : Profile.Group := ⟨"any", "node", []⟩

def nodeGroupDocument : Json := .record [("profile", .str "node")]

/-- A store whose one group has no selector, so that every machine boots the one profile. -/
def anyStore (document : Json) : Profile.Store :=
  singleStore (Bytes.ofString nodeGroupDocument.text) (Bytes.ofString document.text)

def nodeDocument : Json := .record [("boot", .record [("kernel", .str "k")])]

def nodeScript : String := "#!ipxe\nkernel k\nboot\n"

def nodeStore : Profile.Store := anyStore nodeDocument

section Single

variable (group profile : Bytes)

theorem groupFiles_single :
    (singleStore group profile).groupFiles = [Bytes.ofString "any.json"] := by
  cbv

theorem read_single_group :
    Files.read (singleStore group profile).files
      [Bytes.ofString "groups", Bytes.ofString "any.json"] = .ok group := by
  cbv

theorem read_single_profile :
    Files.read (singleStore group profile).files
      [Bytes.ofString "profiles", Bytes.ofString "node.json"] = .ok profile := by
  cbv

theorem exists_single_profile :
    Files.exists? (singleStore group profile).files
      [Bytes.ofString "profiles", Bytes.ofString "node.json"] = .ok true := by
  cbv

theorem groups_single {found : Profile.Group}
    (described : (singleStore group profile).groupAt (Bytes.ofString "any.json") = .ok (some found)) :
    (singleStore group profile).groups = .ok [found] := by
  rw [Profile.Store.groups, groupFiles_single]
  simp [described, bind, Except.bind, pure, Except.pure]

end Single

section Any

variable (document : Json)

theorem anyStore_groups : (anyStore document).groups = .ok [nodeGroup] := by
  have plain : nodeGroupDocument.IsPlain :=
    .record (by decide) (by simpa using Json.isPlain_string "node")
  have loaded : (anyStore document).load ((anyStore document).groupPath (Bytes.ofString "any.json")) =
      .ok (some nodeGroupDocument) :=
    Profile.Store.load_of_written plain (read_single_group _ _)
  have id : Profile.Store.stem (.ofFileName (Bytes.ofString "any.json")) = nodeGroup.id := by
    rw [CodePoints.ofFileName_ofString]
    decide
  have group : (anyStore document).groupAt (Bytes.ofString "any.json") = .ok (some nodeGroup) := by
    rw [Profile.Store.groupAt_eq, loaded]
    simp only [Profile.Store.groupOf, Profile.Store.selectorOf, nodeGroupDocument, Json.field?_record,
      List.lookup_cons, List.lookup_nil, id]
    rfl
  exact groups_single _ _ group

theorem anyStore_select (labels : Labels) : (anyStore document).select labels = .ok (some nodeGroup) := by
  have accepts : nodeGroup.accepts (Profile.normalizeLabels labels) = true := rfl
  simp [Profile.Store.select, anyStore_groups, accepts, bind, Except.bind, pure, Except.pure]

end Any

theorem anyStore_profile {fields : List (String × Json)} (plain : (Json.record fields).IsPlain)
    (shallow : (Json.record fields).depth ≤ 100) :
    (anyStore (.record fields)).profile nodeGroup.profile = .ok (some (.record fields)) := by
  have loaded : (anyStore (.record fields)).load ((anyStore (.record fields)).profilePath "node") =
      .ok (some (.record fields)) :=
    (Profile.Store.load_of_written plain (read_single_profile _ _)).trans (if_pos shallow)
  have named : Profile.Store.profileId? nodeGroup.profile = some "node" := by
    have isId : Profile.Store.isProfileId "node" = true := by decide
    rw [Profile.Store.profileId?, nodeGroup, CodePoints.toString?_ofString, Option.filter_some, isId]
    rfl
  have present : Files.exists? (anyStore (.record fields)).files
      ((anyStore (.record fields)).profilePath "node") = .ok true :=
    exists_single_profile _ _
  rw [Profile.Store.profile_of_id named, present]
  exact loaded

theorem isPlain_boot {kernel : CodePoints} (unpaired : kernel.Unpaired) :
    (Json.record [("boot", .record [("kernel", .str kernel)])]).IsPlain :=
  .record (List.nodup_singleton _)
    (by simpa using .record (List.nodup_singleton _) (by simpa using .str unpaired))

theorem renders_kernel {kernel : CodePoints} (given : kernel ≠ []) :
    Script.Renders (.record [("boot", .record [("kernel", .str kernel)])])
      (CodePoints.ofString "#!ipxe\nkernel " ++ kernel ++ CodePoints.ofString "\nboot\n") := by
  let boot : List (String × Json) := [("kernel", .str kernel)]
  have present : (Json.record [("boot", .record boot)]).field? "boot" = some (.record boot) := by
    rw [Json.field?_record]
    rfl
  have named : (Json.record boot).field? "kernel" = some (.str kernel) := by
    rw [Json.field?_record]
    rfl
  have counts : (Json.str kernel).truthy = true := by simpa [Json.truthy] using given
  have none (name : String) (other : name ≠ "kernel") :
      Script.items (((Json.record boot).field? name).getD .null) = .ok [] := by
    rw [Json.field?_record, List.lookup_cons, beq_false_of_ne other]
    rfl
  have renders := Script.Renders.intro present named counts (none "args" (by decide))
    (none "initrd" (by decide))
  simp only [List.flatMap_nil, List.append_nil, List.append_assoc] at renders ⊢
  exact renders

theorem renders_node : Script.Renders nodeDocument (CodePoints.ofString nodeScript) :=
  renders_kernel (show CodePoints.ofString "k" ≠ [] by decide)

theorem nodeStore_serves (labels : Labels) :
    nodeStore.Serves labels nodeGroup nodeDocument nodeScript := by
  have selected := anyStore_select nodeDocument labels
  obtain ⟨listed, accepts⟩ := Profile.Store.select_some selected
  have found : nodeStore.profile nodeGroup.profile = .ok (some nodeDocument) :=
    anyStore_profile (isPlain_boot (CodePoints.unpaired_ofString "k")) (by decide)
  exact ⟨selected, listed, accepts, found, Script.profile_eq_ok_iff.mpr renders_node⟩

end Web

end Netboot
