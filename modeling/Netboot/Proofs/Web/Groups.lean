import Netboot.Proofs.Profile
import Netboot.Proofs.Web.Answers

/-! Boot requests under one more group file. A file that describes no group changes nothing, unless
it names a profile and its selector has no keys, or it is nested too deep: then no machine is told any
more what to boot.
-/

set_option autoImplicit false

namespace Netboot

namespace Profile.Store

variable {before after store : Store} {labels : Labels} {fault : Fault} {found : List Group}

theorem select_congr (same : after.groups = before.groups) (labels : Labels) :
    after.select labels = before.select labels := by
  unfold select
  rw [same]

theorem select_of_groups (read : store.groups = .ok found) (labels : Labels) :
    ∃ choice, store.select labels = .ok choice := by
  unfold select
  rw [read]
  exact ⟨_, rfl⟩

theorem select_of_error (failed : store.groups = .error fault) (labels : Labels) :
    store.select labels = .error fault := by
  unfold select
  rw [failed]
  rfl

end Profile.Store

namespace Web

variable {before after store : Profile.Store} {request : Request} {labels : List (String × String)}
  {name : Files.Name} {found : List Profile.Group} {config : Dispatch.Config} {names : NameStore}

/-! ## Stores that are alike -/

theorem profileScript?_congr {labels : Labels} (selected : after.select labels = before.select labels)
    (profiles : ∀ id, after.profile id = before.profile id) :
    profileScript? after labels = profileScript? before labels := by
  unfold profileScript?
  rw [selected]
  simp only [profiles]

theorem respond_congr (groups : after.groups = before.groups)
    (profiles : ∀ id, after.profile id = before.profile id)
    (boots : Dispatch.isBootPath request.target = true) :
    respond after request = respond before request := by
  have scripts : profileScript? after = profileScript? before :=
    funext fun labels =>
      profileScript?_congr (Profile.Store.select_congr groups labels) profiles
  rw [respond_bootPath boots, respond_bootPath boots]
  simp only [respondOn, serve?, scripts]

theorem handle_congr (config : Dispatch.Config) (names : NameStore)
    (same : respond after request = respond before request) :
    handle config after names request = handle config before names request := by
  have ran : (app request.method request.host after request.scope).1 =
      (app request.method request.host before request.scope).1 := by
    simp only [app, Request.scope, Option.getD_some]
    rw [same]
    cases respond before _ <;> rfl
  have handled : (Dispatch.handle config (some config.menu) (app request.method request.host) after
      names request.scope).1 = (Dispatch.handle config (some config.menu)
      (app request.method request.host) before names request.scope).1 := by
    unfold Dispatch.handle
    dsimp only
    rw [ran]
    split
    · rfl
    split <;> rfl
  rw [handle_eq, handle_eq, handled]

/-! ## Stores whose groups cannot be read -/

/-- While the groups cannot be read, every machine is answered with an error. -/
theorem handle_of_groups_error {fault : Profile.Fault} (failed : store.groups = .error fault)
    (boots : Dispatch.isBootPath request.target = true)
    (fetches : request.verb = "GET" ∨ request.verb = "HEAD")
    (read : Query.labels? request.query = some labels) :
    handle config store names request = ⟨.ok internalError, names, some .relay⟩ := by
  have lost : profileScript? store (.ofStrings labels) = none := by
    rw [profileScript?, Profile.Store.select_of_error failed]
  have answered : respond store request = .ok internalError := by
    rw [respond_of_fetch boots fetches read, lost]
    rfl
  exact handle_of_internalError boots answered

/-! ## One more group file -/

/-- Two stores are the same to every machine, and neither fails. -/
structure Indistinguishable (before after : Profile.Store) : Prop where
  groups : ∃ found, before.groups = .ok found ∧ after.groups = .ok found
  select : ∀ labels, ∃ choice, before.select labels = .ok choice ∧ after.select labels = .ok choice
  handle : ∀ config names request, Dispatch.isBootPath request.target = true →
    handle config after names request = handle config before names request

theorem indistinguishable_of_groups (read : before.groups = .ok found)
    (same : after.groups = before.groups)
    (profiles : ∀ id, after.profile id = before.profile id) : Indistinguishable before after where
  groups := ⟨found, read, same.trans read⟩
  select labels := by
    obtain ⟨choice, selected⟩ := Profile.Store.select_of_groups read labels
    exact ⟨choice, selected, (Profile.Store.select_congr same labels).trans selected⟩
  handle config names _ boots := handle_congr config names (respond_congr same profiles boots)

/-- A group file that describes no group makes no difference to any machine, just when it does not
spoil the groups. If it does, they are all lost, and every machine is answered with an error. One of the
two ways to spoil them is a bound on the depth of the file's document. -/
theorem unusable_group_file_harmless_iff (extra : before.ExtraGroup after name)
    (unusable : after.Unusable name) (read : before.groups = .ok found) :
    (Indistinguishable before after ↔
        ¬ after.HasBadSelector name ∧ ¬ after.IsTooDeep (after.groupPath name)) ∧
      (∀ fault, after.Spoils name fault →
        after.groups = .error fault ∧ (∀ labels, after.select labels = .error fault) ∧
        ∀ config names request labels, Dispatch.isBootPath request.target = true →
          request.verb = "GET" ∨ request.verb = "HEAD" →
          Query.labels? request.query = some labels →
          handle config after names request = ⟨.ok internalError, names, some .relay⟩) ∧
      ∀ document : Json, document.IsPlain →
        Files.read after.files (after.groupPath name) = .ok (Bytes.ofString document.text) →
        (after.IsTooDeep (after.groupPath name) ↔ after.depth < document.depth) := by
  have lost {fault : Profile.Fault} (spoils : after.Spoils name fault) : after.groups = .error fault :=
    extra.groups_of_failed (Profile.Store.groupAt_of_spoils spoils) read
  refine ⟨⟨?_, ?_⟩, ?_, fun document plain => Profile.Store.isTooDeep_iff_of_written plain⟩
  · intro same
    obtain ⟨groups, -, kept⟩ := same.groups
    refine ⟨fun bad => ?_, fun deep => ?_⟩
    · exact nomatch kept.symm.trans (lost (.badSelector bad))
    · exact nomatch kept.symm.trans (lost (.tooDeep deep))
  · rintro ⟨good, shallow⟩
    -- A file that neither spoils the groups nor describes one is skipped.
    have harmless : ∀ fault, ¬ after.Spoils name fault := by
      rintro fault (bad | deep)
      · exact good bad
      · exact shallow deep
    exact indistinguishable_of_groups read
      (extra.groups_of_skipped (Profile.Store.groupAt_of_unusable unusable harmless)) extra.profile
  · intro fault spoils
    refine ⟨lost spoils, Profile.Store.select_of_error (lost spoils), ?_⟩
    intro config names request labels boots fetches read
    exact handle_of_groups_error (lost spoils) boots fetches read

/-! ## A second group file -/

def secondName : Files.Name := Bytes.ofString "bad.json"

def secondStore (content : Bytes) : Profile.Store where
  files := .put (.file content) ([Bytes.ofString "groups"] ++ [secondName]) nodeStore.files
  root := nodeStore.root
  depth := nodeStore.depth

def profileEntries : List (Files.Name × Files.Node) :=
  [(Bytes.ofString "node.json", .file (Bytes.ofString nodeDocument.text))]

theorem walk_profiles {top : Files.Node} (dir : Files.isDirAt top [] = true)
    (found : top.at? [Bytes.ofString "profiles"] = some (.dir profileEntries))
    (name : Files.Name) :
    Files.walk top Files.linkLimit [] [Bytes.ofString "profiles", name] =
      Files.walk top Files.linkLimit [Bytes.ofString "profiles"] [name] :=
  Files.walk_enter dir (by decide) (by decide) (by decide) (by decide) found nofun

theorem walk_second_profile (content : Bytes) {name : Files.Name}
    (other : name ≠ Bytes.ofString "node.json") :
    Files.walk (secondStore content).files Files.linkLimit [] [Bytes.ofString "profiles", name] =
      Files.walk nodeStore.files Files.linkLimit [] [Bytes.ofString "profiles", name] := by
  have found : nodeStore.files.at? [Bytes.ofString "profiles"] = some (.dir profileEntries) := by
    cbv
  have found' : (secondStore content).files.at? [Bytes.ofString "profiles"] =
      some (.dir profileEntries) := by
    cbv
  have unlisted : profileEntries.lookup name = none := by
    rw [profileEntries, List.lookup_cons, beq_false_of_ne other]
    rfl
  rw [walk_profiles (by cbv) found', walk_profiles (by cbv) found]
  apply Files.walk_of_absent
  · rw [Files.isDirAt, found']; rfl
  · rw [Files.isDirAt, found]; rfl
  · rw [Files.at?_append, found', Option.bind_some, Files.Node.at?, unlisted]; rfl
  · rw [Files.at?_append, found, Option.bind_some, Files.Node.at?, unlisted]; rfl

theorem nodeStore_still (content : Bytes) (path : Files.Path) (reads : nodeStore.Reads path)
    (missing : Files.find nodeStore.files path = .error .missing) :
    Files.find (secondStore content).files path = .error .missing := by
  cases reads with
  | @group name listed =>
    have only : nodeStore.groupFiles = [Bytes.ofString "any.json"] := groupFiles_single _ _
    rw [only] at listed
    obtain rfl := List.mem_singleton.mp listed
    have got : Files.read nodeStore.files (nodeStore.groupPath (Bytes.ofString "any.json")) = .ok _ :=
      read_single_group _ _
    rw [Files.read, missing] at got
    cases got
  | profile id =>
    by_cases same : Bytes.ofString id ++ Profile.Store.suffix = Bytes.ofString "node.json"
    · have there : Files.exists? nodeStore.files
          (nodeStore.root ++ [Bytes.ofString "profiles", Bytes.ofString "node.json"]) = .ok true :=
        exists_single_profile _ _
      rw [Profile.Store.profilePath, same] at missing
      rw [Files.exists?, missing] at there
      cases there
    · exact Files.missing_of_walk (walk_second_profile content same) missing

theorem extraGroup_second (content : Bytes) :
    nodeStore.ExtraGroup (secondStore content) secondName := by
  have found : nodeStore.files.at? [Bytes.ofString "groups"] = some (.dir
      [(Bytes.ofString "any.json", .file (Bytes.ofString nodeGroupDocument.text))]) := by
    cbv
  refine Profile.Store.extraGroup_put ?_ ?_ ?_ found ?_ (nodeStore_still content)
  · decide
  · cbv
  · cbv
  · cbv

theorem read_second (content : Bytes) :
    Files.read (secondStore content).files [Bytes.ofString "groups", secondName] = .ok content := by
  cbv

def arrayStore : Profile.Store := secondStore (Bytes.ofString (Json.arr []).text)

/-- A second group file with an empty array. -/
theorem unusable_group_file_harmless_of_array :
    nodeStore.ExtraGroup arrayStore secondName ∧ arrayStore.Unusable secondName ∧
      nodeStore.groups = .ok [nodeGroup] ∧ Indistinguishable nodeStore arrayStore := by
  have parsed : Json.ofChars arrayStore.depth (Json.arr []).chars = .ok (.arr []) :=
    (Json.ofChars_chars (.arr (by simp)) _).trans (if_pos (by decide))
  have noDocument : arrayStore.NoDocument (arrayStore.groupPath secondName) :=
    .notObject _ _ _ (read_second _) (Json.decode?_text (.arr [])) parsed nofun
  have harmless (fault : Profile.Fault) : ¬ arrayStore.Spoils secondName fault :=
    Profile.Store.not_spoils_of_noDocument noDocument
  have extra : nodeStore.ExtraGroup arrayStore secondName := extraGroup_second _
  have groups := anyStore_groups nodeDocument
  exact ⟨extra, .noDocument noDocument, groups,
    (unusable_group_file_harmless_iff extra (.noDocument noDocument) groups).1.mpr
      ⟨fun bad => harmless _ (.badSelector bad), fun deep => harmless _ (.tooDeep deep)⟩⟩

def listSelectorDocument : Json :=
  .record [("profile", .str "node"), ("selector", .arr [.str "x"])]

def listSelectorStore : Profile.Store := secondStore (Bytes.ofString listSelectorDocument.text)

/-- A second group file whose selector is a list: the machine that was served a profile is answered
with an error. -/
theorem group_file_with_list_selector_ends_boots :
    nodeStore.ExtraGroup listSelectorStore secondName ∧ listSelectorStore.Unusable secondName ∧
      nodeStore.groups = .ok [nodeGroup] ∧ listSelectorStore.groups = .error .selector ∧
      (∀ labels, nodeStore.select labels = .ok (some nodeGroup) ∧
        listSelectorStore.select labels = .error .selector) ∧
      (handle smallConfig nodeStore {} (announcement "GET" "init")).response =
        .ok (script 200 nodeScript) ∧
      (handle smallConfig listSelectorStore {} (announcement "GET" "init")).response =
        .ok internalError := by
  have plain : listSelectorDocument.IsPlain := by
    refine .record (by decide) ?_
    simpa using ⟨Json.isPlain_string "node", .arr (by simpa using Json.isPlain_string "x")⟩
  have loaded : listSelectorStore.load (listSelectorStore.groupPath secondName) =
      .ok (some listSelectorDocument) :=
    (Profile.Store.load_of_written plain (read_second _)).trans (if_pos (by decide))
  have named : listSelectorDocument.field? "profile" = some (.str "node") := Json.field?_record _ _
  have selector : listSelectorDocument.field? "selector" = some (.arr [.str "x"]) :=
    Json.field?_record _ _
  have bad : listSelectorStore.HasBadSelector secondName := by
    refine ⟨_, _, loaded, named, ?_, ?_⟩
    · rw [selector]
      rfl
    · rw [selector]
      nofun
  have extra : nodeStore.ExtraGroup listSelectorStore secondName := extraGroup_second _
  have groups := anyStore_groups nodeDocument
  have lost := extra.groups_of_failed (Profile.Store.groupAt_of_spoils (.badSelector bad)) groups
  refine ⟨extra, .badSelector bad, groups, lost, fun labels => ?_, ?_, ?_⟩
  · exact ⟨anyStore_select nodeDocument labels, Profile.Store.select_of_error lost labels⟩
  · rw [handle_announcement (announcement_labels "GET") (announcement_elects "GET")]
  · rw [handle_of_groups_error lost rfl (.inl announcement_verb) (announcement_labels "GET")]

end Web

end Netboot
