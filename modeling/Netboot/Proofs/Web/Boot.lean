import Netboot.Proofs.Profile
import Netboot.Proofs.Query
import Netboot.Proofs.Web.Answers

/-! What a machine is told to boot, from the files that are there when it asks. -/

set_option autoImplicit false

namespace Netboot

namespace Web

variable {store : Profile.Store} {request : Request} {response : Response} {labels : Labels}
  {asked : List (String × String)} {config : Dispatch.Config} {names : NameStore} {selection : Selection} {group : Profile.Group}
  {document : Json}

/-! ## One request -/

theorem profileScript?_of_none (selected : store.select labels = .ok none) :
    profileScript? store labels = some (script 404 "") := by
  rw [profileScript?, selected]

theorem profileScript?_of_noProfile (selected : store.select labels = .ok (some group))
    (missing : store.profile group.profile = .ok none) :
    profileScript? store labels = some (script 404 "") := by
  simp only [profileScript?, selected, missing]

theorem profileScript?_of_noKernel (selected : store.select labels = .ok (some group))
    (found : store.profile group.profile = .ok (some document)) (bare : Script.NoKernel document) :
    profileScript? store labels =
      script? 500 (Script.error (CodePoints.ofString "Invalid profile " ++ group.profile)) := by
  have failed := Script.profile_eq_noKernel_iff.mpr bare
  unfold Profile.Store.bootSection at failed
  simp only [profileScript?, selected, found, failed]

theorem profileScript?_of_renders {text : CodePoints}
    (selected : store.select labels = .ok (some group))
    (found : store.profile group.profile = .ok (some document))
    (renders : Script.Renders document text) : profileScript? store labels = script? 200 text := by
  have rendered := Script.profile_eq_ok_iff.mpr renders
  unfold Profile.Store.bootSection at rendered
  simp only [profileScript?, selected, found, rendered]

theorem respond_of_profileScript? (boots : Dispatch.isBootPath request.target = true)
    (fetches : request.verb = "GET" ∨ request.verb = "HEAD")
    (read : Query.labels? request.query = some asked)
    (answered : profileScript? store (.ofStrings asked) = some response) :
    respond store request = .ok response := by
  rw [respond_of_fetch boots fetches read, answered, Option.getD_some]

theorem respond_of_unsent (boots : Dispatch.isBootPath request.target = true)
    (fetches : request.verb = "GET" ∨ request.verb = "HEAD")
    (read : Query.labels? request.query = some asked)
    (unsent : profileScript? store (.ofStrings asked) = none) :
    respond store request = .ok internalError := by
  rw [respond_of_fetch boots fetches read, unsent, Option.getD_none]

/-- What a machine is told, by the group that its labels select. -/
structure ToldBy (config : Dispatch.Config) (store : Profile.Store) (names : NameStore)
    (request : Request) (choice : Option Profile.Group) (handled : Handled) : Prop where
  ungrouped : choice = none →
    handled = ⟨.ok (script 200 (Script.menu config.serverIp config.httpPort)), names, some .menu⟩
  unprofiled : ∀ group, choice = some group → (∃ found?, store.profile group.profile = .ok found?) →
    store.NoProfile group.profile →
    handled = ⟨.ok (script 200 (Script.menu config.serverIp config.httpPort)), names, some .menu⟩
  invalid : ∀ group document, choice = some group →
    store.profile group.profile = .ok (some document) → Script.NoKernel document →
    ∃ id text, group.profile = CodePoints.ofString id ∧
      Script.error (CodePoints.ofString ("Invalid profile " ++ id)) = CodePoints.ofString text ∧
      Script.Shows text ("Invalid profile " ++ id) ∧
      handled = ⟨.ok (script 500 text), names, some .relay⟩
  rendered : ∀ group document text, choice = some group →
    store.profile group.profile = .ok (some document) →
    Script.Renders document (CodePoints.ofString text) →
    handled = ⟨.ok (script 200 text),
      names.announce config.controlplane request.scope.announced?, some .relay⟩
  unsent : ∀ group document text, choice = some group →
    store.profile group.profile = .ok (some document) → Script.Renders document text →
    (∃ offset, .surrogate offset ∈ text) → handled = ⟨.ok internalError, names, some .relay⟩

theorem exists_profileId {text : CodePoints} (found : store.profile text = .ok (some document)) :
    ∃ id, text = CodePoints.ofString id := by
  cases named : Profile.Store.profileId? text with
  | none => cases found.symm.trans (Profile.Store.profile_of_notId named)
  | some id => exact ⟨id, CodePoints.toString?_eq_some_iff.mp (Option.eq_some_of_filter_eq_some named)⟩

theorem toldBy_handle {choice : Option Profile.Group}
    (boots : Dispatch.isBootPath request.target = true) (fetches : request.verb = "GET")
    (chosen : Selection.ofQuery request.query = .ok selection)
    (read : Query.labels? request.query = some asked)
    (selected : store.select (.ofStrings asked) = .ok choice) :
    ToldBy config store names request choice (handle config store names request) where
  ungrouped none := by
    have answered := respond_of_profileScript? boots (.inl fetches) read
      (profileScript?_of_none (none ▸ selected))
    exact handle_of_missing boots chosen answered rfl
  unprofiled group some looked missing := by
    have answered := respond_of_profileScript? boots (.inl fetches) read
      (profileScript?_of_noProfile (some ▸ selected)
        ((Profile.Store.profile_eq_none_iff looked).mpr missing))
    exact handle_of_missing boots chosen answered rfl
  invalid group document some found bare := by
    obtain ⟨id, named⟩ := exists_profileId found
    obtain ⟨text, same, shows⟩ := Script.exists_error ("Invalid profile " ++ id)
    have answered := profileScript?_of_noKernel (some ▸ selected) found bare
    rw [named, ← CodePoints.ofString_append, same, script?_ofString] at answered
    refine ⟨id, text, named, same, shows, ?_⟩
    rw [handle_of_answer boots (respond_of_profileScript? boots (.inl fetches) read answered)
      (show 500 ≠ 404 by decide), ofMessages_script]
    rfl
  rendered group document text some found renders := by
    have answered := profileScript?_of_renders (some ▸ selected) found renders
    rw [script?_ofString] at answered
    rw [handle_of_answer boots (respond_of_profileScript? boots (.inl fetches) read answered)
      (show 200 ≠ 404 by decide), ofMessages_script]
    rfl
  unsent group document text some found renders surrogates := by
    have answered := profileScript?_of_renders (some ▸ selected) found renders
    rw [script?, CodePoints.toString?_eq_none_iff.mpr surrogates, Option.map_none] at answered
    exact handle_of_internalError boots (respond_of_unsent boots (.inl fetches) read answered)

/-! ### A script that cannot be sent -/

def loneSurrogate : CodePoint := .surrogate ⟨0, by decide⟩

def surrogateDocument : Json := .record [("boot", .record [("kernel", .str [loneSurrogate])])]

theorem script_with_surrogate_unsent :
    ∃ selection labels text, Selection.ofQuery (announcement "GET" "init").query = .ok selection ∧
      Query.labels? (announcement "GET" "init").query = some labels ∧
      (anyStore surrogateDocument).select (.ofStrings labels) = .ok (some nodeGroup) ∧
      (anyStore surrogateDocument).profile nodeGroup.profile = .ok (some surrogateDocument) ∧
      Script.Renders surrogateDocument text ∧
      handle smallConfig (anyStore surrogateDocument) {} (announcement "GET" "init") =
        ⟨.ok internalError, {}, some .relay⟩ ∧
      internalError.status ≠ 200 := by
  have plain : CodePoints.Unpaired [loneSurrogate] := .singleton _
  have found := anyStore_profile (isPlain_boot plain) (by decide)
  have renders := renders_kernel (List.cons_ne_nil loneSurrogate [])
  have unsent : profileScript? (anyStore surrogateDocument)
      (.ofStrings [("type", "init"), ("ip", "10.0.0.5")]) = none :=
    profileScript?_of_renders (anyStore_select _ _) found renders
  have chosen := announcement_read "GET"
  refine ⟨_, _, _, chosen, announcement_labels "GET", anyStore_select _ _, found, renders, ?_,
    by decide⟩
  exact handle_of_internalError rfl
    (respond_of_unsent rfl (.inl announcement_verb) (announcement_labels "GET") unsent)

/-! ## Requests among edits -/

structure Server where
  files : Files.Node
  names : NameStore

/-- What happens at a server: its files are edited, or a client asks while so many arrays and objects
may be open in a document. -/
inductive Event where
  | edit (files : Files.Node)
  | ask (depth : Nat) (request : Request)

def Event.files? : Event → Option Files.Node
  | .edit files => some files
  | .ask _ _ => none

namespace Server

variable {server : Server} {root : Files.Path}

def profiles (server : Server) (root : Files.Path) (depth : Nat) : Profile.Store :=
  ⟨server.files, root, depth⟩

def step (config : Dispatch.Config) (root : Files.Path) (server : Server) : Event → Server
  | .edit files => { server with files := files }
  | .ask depth request =>
    { server with names := (handle config (server.profiles root depth) server.names request).names }

def run (config : Dispatch.Config) (root : Files.Path) (server : Server) (events : List Event) :
    Server :=
  events.foldl (step config root) server

theorem run_concat (config : Dispatch.Config) (root : Files.Path) (server : Server)
    (events : List Event) (event : Event) :
    server.run config root (events ++ [event]) = (server.run config root events).step config root event :=
  List.foldl_concat ..

theorem files_run (config : Dispatch.Config) (root : Files.Path) (server : Server)
    (events : List Event) :
    (server.run config root events).files =
      ((events.filterMap Event.files?).getLast?).getD server.files := by
  induction events using List.reverseRecOn with
  | nil => rfl
  | append_singleton earlier event ih =>
    rw [run_concat]
    cases event with
    | edit files => simp [step, Event.files?]
    | ask depth request => simpa [step, Event.files?] using ih

end Server

/-- Whatever happened before, a machine that asks for its boot script with a query that can be read
is told by the files that the last edit left: the menu when no group accepts its labels or there is
no profile, an error that names the profile when that has nothing to boot, and else the script that
the profile renders to, or an error when the script cannot be sent. Only with the script the names
change, by the address that the query announces. -/
theorem boot_script_of_last_edit (config : Dispatch.Config) (root : Files.Path) (server : Server)
    (events : List Event) (depth : Nat) (request : Request) (selection : Selection)
    (boots : Dispatch.isBootPath request.target = true) (fetches : request.verb = "GET")
    (chosen : Selection.ofQuery request.query = .ok selection) :
    ∃ fields, Query.pairs request.query = .ok fields ∧
      let store : Profile.Store :=
        ⟨((events.filterMap Event.files?).getLast?).getD server.files, root, depth⟩
      let after := server.run config root events
      ∀ choice, store.select (.ofStrings (Query.firstOfEach fields)) = .ok choice →
        ToldBy config store after.names request choice
          (handle config (after.profiles root depth) after.names request) := by
  cases read : Query.pairs request.query with
  | error fault =>
    rw [Selection.ofQuery, read] at chosen
    cases chosen
  | ok fields =>
    refine ⟨fields, rfl, ?_⟩
    intro store after choice selected
    have labels := Query.labels?_of_pairs read
    rw [Server.profiles, Server.files_run config root server events]
    exact toldBy_handle boots fetches chosen labels selected

def emptyServer : Server := ⟨emptyStore.files, {}⟩

/-- A machine is told the menu while the files are gone, and its script once they are put there. -/
theorem boot_script_of_last_edit_of_node :
    Dispatch.isBootPath (announcement "GET" "init").target = true ∧
      (announcement "GET" "init").verb = "GET" ∧
      Selection.ofQuery (announcement "GET" "init").query =
        .ok { ip := "10.0.0.5", role := .init } ∧
      handle smallConfig emptyStore {} (announcement "GET" "init") =
        ⟨.ok (script 200 (Script.menu smallConfig.serverIp smallConfig.httpPort)), {}, some .menu⟩ ∧
      handle smallConfig
          ((emptyServer.run smallConfig [] [.edit nodeStore.files]).profiles [] nodeStore.depth) {}
          (announcement "GET" "init") =
        ⟨.ok (script 200 nodeScript), ({} : NameStore).announce smallConfig.controlplane
          (announcement "GET" "init").scope.announced?, some .relay⟩ := by
  have chosen := announcement_read "GET"
  refine ⟨rfl, announcement_verb, chosen, ?_, ?_⟩
  · obtain ⟨fields, -, told⟩ := boot_script_of_last_edit smallConfig [] emptyServer [] 100
      (announcement "GET" "init") _ rfl announcement_verb chosen
    have selected : emptyStore.select (.ofStrings (Query.firstOfEach fields)) = .ok none := by
      have empty : emptyStore.groups = .ok [] := by cbv
      rw [Profile.Store.select, empty]
      simp [bind, Except.bind, pure, Except.pure]
    exact (told none selected).ungrouped rfl
  · obtain ⟨fields, -, told⟩ := boot_script_of_last_edit smallConfig [] emptyServer
      [.edit nodeStore.files] nodeStore.depth (announcement "GET" "init") _ rfl announcement_verb
      chosen
    have serves := nodeStore_serves (.ofStrings (Query.firstOfEach fields))
    exact (told (some nodeGroup) serves.selected).rendered nodeGroup nodeDocument nodeScript rfl
      serves.found renders_node

end Web

end Netboot
