import Netboot.Proofs.Files.Reordered
import Netboot.Proofs.Web.Groups
import Netboot.Proofs.Web.Selectors

/-! Which of the groups that match a machine is chosen, and what the choice does not depend on. -/

set_option autoImplicit false

namespace Netboot

/-- The first of a sorted list is the first of those that come before no other. -/
theorem head?_mergeSort {α : Type} {le : α → α → Bool} {list : List α} {least : α}
    (trans : ∀ a b c, le a b = true → le b c = true → le a c = true)
    (total : ∀ a b, (le a b || le b a) = true) (first : (list.mergeSort le).head? = some least) :
    ∃ front back, list = front ++ least :: back ∧ (∀ a ∈ front, le a least = false) ∧
      ∀ a ∈ back, le least a = true := by
  -- Sorting puts the first element somewhere among the sorted rest.
  induction list with
  | nil =>
    rw [List.mergeSort_nil] at first
    cases first
  | cons a rest ih =>
    obtain ⟨front, back, sorted, sorted', before⟩ := List.mergeSort_cons trans total a rest
    cases front with
    | nil =>
      rw [sorted] at first
      cases first
      refine ⟨[], rest, rfl, nofun, fun b member => ?_⟩
      have ordered := List.pairwise_mergeSort trans total (least :: rest)
      rw [sorted, List.nil_append, List.pairwise_cons] at ordered
      refine ordered.1 b ?_
      rw [List.nil_append] at sorted'
      rw [← sorted']
      exact List.mem_mergeSort.mpr member
    | cons b others =>
      rw [sorted] at first
      cases first
      obtain ⟨earlier, later, rfl, less, least_of⟩ := ih (by rw [sorted']; rfl)
      refine ⟨a :: earlier, later, rfl, List.forall_mem_cons.mpr ⟨?_, less⟩, least_of⟩
      simpa using before least List.mem_cons_self

namespace Profile

variable {labels : Labels} {group rival : Group} {name other : Files.Name}

theorem Group.precedes_iff {a b : Group} : a.precedes b = true ↔
    b.selector.length < a.selector.length ∨
      a.selector.length = b.selector.length ∧ a.id ≤ b.id := by
  unfold Group.precedes
  split
  next same => simp [same]
  next differ => simp [differ]

theorem Group.precedes_trans (a b c : Group) (ab : a.precedes b = true) (bc : b.precedes c = true) :
    a.precedes c = true := by
  rw [Group.precedes_iff] at ab bc ⊢
  obtain fewer | ⟨same, id⟩ := ab <;> obtain fewer' | ⟨same', id'⟩ := bc
  · exact .inl (by omega)
  · exact .inl (by omega)
  · exact .inl (by omega)
  · exact .inr ⟨same.trans same', List.le_trans id id'⟩

theorem Group.precedes_total (a b : Group) : (a.precedes b || b.precedes a) = true := by
  rw [Bool.or_eq_true, Group.precedes_iff, Group.precedes_iff]
  rcases Nat.lt_trichotomy a.selector.length b.selector.length with fewer | same | more
  · exact .inr (.inl fewer)
  · exact (List.le_total a.id b.id).imp (fun id => .inr ⟨same, id⟩) fun id => .inr ⟨same.symm, id⟩
  · exact .inl (.inl more)

/-- A group from one file is chosen before one from another: it has more selector keys, or as many and
the lesser id, or the same id and the lesser file name. Texts are in the order of their code points. -/
def Outranks (name : Files.Name) (group : Group) (other : Files.Name) (rival : Group) : Prop :=
  rival.selector.length < group.selector.length ∨
    rival.selector.length = group.selector.length ∧
      (group.id < rival.id ∨
        group.id = rival.id ∧ CodePoints.ofFileName name < CodePoints.ofFileName other)

theorem Outranks.asymm (outranks : Outranks name group other rival) :
    ¬ Outranks other rival name group := by
  intro back
  obtain more | ⟨same, id | ⟨sameId, less⟩⟩ := outranks <;>
    obtain more' | ⟨same', id' | ⟨sameId', less'⟩⟩ := back
  any_goals omega
  · exact List.lt_asymm id id'
  · exact List.lt_irrefl _ (sameId' ▸ id)
  · exact List.lt_irrefl _ (sameId ▸ id')
  · exact List.lt_asymm less less'

theorem outranks_of_not_precedes (notBefore : ¬ rival.precedes group = true) :
    Outranks name group other rival := by
  rw [Group.precedes_iff, not_or, not_and, List.not_le] at notBefore
  obtain ⟨fewer, id⟩ := notBefore
  obtain less | same := Nat.lt_or_eq_of_le (Nat.le_of_not_lt fewer)
  · exact .inl less
  · exact .inr ⟨same, .inl (id same)⟩

theorem outranks_of_precedes (before : group.precedes rival = true)
    (names : Store.namePrecedes name other = true)
    (differs : name ≠ other) : Outranks name group other rival := by
  obtain fewer | ⟨same, id⟩ := Group.precedes_iff.mp before
  · exact .inl fewer
  refine .inr ⟨same.symm, ?_⟩
  by_cases sameId : group.id = rival.id
  · have unlike := mt CodePoints.ofFileName_inj.mp differs
    exact .inr ⟨sameId, (List.le_iff_lt_or_eq.mp (of_decide_eq_true names)).resolve_right unlike⟩
  · exact .inl (List.not_le.mp fun back => sameId (List.le_antisymm id back))

namespace Store

variable {store : Store} {names : List Files.Name} {found : List Group}

/-- A group file whose group matches the labels, normalised as they are. -/
structure Matches (store : Store) (labels : Labels) (name : Files.Name) (group : Group) : Prop where
  listed : name ∈ store.groupFiles
  described : store.groupAt name = .ok (some group)
  accepts : group.accepts (normalizeLabels labels) = true

theorem exists_named (read : store.gather names = .ok found) :
    ∃ named : List (Files.Name × Group), named.map (·.2) = found ∧
      (named.map (·.1)).Sublist names ∧ ∀ name group,
        (name, group) ∈ named ↔ name ∈ names ∧ store.groupAt name = .ok (some group) := by
  induction names generalizing found with
  | nil =>
    cases read
    exact ⟨[], rfl, .slnil, by simp⟩
  | cons name names ih =>
    obtain ⟨found?, rest, described, later, rfl⟩ := gather_cons_ok_iff.mp read
    obtain ⟨named, rfl, sublist, members⟩ := ih later
    cases found? with
    | none =>
      -- The file is skipped, so it is not the file of any group.
      refine ⟨named, rfl, sublist.cons name, fun other group => ?_⟩
      rw [members, List.mem_cons]
      refine ⟨fun ⟨listed, given⟩ => ⟨.inr listed, given⟩, fun ⟨listed, given⟩ => ⟨?_, given⟩⟩
      refine listed.resolve_left ?_
      rintro rfl
      cases described.symm.trans given
    | some first =>
      refine ⟨(name, first) :: named, rfl, sublist.cons_cons name, fun other group => ?_⟩
      rw [List.mem_cons, members, List.mem_cons, Prod.mk.injEq]
      constructor
      · rintro (⟨rfl, rfl⟩ | ⟨listed, given⟩)
        · exact ⟨.inl rfl, described⟩
        · exact ⟨.inr listed, given⟩
      · rintro ⟨rfl | listed, given⟩
        · cases described.symm.trans given
          exact .inl ⟨rfl, rfl⟩
        · exact .inr ⟨listed, given⟩

theorem pairwise_groupFiles (store : Store) :
    store.groupFiles.Pairwise fun name other => namePrecedes name other = true := by
  unfold groupFiles
  split
  · exact List.pairwise_mergeSort namePrecedes_trans namePrecedes_total _
  · exact .nil

/-- A group that matches and is chosen before every other that does. -/
structure Best (store : Store) (labels : Labels) (name : Files.Name) (group : Group) : Prop
    extends store.Matches labels name group where
  outranks : ∀ other rival, store.Matches labels other rival → other ≠ name →
    Outranks name group other rival

theorem Best.unique (best : store.Best labels name group) (again : store.Best labels other rival) :
    rival = group := by
  by_cases same : other = name
  · subst same
    cases best.described.symm.trans again.described
    rfl
  · exact absurd (again.outranks _ _ best.toMatches (Ne.symm same))
      (best.outranks _ _ again.toMatches same).asymm

section Readable

variable (read : store.groups = .ok found)

include read

theorem select_eq (labels : Labels) : store.select labels =
    .ok ((found.filter (·.accepts (normalizeLabels labels))).mergeSort Group.precedes).head? := by
  unfold select
  rw [read]
  rfl

theorem select_eq_none_iff : store.select labels = .ok none ↔
    ∀ group ∈ found, group.accepts (normalizeLabels labels) = false := by
  rw [select_eq read, Except.ok.injEq, List.head?_eq_none_iff, ← List.length_eq_zero_iff,
    List.length_mergeSort, List.length_eq_zero_iff, List.filter_eq_nil_iff]
  simp only [Bool.not_eq_true]

/-- Files are read in the order of their names, so of groups that sort alike the one from the lesser
name comes first. -/
theorem best_of_select (chosen : store.select labels = .ok (some group)) :
    ∃ name, store.Best labels name group := by
  rw [groups_eq_gather] at read
  obtain ⟨named, rfl, sublist, members⟩ := exists_named read
  rw [← groups_eq_gather] at read
  -- The sort does not see the names, so they are put back where the chosen group stood before it.
  rw [select_eq read, Except.ok.injEq, List.filter_map] at chosen
  obtain ⟨_, _, split, earlier, later⟩ :=
    head?_mergeSort Group.precedes_trans Group.precedes_total chosen
  obtain ⟨front, rest, kept, rfl, tail⟩ := List.map_eq_append_iff.mp split
  obtain ⟨⟨name, group⟩, back, rfl, rfl, rfl⟩ := List.map_eq_cons_iff.mp tail
  have matching (other : Files.Name) (rival : Group) : store.Matches labels other rival ↔
      (other, rival) ∈ front ++ (name, group) :: back := by
    rw [← kept, List.mem_filter, members]
    exact ⟨fun ⟨listed, described, accepts⟩ => ⟨⟨listed, described⟩, accepts⟩,
      fun ⟨⟨listed, described⟩, accepts⟩ => ⟨listed, described, accepts⟩⟩
  have ordered : (front ++ (name, group) :: back).Pairwise fun one other =>
      namePrecedes one.1 other.1 = true := by
    have sorted := (pairwise_groupFiles store).sublist sublist
    rw [List.pairwise_map] at sorted
    exact kept ▸ sorted.filter _
  obtain ⟨-, ordered, -⟩ := List.pairwise_append.mp ordered
  refine ⟨name, (matching name group).mpr (List.mem_append_right _ List.mem_cons_self), ?_⟩
  intro other rival accepted differs
  obtain among | among := List.mem_append.mp ((matching other rival).mp accepted)
  · have before := earlier rival (List.mem_map_of_mem (f := (·.2)) among)
    exact outranks_of_not_precedes (Bool.eq_false_iff.mp before)
  · obtain same | among := List.mem_cons.mp among
    · exact absurd (congrArg Prod.fst same) differs
    have after := later rival (List.mem_map_of_mem (f := (·.2)) among)
    exact outranks_of_precedes after (List.rel_of_pairwise_cons ordered among) (Ne.symm differs)

theorem mem_groups_iff : group ∈ found ↔
    ∃ name ∈ store.groupFiles, store.groupAt name = .ok (some group) := by
  constructor
  · intro among
    rw [groups_eq_gather] at read
    obtain ⟨named, rfl, -, members⟩ := exists_named read
    obtain ⟨⟨name, group⟩, member, rfl⟩ := List.mem_map.mp among
    obtain ⟨listed, described⟩ := (members name group).mp member
    exact ⟨name, listed, described⟩
  · rintro ⟨name, listed, described⟩
    exact mem_groups read listed described

theorem select_eq_some_iff :
    store.select labels = .ok (some group) ↔ ∃ name, store.Best labels name group := by
  refine ⟨best_of_select read, fun ⟨name, best⟩ => ?_⟩
  have among := mem_groups read best.listed best.described
  obtain ⟨choice, chosen⟩ := select_of_groups read labels
  cases choice with
  | none => cases ((select_eq_none_iff read).mp chosen group among).symm.trans best.accepts
  | some other =>
    obtain ⟨name', best'⟩ := best_of_select read chosen
    rw [chosen, best.unique best']

end Readable

/-! ## Keys -/

theorem nodup_normalizeLabels (distinct : (labels.map (·.1)).Nodup) :
    ((normalizeLabels labels).map (·.1)).Nodup := by
  rw [normalizeLabels_eq, List.map_map]
  exact distinct.sublist (List.filter_sublist.map _)

theorem nodup_of_selectorOf {path : Files.Path} {document : Json} {selector : Labels}
    (loaded : store.load path = .ok (some document)) (selects : selectorOf document = .ok selector) :
    (selector.map (·.1)).Nodup := by
  unfold selectorOf at selects
  cases value : document.field? "selector" with
  | none =>
    rw [value] at selects
    cases selects
    exact .nil
  | some value =>
    simp only [value, Option.getD_some] at selects
    split at selects
    · cases selects
      exact .nil
    split at selects
    next fields =>
      cases selects
      rw [List.map_map]
      exact nodup_of_load loaded value
    next => cases selects

theorem nodup_selector (described : store.groupAt name = .ok (some group)) :
    (group.selector.map (·.1)).Nodup := by
  rw [groupAt_eq] at described
  split at described
  · cases described
  · cases described
  next document loaded =>
    unfold groupOf at described
    split at described
    · cases described
    · obtain ⟨selector, selects, described⟩ := ok_of_bind described
      cases described
      exact nodup_normalizeLabels (nodup_of_selectorOf loaded selects)

/-! ## What the choice does not depend on -/

theorem select_congr_of_lookup {others : Labels}
    (same : ∀ key, (normalizeLabels others).lookup key = (normalizeLabels labels).lookup key) :
    store.select others = store.select labels := by
  have accepts : (fun group : Group => group.accepts (normalizeLabels others)) =
      fun group => group.accepts (normalizeLabels labels) := by
    funext group
    simp only [Group.accepts, same]
  rw [select_eq_candidates, select_eq_candidates, candidates, candidates, accepts]

theorem select_of_perm {others : Labels} (distinct : (labels.map (·.1)).Nodup)
    (perm : labels.Perm others) : store.select others = store.select labels := by
  have distinct' : (others.map (·.1)).Nodup := (perm.map _).nodup_iff.mp distinct
  refine select_congr_of_lookup fun key => ?_
  rw [lookup_normalizeLabels distinct', lookup_normalizeLabels distinct, labelOf, labelOf,
    lookup_of_perm distinct perm]

theorem groupFiles_of_not_dir
    (other : ¬ ∃ entries, Files.find store.files store.groupsPath = .ok (.dir entries)) :
    store.groupFiles = [] := by
  unfold groupFiles
  split
  next entries found => exact absurd ⟨entries, found⟩ other
  · rfl

theorem groupFiles_of_reordered {files : Files.Node} (same : Files.Reordered store.files files) :
    ({ store with files := files } : Store).groupFiles = store.groupFiles := by
  by_cases dir : ∃ entries, Files.find store.files store.groupsPath = .ok (.dir entries)
  · obtain ⟨entries, found⟩ := dir
    obtain ⟨others, found', perm⟩ := same.find_dir found
    have names := mergeSort_eq_of_perm (perm.filter (suffix.isSuffixOf ·))
    unfold groupsPath at found found'
    unfold groupFiles
    dsimp only
    rw [found, found']
    exact names.symm
  · have dir' : ¬ ∃ others, Files.find files store.groupsPath = .ok (.dir others) := by
      rintro ⟨others, found⟩
      obtain ⟨entries, found', -⟩ := same.symm.find_dir found
      exact dir ⟨entries, found'⟩
    have none_left : ({ store with files := files } : Store).groupFiles = [] := groupFiles_of_not_dir dir'
    rw [groupFiles_of_not_dir dir, none_left]

theorem select_of_reordered {files : Files.Node} (same : Files.Reordered store.files files)
    (labels : Labels) : ({ store with files := files } : Store).select labels = store.select labels := by
  refine select_congr ?_ labels
  rw [groups_eq_gather, groups_eq_gather, groupFiles_of_reordered same]
  refine gather_congr fun name _ => ?_
  have loaded : ({ store with files := files } : Store).load (store.groupPath name) =
      store.load (store.groupPath name) := by
    unfold load
    rw [same.read]
  rw [groupAt_eq, groupAt_eq, ← loaded]
  rfl

/-- A group that does not match is never chosen, whatever file it is in. -/
theorem gather_of_unmatched {front back : List Files.Name} {found? : Option Group}
    (described : store.groupAt name = .ok found?)
    (unmatched : ∀ group ∈ found?, group.accepts (normalizeLabels labels) = false) :
    (store.gather (front ++ name :: back)).map (·.filter (·.accepts (normalizeLabels labels))) =
      (store.gather (front ++ back)).map (·.filter (·.accepts (normalizeLabels labels))) := by
  -- On the files before it, any of which may spoil both sides alike.
  induction front with
  | nil =>
    rw [List.nil_append, List.nil_append, gather_cons, described]
    cases store.gather back with
    | error fault => rfl
    | ok rest =>
      cases found? with
      | none => rfl
      | some group =>
        have unlike : ¬ group.accepts (normalizeLabels labels) = true :=
          Bool.eq_false_iff.mp (unmatched group rfl)
        exact congrArg Except.ok (List.filter_cons_of_neg unlike)
  | cons first front ih =>
    rw [List.cons_append, List.cons_append, gather_cons, gather_cons]
    cases store.groupAt first with
    | error fault => rfl
    | ok first? =>
      have prepend (result : Except Fault (List Group)) :
          (result.map (first?.toList ++ ·)).map (·.filter (·.accepts (normalizeLabels labels))) =
            (result.map (·.filter (·.accepts (normalizeLabels labels)))).map
              (first?.toList.filter (·.accepts (normalizeLabels labels)) ++ ·) := by
        cases result with
        | error fault => rfl
        | ok groups => exact congrArg Except.ok (List.filter_append ..)
      exact (prepend _).trans ((congrArg _ ih).trans (prepend _).symm)

theorem ExtraGroup.select {before after : Store} (extra : before.ExtraGroup after name)
    {found? : Option Group} (described : after.groupAt name = .ok found?)
    (unmatched : ∀ group ∈ found?, group.accepts (normalizeLabels labels) = false) :
    after.select labels = before.select labels := by
  obtain ⟨front, back, listed, listed'⟩ := extra.groupFiles
  have others : after.gather (front ++ back) = before.gather (front ++ back) :=
    gather_congr fun other member => extra.groupAt (listed' ▸ member)
  rw [select_eq_candidates, select_eq_candidates, candidates, candidates, groups_eq_gather,
    groups_eq_gather, listed, listed', gather_of_unmatched described unmatched, others]

/-- Where the groups of all files can be read, none is chosen just when none of them matches, and the
chosen one is the one that is chosen before every other that matches. Its rank is told by the number of
its keys, each of which a selector names once, by its id, and by its file name. The choice does not depend on the order of labels or of files, or on a file
that is added or taken away, if its group does not match. -/
theorem select_most_specific (read : store.groups = .ok found) (labels : Labels) :
    (∃ choice, store.select labels = .ok choice) ∧
    (∀ group, group ∈ found ↔
      ∃ name ∈ store.groupFiles, store.groupAt name = .ok (some group)) ∧
    (store.select labels = .ok none ↔
      ∀ group ∈ found, group.accepts (normalizeLabels labels) = false) ∧
    (∀ group, store.select labels = .ok (some group) ↔ ∃ name, store.Best labels name group) ∧
    (∀ group ∈ found, (group.selector.map (·.1)).Nodup) ∧
    (∀ others, (labels.map (·.1)).Nodup → labels.Perm others →
      store.select others = store.select labels) ∧
    (∀ files, Files.Reordered store.files files →
      ({ store with files := files } : Store).select labels = store.select labels) ∧
    (∀ after name found?, store.ExtraGroup after name → after.groupAt name = .ok found? →
      (∀ group ∈ found?, group.accepts (normalizeLabels labels) = false) →
      after.select labels = store.select labels) ∧
    ∀ (before : Store) name found?, before.ExtraGroup store name → store.groupAt name = .ok found? →
      (∀ group ∈ found?, group.accepts (normalizeLabels labels) = false) →
      before.select labels = store.select labels := by
  refine ⟨select_of_groups read labels, fun group => mem_groups_iff read, select_eq_none_iff read,
    fun group => select_eq_some_iff read, fun group among => ?_, fun others => select_of_perm, fun files same =>
    select_of_reordered same labels, fun after name found? extra => extra.select,
    fun before name found? extra described unmatched => (extra.select described unmatched).symm⟩
  obtain ⟨name, -, described⟩ := (mem_groups_iff read).mp among
  exact nodup_selector described

end Store

end Profile

namespace Web

open Profile (Group)

/-! ## A group for all machines and one for some -/

def initFields : List (String × Json) := [("type", .str "init")]

def initStore : Profile.Store := secondStore (Bytes.ofString (selectorDocument initFields).text)

theorem groupAt_initStore : ∃ group, initStore.groupAt secondName = .ok (some group) ∧
    group.selector = Profile.normalizeLabels (.ofStrings [("type", "init")]) := by
  have loaded : initStore.load (initStore.groupPath secondName) =
      .ok (some (selectorDocument initFields)) := by
    refine (Profile.Store.load_of_written ?_ (read_second _)).trans (if_pos (by decide))
    exact isPlain_selectorDocument (isPlain_single "type" "init")
  exact Profile.Store.groupAt_of_selector loaded profile_selectorDocument selector_selectorDocument

theorem extraGroup_initStore : nodeStore.ExtraGroup initStore secondName := extraGroup_second _

theorem groupFiles_initStore {name : Files.Name} :
    name ∈ initStore.groupFiles ↔ name = secondName ∨ name = anyName := by
  have only : nodeStore.groupFiles = [anyName] := groupFiles_single _ _
  obtain ⟨front, back, listed, listed'⟩ := extraGroup_initStore.groupFiles
  rw [only] at listed'
  rw [listed, List.mem_append, List.mem_cons, or_left_comm, ← List.mem_append, ← listed',
    List.mem_singleton]

theorem groupAt_initStore_any : initStore.groupAt anyName = .ok (some nodeGroup) := by
  have only : nodeStore.groupFiles = [anyName] := groupFiles_single _ _
  have listed : anyName ∈ nodeStore.groupFiles := only ▸ List.mem_cons_self
  rw [extraGroup_initStore.groupAt listed]
  have read : nodeStore.groups = .ok [nodeGroup] := anyStore_groups nodeDocument
  obtain ⟨name, among, described⟩ :=
    (Profile.Store.mem_groups_iff read).mp (List.mem_singleton.mpr rfl)
  rw [only] at among
  rw [← List.mem_singleton.mp among, described]

theorem groups_initStore : ∃ found, initStore.groups = .ok found := by
  obtain ⟨group, described, -⟩ := groupAt_initStore
  have each : ∀ name ∈ initStore.groupFiles, ∃ found?, initStore.groupAt name = .ok found? ∧ True := by
    intro name listed
    obtain rfl | rfl := groupFiles_initStore.mp listed
    · exact ⟨_, described, trivial⟩
    · exact ⟨_, groupAt_initStore_any, trivial⟩
  obtain ⟨found, ran, -⟩ := exists_mapM_of_ok each
  exact ⟨found.filterMap id, by rw [Profile.Store.groups, ran]; rfl⟩

def groupEntries : List (Files.Name × Files.Node) := [
  (anyName, .file (Bytes.ofString nodeGroupDocument.text)),
  (secondName, .file (Bytes.ofString (selectorDocument initFields).text))]

def turnedFiles : Files.Node :=
  .dir [
    (Bytes.ofString "groups", .dir groupEntries.reverse),
    (Bytes.ofString "profiles", .dir profileEntries)]

theorem reordered_turned : Files.Reordered initStore.files turnedFiles := by
  have shape : initStore.files = .dir [
      (Bytes.ofString "groups", .dir groupEntries),
      (Bytes.ofString "profiles", .dir profileEntries)] := by
    cbv
  have turned : Files.Reordered (.dir groupEntries) (.dir groupEntries.reverse) :=
    Files.reordered_of_perm (by decide) (List.reverse_perm _).symm
  exact shape ▸ Files.reordered_cons turned _ _

def initLabels : List (String × String) := [("type", "init"), ("ip", "10.0.0.9")]

/-- The group with a selector is chosen for the machines it matches, and the other for the rest. -/
theorem select_most_specific_of_two_files :
    ∃ found group, initStore.groups = .ok found ∧
      initStore.groupAt secondName = .ok (some group) ∧
      initStore.select (.ofStrings initLabels) = .ok (some group) ∧
      initStore.select (.ofStrings initLabels.reverse) = .ok (some group) ∧
      ({ initStore with files := turnedFiles } : Profile.Store).select (.ofStrings initLabels) =
        .ok (some group) ∧
      initStore.select (.ofStrings [("type", "worker")]) = .ok (some nodeGroup) := by
  obtain ⟨found, read⟩ := groups_initStore
  obtain ⟨group, described, selector⟩ := groupAt_initStore
  have best : initStore.Best (.ofStrings initLabels) secondName group := by
    refine ⟨⟨groupFiles_initStore.mpr (.inl rfl), described, ?_⟩, ?_⟩
    · rw [Group.accepts, selector]
      decide
    · rintro other rival ⟨listed, given, -⟩ differs
      obtain rfl := (groupFiles_initStore.mp listed).resolve_left differs
      cases groupAt_initStore_any.symm.trans given
      have keys : group.selector.length = 1 := by
        rw [selector]
        decide
      exact .inl (keys ▸ Nat.zero_lt_one)
  obtain ⟨-, -, -, chosen, -, labels, files, -, -⟩ :=
    Profile.Store.select_most_specific read (.ofStrings initLabels)
  obtain ⟨-, -, -, -, -, -, -, -, removing⟩ :=
    Profile.Store.select_most_specific read (.ofStrings [("type", "worker")])
  have selected := (chosen group).mpr ⟨_, best⟩
  have unmatched : ∀ rival ∈ some group,
      rival.accepts (Profile.normalizeLabels (.ofStrings [("type", "worker")])) = false := by
    rintro _ ⟨⟩
    rw [Group.accepts, selector]
    decide
  refine ⟨found, group, read, described, selected, ?_, ?_, ?_⟩
  · have perm := (List.reverse_perm initLabels).symm
    exact (labels _ (by decide) (perm.map _)).trans selected
  · rw [files _ reordered_turned, selected]
  · rw [← removing nodeStore secondName _ extraGroup_initStore described unmatched,
      nodeStore, anyStore_select]

end Web

end Netboot
