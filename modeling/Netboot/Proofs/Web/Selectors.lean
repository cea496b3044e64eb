import Netboot.Proofs.Json
import Netboot.Proofs.Profile
import Netboot.Proofs.Web.Served

/-! What the selector of a group file asks of a machine. By the rule that is written down, each of its
keys equals the machine's label. But keys with an empty value are dropped from the selector as they are
from the labels, so they ask nothing; and a hardware address of blanks is kept, though it is compared as
an empty one.
-/

set_option autoImplicit false

namespace Netboot

namespace Profile

def compared (key value : CodePoints) : CodePoints :=
  if key == CodePoints.ofString "mac" then normalizeAddress value else value

def labelOf (labels : Labels) (key : CodePoints) : CodePoints := (labels.lookup key).getD []

/-- The rule: every key of the selector equals the machine's label. -/
def Meets (fields : List (CodePoints × Json)) (labels : Labels) : Prop :=
  ∀ field ∈ fields, compared field.1 field.2.plain = compared field.1 (labelOf labels field.1)

instance (fields : List (CodePoints × Json)) (labels : Labels) : Decidable (Meets fields labels) :=
  inferInstanceAs (Decidable (∀ field ∈ fields, _ = _))

/-- What becomes of one key: an empty value allows every machine, any other value those with a label that
is not empty and equals it. -/
def Allows (labels : Labels) (key value : CodePoints) : Prop :=
  value = [] ∨ labelOf labels key ≠ [] ∧ compared key value = compared key (labelOf labels key)

instance (labels : Labels) (key value : CodePoints) : Decidable (Allows labels key value) :=
  inferInstanceAs (Decidable (_ ∨ _ ∧ _))

variable {labels selector : Labels} {key value : CodePoints} {group : Group}

theorem compared_empty (key : CodePoints) : compared key [] = [] := by
  have blank : normalizeAddress [] = [] := by decide
  unfold compared
  split
  · exact blank
  · rfl

theorem normalizeLabels_eq (labels : Labels) :
    normalizeLabels labels =
      (labels.filter (!·.2.isEmpty)).map fun entry => (entry.1, compared entry.1 entry.2) := rfl

theorem lookup_normalizeLabels (distinct : (labels.map (·.1)).Nodup) (key : CodePoints) :
    (normalizeLabels labels).lookup key =
      if labelOf labels key = [] then none else some (compared key (labelOf labels key)) := by
  have kept := lookup_filter_of_distinct distinct (fun value => !value.isEmpty) key
  rw [normalizeLabels_eq, lookup_map, kept, labelOf]
  · cases labels.lookup key with
    | none => rfl
    | some value =>
      rw [Option.getD_some, Option.filter_some]
      by_cases empty : value = []
      · rw [if_pos empty, empty]
        rfl
      · have given : value.isEmpty = false := by simpa using empty
        rw [if_neg empty, given]
        rfl
  · exact fun _ => rfl

theorem lookup_eq_some_iff (distinct : (labels.map (·.1)).Nodup) (key value : CodePoints) :
    (normalizeLabels labels).lookup key = some (compared key value) ↔
      labelOf labels key ≠ [] ∧ compared key value = compared key (labelOf labels key) := by
  rw [lookup_normalizeLabels distinct]
  split
  next none => simp [none]
  next given => simp [given, eq_comm]

/-- Every key of the selector has its say, apart from those with an empty value. -/
theorem accepts_iff (selects : group.selector = normalizeLabels selector)
    (distinct : (labels.map (·.1)).Nodup) :
    group.accepts (normalizeLabels labels) = true ↔
      ∀ entry ∈ selector, Allows labels entry.1 entry.2 := by
  rw [Group.accepts, selects, normalizeLabels_eq selector, List.all_map, List.all_filter,
    List.all_eq_true]
  refine forall₂_congr fun entry _ => ?_
  simp only [Function.comp_apply]
  rw [Bool.not_not, Bool.or_eq_true, List.isEmpty_iff, beq_iff_eq, lookup_eq_some_iff distinct]
  rfl

/-! ## Where the rule holds -/

/-- A value that is not compared as an empty one decides as the rule says. -/
theorem allows_iff_of_ne (given : compared key value ≠ []) :
    Allows labels key value ↔ compared key value = compared key (labelOf labels key) := by
  constructor
  · rintro (rfl | ⟨-, same⟩)
    · exact absurd (compared_empty key) given
    · exact same
  · intro same
    refine .inr ⟨fun none => given ?_, same⟩
    rw [same, none, compared_empty]

/-- Labels that agree with a selector, but for one key. -/
def relabeled (selector : Labels) (key value : CodePoints) : Labels :=
  selector.map fun entry => (entry.1, if entry.1 = key then value else entry.2)

theorem nodup_relabeled (distinct : (selector.map (·.1)).Nodup) (key value : CodePoints) :
    ((relabeled selector key value).map (·.1)).Nodup := by
  rw [relabeled, List.map_map]
  exact distinct

theorem labelOf_relabeled (distinct : (selector.map (·.1)).Nodup) {entry : CodePoints × CodePoints}
    (member : entry ∈ selector) (key value : CodePoints) :
    labelOf (relabeled selector key value) entry.1 =
      if entry.1 = key then value else entry.2 := by
  rw [labelOf, relabeled, lookup_map, lookup_of_mem distinct member]
  · rfl
  · exact fun _ => rfl

theorem allows_own (labels : Labels) (same : labelOf labels key = value) :
    Allows labels key value := by
  subst same
  by_cases empty : labelOf labels key = []
  · exact .inl empty
  · exact .inr ⟨empty, rfl⟩

/-- A value that is compared as an empty one sets the rule aside for some machine. -/
theorem exists_labels_of_compared_empty (distinct : (selector.map (·.1)).Nodup)
    {entry : CodePoints × CodePoints} (member : entry ∈ selector) (vacant : compared entry.1 entry.2 = []) :
    ∃ labels : Labels, (labels.map (·.1)).Nodup ∧
      ¬ ((∀ entry ∈ selector, Allows labels entry.1 entry.2) ↔
        ∀ entry ∈ selector, compared entry.1 entry.2 = compared entry.1 (labelOf labels entry.1)) := by
  have own {other : CodePoints × CodePoints} (among : other ∈ selector) (same : other.1 = entry.1) :
      other.2 = entry.2 := by
    have found := lookup_of_mem distinct among
    rw [same, lookup_of_mem distinct member] at found
    exact (Option.some.inj found).symm
  -- The machine has the values of the selector for labels, but for the key in question: there it has
  -- some label where the selector has none, and none where the selector has blanks.
  have labeled (value : CodePoints) {other : CodePoints × CodePoints} (among : other ∈ selector) :=
    labelOf_relabeled distinct among entry.1 value
  by_cases empty : entry.2 = []
  · refine ⟨relabeled selector entry.1 [.char 'x'], nodup_relabeled distinct _ _, fun rule => ?_⟩
    have allowed : ∀ other ∈ selector,
        Allows (relabeled selector entry.1 [.char 'x']) other.1 other.2 := by
      intro other among
      by_cases same : other.1 = entry.1
      · exact .inl ((own among same).trans empty)
      · exact allows_own _ ((labeled [.char 'x'] among).trans (if_neg same))
    have met := rule.mp allowed entry member
    rw [vacant, labeled [.char 'x'] member, if_pos rfl] at met
    have letter : normalizeAddress [.char 'x'] = [.char 'x'] := by decide
    unfold compared at met
    split at met
    · rw [letter] at met
      cases met
    · cases met
  · refine ⟨relabeled selector entry.1 [], nodup_relabeled distinct _ _, fun rule => ?_⟩
    have met : ∀ other ∈ selector, compared other.1 other.2 =
        compared other.1 (labelOf (relabeled selector entry.1 []) other.1) := by
      intro other among
      rw [labeled [] among]
      by_cases same : other.1 = entry.1
      · rw [if_pos same, own among same, same, vacant, compared_empty]
      · rw [if_neg same]
    obtain none | ⟨given, -⟩ := rule.mpr met entry member
    · exact empty none
    · exact given ((labeled [] member).trans (if_pos rfl))

/-! ## Candidates -/

namespace Store

variable {store : Store} {groups : List Group} {name : Files.Name} {document profile : Json}
  {fields : List (CodePoints × Json)}

def candidates (store : Store) (labels : Labels) : Except Fault (List Group) :=
  store.groups.map (·.filter (·.accepts (normalizeLabels labels)))

/-- The group is one of those that the choice is made from. -/
def Proposes (store : Store) (labels : Labels) (group : Group) : Prop :=
  ∃ found, store.candidates labels = .ok found ∧ group ∈ found

theorem select_eq_candidates (store : Store) (labels : Labels) :
    store.select labels = (store.candidates labels).map fun found =>
      (found.mergeSort Group.precedes).head? := by
  unfold select candidates
  cases store.groups <;> rfl

theorem proposes_iff (readable : store.groups = .ok groups) (among : group ∈ groups)
    (labels : Labels) :
    store.Proposes labels group ↔ group.accepts (normalizeLabels labels) = true := by
  rw [Proposes, candidates, readable]
  constructor
  · rintro ⟨found, same, member⟩
    cases same
    exact (List.mem_filter.mp member).2
  · intro accepts
    exact ⟨_, rfl, List.mem_filter.mpr ⟨among, accepts⟩⟩

theorem mem_groups (readable : store.groups = .ok groups) (listed : name ∈ store.groupFiles)
    (described : store.groupAt name = .ok (some group)) : group ∈ groups := by
  obtain ⟨found, ran, same⟩ := ok_of_bind readable
  cases same
  obtain ⟨result, member, read⟩ := ok_of_mapM ran listed
  cases described.symm.trans read
  exact List.mem_filterMap.mpr ⟨_, member, rfl⟩

theorem groupAt_of_selector (loaded : store.load (store.groupPath name) = .ok (some document))
    (named : document.field? "profile" = some profile)
    (selects : document.field? "selector" = some (.obj fields)) :
    ∃ group, store.groupAt name = .ok (some group) ∧
      group.selector = normalizeLabels (fields.map fun field => (field.1, field.2.plain)) := by
  have read : selectorOf document = .ok (fields.map fun field => (field.1, field.2.plain)) := by
    rw [selectorOf, selects]
    cases fields <;> rfl
  rw [groupAt_eq, loaded]
  simp only [groupOf, named, read]
  exact ⟨_, rfl, rfl⟩

theorem nodup_of_load {path : Files.Path} (loaded : store.load path = .ok (some document))
    (selects : document.field? "selector" = some (.obj fields)) : (fields.map (·.1)).Nodup := by
  obtain ⟨content, text, -, -, parsed⟩ := exists_of_load loaded
  have sound := Json.sound_of_ofChars parsed
  exact (Json.isKeyed_obj_iff.mp (Json.isKeyed_of_field? sound.keyed selects)).1

/-- A group file with an object for its selector, and the machines that its group is proposed to. The rule
decides for every machine just when no value of the selector is compared as an empty one. -/
theorem proposes_iff_of_selector (readable : store.groups = .ok groups)
    (listed : name ∈ store.groupFiles)
    (loaded : store.load (store.groupPath name) = .ok (some document))
    (named : document.field? "profile" = some profile)
    (selects : document.field? "selector" = some (.obj fields)) :
    ∃ group, store.groupAt name = .ok (some group) ∧
      (∀ labels : Labels, (labels.map (·.1)).Nodup → (store.Proposes labels group ↔
        ∀ field ∈ fields, Allows labels field.1 field.2.plain)) ∧
      ((∀ labels : Labels, (labels.map (·.1)).Nodup →
          (store.Proposes labels group ↔ Meets fields labels)) ↔
        ∀ field ∈ fields, compared field.1 field.2.plain ≠ []) := by
  obtain ⟨group, described, selector⟩ := groupAt_of_selector loaded named selects
  have among := mem_groups readable listed described
  have allowed (labels : Labels) (distinct : (labels.map (·.1)).Nodup) :
      store.Proposes labels group ↔ ∀ field ∈ fields, Allows labels field.1 field.2.plain := by
    rw [proposes_iff readable among, accepts_iff selector distinct, List.forall_mem_map]
  refine ⟨group, described, allowed, fun rule field member none => ?_, fun given labels distinct => ?_⟩
  · have names : ((fields.map fun field => (field.1, field.2.plain)).map (·.1)).Nodup := by
      rw [List.map_map]
      exact nodup_of_load loaded selects
    obtain ⟨labels, distinct, differs⟩ :=
      exists_labels_of_compared_empty names (List.mem_map_of_mem member) none
    rw [List.forall_mem_map, List.forall_mem_map] at differs
    exact differs ((allowed labels distinct).symm.trans (rule labels distinct))
  · rw [allowed labels distinct]
    exact forall₂_congr fun field member => allows_iff_of_ne (given field member)

end Store

end Profile

namespace Web

def selectorDocument (fields : List (String × Json)) : Json :=
  .record [("profile", .str "node"), ("selector", .record fields)]

def selectorStore (fields : List (String × Json)) : Profile.Store :=
  singleStore (Bytes.ofString (selectorDocument fields).text) (Bytes.ofString nodeDocument.text)

def anyName : Files.Name := Bytes.ofString "any.json"

section
variable {fields : List (String × Json)}

theorem listed_selectorStore : anyName ∈ (selectorStore fields).groupFiles := by
  rw [selectorStore, groupFiles_single]
  exact List.mem_singleton.mpr rfl

theorem profile_selectorDocument :
    (selectorDocument fields).field? "profile" = some (.str "node") := by
  rw [selectorDocument, Json.field?_record]
  rfl

theorem selector_selectorDocument :
    (selectorDocument fields).field? "selector" = some (.record fields) := by
  rw [selectorDocument, Json.field?_record]
  rfl

variable (plain : (Json.record fields).IsPlain) (shallow : (Json.record fields).depth < 100)
include plain

theorem isPlain_selectorDocument : (selectorDocument fields).IsPlain := by
  refine .record (by simp) ?_
  simpa using ⟨Json.isPlain_string "node", plain⟩

include shallow

theorem load_selectorStore : (selectorStore fields).load ((selectorStore fields).groupPath anyName) =
    .ok (some (selectorDocument fields)) := by
  have bounded : (selectorDocument fields).depth ≤ 100 := by
    simpa [selectorDocument, Json.record, Json.named, Json.depth, Json.fieldsDepth] using shallow
  exact (Profile.Store.load_of_written (isPlain_selectorDocument plain)
    (read_single_group _ _)).trans (if_pos bounded)

theorem groupAt_selectorStore : ∃ group, (selectorStore fields).groupAt anyName = .ok (some group) ∧
    (selectorStore fields).groups = .ok [group] ∧ group.selector =
      Profile.normalizeLabels ((Json.named fields).map fun field => (field.1, field.2.plain)) := by
  obtain ⟨group, described, selects⟩ := Profile.Store.groupAt_of_selector
    (load_selectorStore plain shallow) profile_selectorDocument selector_selectorDocument
  exact ⟨group, described, groups_single _ _ described, selects⟩

theorem proposes_selectorStore_iff :
    ∃ group, (selectorStore fields).groupAt anyName = .ok (some group) ∧
      ∀ labels : Labels, (labels.map (·.1)).Nodup → ((selectorStore fields).Proposes labels group ↔
        ∀ field ∈ Json.named fields, Profile.Allows labels field.1 field.2.plain) := by
  obtain ⟨group, described, readable, selects⟩ := groupAt_selectorStore plain shallow
  refine ⟨group, described, fun labels distinct => ?_⟩
  rw [Profile.Store.proposes_iff readable (List.mem_singleton.mpr rfl),
    Profile.accepts_iff selects distinct, List.forall_mem_map]

end

theorem isPlain_single (name value : String) :
    (Json.record [(name, .str (CodePoints.ofString value))]).IsPlain :=
  .record (List.nodup_singleton _) (by simpa using Json.isPlain_string value)

def addressFields : List (String × Json) := [("type", .str "init"), ("mac", .str "00-11-22-AA-BB-CC")]

theorem isPlain_addressFields : (Json.record addressFields).IsPlain := by
  refine .record (by decide) ?_
  simpa [addressFields] using ⟨Json.isPlain_string "init", Json.isPlain_string "00-11-22-AA-BB-CC"⟩

/-- A selector with a type and a hardware address, and a machine that has both. -/
theorem proposes_iff_of_selector_of_address :
    ∃ group, (selectorStore addressFields).groupAt anyName = .ok (some group) ∧
      (selectorStore addressFields).Proposes
        (.ofStrings [("mac", "001122aabbcc"), ("type", "init")]) group ∧
      ¬ (selectorStore addressFields).Proposes (.ofStrings [("mac", "001122aabbcc")]) group := by
  obtain ⟨single, described, readable, -⟩ := groupAt_selectorStore isPlain_addressFields (by decide)
  obtain ⟨group, found, -, rule⟩ := Profile.Store.proposes_iff_of_selector readable
    listed_selectorStore (load_selectorStore isPlain_addressFields (by decide))
    profile_selectorDocument selector_selectorDocument
  have given : ∀ field ∈ Json.named addressFields,
      Profile.compared field.1 field.2.plain ≠ [] := by
    decide
  refine ⟨group, found, (rule.mpr given _ (by decide)).mpr (by decide +kernel), ?_⟩
  rw [rule.mpr given _ (by decide)]
  decide

def emptyFields : List (String × Json) := [("serial", .str "")]

def blankFields : List (String × Json) := [("mac", .str " ")]

/-- A machine with a serial number is given a group that asks for none, and one without a hardware address
is not given the group that asks for none. -/
theorem empty_values_break_rule :
    (∃ group, (selectorStore emptyFields).groupAt anyName = .ok (some group) ∧
      (selectorStore emptyFields).load ((selectorStore emptyFields).groupPath anyName) =
        .ok (some (selectorDocument emptyFields)) ∧
      (selectorStore emptyFields).Proposes (.ofStrings [("serial", "x")]) group ∧
      ¬ Profile.Meets (Json.named emptyFields) (.ofStrings [("serial", "x")])) ∧
    ∃ group, (selectorStore blankFields).groupAt anyName = .ok (some group) ∧
      (selectorStore blankFields).load ((selectorStore blankFields).groupPath anyName) =
        .ok (some (selectorDocument blankFields)) ∧
      ¬ (selectorStore blankFields).Proposes [] group ∧
      Profile.Meets (Json.named blankFields) [] := by
  constructor
  · have plain : (Json.record emptyFields).IsPlain := isPlain_single "serial" ""
    obtain ⟨group, described, proposes⟩ := proposes_selectorStore_iff plain (by decide)
    refine ⟨group, described, load_selectorStore plain (by decide), ?_, by decide⟩
    exact (proposes _ (by decide)).mpr (by decide)
  · have plain : (Json.record blankFields).IsPlain := isPlain_single "mac" " "
    obtain ⟨group, described, proposes⟩ := proposes_selectorStore_iff plain (by decide)
    refine ⟨group, described, load_selectorStore plain (by decide), ?_, by decide⟩
    rw [proposes _ (by decide)]
    decide

end Web

end Netboot
