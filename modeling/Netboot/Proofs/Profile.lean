import Netboot.Profile
import Netboot.Proofs.Files.Growth
import Netboot.Proofs.Json.Written
import Netboot.Proofs.Text.CodePoint
import Mathlib.Data.List.Sort

/-! What one more group file does to the groups and profiles of a store. -/

set_option autoImplicit false

namespace Netboot.Profile.Store

variable {before after store : Store} {name : Files.Name} {names front back : List Files.Name}
  {found : List Group} {fault : Fault} {path : Files.Path}

/-! ## Groups in the order of their files -/

def gather (store : Store) (names : List Files.Name) : Except Fault (List Group) :=
  (names.mapM store.groupAt).map (·.filterMap id)

theorem groups_eq_gather (store : Store) : store.groups = store.gather store.groupFiles := by
  unfold groups gather
  cases store.groupFiles.mapM store.groupAt <;> rfl

theorem gather_cons (store : Store) (name : Files.Name) (names : List Files.Name) :
    store.gather (name :: names) =
      (store.groupAt name).bind fun found? => (store.gather names).map (found?.toList ++ ·) := by
  unfold gather
  rw [List.mapM_cons]
  cases store.groupAt name with
  | error => rfl
  | ok found? =>
    cases names.mapM store.groupAt with
    | error => rfl
    | ok found => cases found? <;> rfl

theorem gather_cons_ok_iff :
    store.gather (name :: back) = .ok found ↔ ∃ found? rest, store.groupAt name = .ok found? ∧
      store.gather back = .ok rest ∧ found = found?.toList ++ rest := by
  rw [gather_cons]
  cases store.groupAt name with
  | error fault => exact iff_of_false nofun nofun
  | ok found? =>
    cases store.gather back with
    | error fault => exact iff_of_false nofun nofun
    | ok rest => simp [Except.bind, Except.map, eq_comm]

theorem gather_of_skipped (skipped : store.groupAt name = .ok none) :
    store.gather (front ++ name :: back) = store.gather (front ++ back) := by
  induction front with
  | nil =>
    rw [List.nil_append, List.nil_append, gather_cons, skipped]
    cases store.gather back <;> rfl
  | cons first front ih => rw [List.cons_append, gather_cons, ih, List.cons_append, ← gather_cons]

theorem gather_of_failed (failed : store.groupAt name = .error fault)
    (others : store.gather (front ++ back) = .ok found) :
    store.gather (front ++ name :: back) = .error fault := by
  induction front generalizing found with
  | nil =>
    rw [List.nil_append, gather_cons, failed]
    rfl
  | cons first front ih =>
    obtain ⟨found?, rest, read, later, -⟩ := gather_cons_ok_iff.mp others
    rw [List.cons_append, gather_cons, read, ih later]
    rfl

theorem gather_congr (same : ∀ name ∈ names, after.groupAt name = before.groupAt name) :
    after.gather names = before.gather names := by
  induction names with
  | nil => rfl
  | cons name rest ih =>
    obtain ⟨first, others⟩ := List.forall_mem_cons.mp same
    rw [gather_cons, gather_cons, first, ih others]

/-! ## One more entry -/

def groupsPath (store : Store) : Files.Path := store.root ++ [Bytes.ofString "groups"]

def groupPath (store : Store) (name : Files.Name) : Files.Path :=
  store.root ++ [Bytes.ofString "groups", name]

def profilePath (store : Store) (id : String) : Files.Path :=
  store.root ++ [Bytes.ofString "profiles", Bytes.ofString id ++ suffix]

theorem groupAt_eq (store : Store) (name : Files.Name) :
    store.groupAt name = match store.load (store.groupPath name) with
      | .error fault => .error fault
      | .ok none => .ok none
      | .ok (some document) => groupOf name document := by
  unfold groupAt groupPath
  cases store.load _ with
  | error fault => rfl
  | ok document? => cases document? <;> rfl

variable {text : CodePoints} {id : String}

theorem profile_of_notId (bad : profileId? text = none) : store.profile text = .ok none := by
  unfold profile
  rw [bad]
  rfl

theorem profile_of_id (named : profileId? text = some id) :
    store.profile text = match Files.exists? store.files (store.profilePath id) with
      | .error fault => .error (.path fault)
      | .ok there => if there then store.load (store.profilePath id) else .ok none := by
  unfold profile profilePath
  rw [named]
  dsimp only
  cases Files.exists? store.files (store.root ++ _) with
  | error fault => rfl
  | ok there => cases there <;> rfl

/-- The paths that tell a store's groups and profiles. -/
inductive Reads (store : Store) : Files.Path → Prop where
  | group {name : Files.Name} (listed : name ∈ store.groupFiles) :
      Reads store (store.groupPath name)
  | profile (id : String) : Reads store (store.profilePath id)

/-- The one store has a group file more than the other. Whatever was there is there as it was, and
no path to a group or a profile that led nowhere leads anywhere now. -/
structure ExtraGroup (before after : Store) (name : Files.Name) : Prop where
  root : after.root = before.root
  depth : after.depth = before.depth
  grows : Files.Extends before.files after.files
  json : suffix.isSuffixOf name = true
  listed : ∃ entries entries', Files.find before.files before.groupsPath = .ok (.dir entries) ∧
    Files.find after.files before.groupsPath = .ok (.dir entries') ∧
    (entries'.map (·.1)).Perm (name :: entries.map (·.1))
  still : ∀ path, before.Reads path → Files.find before.files path = .error .missing →
    Files.find after.files path = .error .missing

theorem namePrecedes_trans (a b c : Files.Name) (ab : namePrecedes a b = true)
    (bc : namePrecedes b c = true) : namePrecedes a c = true :=
  decide_eq_true (List.le_trans (of_decide_eq_true ab) (of_decide_eq_true bc))

theorem namePrecedes_total (a b : Files.Name) : (namePrecedes a b || namePrecedes b a) = true := by
  simp only [namePrecedes, Bool.or_eq_true, decide_eq_true_eq]
  exact List.le_total _ _

theorem namePrecedes_antisymm {a b : Files.Name} (ab : namePrecedes a b = true)
    (ba : namePrecedes b a = true) : a = b :=
  CodePoints.ofFileName_inj.mp (List.le_antisymm (of_decide_eq_true ab) (of_decide_eq_true ba))

-- By their bytes the names would stand the other way round.
example : namePrecedes [0xff] [0xee, 0x80, 0x80] = true := by decide +kernel

theorem extraGroup_put {dir : Files.Path} {entries : List (Files.Name × Files.Node)}
    {new : Files.Node} (json : suffix.isSuffixOf name = true)
    (short : ¬ Files.pathLimit < 1 + (Files.joinNames before.groupsPath).length)
    (reached : Files.walk before.files Files.linkLimit [] before.groupsPath = .ok dir)
    (found : before.files.at? dir = some (.dir entries)) (unused : entries.lookup name = none)
    (still : ∀ path, before.Reads path → Files.find before.files path = .error .missing →
      Files.find (.put new (dir ++ [name]) before.files) path = .error .missing) :
    ExtraGroup before { before with files := .put new (dir ++ [name]) before.files } name where
  root := rfl
  depth := rfl
  grows := Files.extends_put found unused
  json := json
  still := still
  listed := by
    have stands : before.files.at? [] ≠ none := Option.some_ne_none before.files
    have grows : Files.Extends before.files (.put new (dir ++ [name]) before.files) :=
      Files.extends_put found unused
    have reached' := Files.walk_of_extends grows stands
      (fun missing => nomatch reached.symm.trans missing)
    refine ⟨entries, Files.Node.setEntry entries name new, Files.find_of_walk short reached found,
      Files.find_of_walk short (reached'.trans reached) (Files.at?_put found), ?_⟩
    have appended : Files.Node.setEntry entries name new = entries ++ [(name, new)] := by
      simp [Files.Node.setEntry, unused]
    rw [appended, List.map_append]
    exact List.perm_append_singleton name _

/-- The order in which files are read depends on their names alone. -/
theorem mergeSort_eq_of_perm {one other : List Files.Name} (same : one.Perm other) :
    one.mergeSort namePrecedes = other.mergeSort namePrecedes := by
  refine List.Perm.eq_of_pairwise (fun a b _ _ => namePrecedes_antisymm)
    (List.pairwise_mergeSort namePrecedes_trans namePrecedes_total one)
    (List.pairwise_mergeSort namePrecedes_trans namePrecedes_total other)
    ((List.mergeSort_perm one _).trans (same.trans (List.mergeSort_perm other _).symm))

namespace ExtraGroup

variable (extra : ExtraGroup before after name)
include extra

theorem groupFiles :
    ∃ front back, after.groupFiles = front ++ name :: back ∧ before.groupFiles = front ++ back := by
  obtain ⟨entries, entries', found, found', perm⟩ := extra.listed
  have names : after.groupFiles = (name :: (entries.map (·.1)).filter (suffix.isSuffixOf ·)).mergeSort
      namePrecedes := by
    unfold Store.groupFiles
    rw [extra.root]
    unfold groupsPath at found'
    rw [found']
    dsimp only
    rw [mergeSort_eq_of_perm (perm.filter _), List.filter_cons_of_pos extra.json]
  have names' : before.groupFiles = ((entries.map (·.1)).filter (suffix.isSuffixOf ·)).mergeSort
      namePrecedes := by
    unfold Store.groupFiles
    unfold groupsPath at found
    rw [found]
  -- Sorting puts the new name somewhere among the others and keeps their order.
  obtain ⟨front, back, sorted, sorted', -⟩ :=
    List.mergeSort_cons namePrecedes_trans namePrecedes_total name
      ((entries.map (·.1)).filter (suffix.isSuffixOf ·))
  exact ⟨front, back, names.trans sorted, names'.trans sorted'⟩

theorem load (reads : before.Reads path) : after.load path = before.load path := by
  unfold Store.load
  rw [Files.read_of_extends extra.grows (extra.still path reads), extra.depth]

theorem groupPath (other : Files.Name) : after.groupPath other = before.groupPath other := by
  unfold Store.groupPath
  rw [extra.root]

theorem groupAt {other : Files.Name} (listed : other ∈ before.groupFiles) :
    after.groupAt other = before.groupAt other := by
  rw [groupAt_eq, groupAt_eq, extra.groupPath, extra.load (.group listed)]

theorem profile (text : CodePoints) : after.profile text = before.profile text := by
  cases named : profileId? text with
  | none => rw [profile_of_notId named, profile_of_notId named]
  | some id =>
    have reads : before.Reads (before.profilePath id) := .profile id
    have same : after.profilePath id = before.profilePath id := by
      unfold Store.profilePath
      rw [extra.root]
    rw [profile_of_id named, profile_of_id named, same, extra.load reads,
      Files.exists?_of_extends extra.grows (extra.still _ reads)]

theorem groups_of_skipped (skipped : after.groupAt name = .ok none) : after.groups = before.groups := by
  obtain ⟨front, back, listed, listed'⟩ := extra.groupFiles
  rw [groups_eq_gather, groups_eq_gather, listed, gather_of_skipped skipped, listed']
  exact gather_congr fun other member => extra.groupAt (listed' ▸ member)

theorem groups_of_failed (failed : after.groupAt name = .error fault)
    (read : before.groups = .ok found) : after.groups = .error fault := by
  obtain ⟨front, back, listed, listed'⟩ := extra.groupFiles
  have others : after.gather (front ++ back) = before.gather (front ++ back) :=
    gather_congr fun other member => extra.groupAt (listed' ▸ member)
  rw [groups_eq_gather, listed'] at read
  rw [groups_eq_gather, listed, gather_of_failed failed (others.trans read)]

end ExtraGroup

/-! ## Files that hold no document -/

inductive NoDocument (store : Store) (path : Files.Path) : Prop where
  | unreadable (fault : Files.Fault) (failed : Files.read store.files path = .error fault)
  | notText (content : Bytes) (got : Files.read store.files path = .ok content)
      (undecoded : Text.decode? content = none)
  | notJson (content : Bytes) (text : List Char)
      (got : Files.read store.files path = .ok content)
      (decoded : Text.decode? content = some text)
      (unparsed : Json.ofChars store.depth text = .error .malformed)
  | notObject (content : Bytes) (text : List Char) (value : Json)
      (got : Files.read store.files path = .ok content)
      (decoded : Text.decode? content = some text)
      (parsed : Json.ofChars store.depth text = .ok value)
      (other : ∀ fields, value ≠ .obj fields)

/-- More arrays and objects are open in one another in the file than the store keeps track of. -/
def IsTooDeep (store : Store) (path : Files.Path) : Prop :=
  ∃ content text, Files.read store.files path = .ok content ∧ Text.decode? content = some text ∧
    Json.ofChars store.depth text = .error .tooDeep

theorem load_of_read {content : Bytes} (got : Files.read store.files path = .ok content) :
    store.load path = match (Text.decode? content).map (Json.ofChars store.depth) with
      | some (.ok (.obj fields)) => .ok (some (.obj fields))
      | some (.error .tooDeep) => .error .tooDeep
      | _ => .ok none := by
  unfold load
  generalize Files.read store.files path = result at got ⊢
  cases got
  rfl

theorem load_cases (store : Store) (path : Files.Path) :
    store.NoDocument path ∧ store.load path = .ok none ∨
      store.IsTooDeep path ∧ store.load path = .error .tooDeep ∨
      ∃ fields, store.load path = .ok (some (.obj fields)) := by
  cases got : Files.read store.files path with
  | error fault => exact .inl ⟨.unreadable fault got, by rw [load, got]⟩
  | ok content =>
    rw [load_of_read got]
    cases decoded : Text.decode? content with
    | none => exact .inl ⟨.notText content got decoded, rfl⟩
    | some text =>
      rw [Option.map_some]
      cases parsed : Json.ofChars store.depth text with
      | error unread =>
        cases unread with
        | malformed => exact .inl ⟨.notJson content text got decoded parsed, rfl⟩
        | tooDeep => exact .inr (.inl ⟨⟨content, text, got, decoded, parsed⟩, rfl⟩)
      | ok value =>
        cases value with
        | obj fields => exact .inr (.inr ⟨fields, rfl⟩)
        | _ => exact .inl ⟨.notObject content text _ got decoded parsed nofun, rfl⟩

theorem exists_of_load {document : Json} (loaded : store.load path = .ok (some document)) :
    ∃ content text, Files.read store.files path = .ok content ∧ Text.decode? content = some text ∧
      Json.ofChars store.depth text = .ok document := by
  cases got : Files.read store.files path with
  | error fault =>
    rw [load, got] at loaded
    cases loaded
  | ok content =>
    rw [load_of_read got] at loaded
    split at loaded
    next fields read =>
      cases loaded
      obtain ⟨text, decoded, parsed⟩ := Option.map_eq_some_iff.mp read
      exact ⟨content, text, rfl, decoded, parsed⟩
    · cases loaded
    · cases loaded

theorem load_of_noDocument (noDocument : store.NoDocument path) : store.load path = .ok none := by
  cases noDocument with
  | unreadable fault failed => rw [load, failed]
  | notText content got undecoded => rw [load_of_read got, undecoded]; rfl
  | notJson content text got decoded unparsed =>
    rw [load_of_read got, decoded, Option.map_some, unparsed]
  | notObject content text value got decoded parsed other =>
    rw [load_of_read got, decoded, Option.map_some, parsed]
    cases value with
    | obj fields => exact absurd rfl (other fields)
    | _ => rfl

theorem load_of_isTooDeep (deep : store.IsTooDeep path) : store.load path = .error .tooDeep := by
  obtain ⟨content, text, got, decoded, parsed⟩ := deep
  rw [load_of_read got, decoded, Option.map_some, parsed]

theorem load_eq_none_iff : store.load path = .ok none ↔ store.NoDocument path := by
  refine ⟨fun gone => ?_, load_of_noDocument⟩
  obtain ⟨noDocument, -⟩ | ⟨-, loaded⟩ | ⟨fields, loaded⟩ := store.load_cases path
  · exact noDocument
  · cases gone.symm.trans loaded
  · cases gone.symm.trans loaded

theorem load_of_written {fields : List (String × Json)} (plain : (Json.record fields).IsPlain)
    (got : Files.read store.files path = .ok (Bytes.ofString (Json.record fields).text)) :
    store.load path = if (Json.record fields).depth ≤ store.depth then .ok (some (.record fields))
      else .error .tooDeep := by
  rw [load_of_read got, Json.decode?_text, Option.map_some, Json.ofChars_chars plain]
  by_cases shallow : (Json.record fields).depth ≤ store.depth
  · rw [if_pos shallow, if_pos shallow]
    rfl
  · rw [if_neg shallow, if_neg shallow]

/-- For a document that was written, the bound is one on its depth. -/
theorem isTooDeep_iff_of_written {document : Json} (plain : document.IsPlain)
    (got : Files.read store.files path = .ok (Bytes.ofString document.text)) :
    store.IsTooDeep path ↔ store.depth < document.depth := by
  have read := Json.ofChars_chars plain store.depth
  constructor
  · rintro ⟨content, text, got', decoded, parsed⟩
    obtain rfl := Except.ok.inj (got.symm.trans got')
    obtain rfl := Option.some.inj ((Json.decode?_text document).symm.trans decoded)
    refine Nat.lt_of_not_le fun shallow => ?_
    rw [read, if_pos shallow] at parsed
    cases parsed
  · intro deep
    rw [if_neg (Nat.not_le_of_lt deep)] at read
    exact ⟨_, _, got, Json.decode?_text document, read⟩

inductive NoProfile (store : Store) (text : CodePoints) : Prop where
  | notId (bad : profileId? text = none)
  | missing (id : String) (named : profileId? text = some id)
      (gone : Files.exists? store.files (store.profilePath id) = .ok false)
  | noDocument (id : String) (named : profileId? text = some id)
      (noDocument : store.NoDocument (store.profilePath id))

/-- Unless the lookup fails, a profile is found just when nothing speaks against it. -/
theorem profile_eq_none_iff (looked : ∃ found?, store.profile text = .ok found?) :
    store.profile text = .ok none ↔ store.NoProfile text := by
  cases named : profileId? text with
  | none => exact iff_of_true (profile_of_notId named) (.notId named)
  | some id =>
    rw [profile_of_id named] at looked ⊢
    cases looked? : Files.exists? store.files (store.profilePath id) with
    | error fault =>
      rw [looked?] at looked
      obtain ⟨found?, looked⟩ := looked
      cases looked
    | ok there =>
      cases there with
      | false => exact iff_of_true rfl (.missing id named looked?)
      | true =>
        constructor
        · exact fun gone => .noDocument id named (load_eq_none_iff.mp gone)
        · intro noProfile
          cases noProfile with
          | notId bad => exact nomatch named.symm.trans bad
          | missing other named' gone =>
            obtain rfl := Option.some.inj (named.symm.trans named')
            exact nomatch looked?.symm.trans gone
          | noDocument other named' noDocument =>
            obtain rfl := Option.some.inj (named.symm.trans named')
            exact load_eq_none_iff.mpr noDocument

/-! ## Files that describe no group -/

/-- The value in place of a selector counts as true and has no keys. -/
def BadSelector (document : Json) : Prop :=
  ((document.field? "selector").getD .null).truthy = true ∧
    ∀ fields, document.field? "selector" ≠ some (.obj fields)

def HasBadSelector (store : Store) (name : Files.Name) : Prop :=
  ∃ document profile, store.load (store.groupPath name) = .ok (some document) ∧
    document.field? "profile" = some profile ∧ BadSelector document

/-- The reasons why a file describes no group. -/
inductive Unusable (store : Store) (name : Files.Name) : Prop where
  | noDocument (noDocument : store.NoDocument (store.groupPath name))
  | tooDeep (deep : store.IsTooDeep (store.groupPath name))
  | noProfile (document : Json) (loaded : store.load (store.groupPath name) = .ok (some document))
      (unnamed : document.field? "profile" = none)
  | badSelector (bad : store.HasBadSelector name)

/-- The two of them that are not caught, and the faults that come of them. -/
inductive Spoils (store : Store) (name : Files.Name) : Fault → Prop where
  | badSelector (bad : store.HasBadSelector name) : Spoils store name .selector
  | tooDeep (deep : store.IsTooDeep (store.groupPath name)) : Spoils store name .tooDeep

theorem selectorOf_of_bad {document : Json} (bad : BadSelector document) :
    selectorOf document = .error .selector := by
  obtain ⟨truthy, other⟩ := bad
  unfold selectorOf
  simp only [truthy, Bool.not_true, Bool.false_eq_true, if_false]
  split
  next fields same =>
    cases given : document.field? "selector" with
    | none => simp [given] at same
    | some value =>
      rw [given] at same
      exact absurd (same ▸ given) (other fields)
  · rfl

theorem groupAt_of_spoils (spoils : store.Spoils name fault) : store.groupAt name = .error fault := by
  rw [groupAt_eq]
  cases spoils with
  | badSelector bad =>
    obtain ⟨document, profile, loaded, named, bad⟩ := bad
    rw [loaded]
    simp only [groupOf, named, selectorOf_of_bad bad]
    rfl
  | tooDeep deep => rw [load_of_isTooDeep deep]

theorem not_spoils_of_noDocument (noDocument : store.NoDocument (store.groupPath name)) :
    ¬ store.Spoils name fault := by
  have gone := load_of_noDocument noDocument
  rintro (⟨document, profile, loaded, -⟩ | deep)
  · cases gone.symm.trans loaded
  · cases gone.symm.trans (load_of_isTooDeep deep)

/-- Every other unusable file is passed over. -/
theorem groupAt_of_unusable (unusable : store.Unusable name)
    (harmless : ∀ fault, ¬ store.Spoils name fault) : store.groupAt name = .ok none := by
  rw [groupAt_eq]
  cases unusable with
  | noDocument noDocument => rw [load_of_noDocument noDocument]
  | tooDeep deep => exact absurd (.tooDeep deep) (harmless _)
  | noProfile document loaded unnamed =>
    rw [loaded]
    simp only [groupOf, unnamed]
    rfl
  | badSelector bad => exact absurd (.badSelector bad) (harmless _)

end Netboot.Profile.Store
