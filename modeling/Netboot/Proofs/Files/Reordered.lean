import Netboot.Proofs.Files.Growth

/-! Trees whose directories list their entries in another order. -/

set_option autoImplicit false

namespace Netboot.Files

variable {one other : Node} {path : Path} {entries others : List (Name × Node)} {name : Name}

/-- The trees differ in nothing but the order in which directories list their entries. -/
structure Reordered (one other : Node) : Prop where
  forth : Extends one other
  back : Extends other one
  listing : ∀ path entries others, one.at? path = some (.dir entries) →
    other.at? path = some (.dir others) → (entries.map (·.1)).Perm (others.map (·.1))

theorem Reordered.symm (same : Reordered one other) : Reordered other one where
  forth := same.back
  back := same.forth
  listing path entries others found found' := (same.listing path others entries found' found).symm

theorem Reordered.refl (node : Node) : Reordered node node where
  forth _ node found := ⟨node, found, .inl rfl⟩
  back _ node found := ⟨node, found, .inl rfl⟩
  listing _ _ _ found found' := by
    cases found.symm.trans found'
    exact .refl _

theorem walk_of_find {node : Node} (found : find one path = .ok node) :
    ¬ pathLimit < 1 + (joinNames path).length ∧
      ∃ here, walk one linkLimit [] path = .ok here ∧ one.at? here = some node := by
  by_cases long : pathLimit < 1 + (joinNames path).length
  · cases (find_of_long long).symm.trans found
  cases walked : walk one linkLimit [] path with
  | error fault => cases (find_of_walk_error long walked).symm.trans found
  | ok here =>
    have stands : one.at? [] ≠ none := Option.some_ne_none one
    obtain ⟨reached, there⟩ := Option.ne_none_iff_exists'.mp (stands_of_walk stands walked)
    cases (find_of_walk long walked there).symm.trans found
    exact ⟨long, here, rfl, there⟩

namespace Reordered

variable (same : Reordered one other)

include same

theorem missing (gone : find one path = .error .missing) : find other path = .error .missing := by
  by_contra there
  obtain ⟨fault, found, found'⟩ | ⟨node, node', found, found', -⟩ := find_of_extends same.back there
  · exact there (found.trans (found'.symm.trans gone))
  · cases found'.symm.trans gone

theorem read (path : Path) : Files.read other path = Files.read one path :=
  read_of_extends same.forth same.missing

theorem find_dir (found : find one path = .ok (.dir entries)) :
    ∃ others, find other path = .ok (.dir others) ∧
      (entries.map (·.1)).Perm (others.map (·.1)) := by
  obtain ⟨short, here, walked, there⟩ := walk_of_find found
  have stands : one.at? [] ≠ none := Option.some_ne_none one
  have walked' : walk other linkLimit [] path = .ok here := by
    rw [walk_of_extends same.forth stands (by rw [walked]; exact nofun), walked]
  obtain ⟨node, there', alike⟩ := same.forth here _ there
  obtain ⟨others, rfl⟩ : ∃ others, node = .dir others := by
    obtain rfl | ⟨-, dir⟩ := alike
    · exact ⟨entries, rfl⟩
    · cases node with
      | file | link => cases dir
      | dir others => exact ⟨others, rfl⟩
  exact ⟨others, find_of_walk short walked' there', same.listing here entries others there there'⟩

end Reordered

theorem extends_dir (each : ∀ name node, entries.lookup name = some node →
    ∃ node', others.lookup name = some node' ∧ Extends node node') :
    Extends (.dir entries) (.dir others) := by
  intro path node found
  cases path with
  | nil =>
    cases found
    exact ⟨_, rfl, .inr ⟨rfl, rfl⟩⟩
  | cons name rest =>
    obtain ⟨child, listed, found⟩ := Option.bind_eq_some_iff.mp found
    obtain ⟨child', listed', grows⟩ := each name child listed
    obtain ⟨node', found', alike⟩ := grows rest node found
    exact ⟨node', Option.bind_eq_some_iff.mpr ⟨child', listed', found'⟩, alike⟩

theorem exists_of_rel {found found' : Option Node} {node : Node}
    (related : Option.Rel Reordered found found') (here : found = some node) :
    ∃ node', found' = some node' ∧ Reordered node node' := by
  subst here
  cases related with
  | some same => exact ⟨_, rfl, same⟩

theorem rel_symm {found found' : Option Node} (related : Option.Rel Reordered found found') :
    Option.Rel Reordered found' found := by
  cases related with
  | some same => exact .some same.symm
  | none => exact .none

theorem reordered_dir (names : (entries.map (·.1)).Perm (others.map (·.1)))
    (each : ∀ name, Option.Rel Reordered (entries.lookup name) (others.lookup name)) :
    Reordered (.dir entries) (.dir others) where
  forth := extends_dir fun name node listed => by
    obtain ⟨node', listed', same⟩ := exists_of_rel (each name) listed
    exact ⟨node', listed', same.forth⟩
  back := extends_dir fun name node listed => by
    obtain ⟨node', listed', same⟩ := exists_of_rel (rel_symm (each name)) listed
    exact ⟨node', listed', same.forth⟩
  listing path inner inner' found found' := by
    cases path with
    | nil =>
      cases found
      cases found'
      exact names
    | cons name rest =>
      obtain ⟨child, listed, found⟩ := Option.bind_eq_some_iff.mp found
      obtain ⟨child', listed', found'⟩ := Option.bind_eq_some_iff.mp found'
      obtain ⟨_, here, same⟩ := exists_of_rel (each name) listed
      cases here.symm.trans listed'
      exact same.listing rest inner inner' found found'

theorem reordered_cons (same : Reordered one other) (name : Name) (rest : List (Name × Node)) :
    Reordered (.dir ((name, one) :: rest)) (.dir ((name, other) :: rest)) := by
  refine reordered_dir (.refl _) fun key => ?_
  rw [List.lookup_cons, List.lookup_cons]
  cases key == name with
  | true => exact .some same
  | false =>
    dsimp only
    cases rest.lookup key with
    | none => exact .none
    | some node => exact .some (.refl node)

theorem reordered_of_perm (distinct : (entries.map (·.1)).Nodup) (perm : entries.Perm others) :
    Reordered (.dir entries) (.dir others) := by
  refine reordered_dir (perm.map _) fun name => ?_
  rw [lookup_of_perm distinct perm]
  cases others.lookup name with
  | none => exact .none
  | some node => exact .some (.refl node)

end Netboot.Files
