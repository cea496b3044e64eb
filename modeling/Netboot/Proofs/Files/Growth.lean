import Netboot.Proofs.Files.RealPath
import Netboot.Proofs.Keyed

/-! What is there stays readable when a tree grows. -/

set_option autoImplicit false

namespace Netboot.Files

variable {top before after node new : Node} {here path dir : Path} {name : Name}
  {names : List Name} {links : Nat} {entries : List (Name × Node)}

/-- Two nodes that read the same: directories do, whatever they hold. -/
def Node.Alike (one other : Node) : Prop := one = other ∨ one.isDir = true ∧ other.isDir = true

/-- Everything in the one tree is in the other as it was; only directories may hold more. -/
def Extends (before after : Node) : Prop :=
  ∀ path node, before.at? path = some node → ∃ node', after.at? path = some node' ∧ node.Alike node'

theorem at?_append (top : Node) (front back : Path) :
    top.at? (front ++ back) = (top.at? front).bind (·.at? back) := by
  induction front generalizing top with
  | nil => rfl
  | cons name rest ih =>
    cases top with
    | file | link => rfl
    | dir entries =>
      simp only [List.cons_append, Node.at?]
      cases entries.lookup name with
      | none => rfl
      | some node => exact ih node

theorem stands_dropLast (stands : top.at? here ≠ none) : top.at? here.dropLast ≠ none := by
  intro gone
  obtain ⟨back, same⟩ := List.dropLast_prefix here
  rw [← same, at?_append, gone] at stands
  exact stands rfl

theorem stands_linkStart {target : Bytes} (stands : top.at? here ≠ none) :
    top.at? (linkStart here target) ≠ none := by
  unfold linkStart
  split
  · exact Option.some_ne_none top
  · exact stands

theorem isDirAt_of_extends (grows : Extends before after) (stands : before.at? here ≠ none) :
    isDirAt after here = isDirAt before here := by
  obtain ⟨node, found⟩ := Option.ne_none_iff_exists'.mp stands
  obtain ⟨node', found', alike⟩ := grows here node found
  unfold isDirAt
  rw [found, found']
  obtain rfl | ⟨one, other⟩ := alike
  · rfl
  · exact other.trans one.symm

theorem link_of_extends {target : Bytes} (grows : Extends before after)
    (found : before.at? path = some (.link target)) : after.at? path = some (.link target) := by
  obtain ⟨node', found', rfl | ⟨dir, -⟩⟩ := grows path _ found
  · exact found'
  · cases dir

theorem Node.Alike.not_link (alike : node.Alike new) (plain : ∀ target, node = .link target → False)
    (target : Bytes) : new = .link target → False := by
  rintro rfl
  obtain rfl | ⟨-, dir⟩ := alike
  · exact plain target rfl
  · cases dir

/-- A walk that does not end at a name that is not there goes the same way in a larger tree. -/
theorem walk_of_extends (grows : Extends before after) (stands : before.at? here ≠ none)
    (there : walk before links here names ≠ .error .missing) :
    walk after links here names = walk before links here names := by
  fun_induction walk before links here names with
  | case1 => rw [walk]
  | case2 _ here _ _ noDir => rw [walk, isDirAt_of_extends grows stands, if_pos noDir]
  | case3 _ here _ _ dir blank ih =>
    rw [walk, isDirAt_of_extends grows stands, if_neg dir, if_pos blank]
    exact ih stands there
  | case4 _ here _ dir filled ih =>
    rw [walk, isDirAt_of_extends grows stands, if_neg dir, if_neg filled, if_pos rfl]
    exact ih (stands_dropLast stands) there
  | case5 _ here _ _ dir filled notUp nul =>
    rw [walk, isDirAt_of_extends grows stands, if_neg dir, if_neg filled, if_neg notUp, if_pos nul]
  | case6 _ here _ _ dir filled notUp noNul long =>
    rw [walk, isDirAt_of_extends grows stands, if_neg dir, if_neg filled, if_neg notUp, if_neg noNul,
      if_pos long]
  | case7 => exact absurd rfl there
  | case8 here _ _ dir filled notUp noNul short target linked =>
    rw [walk, isDirAt_of_extends grows stands, if_neg dir, if_neg filled, if_neg notUp, if_neg noNul,
      if_neg short, link_of_extends grows linked]
  | case9 here _ _ dir filled notUp noNul short target linked _ ih =>
    rw [walk, isDirAt_of_extends grows stands, if_neg dir, if_neg filled, if_neg notUp, if_neg noNul,
      if_neg short, link_of_extends grows linked]
    exact ih (stands_linkStart stands) there
  | case10 _ here name _ dir filled notUp noNul short node plain found ih =>
    -- An entry that is no link may hold more now, but it has not become a link.
    obtain ⟨node', found', alike⟩ := grows _ _ found
    rw [walk, isDirAt_of_extends grows stands, if_neg dir, if_neg filled, if_neg notUp, if_neg noNul,
      if_neg short, found']
    have followed := ih (found ▸ Option.some_ne_none node) there
    split
    next gone => cases gone
    next target linked => exact (alike.not_link plain target (Option.some.inj linked)).elim
    · exact followed

theorem stands_of_walk (stands : top.at? here ≠ none) (walked : walk top links here names = .ok path) :
    top.at? path ≠ none := by
  fun_induction walk top links here names with
  | case1 => exact Except.ok.inj walked ▸ stands
  | case2 | case5 | case6 | case7 | case8 => cases walked
  | case3 _ _ _ _ _ _ ih => exact ih stands walked
  | case4 _ _ _ _ _ ih => exact ih (stands_dropLast stands) walked
  | case9 _ _ _ _ _ _ _ _ _ _ _ ih => exact ih (stands_linkStart stands) walked
  | case10 _ _ _ _ _ _ _ _ _ node _ found ih => exact ih (found ▸ Option.some_ne_none node) walked

theorem find_of_long (long : pathLimit < 1 + (joinNames path).length) :
    find top path = .error .longName := by
  unfold find
  rw [if_pos long]
  rfl

theorem find_of_walk_error {fault : Fault} (short : ¬ pathLimit < 1 + (joinNames path).length)
    (stopped : walk top linkLimit [] path = .error fault) : find top path = .error fault := by
  unfold find
  rw [if_neg short, stopped]
  rfl

theorem find_of_walk (short : ¬ pathLimit < 1 + (joinNames path).length)
    (walked : walk top linkLimit [] path = .ok here) (found : top.at? here = some node) :
    find top path = .ok node := by
  unfold find
  rw [if_neg short, walked]
  simp [bind, Except.bind, found]

theorem walk_enter {rest : List Name} (dir : isDirAt top here = true)
    (filled : ¬ (name = [] ∨ name = dot)) (notUp : name ≠ dotDot) (noNul : name.contains 0 = false)
    (short : ¬ 255 < name.length) (found : top.at? (here ++ [name]) = some node)
    (plain : ∀ target, node ≠ .link target) :
    walk top links here (name :: rest) = walk top links (here ++ [name]) rest := by
  rw [walk, dir, if_neg (by decide), if_neg filled, if_neg notUp, if_neg (Bool.eq_false_iff.mp noNul),
    if_neg short, found]
  split
  next gone => cases gone
  next target linked => exact absurd (Option.some.inj linked) (plain target)
  · rfl

/-- Two directories that do not have a name treat it alike. -/
theorem walk_of_absent {one other : Node} (dir : isDirAt one here = true)
    (dir' : isDirAt other here = true) (gone : one.at? (here ++ [name]) = none)
    (gone' : other.at? (here ++ [name]) = none) :
    walk one links here [name] = walk other links here [name] := by
  rw [walk, dir, gone]
  conv_rhs => rw [walk, dir', gone']
  simp only [walk]

theorem find_of_extends (grows : Extends before after) (there : find before path ≠ .error .missing) :
    (∃ fault, find before path = .error fault ∧ find after path = .error fault) ∨
      ∃ node node', find before path = .ok node ∧ find after path = .ok node' ∧ node.Alike node' := by
  by_cases long : pathLimit < 1 + (joinNames path).length
  · exact .inl ⟨_, find_of_long long, find_of_long long⟩
  have stands : before.at? [] ≠ none := Option.some_ne_none before
  have follows : walk before linkLimit [] path ≠ .error .missing →
      walk after linkLimit [] path = walk before linkLimit [] path := walk_of_extends grows stands
  cases walked : walk before linkLimit [] path with
  | error fault =>
    have stopped := find_of_walk_error long walked
    have other : fault ≠ .missing := fun same => there (same ▸ stopped)
    rw [walked] at follows
    refine .inl ⟨fault, stopped, find_of_walk_error long (follows ?_)⟩
    exact fun same => other (Except.error.inj same)
  | ok found =>
    rw [walked] at follows
    obtain ⟨node, at_before⟩ := Option.ne_none_iff_exists'.mp (stands_of_walk stands walked)
    obtain ⟨node', at_after, alike⟩ := grows found node at_before
    exact .inr ⟨node, node', find_of_walk long walked at_before,
      find_of_walk long (follows nofun) at_after, alike⟩

/-- What is missing at the end of a walk is missing wherever the walk goes the same way. -/
theorem missing_of_walk (same : walk after linkLimit [] path = walk before linkLimit [] path)
    (missing : find before path = .error .missing) : find after path = .error .missing := by
  by_cases long : pathLimit < 1 + (joinNames path).length
  · exact nomatch (find_of_long long).symm.trans missing
  cases walked : walk before linkLimit [] path with
  | error fault =>
    obtain rfl := Except.error.inj ((find_of_walk_error long walked).symm.trans missing)
    exact find_of_walk_error long (same.trans walked)
  | ok found =>
    have stands : before.at? [] ≠ none := Option.some_ne_none before
    obtain ⟨node, at_before⟩ := Option.ne_none_iff_exists'.mp (stands_of_walk stands walked)
    exact nomatch (find_of_walk long walked at_before).symm.trans missing

section
variable (grows : Extends before after)
  (still : find before path = .error .missing → find after path = .error .missing)
include grows still

theorem find_of_extends_still :
    (∃ fault, find before path = .error fault ∧ find after path = .error fault) ∨
      ∃ node node', find before path = .ok node ∧ find after path = .ok node' ∧ node.Alike node' := by
  by_cases missing : find before path = .error .missing
  · exact .inl ⟨_, missing, still missing⟩
  · exact find_of_extends grows missing

theorem read_of_extends : read after path = read before path := by
  unfold read
  obtain ⟨fault, one, other⟩ | ⟨node, node', one, other, alike⟩ := find_of_extends_still grows still
  · rw [one, other]
  · rw [one, other]
    obtain rfl | ⟨dir, dir'⟩ := alike
    · rfl
    cases node with
    | file | link => cases dir
    | dir =>
      cases node' with
      | file | link => cases dir'
      | dir => rfl

theorem exists?_of_extends : exists? after path = exists? before path := by
  unfold exists?
  obtain ⟨fault, one, other⟩ | ⟨node, node', one, other, -⟩ := find_of_extends_still grows still
  · rw [one, other]
  · rw [one, other]

end

/-! ## A new entry -/

theorem lookup_setEntry (entries : List (Name × Node)) (name : Name) (new : Node) (key : Name) :
    (Node.setEntry entries name new).lookup key =
      if key = name then some new else entries.lookup key := by
  unfold Node.setEntry
  split
  next present =>
    rw [lookup_map fun entry => by split <;> simp_all]
    obtain ⟨old, present⟩ := Option.isSome_iff_exists.mp present
    by_cases same : key = name
    · simp [same, present]
    · simp [same]
  next absent =>
    rw [List.lookup_append]
    by_cases same : key = name
    · simp [same, Option.not_isSome_iff_eq_none.mp absent]
    · simp [same, List.lookup_cons, beq_false_of_ne same]

theorem extends_setEntry
    (grows : ∀ old, entries.lookup name = some old → Extends old new) :
    Extends (.dir entries) (.dir (Node.setEntry entries name new)) := by
  intro path node found
  cases path with
  | nil =>
    obtain rfl := Option.some.inj found
    exact ⟨_, rfl, .inr ⟨rfl, rfl⟩⟩
  | cons key rest =>
    obtain ⟨old, listed, found⟩ := Option.bind_eq_some_iff.mp found
    rw [Node.at?, lookup_setEntry]
    split
    next same => exact grows old (same ▸ listed) rest node found
    · exact ⟨node, Option.bind_eq_some_iff.mpr ⟨old, listed, found⟩, .inl rfl⟩

theorem extends_put (found : before.at? dir = some (.dir entries))
    (unused : entries.lookup name = none) : Extends before (Node.put new (dir ++ [name]) before) := by
  induction dir generalizing before with
  | nil =>
    obtain rfl := Option.some.inj found
    exact extends_setEntry fun old listed => nomatch unused.symm.trans listed
  | cons key rest ih =>
    cases before with
    | file | link => cases found
    | dir others =>
      obtain ⟨child, listed, found⟩ := Option.bind_eq_some_iff.mp found
      refine extends_setEntry fun old again => ?_
      obtain rfl := Option.some.inj (listed.symm.trans again)
      rw [listed]
      exact ih found

theorem at?_put (found : before.at? dir = some (.dir entries)) :
    (Node.put new (dir ++ [name]) before).at? dir = some (.dir (Node.setEntry entries name new)) := by
  induction dir generalizing before with
  | nil =>
    obtain rfl := Option.some.inj found
    rfl
  | cons key rest ih =>
    cases before with
    | file | link => cases found
    | dir others =>
      obtain ⟨child, listed, found⟩ := Option.bind_eq_some_iff.mp found
      rw [List.cons_append, Node.put, Node.at?, lookup_setEntry, if_pos rfl, listed]
      exact ih found

end Netboot.Files
