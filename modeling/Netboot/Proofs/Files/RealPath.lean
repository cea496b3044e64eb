import Netboot.Files
import Netboot.Proofs.Result
import Mathlib.Data.List.Infix
import Mathlib.Order.Nat

/-! Where names lead when every link on the way is followed. -/

set_option autoImplicit false

namespace Netboot.Files

variable {top : Node} {depth : Nat} {here mid path : Path} {name : Name} {names rest : List Name}

/-- A name that can only stand for an entry of its directory. -/
structure Proper (name : Name) : Prop where
  nonempty : name ≠ []
  notDot : name ≠ dot
  notDotDot : name ≠ dotDot
  noNul : name.contains 0 = false

def IsLink (top : Node) (path : Path) (target : Bytes) : Prop :=
  top.at? path = some (.link target)

/-- From the directory `here` the names lead to `path`, through links that stand at most `depth`
deep in the targets of one another. A name that is not there leads to itself. -/
inductive LeadsWithin (top : Node) : Nat → Path → List Name → Path → Prop where
  | done {depth : Nat} {here : Path} : LeadsWithin top depth here [] here
  | stay {depth : Nat} {here path : Path} {name : Name} {rest : List Name}
      (blank : name = [] ∨ name = dot) (leads : LeadsWithin top depth here rest path) :
      LeadsWithin top depth here (name :: rest) path
  | up {depth : Nat} {here path : Path} {rest : List Name}
      (leads : LeadsWithin top depth here.dropLast rest path) :
      LeadsWithin top depth here (dotDot :: rest) path
  | enter {depth : Nat} {here path : Path} {name : Name} {rest : List Name}
      (proper : Proper name) (plain : ∀ target, ¬ IsLink top (here ++ [name]) target)
      (leads : LeadsWithin top depth (here ++ [name]) rest path) :
      LeadsWithin top depth here (name :: rest) path
  | link {depth : Nat} {here reached path : Path} {name : Name} {rest : List Name}
      {target : Bytes} (proper : Proper name) (linked : IsLink top (here ++ [name]) target)
      (followed : LeadsWithin top depth (linkStart here target) (segments target) reached)
      (leads : LeadsWithin top (depth + 1) reached rest path) :
      LeadsWithin top (depth + 1) here (name :: rest) path

def Leads (top : Node) (here : Path) (names : List Name) (path : Path) : Prop :=
  ∃ depth, LeadsWithin top depth here names path

theorem LeadsWithin.leads (within : LeadsWithin top depth here names path) :
    Leads top here names path := ⟨depth, within⟩

theorem LeadsWithin.mono (within : LeadsWithin top depth here names path) {deeper : Nat}
    (le : depth ≤ deeper) : LeadsWithin top deeper here names path := by
  induction within generalizing deeper with
  | done => exact .done
  | stay blank _ ih => exact .stay blank (ih le)
  | up _ ih => exact .up (ih le)
  | enter proper plain _ ih => exact .enter proper plain (ih le)
  | link proper linked _ _ inner outer =>
    obtain ⟨deeper, rfl⟩ := Nat.exists_eq_add_of_le' (Nat.le_trans (Nat.le_add_left 1 _) le)
    exact .link proper linked (inner (Nat.le_of_succ_le_succ le)) (outer le)

theorem LeadsWithin.unique {other : Nat} {path' : Path}
    (one : LeadsWithin top depth here names path) (two : LeadsWithin top other here names path') :
    path = path' := by
  -- The next name and what is found there leave one rule; the others contradict it.
  induction one generalizing other path' with
  | done => cases two; rfl
  | stay blank _ ih =>
    cases two with
    | stay _ leads => exact ih leads
    | up leads => rcases blank with blank | blank <;> cases blank
    | enter proper =>
      exact blank.elim (absurd · proper.nonempty) (absurd · proper.notDot)
    | link proper =>
      exact blank.elim (absurd · proper.nonempty) (absurd · proper.notDot)
  | up _ ih =>
    cases two with
    | stay blank => rcases blank with blank | blank <;> cases blank
    | up leads => exact ih leads
    | enter proper => exact absurd rfl proper.notDotDot
    | link proper => exact absurd rfl proper.notDotDot
  | enter proper plain _ ih =>
    cases two with
    | stay blank => exact blank.elim (absurd · proper.nonempty) (absurd · proper.notDot)
    | up => exact absurd rfl proper.notDotDot
    | enter _ _ leads => exact ih leads
    | link _ linked => exact absurd linked (plain _)
  | link proper linked _ _ inner outer =>
    cases two with
    | stay blank => exact blank.elim (absurd · proper.nonempty) (absurd · proper.notDot)
    | up => exact absurd rfl proper.notDotDot
    | enter _ plain => exact absurd linked (plain _)
    | link _ linked' followed leads =>
      obtain rfl : _ = _ := Node.link.inj (Option.some.inj (linked.symm.trans linked'))
      obtain rfl := inner followed
      exact outer leads

theorem Leads.unique {path' : Path} (one : Leads top here names path)
    (two : Leads top here names path') : path = path' :=
  one.elim fun _ one => two.elim fun _ two => one.unique two

theorem LeadsWithin.append (front : LeadsWithin top depth here names mid)
    (back : LeadsWithin top depth mid rest path) :
    LeadsWithin top depth here (names ++ rest) path := by
  induction front with
  | done => exact back
  | stay blank _ ih => exact .stay blank (ih back)
  | up _ ih => exact .up (ih back)
  | enter proper plain _ ih => exact .enter proper plain (ih back)
  | link proper linked followed _ _ ih => exact .link proper linked followed (ih back)

theorem Leads.append (front : Leads top here names mid) (back : Leads top mid rest path) :
    Leads top here (names ++ rest) path := by
  obtain ⟨one, front⟩ := front
  obtain ⟨two, back⟩ := back
  exact ⟨max one two, (front.mono (Nat.le_max_left _ _)).append (back.mono (Nat.le_max_right _ _))⟩

theorem LeadsWithin.split (within : LeadsWithin top depth here (names ++ rest) path) :
    ∃ mid, LeadsWithin top depth here names mid ∧ LeadsWithin top depth mid rest path := by
  induction names generalizing depth here with
  | nil => exact ⟨here, .done, within⟩
  | cons name names ih =>
    rw [List.cons_append] at within
    cases within with
    | stay blank leads =>
      obtain ⟨mid, front, back⟩ := ih leads
      exact ⟨mid, .stay blank front, back⟩
    | up leads =>
      obtain ⟨mid, front, back⟩ := ih leads
      exact ⟨mid, .up front, back⟩
    | enter proper plain leads =>
      obtain ⟨mid, front, back⟩ := ih leads
      exact ⟨mid, .enter proper plain front, back⟩
    | link proper linked followed leads =>
      obtain ⟨mid, front, back⟩ := ih leads
      exact ⟨mid, .link proper linked followed front, back⟩

theorem Leads.done : Leads top here [] here := ⟨0, .done⟩

theorem Leads.stay (blank : name = [] ∨ name = dot) (leads : Leads top here rest path) :
    Leads top here (name :: rest) path :=
  leads.imp fun _ within => .stay blank within

theorem Leads.up (leads : Leads top here.dropLast rest path) :
    Leads top here (dotDot :: rest) path :=
  leads.imp fun _ within => .up within

theorem Leads.enter (proper : Proper name) (plain : ∀ target, ¬ IsLink top (here ++ [name]) target)
    (leads : Leads top (here ++ [name]) rest path) : Leads top here (name :: rest) path :=
  leads.imp fun _ within => .enter proper plain within

theorem Leads.link {target : Bytes} {reached : Path} (proper : Proper name)
    (linked : IsLink top (here ++ [name]) target)
    (followed : Leads top (linkStart here target) (segments target) reached)
    (leads : Leads top reached rest path) : Leads top here (name :: rest) path := by
  obtain ⟨one, followed⟩ := followed
  obtain ⟨two, leads⟩ := leads
  exact ⟨max one two + 1, .link proper linked (followed.mono (Nat.le_max_left _ _))
    (leads.mono (Nat.le_succ_of_le (Nat.le_max_right _ _)))⟩

/-- Where names lead is reached the least deep at one depth. -/
theorem LeadsWithin.least (within : LeadsWithin top depth here names path) :
    ∃ least ≤ depth, LeadsWithin top least here names path ∧
      ∀ less < least, ∀ other, ¬ LeadsWithin top less here names other := by
  classical
  have some : ∃ depth, ∃ path, LeadsWithin top depth here names path := ⟨depth, path, within⟩
  obtain ⟨other, leads⟩ := Nat.find_spec some
  refine ⟨Nat.find some, Nat.find_min' some ⟨path, within⟩, leads.unique within ▸ leads, ?_⟩
  intro less lt other leads
  exact Nat.find_min some lt ⟨other, leads⟩

/-! ## Paths without links -/

/-- The names of a path stand for entries, and none of them for a link. -/
structure Settled (top : Node) (path : Path) : Prop where
  proper : ∀ name ∈ path, Proper name
  plain : ∀ part name, part ++ [name] <+: path → ∀ target, ¬ IsLink top (part ++ [name]) target

namespace Settled

theorem nil : Settled top [] where
  proper := by simp
  plain := by simp

theorem of_prefix {part : Path} (settled : Settled top path) (le : part <+: path) :
    Settled top part where
  proper name member := settled.proper name (le.subset member)
  plain part name part_le := settled.plain part name (part_le.trans le)

theorem concat (settled : Settled top here) (proper : Proper name)
    (plain : ∀ target, ¬ IsLink top (here ++ [name]) target) : Settled top (here ++ [name]) where
  proper other member := by
    obtain member | last := List.mem_append.mp member
    · exact settled.proper other member
    · exact List.mem_singleton.mp last ▸ proper
  plain part other le := by
    obtain same | le := List.prefix_concat_iff.mp le
    · exact same ▸ plain
    · exact settled.plain part other le

theorem linkStart {target : Bytes} (settled : Settled top here) :
    Settled top (linkStart here target) := by
  unfold Files.linkStart
  split
  · exact nil
  · exact settled

theorem head (settled : Settled top (here ++ name :: rest)) :
    Proper name ∧ (∀ target, ¬ IsLink top (here ++ [name]) target) ∧
      Settled top ((here ++ [name]) ++ rest) := by
  rw [List.append_cons] at settled
  refine ⟨settled.proper name (by simp), settled.plain here name (List.prefix_append _ _), settled⟩

theorem leads (settled : Settled top (here ++ names)) : Leads top here names (here ++ names) := by
  induction names generalizing here with
  | nil => exact (List.append_nil here).symm ▸ .done
  | cons name rest ih =>
    obtain ⟨proper, plain, settled⟩ := settled.head
    rw [List.append_cons]
    exact .enter proper plain (ih settled)

end Settled

theorem LeadsWithin.settled (within : LeadsWithin top depth here names path)
    (settled : Settled top here) : Settled top path := by
  induction within with
  | done => exact settled
  | stay _ _ ih => exact ih settled
  | up _ ih => exact ih (settled.of_prefix (List.dropLast_prefix _))
  | enter proper plain _ ih => exact ih (settled.concat proper plain)
  | link _ _ _ _ inner outer => exact outer (inner settled.linkStart)

theorem Leads.settled (leads : Leads top here names path) (settled : Settled top here) :
    Settled top path :=
  leads.elim fun _ within => within.settled settled

/-! ## Opening a path -/

theorem proper_of_ne (filled : ¬ (name = [] ∨ name = dot)) (notUp : name ≠ dotDot)
    (noNul : ¬ name.contains 0 = true) : Proper name :=
  ⟨fun empty => filled (.inl empty), fun blank => filled (.inr blank), notUp,
    Bool.eq_false_iff.mpr noNul⟩

theorem leads_of_walk (links : Nat) (walked : walk top links here names = .ok path) :
    Leads top here names path := by
  fun_induction walk top links here names with
  | case1 => exact Except.ok.inj walked ▸ .done
  | case2 | case5 | case6 | case7 | case8 => cases walked
  | case3 _ _ _ _ _ blank ih => exact .stay blank (ih walked)
  | case4 _ _ _ _ _ ih => exact .up (ih walked)
  | case9 here name rest _ filled notUp noNul _ target linked _ ih =>
    obtain ⟨depth, within⟩ := ih walked
    obtain ⟨reached, followed, leads⟩ := within.split
    exact .link (proper_of_ne filled notUp noNul) linked followed.leads leads.leads
  | case10 links here name rest _ filled notUp noNul _ node plain found ih =>
    refine .enter (proper_of_ne filled notUp noNul) (fun target linked => ?_) (ih walked)
    exact plain target (Option.some.inj (found.symm.trans linked))

/-- Opening a path without links meets no loop. -/
theorem walk_ne_loop {links : Nat} (settled : Settled top (here ++ names)) (link : Path) :
    walk top links here names ≠ .error (.loop link) := by
  induction names generalizing here with
  | nil => simp [walk]
  | cons name rest ih =>
    obtain ⟨proper, plain, settled⟩ := settled.head
    have filled : ¬ (name = [] ∨ name = dot) := not_or.mpr ⟨proper.nonempty, proper.notDot⟩
    rw [walk, if_neg filled, if_neg proper.notDotDot, if_neg (Bool.eq_false_iff.mp proper.noNul)]
    split
    · simp
    split
    · simp
    split
    · simp
    next target linked => exact absurd linked (plain target)
    · exact ih settled

theorem find_ne_loop (settled : Settled top path) (link : Path) :
    find top path ≠ .error (.loop link) := by
  unfold find
  intro looped
  split at looped
  · cases looped
  dsimp only [pure, Except.pure] at looped
  cases walked : walk top linkLimit [] path with
  | error fault =>
    rw [walked] at looped
    exact walk_ne_loop settled link (walked.trans (congrArg _ (Except.error.inj looped)))
  | ok reached =>
    rw [walked] at looped
    dsimp only [bind, Except.bind] at looped
    split at looped <;> cases looped

theorem at?_of_find {node : Node} (settled : Settled top path)
    (found : find top path = .ok node) : top.at? path = some node := by
  unfold find at found
  split at found
  · cases found
  dsimp only at found
  obtain ⟨reached, walked, looked⟩ := ok_of_bind found
  obtain rfl := (leads_of_walk _ walked).unique settled.leads
  split at looked
  next at_path => exact at_path.trans (congrArg some (Except.ok.inj looked))
  · cases looked

theorem at?_of_read {content : Bytes} (settled : Settled top path)
    (got : read top path = .ok content) : top.at? path = some (.file content) := by
  obtain ⟨node, found, got⟩ := ok_of_bind got
  have at_path := at?_of_find settled found
  cases node with
  | file => exact Except.ok.inj got ▸ at_path
  | link | dir => cases got

end Netboot.Files
