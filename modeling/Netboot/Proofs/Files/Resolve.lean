import Netboot.Proofs.Files.RealPath
import Netboot.Proofs.Keyed
import Mathlib.Data.List.Nodup
import Mathlib.Data.List.Perm.Subperm

/-! Resolving a path reaches where the path leads, unless a link leads back to itself. -/

set_option autoImplicit false

namespace Netboot.Files

variable {top : Node} {depth links : Nat} {seen seen' : Seen} {here path reached link : Path}
  {name : Name} {names rest : List Name} {target : Bytes}

/-- No link of the tree stands deeper than a path may be long. -/
def Shallow (top : Node) : Prop :=
  ∀ path target, IsLink top path target → 1 + (joinNames path).length ≤ pathLimit

theorem linkAt?_eq_some_iff (shallow : Shallow top) :
    linkAt? top path = some target ↔ IsLink top path target := by
  unfold linkAt? IsLink
  split
  next long => exact iff_of_false nofun fun linked => Nat.not_le.mpr long (shallow path target linked)
  · split
    next found => rw [found]; simp
    next plain => exact iff_of_false nofun fun linked => plain target linked

theorem linkAt?_eq_none_iff (shallow : Shallow top) :
    linkAt? top path = none ↔ ∀ target, ¬ IsLink top path target := by
  simp only [Option.eq_none_iff_forall_ne_some, ne_eq, linkAt?_eq_some_iff shallow]

/-! ## The links met so far -/

/-- A link that is being followed: where it leads is not known yet. -/
def Seen.Open (seen : Seen) (link : Path) : Prop := seen.lookup link = some none

def Seen.Recorded (top : Node) (seen : Seen) : Prop :=
  ∀ link reached, seen.lookup link = some (some reached) →
    ∃ target, IsLink top link target ∧
      Leads top (linkStart link.dropLast target) (segments target) reached

theorem Seen.open_begin : Seen.Open ((link, none) :: seen) path ↔ path = link ∨ seen.Open path := by
  unfold Seen.Open
  rw [List.lookup_cons]
  cases same : path == link with
  | false => simp [ne_of_beq_false same]
  | true => simp [eq_of_beq same]

theorem Seen.open_finish :
    Seen.Open ((link, some reached) :: seen) path ↔ path ≠ link ∧ seen.Open path := by
  unfold Seen.Open
  rw [List.lookup_cons]
  cases same : path == link with
  | false => simp [ne_of_beq_false same]
  | true => simp [eq_of_beq same]

theorem Seen.Recorded.begin (recorded : Seen.Recorded top seen) :
    Seen.Recorded top ((link, none) :: seen) := by
  intro other reached found
  rw [List.lookup_cons] at found
  split at found
  · cases found
  · exact recorded other reached found

theorem Seen.Recorded.finish (recorded : Seen.Recorded top seen)
    (linked : IsLink top (here ++ [name]) target)
    (leads : Leads top (linkStart here target) (segments target) reached) :
    Seen.Recorded top ((here ++ [name], some reached) :: seen) := by
  intro other reached' found
  rw [List.lookup_cons] at found
  split at found
  next same =>
    obtain rfl : reached = reached' := Option.some.inj (Option.some.inj found)
    obtain rfl := eq_of_beq same
    exact ⟨target, linked, List.dropLast_concat.symm ▸ leads⟩
  · exact recorded other reached' found

/-! ## Only where the names lead -/

/-- Names were followed to their end: they lead there, and the links still being followed are those
that were at the start. -/
structure Arrived (top : Node) (seen seen' : Seen) (here : Path) (names : List Name)
    (path : Path) : Prop where
  leads : Leads top here names path
  recorded : seen'.Recorded top
  sameOpen : ∀ link, seen'.Open link ↔ seen.Open link

theorem Arrived.sameOpen_finish {start : Path} (new : seen.lookup link = none)
    (inner : Arrived top ((link, none) :: seen) seen' start names reached) (other : Path) :
    Seen.Open ((link, some reached) :: seen') other ↔ seen.Open other := by
  rw [Seen.open_finish, inner.sameOpen, Seen.open_begin]
  constructor
  · exact fun ⟨ne, still⟩ => still.resolve_left ne
  · intro still
    refine ⟨?_, .inr still⟩
    rintro rfl
    exact nomatch new.symm.trans still

theorem arrived_of_follow (shallow : Shallow top)
    (followed : follow top links seen here names = .ok (path, true, seen'))
    (recorded : seen.Recorded top) : Arrived top seen seen' here names path := by
  fun_induction follow top links seen here names generalizing path seen' with
  | case1 =>
    cases followed
    exact ⟨.done, recorded, fun _ => .rfl⟩
  | case2 _ _ _ _ _ blank ih =>
    obtain ⟨leads, recorded, sameOpen⟩ := ih followed recorded
    exact ⟨.stay blank leads, recorded, sameOpen⟩
  | case3 _ _ _ _ _ ih =>
    obtain ⟨leads, recorded, sameOpen⟩ := ih followed recorded
    exact ⟨.up leads, recorded, sameOpen⟩
  | case4 | case6 | case7 => cases followed
  | case5 links seen here name rest filled notUp noNul target linked known before ih =>
    obtain ⟨leads, recorded', sameOpen⟩ := ih followed recorded
    obtain ⟨target, linked, reaches⟩ := recorded _ _ before
    rw [List.dropLast_concat] at reaches
    exact ⟨.link (proper_of_ne filled notUp noNul) linked reaches leads, recorded', sameOpen⟩
  | case8 seen here name rest filled notUp noNul target linked new links inner outer =>
    -- A new link: its target is followed to the end before the names behind it are.
    obtain ⟨⟨reached, complete, seen₁⟩, entered, followed⟩ := ok_of_bind followed
    have linked := (linkAt?_eq_some_iff shallow).mp linked
    cases complete with
    | false => cases followed
    | true =>
      have arrived := inner entered recorded.begin
      obtain ⟨leads, recorded, sameOpen⟩ :=
        outer reached seen₁ followed (arrived.recorded.finish linked arrived.leads)
      refine ⟨.link (proper_of_ne filled notUp noNul) linked arrived.leads leads, recorded, ?_⟩
      exact fun link => (sameOpen link).trans (arrived.sameOpen_finish new link)
  | case9 links seen here name rest filled notUp noNul plain ih =>
    obtain ⟨leads, recorded, sameOpen⟩ := ih followed recorded
    exact ⟨.enter (proper_of_ne filled notUp noNul) ((linkAt?_eq_none_iff shallow).mp plain) leads,
      recorded, sameOpen⟩

/-! ## To where the names lead -/

/-- Of the links that are not being followed there are at most `links`. -/
def Seen.Room (top : Node) (links : Nat) (seen : Seen) : Prop :=
  ∀ list : List Path, list.Nodup →
    (∀ link ∈ list, (∃ target, IsLink top link target) ∧ ¬ seen.Open link) → list.length ≤ links

/-- No link that is being followed leads anywhere less than `depth` deep. -/
def Seen.Barred (top : Node) (depth : Nat) (seen : Seen) : Prop :=
  ∀ here name target, seen.Open (here ++ [name]) → IsLink top (here ++ [name]) target →
    ∀ less < depth, ∀ reached, ¬ LeadsWithin top less (linkStart here target) (segments target) reached

theorem Seen.Room.begin (room : Seen.Room top (links + 1) seen) (linked : IsLink top link target)
    (new : ¬ seen.Open link) : Seen.Room top links ((link, none) :: seen) := by
  intro list nodup counted
  have others : link ∉ list := fun member => (counted link member).2 (Seen.open_begin.mpr (.inl rfl))
  have all := room (link :: list) (nodup.cons others) (by
    intro other member
    obtain rfl | member := List.mem_cons.mp member
    · exact ⟨⟨target, linked⟩, new⟩
    · obtain ⟨found, still⟩ := counted other member
      exact ⟨found, fun before => still (Seen.open_begin.mpr (.inr before))⟩)
  exact Nat.le_of_succ_le_succ all

theorem Seen.Room.pos (room : Seen.Room top links seen) (linked : IsLink top link target)
    (new : ¬ seen.Open link) : 0 < links :=
  room [link] (List.nodup_singleton link) fun _ member =>
    List.mem_singleton.mp member ▸ ⟨⟨target, linked⟩, new⟩

theorem Seen.Room.congr (room : Seen.Room top links seen)
    (same : ∀ link, seen'.Open link ↔ seen.Open link) : Seen.Room top links seen' :=
  fun list nodup counted => room list nodup fun link member =>
    ⟨(counted link member).1, (same link).not.mp (counted link member).2⟩

theorem Seen.Barred.congr (barred : Seen.Barred top depth seen)
    (same : ∀ link, seen'.Open link ↔ seen.Open link) : Seen.Barred top depth seen' :=
  fun here name target still => barred here name target ((same _).mp still)

/-- A link that leads nowhere less than `depth` deep can be begun. -/
theorem Seen.Barred.begin {deeper : Nat} (barred : Seen.Barred top deeper seen) (le : depth ≤ deeper)
    (linked : IsLink top (here ++ [name]) target)
    (least : ∀ less < depth, ∀ other,
      ¬ LeadsWithin top less (linkStart here target) (segments target) other) :
    Seen.Barred top depth ((here ++ [name], none) :: seen) := by
  intro here' name' target' still linked' less lt
  obtain same | before := Seen.open_begin.mp still
  · obtain ⟨rfl, last⟩ := List.append_inj' same rfl
    cases last
    obtain rfl := Node.link.inj (Option.some.inj (linked.symm.trans linked'))
    exact least less lt
  · exact barred here' name' target' before linked' less (Nat.lt_of_lt_of_le lt le)

theorem follow_of_leads (shallow : Shallow top) (within : LeadsWithin top depth here names path)
    (recorded : seen.Recorded top) (room : seen.Room top links) (barred : seen.Barred top depth) :
    ∃ seen', follow top links seen here names = .ok (path, true, seen') := by
  -- A new link is followed at the least depth at which its target leads anywhere. At that depth
  -- the target cannot lead back to the link, so the depth is what the outer induction is on.
  induction depth using Nat.strongRecOn generalizing links seen here names path with
  | ind depth deep =>
  induction within generalizing links seen with
  | done => exact ⟨seen, by rw [follow]⟩
  | stay blank _ ih =>
    rw [follow, if_pos blank]
    exact ih deep recorded room barred
  | up _ ih =>
    rw [follow, if_neg (by decide), if_pos rfl]
    exact ih deep recorded room barred
  | enter proper plain _ ih =>
    have filled := not_or.mpr ⟨proper.nonempty, proper.notDot⟩
    rw [follow, if_neg filled, if_neg proper.notDotDot, if_neg (Bool.eq_false_iff.mp proper.noNul),
      (linkAt?_eq_none_iff shallow).mpr plain]
    exact ih deep recorded room barred
  | @link depth here reached path name rest target proper linked followed _ _ outer =>
    have filled := not_or.mpr ⟨proper.nonempty, proper.notDot⟩
    rw [follow, if_neg filled, if_neg proper.notDotDot, if_neg (Bool.eq_false_iff.mp proper.noNul),
      (linkAt?_eq_some_iff shallow).mpr linked]
    cases before : seen.lookup (here ++ [name]) with
    | some record =>
      cases record with
      | some known =>
        -- It has been followed before, to the same path.
        obtain ⟨target', linked', leads⟩ := recorded _ _ before
        rw [List.dropLast_concat] at leads
        obtain rfl := Node.link.inj (Option.some.inj (linked.symm.trans linked'))
        obtain rfl := leads.unique followed.leads
        exact outer deep recorded room barred
      | none => exact absurd followed (barred _ _ _ before linked _ (Nat.lt_succ_self _) _)
    | none =>
      have new : ¬ seen.Open (here ++ [name]) :=
        fun still => Option.some_ne_none _ (still.symm.trans before)
      obtain ⟨fewer, rfl⟩ := Nat.exists_eq_add_one.mpr (room.pos linked new)
      obtain ⟨least, le, followed, none_less⟩ := followed.least
      obtain ⟨seen₁, entered⟩ := deep least (Nat.lt_succ_of_le le) followed recorded.begin
        (room.begin linked new) (barred.begin (Nat.le_succ_of_le le) linked none_less)
      have arrived := arrived_of_follow shallow entered recorded.begin
      have same := arrived.sameOpen_finish before
      obtain ⟨seen₂, finished⟩ := outer deep (arrived.recorded.finish linked arrived.leads)
        (room.congr same) (barred.congr same)
      refine ⟨seen₂, ?_⟩
      simp [entered, finished, bind, Except.bind]

/-! ## From an empty record -/

def Node.linkPaths : Node → List Path
  | .file _ => []
  | .link _ => [[]]
  | .dir entries => entryPaths entries
where
  entryPaths : List (Name × Node) → List Path
    | [] => []
    | (name, node) :: rest => (linkPaths node).map (name :: ·) ++ entryPaths rest

mutual

theorem length_linkPaths : (node : Node) → node.linkPaths.length = node.links
  | .file _ => rfl
  | .link _ => rfl
  | .dir entries => length_entryPaths entries

theorem length_entryPaths : (entries : List (Name × Node)) →
    (Node.linkPaths.entryPaths entries).length = Node.links.entryLinks entries
  | [] => rfl
  | (name, node) :: rest => by
    rw [Node.linkPaths.entryPaths, Node.links.entryLinks, List.length_append, List.length_map,
      length_linkPaths node, length_entryPaths rest]

end

theorem mem_entryPaths {entries : List (Name × Node)} {node : Node}
    (member : (name, node) ∈ entries) (below : path ∈ node.linkPaths) :
    name :: path ∈ Node.linkPaths.entryPaths entries := by
  induction entries with
  | nil => cases member
  | cons entry others ih =>
    rw [Node.linkPaths.entryPaths]
    obtain rfl | member := List.mem_cons.mp member
    · exact List.mem_append_left _ (List.mem_map_of_mem below)
    · exact List.mem_append_right _ (ih member)

theorem mem_linkPaths (linked : IsLink top path target) : path ∈ top.linkPaths := by
  induction path generalizing top with
  | nil =>
    obtain rfl : top = .link target := Option.some.inj linked
    exact List.mem_singleton_self []
  | cons name rest ih =>
    cases top with
    | file | link => cases linked
    | dir entries =>
      obtain ⟨node, found, linked⟩ := Option.bind_eq_some_iff.mp linked
      exact mem_entryPaths (mem_of_lookup found) (ih linked)

theorem shallow_of_linkPaths
    (near : ∀ path ∈ top.linkPaths, 1 + (joinNames path).length ≤ pathLimit) : Shallow top :=
  fun path _ linked => near path (mem_linkPaths linked)

theorem Seen.room_nil (top : Node) : Seen.Room top top.links [] := by
  intro list nodup counted
  have inside : list ⊆ top.linkPaths := fun link member =>
    (counted link member).1.elim fun _ linked => mem_linkPaths linked
  calc list.length
      ≤ top.linkPaths.length := (nodup.subperm inside).length_le
    _ = top.links := length_linkPaths top

/-- Resolving follows names to their end exactly where they lead somewhere. -/
theorem follow_iff_leads (shallow : Shallow top) :
    (∃ seen, follow top top.links [] here names = .ok (path, true, seen)) ↔
      Leads top here names path := by
  constructor
  · rintro ⟨seen, followed⟩
    exact (arrived_of_follow shallow followed nofun).leads
  · rintro ⟨depth, within⟩
    exact follow_of_leads shallow within nofun (Seen.room_nil top) nofun

theorem normalize_of_proper (proper : ∀ name ∈ path, Proper name) : normalize path = path := by
  suffices ∀ front : Path, List.foldl _ front path = front ++ path from this []
  induction path with
  | nil => exact fun front => (List.append_nil front).symm
  | cons name rest ih =>
    obtain ⟨first, proper⟩ := List.forall_mem_cons.mp proper
    have filled := not_or.mpr ⟨first.nonempty, first.notDot⟩
    intro front
    rw [List.foldl_cons, if_neg filled, if_neg first.notDotDot, ih proper, ← List.append_cons]

theorem resolve_of_leads (shallow : Shallow top) (leads : Leads top [] names path) :
    resolve top names = .ok path := by
  have settled := leads.settled .nil
  obtain ⟨seen, followed⟩ := (follow_iff_leads shallow).mpr leads
  have noNul : path.any (·.contains 0) = false :=
    List.any_eq_false.mpr fun name member => Bool.eq_false_iff.mp (settled.proper name member).noNul
  unfold resolve
  rw [followed]
  simp only [bind, Except.bind, normalize_of_proper settled.proper, noNul,
    Bool.false_eq_true, if_false]
  split
  next link looped => exact absurd looped (find_ne_loop settled link)
  · rfl

end Netboot.Files
