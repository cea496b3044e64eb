import Mathlib.Data.List.Induction

/-! Lists of values: under keys, and in order with each value once. -/

set_option autoImplicit false

namespace Netboot

theorem lookup_map {κ β : Type} [BEq κ] [LawfulBEq κ] {change : κ × β → κ × β}
    (keeps : ∀ entry, (change entry).1 = entry.1) (entries : List (κ × β)) (key : κ) :
    (entries.map change).lookup key =
      (entries.lookup key).map fun value => (change (key, value)).2 := by
  induction entries with
  | nil => rfl
  | cons entry rest ih =>
    obtain ⟨name, value⟩ := entry
    have changed : change (name, value) = (name, (change (name, value)).2) :=
      Prod.ext (keeps (name, value)) rfl
    rw [List.map_cons, changed, List.lookup_cons, List.lookup_cons, ih]
    cases same : key == name with
    | false => rfl
    | true =>
      rw [eq_of_beq same]
      rfl

theorem mem_of_lookup {κ β : Type} [BEq κ] [LawfulBEq κ] {entries : List (κ × β)} {key : κ}
    {value : β} (found : entries.lookup key = some value) : (key, value) ∈ entries := by
  obtain ⟨front, back, rfl, -⟩ := List.lookup_eq_some_iff.mp found
  exact List.mem_append_right _ List.mem_cons_self

section
variable {κ β : Type} [BEq κ] [LawfulBEq κ] {entries : List (κ × β)}

theorem lookup_of_mem (distinct : (entries.map (·.1)).Nodup) {entry : κ × β}
    (member : entry ∈ entries) : entries.lookup entry.1 = some entry.2 := by
  obtain ⟨front, back, rfl⟩ := List.append_of_mem member
  refine List.lookup_eq_some_iff.mpr ⟨front, back, rfl, fun other before => bne_iff_ne.mpr ?_⟩
  rw [List.map_append] at distinct
  obtain ⟨-, -, apart⟩ := List.nodup_append.mp distinct
  exact (apart other.1 (List.mem_map_of_mem before) entry.1 List.mem_cons_self).symm

theorem lookup_of_perm {others : List (κ × β)} (distinct : (entries.map (·.1)).Nodup)
    (perm : entries.Perm others) (key : κ) : entries.lookup key = others.lookup key := by
  have distinct' : (others.map (·.1)).Nodup := (perm.map _).nodup_iff.mp distinct
  cases found : others.lookup key with
  | some value => exact lookup_of_mem distinct (perm.mem_iff.mpr (mem_of_lookup found))
  | none =>
    rw [List.lookup_eq_none_iff] at found ⊢
    exact fun entry member => found entry (perm.mem_iff.mp member)

/-- Where no key stands twice, entries may be sorted out before a lookup or after it. -/
theorem lookup_filter_of_distinct (distinct : (entries.map (·.1)).Nodup) (keep : β → Bool) (key : κ) :
    (entries.filter (keep ·.2)).lookup key = (entries.lookup key).filter keep := by
  induction entries with
  | nil => rfl
  | cons entry rest ih =>
    obtain ⟨name, value⟩ := entry
    obtain ⟨fresh, others⟩ := List.nodup_cons.mp distinct
    rw [List.filter_cons, List.lookup_cons]
    cases same : key == name with
    | false => cases keep value <;> simp [List.lookup_cons, same, ih others]
    | true =>
      have gone : (rest.filter (keep ·.2)).lookup key = none := by
        rw [eq_of_beq same]
        refine List.lookup_eq_none_iff.mpr fun other member => bne_iff_ne.mpr fun alike => fresh ?_
        change name ∈ rest.map (·.1)
        rw [alike]
        exact List.mem_map_of_mem (List.mem_filter.mp member).1
      rw [Option.filter_some]
      cases keep value <;> simp [List.lookup_cons, same, gone]

end

section
variable {α : Type} [DecidableEq α]

theorem eraseDups_concat (earlier : List α) (a : α) :
    (earlier ++ [a]).eraseDups =
      if a ∈ earlier then earlier.eraseDups else earlier.eraseDups ++ [a] := by
  rw [List.eraseDups_append]
  split
  next known => simp [List.removeAll, known]
  next new => simp [List.removeAll, new, List.eraseDups_cons]

theorem nodup_eraseDups (list : List α) : list.eraseDups.Nodup := by
  induction list using List.reverseRecOn with
  | nil => exact .nil
  | append_singleton earlier a ih =>
    rw [eraseDups_concat]
    split
    · exact ih
    next new =>
      refine List.nodup_append.mpr ⟨ih, by simp, fun b member c last same => new ?_⟩
      rw [List.mem_singleton.mp last] at same
      exact List.mem_eraseDups.mp (same ▸ member)

end

end Netboot
