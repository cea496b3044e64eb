import Netboot.Names
import Netboot.Proofs.Keyed

/-! What a registration adds to the names. -/

set_option autoImplicit false

namespace Netboot

namespace Table

variable {α : Type} {table : Table α} {key other : String} {value : α}

theorem lookup_append_value (table : Table α) (key : String) (value : α) (other : String) :
    (table.map fun entry => if entry.1 == key then (entry.1, entry.2 ++ [value]) else entry).lookup
        other =
      if other = key then (table.lookup key).map (· ++ [value]) else table.lookup other := by
  rw [lookup_map fun entry => by split <;> rfl]
  by_cases same : other = key
  · subst same
    simp
  · simp [same]

theorem lookup_of_not_has (fresh : ¬ table.has key = true) : table.lookup key = none :=
  Option.not_isSome_iff_eq_none.mp fresh

theorem has_of_mem (listed : value ∈ table.values key) : table.has key = true := by
  rw [values] at listed
  rw [has]
  cases found : table.lookup key with
  | none =>
    rw [found] at listed
    cases listed
  | some values => rfl

/-- A key is there for its values only. -/
def Filled (table : Table α) : Prop := ∀ key, table.has key = true ↔ table.values key ≠ []

theorem filled_nil : Filled ([] : Table α) := by
  intro key
  simp [has, values]

variable [BEq α] [LawfulBEq α]

theorem values_add (table : Table α) (key : String) (value : α) (other : String) :
    (table.add key value).1.values other =
      if other = key ∧ value ∉ table.values key then table.values key ++ [value]
      else table.values other := by
  unfold add
  split
  next listed =>
    have listed := List.contains_iff_mem.mp listed
    simp [listed]
  next unlisted =>
    have unlisted : value ∉ table.values key := fun listed =>
      unlisted (List.contains_iff_mem.mpr listed)
    simp only [unlisted, not_false_eq_true, and_true]
    -- A known key keeps its place, a new one comes last.
    split
    next known =>
      obtain ⟨listed, found⟩ := Option.isSome_iff_exists.mp known
      rw [values, lookup_append_value]
      split
      · rw [values, found]
        rfl
      · rfl
    next fresh =>
      have absent := lookup_of_not_has fresh
      rw [values, List.lookup_append]
      by_cases same : other = key
      · subst same
        simp [values, absent]
      · simp [values, same, beq_false_of_ne same, List.lookup_cons]

theorem mem_values_add (table : Table α) (key : String) (value : α) :
    value ∈ (table.add key value).1.values key := by
  rw [values_add]
  by_cases known : value ∈ table.values key <;> simp [known]

theorem add_of_mem (listed : value ∈ table.values key) : table.add key value = (table, false) := by
  rw [add, if_pos (List.contains_iff_mem.mpr listed)]

theorem added_of_not_mem (new : value ∉ table.values key) : (table.add key value).2 = true := by
  have unlisted : ¬ (table.values key).contains value = true := fun listed =>
    new (List.contains_iff_mem.mp listed)
  rw [add, if_neg unlisted]
  split <;> rfl

theorem add_told (table : Table α) (key : String) (value : α) :
    ((table.add key value).2 = true ∧
      ((table.add key value).1.values key).length = (table.values key).length + 1) ∨
    table.add key value = (table, false) := by
  by_cases listed : value ∈ table.values key
  · exact .inr (add_of_mem listed)
  · refine .inl ⟨added_of_not_mem listed, ?_⟩
    rw [values_add, if_pos ⟨rfl, listed⟩, List.length_append, List.length_singleton]

theorem has_add (table : Table α) (key : String) (value : α) (other : String) :
    (table.add key value).1.has other = true ↔ other = key ∨ table.has other = true := by
  by_cases listed : value ∈ table.values key
  · rw [add_of_mem listed]
    constructor
    · exact .inr
    · rintro (rfl | known)
      · exact has_of_mem listed
      · exact known
  have unlisted : ¬ (table.values key).contains value = true := fun known =>
    listed (List.contains_iff_mem.mp known)
  rw [add, if_neg unlisted]
  split
  next known =>
    rw [has, lookup_append_value]
    by_cases same : other = key
    · subst same
      rw [has] at known
      simpa using known
    · simp [same, has]
  next =>
    rw [has, List.lookup_append]
    by_cases same : other = key
    · simp [same]
    · simp [same, beq_false_of_ne same, List.lookup_cons, has]

theorem Filled.add (filled : table.Filled) (key : String) (value : α) :
    (table.add key value).1.Filled := by
  intro other
  rw [has_add, values_add, filled other]
  by_cases same : other = key
  · subst same
    by_cases listed : value ∈ table.values other
    · simp [listed, List.ne_nil_of_mem listed]
    · simp [listed]
  · simp [same]

end Table

namespace NameStore

variable {store : NameStore} {name : String} {a b : V4}

theorem mem_resolveV4_registerAddress :
    a ∈ (store.registerAddress name (.v4 b)).1.resolveV4 name ↔
      a ∈ store.resolveV4 name ∨ a = b := by
  simp only [registerAddress, resolveV4, Table.values_add, true_and]
  split
  next new => simp
  next known =>
    have listed := Decidable.not_not.mp known
    constructor
    · exact .inl
    · rintro (member | rfl)
      · exact member
      · exact listed

end NameStore

end Netboot
