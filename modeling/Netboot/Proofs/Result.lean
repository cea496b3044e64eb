import Mathlib.Data.List.Forall2

/-! Results that are no fault: what has gone well before them. -/

set_option autoImplicit false

namespace Netboot

theorem ok_of_bind {ε α β : Type} {first : Except ε α} {next : α → Except ε β} {result : β}
    (bound : first >>= next = .ok result) : ∃ value, first = .ok value ∧ next value = .ok result := by
  cases first with
  | ok value => exact ⟨value, rfl, bound⟩
  | error fault => cases bound

theorem ok_of_mapError {ε ε' α : Type} {f : ε → ε'} {result : Except ε α} {value : α}
    (mapped : result.mapError f = .ok value) : result = .ok value := by
  cases result with
  | ok found => exact congrArg Except.ok (Except.ok.inj mapped)
  | error fault => cases mapped

theorem mapM_cons_ok_iff {ε α β : Type} {f : α → Except ε β} {first : α} {rest : List α}
    {results : List β} : (first :: rest).mapM f = .ok results ↔
      ∃ result others, f first = .ok result ∧ rest.mapM f = .ok others ∧
        results = result :: others := by
  rw [List.mapM_cons]
  constructor
  · intro ran
    obtain ⟨result, here, ran⟩ := ok_of_bind ran
    obtain ⟨others, later, ran⟩ := ok_of_bind ran
    exact ⟨result, others, here, later, (Except.ok.inj ran).symm⟩
  · rintro ⟨result, others, here, later, rfl⟩
    rw [here]
    change (rest.mapM f >>= _) = _
    rw [later]
    rfl

theorem mapM_eq_ok_iff {ε α β : Type} {f : α → Except ε β} {list : List α} {results : List β} :
    list.mapM f = .ok results ↔
      List.Forall₂ (fun value result => f value = .ok result) list results := by
  induction list generalizing results with
  | nil =>
    rw [List.forall₂_nil_left_iff]
    exact ⟨fun ran => (Except.ok.inj ran).symm, fun same => same ▸ rfl⟩
  | cons first rest ih =>
    rw [mapM_cons_ok_iff]
    constructor
    · rintro ⟨result, others, here, later, rfl⟩
      exact .cons here (ih.mp later)
    · intro each
      cases each with
      | cons here later => exact ⟨_, _, here, ih.mpr later, rfl⟩

theorem ok_of_mapM {ε α β : Type} {f : α → Except ε β} {list : List α} {results : List β}
    (ran : list.mapM f = .ok results) {value : α} (member : value ∈ list) :
    ∃ result ∈ results, f value = .ok result := by
  induction list generalizing results with
  | nil => cases member
  | cons first rest ih =>
    obtain ⟨result, others, here, later, rfl⟩ := mapM_cons_ok_iff.mp ran
    obtain rfl | there := List.mem_cons.mp member
    · exact ⟨result, List.mem_cons_self, here⟩
    · obtain ⟨found, among, read⟩ := ih later there
      exact ⟨found, .tail _ among, read⟩

theorem mapM_of_ok {ε α β : Type} {f : α → Except ε β} {g : α → β} {list : List α}
    (each : ∀ value ∈ list, f value = .ok (g value)) : list.mapM f = .ok (list.map g) := by
  induction list with
  | nil => rfl
  | cons first rest ih =>
    have later := ih fun value member => each value (.tail _ member)
    exact mapM_cons_ok_iff.mpr ⟨_, _, each first List.mem_cons_self, later, rfl⟩

theorem exists_mapM_of_ok {ε α β : Type} {f : α → Except ε β} {P : β → Prop} {list : List α}
    (each : ∀ value ∈ list, ∃ result, f value = .ok result ∧ P result) :
    ∃ results, list.mapM f = .ok results ∧ ∀ result ∈ results, P result := by
  induction list with
  | nil => exact ⟨[], rfl, nofun⟩
  | cons first rest ih =>
    rw [List.forall_mem_cons] at each
    obtain ⟨⟨result, here, holds⟩, later⟩ := each
    obtain ⟨results, ran, all⟩ := ih later
    exact ⟨result :: results, mapM_cons_ok_iff.mpr ⟨result, results, here, ran, rfl⟩,
      List.forall_mem_cons.mpr ⟨holds, all⟩⟩

theorem getLast?_of_mapM {ε α β : Type} {f : α → Except ε β} {list : List α} {results : List β}
    (ran : list.mapM f = .ok results) {value : α} (last : list.getLast? = some value) :
    ∃ result, results.getLast? = some result ∧ f value = .ok result := by
  induction list generalizing results with
  | nil => cases last
  | cons first rest ih =>
    obtain ⟨result, others, here, later, rfl⟩ := mapM_cons_ok_iff.mp ran
    cases rest with
    | nil =>
      cases last
      cases later
      exact ⟨result, rfl, here⟩
    | cons second rest =>
      rw [List.getLast?_cons_cons] at last
      obtain ⟨found, ended, read⟩ := ih later last
      obtain ⟨next, more, -, -, rfl⟩ := mapM_cons_ok_iff.mp later
      exact ⟨found, by rw [List.getLast?_cons_cons, ended], read⟩

end Netboot
