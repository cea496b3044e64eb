import Mathlib.Data.Finset.Card
import Mathlib.Data.Finset.Image
import Netboot.Address.Range

/-! Ranges as finite sets of addresses, and where a planned range lies in its network. -/

set_option autoImplicit false

namespace Netboot

theorem V4.toNat_ofNat {n : Nat} (small : n < 2 ^ 32) : (V4.ofNat n).toNat = n :=
  Nat.mod_eq_of_lt small

namespace Range

variable {range : Range} {a : V4}

theorem contains_iff : range.contains a = true ↔
    range.first.toNat ≤ a.toNat ∧ a.toNat ≤ range.last.toNat := by
  simp only [contains, Bool.and_eq_true, decide_eq_true_eq]
  rfl

theorem first_le_last (range : Range) : range.first.toNat ≤ range.last.toNat := range.ordered

def nth (range : Range) (i : Nat) : V4 := .ofNat (range.first.toNat + i)

theorem toNat_nth {i : Nat} (inside : i < range.size) :
    (range.nth i).toNat = range.first.toNat + i := by
  have ordered := range.first_le_last
  have bounded := range.last.bounded
  have below : i < range.last.toNat - range.first.toNat + 1 := inside
  exact V4.toNat_ofNat (by omega)

theorem contains_nth {i : Nat} (inside : i < range.size) : range.contains (range.nth i) = true := by
  have below : i < range.last.toNat - range.first.toNat + 1 := inside
  have ordered := range.first_le_last
  rw [contains_iff, toNat_nth inside]
  omega

theorem offset_lt (inside : range.contains a = true) : a.toNat - range.first.toNat < range.size := by
  obtain ⟨low, high⟩ := contains_iff.mp inside
  simp only [size]
  omega

theorem nth_offset (inside : range.contains a = true) :
    range.nth (a.toNat - range.first.toNat) = a := by
  apply V4.ext
  rw [toNat_nth (offset_lt inside)]
  have low := (contains_iff.mp inside).1
  omega

def addresses (range : Range) : Finset V4 := (Finset.range range.size).image range.nth

theorem mem_addresses : a ∈ range.addresses ↔ range.contains a = true := by
  simp only [addresses, Finset.mem_image, Finset.mem_range]
  constructor
  · rintro ⟨i, inside, rfl⟩
    exact contains_nth inside
  · intro inside
    exact ⟨_, offset_lt inside, nth_offset inside⟩

theorem card_addresses (range : Range) : range.addresses.card = range.size := by
  rw [addresses, Finset.card_image_of_injOn, Finset.card_range]
  intro i inI j inJ same
  have first := toNat_nth (Finset.mem_range.mp inI)
  have second := toNat_nth (Finset.mem_range.mp inJ)
  have equal : (range.nth i).toNat = (range.nth j).toNat := congrArg V4.toNat same
  omega

theorem toNat_of_ofNat? {next : V4} {n : Nat} (read : V4.ofNat? n = some next) :
    next.toNat = n := by
  unfold V4.ofNat? at read
  split at read
  · cases read; rfl
  · cases read

theorem lt_of_stepUp {host next : V4} (step : stepUp a host = some next) : a.toNat < next.toNat := by
  obtain ⟨above, read, rest⟩ := Option.bind_eq_some_iff.mp step
  have one := toNat_of_ofNat? read
  split at rest
  · have two := toNat_of_ofNat? rest
    omega
  · cases rest
    omega

theorem lt_of_stepDown {host next : V4} (step : stepDown a host = some next) :
    next.toNat < a.toNat := by
  unfold stepDown at step
  split at step
  · cases step
  next positive =>
    obtain ⟨below, read, rest⟩ := Option.bind_eq_some_iff.mp step
    have one := toNat_of_ofNat? read
    simp only at rest
    split at rest
    · split at rest
      · cases rest
      · have two := toNat_of_ofNat? rest
        omega
    · cases rest
      omega

theorem plan_inside {network : Prefix} {host : V4} (planned : plan network host = .ok range) :
    network.base.toNat < range.first.toNat ∧ range.last.toNat < network.broadcast.toNat := by
  unfold plan at planned
  split at planned
  · cases planned
  split at planned
  · cases planned
  split at planned
  · next first last up down =>
    unfold between at planned
    split at planned
    · cases planned
      exact ⟨lt_of_stepUp up, lt_of_stepDown down⟩
    · cases planned
  · cases planned

end Range

end Netboot
