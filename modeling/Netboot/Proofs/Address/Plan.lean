import Netboot.Proofs.Address.Range

/-! What a network leaves for its clients beside a host: every address but the two outermost ones
and the host's own. Only a network of fewer than four addresses and a host that cannot be one in it
are refused.
-/

set_option autoImplicit false

namespace Netboot

variable {a host : V4} {network : Prefix} {cidr : Cidr}

theorem V4.ofNat?_of_lt {n : Nat} (small : n < 2 ^ 32) : ofNat? n = some ⟨n, small⟩ := dif_pos small

namespace Prefix

theorem contains_iff : network.contains a = true ↔
    network.base.toNat ≤ a.toNat ∧ a.toNat ≤ network.broadcast.toNat := by
  simp only [contains, Bool.and_eq_true, decide_eq_true_eq]
  rfl

/-- A machine can have the address: it is neither the network's own nor the one for broadcasts. -/
def Assignable (network : Prefix) (a : V4) : Prop :=
  network.contains a = true ∧ a ≠ network.base ∧ a ≠ network.broadcast

theorem assignable_iff : network.Assignable a ↔
    network.base.toNat < a.toNat ∧ a.toNat < network.broadcast.toNat := by
  have apart {b : V4} : a ≠ b ↔ a.toNat ≠ b.toNat := not_congr V4.ext_iff
  rw [Assignable, contains_iff, apart, apart]
  omega

theorem toNat_broadcast (network : Prefix) :
    network.broadcast.toNat = network.base.toNat + (network.size - 1) := rfl

end Prefix

namespace Cidr

/-- The address has the prefix of `cidr`, whatever the host bits of the two are. -/
def Covers (cidr : Cidr) (a : V4) : Prop :=
  a.toNat / hostCount cidr.length = cidr.address.toNat / hostCount cidr.length

theorem covers_iff : cidr.Covers a ↔ cidr.network.contains a = true := by
  have count : 0 < hostCount cidr.length := Nat.two_pow_pos _
  have base : cidr.network.base.toNat =
      cidr.address.toNat / hostCount cidr.length * hostCount cidr.length := by
    have split := Nat.div_add_mod' cidr.address.toNat (hostCount cidr.length)
    change cidr.address.toNat - cidr.address.toNat % hostCount cidr.length = _
    omega
  have size : cidr.network.size = hostCount cidr.length := rfl
  rw [Covers, Nat.div_eq_iff count, Prefix.contains_iff, Prefix.toNat_broadcast, base, size]
  omega

end Cidr

namespace Range

/-! ## The bounds -/

theorem exists_stepUp (host : V4) (room : a.toNat + 2 < 2 ^ 32) :
    ∃ next, stepUp a host = some next ∧ a.toNat < next.toNat ∧ next ≠ host ∧
      ∀ b : V4, a.toNat < b.toNat → b ≠ host → next.toNat ≤ b.toNat := by
  have one := V4.ofNat?_of_lt (n := a.toNat + 1) (by omega)
  by_cases taken : (⟨a.toNat + 1, by omega⟩ : V4) = host
  · subst taken
    refine ⟨⟨a.toNat + 2, room⟩, ?_, Nat.lt_add_of_pos_right Nat.two_pos, ?_, fun b above other => ?_⟩
    · rw [stepUp, one, Option.bind_eq_bind, Option.bind_some, if_pos rfl]
      exact V4.ofNat?_of_lt room
    · exact fun same => absurd (congrArg V4.toNat same) (by simp)
    · have : b.toNat ≠ a.toNat + 1 := fun same => other (V4.ext same)
      change a.toNat + 2 ≤ b.toNat
      omega
  · refine ⟨⟨a.toNat + 1, by omega⟩, ?_, Nat.lt_succ_self _, taken, fun b above _ => above⟩
    rw [stepUp, one, Option.bind_eq_bind, Option.bind_some, if_neg taken]

theorem exists_stepDown (host : V4) (room : 2 ≤ a.toNat) :
    ∃ next, stepDown a host = some next ∧ next.toNat < a.toNat ∧ next ≠ host ∧
      ∀ b : V4, b.toNat < a.toNat → b ≠ host → b.toNat ≤ next.toNat := by
  have bounded := a.bounded
  have one := V4.ofNat?_of_lt (n := a.toNat - 1) (by omega)
  by_cases taken : (⟨a.toNat - 1, by omega⟩ : V4) = host
  · subst taken
    refine ⟨⟨a.toNat - 2, by omega⟩, ?_, Nat.sub_lt (by omega) Nat.two_pos, ?_, fun b below other => ?_⟩
    · rw [stepDown, if_neg (by omega), one, Option.bind_eq_bind, Option.bind_some]
      dsimp only
      rw [if_pos rfl, if_neg (by omega)]
      exact V4.ofNat?_of_lt (n := a.toNat - 1 - 1) _
    · intro same
      have : a.toNat - 2 = a.toNat - 1 := congrArg V4.toNat same
      omega
    · have : b.toNat ≠ a.toNat - 1 := fun same => other (V4.ext same)
      change b.toNat ≤ a.toNat - 2
      omega
  · refine ⟨⟨a.toNat - 1, by omega⟩, ?_, Nat.sub_lt (by omega) Nat.one_pos, taken, fun b below _ =>
      Nat.le_sub_one_of_lt below⟩
    rw [stepDown, if_neg (by omega), one, Option.bind_eq_bind, Option.bind_some]
    exact if_neg taken

/-! ## The plan -/

theorem plan_of_small (small : network.size < 4) : plan network host = .error (.tooSmall network) := by
  rw [plan, if_pos small]

theorem plan_of_unusable (large : 4 ≤ network.size) (unusable : ¬ network.Assignable host) :
    plan network host = .error (.unusableHost host network) := by
  rw [plan, if_neg (Nat.not_lt.mpr large), if_pos]
  rw [Prefix.Assignable] at unusable
  simp only [Bool.or_eq_true, Bool.not_eq_true', decide_eq_true_eq]
  by_contra usable
  simp only [not_or, Bool.not_eq_false] at usable
  exact unusable ⟨usable.1.1, usable.1.2, usable.2⟩

/-- Beside a host that can be one in a network of four addresses or more, the range holds every other
address that a machine can have there. -/
theorem exists_plan (large : 4 ≤ network.size) (usable : network.Assignable host) :
    ∃ range, plan network host = .ok range ∧
      (∀ b : V4, range.contains b = true ∧ b ≠ host ↔ network.Assignable b ∧ b ≠ host) ∧
      range.first ≠ host ∧ range.last ≠ host := by
  have top := network.toNat_broadcast
  have bounded := network.broadcast.bounded
  obtain ⟨first, up, above, firstOther, least⟩ :=
    exists_stepUp (a := network.base) host (by omega)
  obtain ⟨last, down, below, lastOther, greatest⟩ :=
    exists_stepDown (a := network.broadcast) host (by omega)
  -- Two addresses lie between the outermost ones, and one of them is not the host.
  have between_bounds : ∃ b : V4, network.base.toNat < b.toNat ∧ b.toNat < network.broadcast.toNat ∧
      b ≠ host := by
    by_cases taken : host.toNat = network.base.toNat + 1
    · refine ⟨⟨network.base.toNat + 2, by omega⟩, by simp, by simp only; omega, fun same => ?_⟩
      exact absurd (congrArg V4.toNat same) (by simp only; omega)
    · refine ⟨⟨network.base.toNat + 1, by omega⟩, by simp, by simp only; omega, fun same => ?_⟩
      exact taken (congrArg V4.toNat same).symm
  obtain ⟨b, low, high, other⟩ := between_bounds
  have ordered : first ≤ last := Nat.le_trans (least b low other) (greatest b high other)
  refine ⟨⟨first, last, ordered⟩, ?_, fun b => and_congr_left fun other => ?_, firstOther, lastOther⟩
  · have refused :
        (!network.contains host || host = network.base || host = network.broadcast) = false := by
      simp [usable.1, usable.2.1, usable.2.2]
    rw [plan, if_neg (Nat.not_lt.mpr large), refused, if_neg Bool.false_ne_true, up, down]
    simp only [between, ordered, dif_pos]
    rfl
  · rw [contains_iff, Prefix.assignable_iff]
    constructor
    · rintro ⟨up, down⟩
      exact ⟨Nat.lt_of_lt_of_le above up, Nat.lt_of_le_of_lt down below⟩
    · rintro ⟨up, down⟩
      exact ⟨least b up other, greatest b down other⟩

/-- A plan is refused just for a network of fewer than four addresses and for a host that cannot be one
in it. Otherwise there is a range: beside the host it has the addresses of the prefix other than the
network's own and the one for broadcasts, no more and no fewer, and neither of its bounds is the host. -/
theorem plan_leaves_clients (cidr : Cidr) (host : V4) :
    (∀ fault, plan cidr.network host = .error fault ↔
      cidr.network.size < 4 ∧ fault = .tooSmall cidr.network ∨
      4 ≤ cidr.network.size ∧
        ¬ (cidr.Covers host ∧ host ≠ cidr.network.base ∧ host ≠ cidr.network.broadcast) ∧
        fault = .unusableHost host cidr.network) ∧
    ((∃ range, plan cidr.network host = .ok range ∧
        (∀ a, range.contains a = true ∧ a ≠ host ↔
          cidr.Covers a ∧ a ≠ cidr.network.base ∧ a ≠ cidr.network.broadcast ∧ a ≠ host) ∧
        range.first ≠ host ∧ range.last ≠ host) ↔
      4 ≤ cidr.network.size ∧
        cidr.Covers host ∧ host ≠ cidr.network.base ∧ host ≠ cidr.network.broadcast) := by
  have assignable (a : V4) :
      cidr.Covers a ∧ a ≠ cidr.network.base ∧ a ≠ cidr.network.broadcast ↔
        cidr.network.Assignable a :=
    and_congr_left' Cidr.covers_iff
  have others (a : V4) :
      cidr.Covers a ∧ a ≠ cidr.network.base ∧ a ≠ cidr.network.broadcast ∧ a ≠ host ↔
        cidr.network.Assignable a ∧ a ≠ host := by
    rw [← assignable a, and_assoc, and_assoc]
  -- Both halves are about the assignable addresses; the cases are the planner's checks in order.
  simp only [assignable host, others]
  by_cases small : cidr.network.size < 4
  · have large := Nat.not_le.mpr small
    rw [plan_of_small small]
    refine ⟨fun fault => ?_, iff_of_false nofun fun fits => large fits.1⟩
    simp only [small, large, Except.error.injEq, true_and, false_and, or_false, eq_comm]
  have large := Nat.not_lt.mp small
  by_cases usable : cidr.network.Assignable host
  · obtain ⟨range, planned, others, bounds⟩ := exists_plan large usable
    refine ⟨fun fault => ?_, iff_of_true ⟨range, planned, others, bounds⟩ ⟨large, usable⟩⟩
    rw [planned]
    simp only [small, usable, reduceCtorEq, not_true_eq_false, false_and, and_false, or_false]
  · rw [plan_of_unusable large usable]
    refine ⟨fun fault => ?_, iff_of_false nofun fun fits => usable fits.2⟩
    simp only [small, large, usable, Except.error.injEq, not_false_eq_true, false_and, true_and,
      false_or, eq_comm]

/-- Beside the host there is one address in the first and in the last network of four. -/
example : plan ⟨.zero, 30, by decide, by decide⟩ (.ofNat 1) = .ok ⟨.ofNat 2, .ofNat 2, by decide⟩ ∧
    plan ⟨.ofNat 0xfffffffc, 30, by decide, by decide⟩ (.ofNat 0xfffffffe) =
      .ok ⟨.ofNat 0xfffffffd, .ofNat 0xfffffffd, by decide⟩ := by decide

end Range

end Netboot
