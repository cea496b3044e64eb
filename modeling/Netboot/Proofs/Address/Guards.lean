import Netboot.Proofs.Address.Pool

/-! The operations of a pool under guard: one that looks at a bit for which there is no byte, or whose
search runs past the last byte though an address is left, ends in a trap. On a sound pool none does.
-/

set_option autoImplicit false

namespace Netboot.Pool

variable {pool : Pool} {a : V4}

inductive Trap where
  | noByte (place : Int)
  | searchEnded
  deriving DecidableEq, Repr

/-- How far an address is from the first one; before that one it is a negative way. -/
def place (pool : Pool) (a : V4) : Int := (a.toNat : Int) - pool.range.first.toNat

def bitAt (pool : Pool) (place : Int) : Except Trap Nat :=
  if 0 ≤ place ∧ place.toNat / 8 < pool.bits.size then .ok place.toNat else .error (.noByte place)

namespace Guarded

def test (pool : Pool) (place : Int) : Except Trap Bool := (pool.bitAt place).map pool.test

def set (pool : Pool) (place : Int) : Except Trap Pool := (pool.bitAt place).map pool.set

def clear (pool : Pool) (place : Int) : Except Trap Pool := (pool.bitAt place).map pool.clear

def reserve (pool : Pool) (a : V4) : Except Trap Pool :=
  if pool.contains a then set pool (pool.place a) else .ok pool

def ofReserved (range : Range) (reserved : List V4) : Except Trap Pool :=
  reserved.foldlM reserve (empty range)

def isAllocated (pool : Pool) (a : V4) : Except Trap Bool :=
  if pool.contains a then test pool (pool.place a) else .ok false

def allocateLowest (pool : Pool) : Except Trap (Except Exhausted (V4 × Pool)) :=
  if pool.size ≤ pool.used then .ok (.error ⟨pool.range⟩)
  else match pool.clearBitFrom? 0 with
    | some i => (set pool i).map fun next => .ok (.ofNat (pool.range.first.toNat + i), next)
    | none => .error .searchEnded

def allocate (pool : Pool) (hint : Option V4) : Except Trap (Except Exhausted (V4 × Pool)) :=
  match hint with
  | none => allocateLowest pool
  | some a => do
    if !pool.contains a then allocateLowest pool
    else if ← test pool (pool.place a) then allocateLowest pool
    else return .ok (a, ← set pool (pool.place a))

def free (pool : Pool) (a : V4) : Except Trap (Pool × Bool) := do
  if ← isAllocated pool a then return (← clear pool (pool.place a), true) else return (pool, false)

end Guarded

/-! ## Sound pools -/

theorem Sound.bitAt_place (sound : pool.Sound) (inside : pool.range.contains a = true) :
    pool.bitAt (pool.place a) = .ok (pool.offset a) := by
  have low := (Range.contains_iff.mp inside).1
  have way : (pool.place a).toNat = pool.offset a := by
    simp only [place, offset]
    omega
  have forward : 0 ≤ pool.place a := by
    simp only [place]
    omega
  have held := sound.offset_in_bytes inside
  rw [bitAt, way, if_pos ⟨forward, held⟩]

theorem Sound.bitAt_natCast (sound : pool.Sound) {i : Nat} (inside : i < pool.size) :
    pool.bitAt i = .ok i := by
  have held : i / 8 < pool.bits.size := by
    rw [sound.width]
    omega
  rw [bitAt, Int.toNat_natCast, if_pos ⟨Int.natCast_nonneg i, held⟩]

theorem Sound.guarded_reserve (sound : pool.Sound) (a : V4) :
    Guarded.reserve pool a = .ok (pool.reserve a) := by
  unfold Guarded.reserve Pool.reserve
  split
  next inside => rw [Guarded.set, sound.bitAt_place inside]; rfl
  next => rfl

theorem Sound.guarded_foldlM_reserve (sound : pool.Sound) (reserved : List V4) :
    reserved.foldlM Guarded.reserve pool = .ok (reserved.foldl Pool.reserve pool) := by
  induction reserved generalizing pool with
  | nil => rfl
  | cons a rest ih =>
    rw [List.foldlM_cons, sound.guarded_reserve a, List.foldl_cons, ← ih (sound.reserve a).1]
    rfl

theorem guarded_ofReserved (range : Range) (reserved : List V4) :
    Guarded.ofReserved range reserved = .ok (ofReserved range reserved) :=
  (sound_empty range).guarded_foldlM_reserve reserved

theorem Sound.guarded_isAllocated (sound : pool.Sound) (a : V4) :
    Guarded.isAllocated pool a = .ok (pool.isAllocated a) := by
  unfold Guarded.isAllocated Pool.isAllocated
  cases inside : pool.contains a with
  | true =>
    rw [if_pos rfl, Guarded.test, sound.bitAt_place inside, Bool.true_and]
    rfl
  | false => rfl

theorem Sound.guarded_free (sound : pool.Sound) (a : V4) :
    Guarded.free pool a = .ok (pool.free a) := by
  unfold Guarded.free Pool.free
  rw [sound.guarded_isAllocated a]
  cases allocated : pool.isAllocated a with
  | true =>
    have inside := (mem_taken.mp (mem_taken_iff_isAllocated.mpr allocated)).1
    simp only [Guarded.clear, sound.bitAt_place inside]
    rfl
  | false => rfl

theorem Sound.clearBitFrom?_isSome (sound : pool.Sound) (left : pool.used < pool.size) :
    ∃ i, pool.clearBitFrom? 0 = some i := by
  by_contra missing
  rw [not_exists] at missing
  have none : pool.clearBitFrom? 0 = none := Option.eq_none_iff_forall_ne_some.mpr missing
  have full : pool.taken = pool.range.addresses :=
    taken_eq_addresses fun i inside => clearBitFrom?_none none (by omega) inside (by
      rw [sound.width]
      omega)
  rw [sound.counted, full, Range.card_addresses] at left
  exact Nat.lt_irrefl _ left

theorem Sound.guarded_allocateLowest (sound : pool.Sound) :
    Guarded.allocateLowest pool = .ok pool.allocateLowest := by
  unfold Guarded.allocateLowest Pool.allocateLowest
  split
  next => rfl
  next left =>
    obtain ⟨i, found⟩ := sound.clearBitFrom?_isSome (Nat.lt_of_not_le left)
    simp only [found, Guarded.set, sound.bitAt_natCast (clearBitFrom?_some found).inside]
    rfl

theorem Sound.guarded_allocate (sound : pool.Sound) (hint : Option V4) :
    Guarded.allocate pool hint = .ok (pool.allocate hint) := by
  cases hint with
  | none => exact sound.guarded_allocateLowest
  | some a =>
    simp only [Guarded.allocate, Pool.allocate, sound.guarded_allocateLowest]
    cases inside : pool.contains a with
    | false => simp
    | true =>
      simp only [Guarded.test, Guarded.set, sound.bitAt_place inside, Except.map]
      cases taken : pool.test (pool.offset a) with
      | true => simp [bind, Except.bind]
      | false => simp [bind, Except.bind, pure, Except.pure]

end Netboot.Pool
