import Netboot.Address.Pool
import Netboot.Proofs.Address.Range

/-! A pool as the set of its taken addresses.

`Sound` says that the bits, the counter and the range of a pool agree. Every operation keeps it, and
is the operation of the same meaning on the set `taken`.
-/

set_option autoImplicit false

namespace Netboot.Pool

variable {pool next : Pool} {a b : V4}

/-! ## Bits -/

theorem toBitVec_mask (i : Nat) : (mask i).toBitVec = BitVec.twoPow 8 (i % 8) := by
  have each : ∀ k : Fin 8, ((1 : UInt8) <<< UInt8.ofNat k).toBitVec = BitVec.twoPow 8 k := by decide
  exact each ⟨i % 8, Nat.mod_lt _ (by decide)⟩

theorem and_mask (byte : UInt8) (i : Nat) :
    (byte &&& mask i != 0) = byte.toBitVec.getLsbD (i % 8) := by
  have masked : (byte &&& mask i).toBitVec =
      if byte.toBitVec.getLsbD (i % 8) then BitVec.twoPow 8 (i % 8) else 0#8 := by
    rw [UInt8.toBitVec_and, toBitVec_mask, BitVec.and_twoPow]
  -- Masked by one bit the byte is that bit or nothing.
  cases bit : byte.toBitVec.getLsbD (i % 8) with
  | false =>
    rw [bit] at masked
    have zero : byte &&& mask i = 0 := UInt8.toBitVec_inj.mp masked
    simp [zero]
  | true =>
    rw [bit, if_pos rfl] at masked
    refine bne_iff_ne.mpr fun zero => ?_
    have read := congrArg (·.getLsbD (i % 8)) masked
    simp [zero, Nat.mod_lt] at read

theorem test_eq (pool : Pool) (i : Nat) :
    pool.test i = (pool.bits.getD (i / 8) 0).toBitVec.getLsbD (i % 8) := and_mask _ i

theorem test_in_byte {index bit : Nat} (inside : index < pool.bits.size) (small : bit < 8) :
    pool.test (index * 8 + bit) = pool.bits[index].toBitVec.getLsbD bit := by
  have byte : (index * 8 + bit) / 8 = index := by omega
  have place : (index * 8 + bit) % 8 = bit := by omega
  rw [test_eq, byte, place, Array.getD_eq_getD_getElem?, Array.getElem?_eq_getElem inside,
    Option.getD_some]

theorem test_set {i : Nat} (inside : i / 8 < pool.bits.size) (j : Nat) :
    (pool.set i).test j = (pool.test j || j == i) := by
  unfold set
  split
  next taken =>
    by_cases same : j = i
    · subst same
      simp [taken]
    · simp [same]
  next free =>
    simp only [test_eq, Array.getD_eq_getD_getElem?, Array.getElem?_modify]
    -- Within the byte that changes, `j` is `i` when the places agree.
    by_cases byte : i / 8 = j / 8
    · have same : (j == i) = decide (j % 8 = i % 8) := by
        simp only [beq_eq_decide]
        exact decide_eq_decide.mpr (by omega)
      rw [if_pos byte, ← byte, Array.getElem?_eq_getElem inside]
      simp [toBitVec_mask, same, Nat.mod_lt]
    · have other : (j == i) = false := beq_false_of_ne (by rintro rfl; exact byte rfl)
      rw [if_neg byte, other, Bool.or_false]

theorem test_clear (pool : Pool) (i j : Nat) :
    (pool.clear i).test j = (pool.test j && j != i) := by
  unfold clear
  split
  next taken =>
    simp only [test_eq, Array.getD_eq_getD_getElem?, Array.getElem?_modify]
    by_cases byte : i / 8 = j / 8
    · have same : (j != i) = !decide (j % 8 = i % 8) := by
        simp only [bne, beq_eq_decide]
        exact congrArg _ (decide_eq_decide.mpr (by omega))
      rw [if_pos byte, ← byte]
      cases pool.bits[i / 8]? with
      | none => simp
      | some old => simp [toBitVec_mask, same, Nat.mod_lt]
    · have other : (j != i) = true := bne_iff_ne.mpr (by rintro rfl; exact byte rfl)
      rw [if_neg byte, other, Bool.and_true]
  next free =>
    by_cases same : j = i
    · subst same
      simpa using free
    · simp [same]

@[simp] theorem range_set (pool : Pool) (i : Nat) : (pool.set i).range = pool.range := by
  unfold set
  split <;> rfl

@[simp] theorem range_clear (pool : Pool) (i : Nat) : (pool.clear i).range = pool.range := by
  unfold clear
  split <;> rfl

@[simp] theorem size_set (pool : Pool) (i : Nat) : (pool.set i).size = pool.size := by simp [size]

@[simp] theorem size_clear (pool : Pool) (i : Nat) : (pool.clear i).size = pool.size := by
  simp [size]

@[simp] theorem offset_set (pool : Pool) (i : Nat) : (pool.set i).offset a = pool.offset a := by
  simp [offset]

@[simp] theorem offset_clear (pool : Pool) (i : Nat) : (pool.clear i).offset a = pool.offset a := by
  simp [offset]

@[simp] theorem bits_size_set (pool : Pool) (i : Nat) :
    (pool.set i).bits.size = pool.bits.size := by
  unfold set
  split <;> simp

@[simp] theorem bits_size_clear (pool : Pool) (i : Nat) :
    (pool.clear i).bits.size = pool.bits.size := by
  unfold clear
  split <;> simp

/-! ## The search for a clear bit -/

structure LowestClear (pool : Pool) (index i : Nat) : Prop where
  low : index * 8 ≤ i
  inside : i < pool.size
  clear : pool.test i = false
  before : ∀ j, index * 8 ≤ j → j < i → pool.test j = true

theorem clearBitOf?_some {index i : Nat} (inside : index < pool.bits.size)
    (found : pool.clearBitOf? index pool.bits[index] = some i) : pool.LowestClear index i := by
  obtain ⟨bit, first, place⟩ := Option.bind_eq_some_iff.mp found
  obtain ⟨clear, small, before⟩ := List.find?_range_eq_some.mp first
  have small : bit < 8 := List.mem_range.mp small
  split at place
  next inRange =>
    cases place
    have free : pool.test (index * 8 + bit) = false := by
      have outside : ¬ pool.size ≤ index * 8 + bit := Nat.not_le.mpr inRange
      rw [test_in_byte inside small, ← Nat.mod_eq_of_lt small, ← and_mask]
      simpa [outside] using clear
    refine ⟨Nat.le_add_right _ _, inRange, free, fun j low high => ?_⟩
    obtain ⟨earlier, rfl⟩ := Nat.exists_eq_add_of_le low
    have smaller : earlier < bit := by omega
    have full := before earlier smaller
    rw [test_in_byte inside (by omega), ← Nat.mod_eq_of_lt (by omega : earlier < 8), ← and_mask]
    simp only [Bool.not_or, Bool.and_eq_true, Bool.not_eq_true'] at full
    simpa [bne] using full.2
  · cases place

theorem clearBitOf?_none {index : Nat} (inside : index < pool.bits.size)
    (missing : pool.clearBitOf? index pool.bits[index] = none) {bit : Nat} (small : bit < 8)
    (inRange : index * 8 + bit < pool.size) : pool.test (index * 8 + bit) = true := by
  have outside : ¬ pool.size ≤ index * 8 + bit := Nat.not_le.mpr inRange
  have set : ¬ (decide (index * 8 + bit ≥ pool.size) || pool.bits[index] &&& mask bit == 0) := by
    unfold clearBitOf? at missing
    cases first : (List.range 8).find? fun bit =>
        decide (index * 8 + bit ≥ pool.size) || pool.bits[index] &&& mask bit == 0 with
    | none => simpa using List.find?_range_eq_none.mp first bit small
    | some stop =>
      -- The scan of the byte stopped past the range, so every bit before it is set.
      rw [first, Option.bind_some] at missing
      have past : pool.size ≤ index * 8 + stop := by
        split at missing
        · cases missing
        · omega
      obtain ⟨-, -, before⟩ := List.find?_range_eq_some.mp first
      simpa using before bit (by omega)
  rw [test_in_byte inside small, ← Nat.mod_eq_of_lt small, ← and_mask]
  simpa [outside] using set

/-- The search goes past a byte only when its bits within the range are all set. -/
theorem test_of_skipped {index : Nat} (inside : index < pool.bits.size)
    (skipped : pool.bits[index] = 0xff ∨ pool.clearBitOf? index pool.bits[index] = none) {j : Nat}
    (low : index * 8 ≤ j) (high : j < (index + 1) * 8) (inRange : j < pool.size) :
    pool.test j = true := by
  obtain ⟨bit, rfl⟩ := Nat.exists_eq_add_of_le low
  have small : bit < 8 := by omega
  obtain full | missing := skipped
  · have each : ∀ k : Fin 8, (0xff : UInt8).toBitVec.getLsbD k = true := by decide
    rw [test_in_byte inside small, full]
    exact each ⟨bit, small⟩
  · exact clearBitOf?_none inside missing small inRange

theorem LowestClear.of_skipped {index i : Nat} (later : pool.LowestClear (index + 1) i)
    (inside : index < pool.bits.size)
    (skipped : pool.bits[index] = 0xff ∨ pool.clearBitOf? index pool.bits[index] = none) :
    pool.LowestClear index i where
  low := by
    have low := later.low
    omega
  inside := later.inside
  clear := later.clear
  before := fun j low high => by
    by_cases next : (index + 1) * 8 ≤ j
    · exact later.before j next high
    · exact test_of_skipped inside skipped low (by omega) (high.trans later.inside)

theorem clearBitFrom?_some {index i : Nat} (found : pool.clearBitFrom? index = some i) :
    pool.LowestClear index i := by
  -- The induction follows the search from byte to byte.
  fun_induction clearBitFrom? pool index with
  | case1 index inside byte full ih => exact (ih found).of_skipped inside (.inl (eq_of_beq full))
  | case2 index inside byte full here selected =>
    cases found
    exact clearBitOf?_some inside selected
  | case3 index inside byte full missing ih => exact (ih found).of_skipped inside (.inr missing)
  | case4 index outside => cases found

theorem clearBitFrom?_none {index : Nat} (missing : pool.clearBitFrom? index = none) {j : Nat}
    (low : index * 8 ≤ j) (inRange : j < pool.size) (held : j / 8 < pool.bits.size) :
    pool.test j = true := by
  fun_induction clearBitFrom? pool index with
  | case1 index inside byte full ih =>
    by_cases later : (index + 1) * 8 ≤ j
    · exact ih missing later
    · exact test_of_skipped inside (.inl (eq_of_beq full)) low (by omega) inRange
  | case2 => cases missing
  | case3 index inside byte full none ih =>
    by_cases later : (index + 1) * 8 ≤ j
    · exact ih missing later
    · exact test_of_skipped inside (.inr none) low (by omega) inRange
  | case4 index outside => omega

/-! ## The set of taken addresses -/

def taken (pool : Pool) : Finset V4 := pool.range.addresses.filter (pool.isAllocated · = true)

/-- Every bit of the range has a byte, no bit past the range is set, and the counter counts. -/
structure Sound (pool : Pool) : Prop where
  width : pool.bits.size = (pool.size + 7) / 8
  padding : ∀ i, pool.size ≤ i → pool.test i = false
  counted : pool.used = pool.taken.card

theorem mem_taken_iff_isAllocated : a ∈ pool.taken ↔ pool.isAllocated a = true := by
  simp only [taken, Finset.mem_filter, Range.mem_addresses, isAllocated, contains, Bool.and_eq_true]
  tauto

theorem mem_taken : a ∈ pool.taken ↔
    pool.range.contains a = true ∧ pool.test (pool.offset a) = true := by
  rw [mem_taken_iff_isAllocated, isAllocated, Bool.and_eq_true]
  rfl

theorem taken_subset (pool : Pool) : pool.taken ⊆ pool.range.addresses := Finset.filter_subset _ _

theorem offset_inj (insideA : pool.range.contains a = true) (insideB : pool.range.contains b = true)
    (same : pool.offset a = pool.offset b) : a = b := by
  rw [← Range.nth_offset insideA, ← Range.nth_offset insideB]
  exact congrArg pool.range.nth same

theorem Sound.offset_in_bytes (sound : pool.Sound) (inside : pool.range.contains a = true) :
    pool.offset a / 8 < pool.bits.size := by
  have small : pool.offset a < pool.size := Range.offset_lt inside
  rw [sound.width]
  omega

theorem Sound.taken_set (sound : pool.Sound) (inside : pool.range.contains a = true) :
    (pool.set (pool.offset a)).taken = insert a pool.taken := by
  ext b
  rw [mem_taken, Finset.mem_insert, mem_taken, range_set, offset_set,
    test_set (sound.offset_in_bytes inside)]
  by_cases insideB : pool.range.contains b = true
  · have place : (pool.offset b == pool.offset a) = true ↔ b = a :=
      ⟨fun same => offset_inj insideB inside (eq_of_beq same), fun same => by simp [same]⟩
    rw [Bool.or_eq_true, place]
    tauto
  · have other : b ≠ a := fun same => insideB (same ▸ inside)
    tauto

theorem taken_clear (pool : Pool) (inside : pool.range.contains a = true) :
    (pool.clear (pool.offset a)).taken = pool.taken.erase a := by
  ext b
  rw [mem_taken, Finset.mem_erase, mem_taken, range_clear, offset_clear, test_clear]
  by_cases insideB : pool.range.contains b = true
  · have place : (pool.offset b != pool.offset a) = true ↔ b ≠ a := by
      rw [bne_iff_ne]
      exact not_congr ⟨fun same => offset_inj insideB inside same, fun same => same ▸ rfl⟩
    rw [Bool.and_eq_true, place]
    tauto
  · tauto

theorem Sound.set (sound : pool.Sound) (inside : pool.range.contains a = true) :
    (pool.set (pool.offset a)).Sound where
  width := by rw [bits_size_set, size_set, sound.width]
  padding := fun i outside => by
    rw [size_set] at outside
    have small : pool.offset a < pool.size := Range.offset_lt inside
    have past : (i == pool.offset a) = false := beq_false_of_ne (by omega)
    rw [test_set (sound.offset_in_bytes inside), past, Bool.or_false]
    exact sound.padding i outside
  counted := by
    rw [sound.taken_set inside]
    unfold Pool.set
    split
    next taken => rw [sound.counted, Finset.insert_eq_of_mem (mem_taken.mpr ⟨inside, taken⟩)]
    next free =>
      rw [Finset.card_insert_of_notMem fun member => free (mem_taken.mp member).2, sound.counted]

theorem Sound.clear (sound : pool.Sound) (inside : pool.range.contains a = true) :
    (pool.clear (pool.offset a)).Sound where
  width := by rw [bits_size_clear, size_clear, sound.width]
  padding := fun i outside => by
    rw [size_clear] at outside
    rw [test_clear, sound.padding i outside, Bool.false_and]
  counted := by
    rw [taken_clear pool inside]
    unfold Pool.clear
    split
    next taken => rw [Finset.card_erase_of_mem (mem_taken.mpr ⟨inside, taken⟩), sound.counted]
    next free =>
      rw [Finset.erase_eq_of_notMem fun member => free (mem_taken.mp member).2, sound.counted]

/-! ## Operations -/

theorem test_empty (range : Range) (i : Nat) : (empty range).test i = false := by
  have zero : (empty range).bits.getD (i / 8) 0 = 0 := by
    simp only [empty, Array.getD_eq_getD_getElem?, Array.getElem?_replicate]
    split <;> rfl
  rw [test_eq, zero]
  exact BitVec.getLsbD_zero

theorem taken_empty (range : Range) : (empty range).taken = ∅ := by
  ext a
  simp [mem_taken, test_empty]

theorem sound_empty (range : Range) : (empty range).Sound where
  width := Array.size_replicate
  padding := fun i _ => test_empty range i
  counted := by rw [taken_empty]; rfl

@[simp] theorem range_reserve (pool : Pool) (a : V4) : (pool.reserve a).range = pool.range := by
  unfold reserve
  split <;> simp

theorem Sound.reserve (sound : pool.Sound) (a : V4) :
    (pool.reserve a).Sound ∧
      (pool.reserve a).taken = pool.taken ∪ {a} ∩ pool.range.addresses := by
  unfold Pool.reserve
  split
  next inside =>
    have member : a ∈ pool.range.addresses := Range.mem_addresses.mpr inside
    refine ⟨sound.set inside, ?_⟩
    rw [sound.taken_set inside, Finset.singleton_inter_of_mem member, Finset.union_comm]
    rfl
  next outside =>
    have missing : a ∉ pool.range.addresses := fun member =>
      outside (Range.mem_addresses.mp member)
    exact ⟨sound, by rw [Finset.singleton_inter_of_notMem missing, Finset.union_empty]⟩

theorem Sound.foldl_reserve (sound : pool.Sound) (reserved : List V4) :
    (reserved.foldl Pool.reserve pool).Sound ∧
      (reserved.foldl Pool.reserve pool).range = pool.range ∧
      (reserved.foldl Pool.reserve pool).taken =
        pool.taken ∪ reserved.toFinset ∩ pool.range.addresses := by
  induction reserved generalizing pool with
  | nil => exact ⟨sound, rfl, by simp⟩
  | cons a rest ih =>
    obtain ⟨once, grown⟩ := sound.reserve a
    obtain ⟨all, range, taken⟩ := ih once
    refine ⟨all, range.trans (range_reserve pool a), ?_⟩
    rw [List.foldl_cons, taken, grown, range_reserve, List.toFinset_cons, Finset.insert_eq,
      Finset.union_inter_distrib_right, Finset.union_assoc]

theorem sound_ofReserved (range : Range) (reserved : List V4) : (ofReserved range reserved).Sound :=
  ((sound_empty range).foldl_reserve reserved).1

@[simp] theorem range_ofReserved (range : Range) (reserved : List V4) :
    (ofReserved range reserved).range = range :=
  ((sound_empty range).foldl_reserve reserved).2.1

theorem taken_ofReserved (range : Range) (reserved : List V4) :
    (ofReserved range reserved).taken = reserved.toFinset ∩ range.addresses := by
  have grown := ((sound_empty range).foldl_reserve reserved).2.2
  rwa [taken_empty, Finset.empty_union] at grown

@[simp] theorem range_free (pool : Pool) (a : V4) : (pool.free a).1.range = pool.range := by
  unfold free
  split <;> simp

theorem Sound.free (sound : pool.Sound) (a : V4) : (pool.free a).1.Sound := by
  unfold Pool.free
  split
  next allocated => exact sound.clear (mem_taken.mp (mem_taken_iff_isAllocated.mpr allocated)).1
  next => exact sound

theorem taken_free (pool : Pool) (a : V4) : (pool.free a).1.taken = pool.taken.erase a := by
  unfold free
  split
  next allocated =>
    exact taken_clear pool (mem_taken.mp (mem_taken_iff_isAllocated.mpr allocated)).1
  next missing =>
    exact (Finset.erase_eq_of_notMem fun member =>
      missing (mem_taken_iff_isAllocated.mp member)).symm

/-- What an allocation that succeeds does: it takes an address of the range that was free. -/
structure Takes (pool : Pool) (a : V4) (next : Pool) : Prop where
  inside : a ∈ pool.range.addresses
  free : a ∉ pool.taken
  taken : next.taken = insert a pool.taken
  range : next.range = pool.range
  sound : next.Sound

theorem Sound.takes_set (sound : pool.Sound) (inside : pool.range.contains a = true)
    (free : pool.test (pool.offset a) = false) : pool.Takes a (pool.set (pool.offset a)) where
  inside := Range.mem_addresses.mpr inside
  free := fun member => by simp [(mem_taken.mp member).2] at free
  taken := sound.taken_set inside
  range := range_set _ _
  sound := sound.set inside

theorem Sound.takes_take (sound : pool.Sound) {i : Nat} (inside : i < pool.size)
    (free : pool.test i = false) : pool.Takes (pool.take i).1 (pool.take i).2 := by
  have place : pool.offset (pool.range.nth i) = i := by
    rw [offset, Range.toNat_nth inside, Nat.add_sub_cancel_left]
  have set := sound.takes_set (Range.contains_nth inside) (by rw [place]; exact free)
  rwa [place] at set

theorem taken_eq_addresses (full : ∀ i, i < pool.size → pool.test i = true) :
    pool.taken = pool.range.addresses := by
  refine Finset.Subset.antisymm pool.taken_subset fun a member => ?_
  have inside := Range.mem_addresses.mp member
  exact mem_taken.mpr ⟨inside, full _ (Range.offset_lt inside)⟩

theorem Sound.allocateLowest_ok (sound : pool.Sound)
    (allocated : pool.allocateLowest = .ok (a, next)) : pool.Takes a next := by
  unfold Pool.allocateLowest at allocated
  split at allocated
  · cases allocated
  split at allocated
  next i found =>
    cases allocated
    have lowest := clearBitFrom?_some found
    exact sound.takes_take lowest.inside lowest.clear
  · cases allocated

theorem allocateLowest_least (allocated : pool.allocateLowest = .ok (a, next))
    (inside : b ∈ pool.range.addresses) (free : b ∉ pool.taken) : a ≤ b := by
  have contained := Range.mem_addresses.mp inside
  have low := (Range.contains_iff.mp contained).1
  unfold Pool.allocateLowest at allocated
  split at allocated
  · cases allocated
  split at allocated
  next i found =>
    cases allocated
    have lowest := clearBitFrom?_some found
    have above : i ≤ pool.offset b := by
      by_contra below
      exact free (mem_taken.mpr ⟨contained, lowest.before _ (by omega) (Nat.lt_of_not_le below)⟩)
    change (pool.range.nth i).toNat ≤ b.toNat
    rw [Range.toNat_nth lowest.inside]
    simp only [offset] at above
    omega
  · cases allocated

theorem Sound.allocate_ok {hint : Option V4} (sound : pool.Sound)
    (allocated : pool.allocate hint = .ok (a, next)) : pool.Takes a next := by
  unfold Pool.allocate at allocated
  split at allocated
  next wanted =>
    split at allocated
    next free =>
      cases allocated
      obtain ⟨inside, clear⟩ := (Bool.and_eq_true _ _).mp free
      exact sound.takes_set inside (by simpa using clear)
    next => exact sound.allocateLowest_ok allocated
  next => exact sound.allocateLowest_ok allocated

theorem Sound.allocateLowest_error {fault : Exhausted} (sound : pool.Sound)
    (refused : pool.allocateLowest = .error fault) : pool.taken = pool.range.addresses := by
  unfold Pool.allocateLowest at refused
  split at refused
  next full =>
    -- As many addresses are taken as the range has.
    refine Finset.eq_of_subset_of_card_le pool.taken_subset ?_
    rw [Range.card_addresses, ← sound.counted]
    exact full
  next =>
    split at refused
    next => cases refused
    next missing =>
      refine taken_eq_addresses fun i inside => clearBitFrom?_none missing (by omega) inside ?_
      rw [sound.width]
      omega

theorem Sound.allocate_error {hint : Option V4} {fault : Exhausted} (sound : pool.Sound)
    (refused : pool.allocate hint = .error fault) : pool.taken = pool.range.addresses := by
  unfold Pool.allocate at refused
  split at refused
  next wanted =>
    split at refused
    next => cases refused
    next => exact sound.allocateLowest_error refused
  next => exact sound.allocateLowest_error refused

theorem Sound.available_eq (sound : pool.Sound) :
    pool.available = pool.range.size - pool.taken.card := by
  rw [available, sound.counted, size]

end Netboot.Pool
