import Netboot.Proofs.Address.Guards

/-! Runs of a pool: any calls in any order.

A pool answers as the plain set of its taken addresses would: a hint is granted when it is free, else
the lowest free address is. Beneath, the counter counts the bits that are set, none of them past the
range, and no call ever looks at a bit for which there is no byte.
-/

set_option autoImplicit false

namespace Netboot.Pool

variable {pool next : Pool} {range : Range} {a : V4}

inductive Call where
  | allocate (hint : Option V4)
  | free (a : V4)
  | isAllocated (a : V4)
  | available
  deriving DecidableEq, Repr

inductive Reply where
  | address (a : V4)
  | exhausted (cause : Exhausted)
  | truth (value : Bool)
  | count (n : Nat)
  deriving DecidableEq, Repr

def settle (pool : Pool) : Except Exhausted (V4 × Pool) → Pool × Reply
  | .ok (a, next) => (next, .address a)
  | .error cause => (pool, .exhausted cause)

def Call.run (pool : Pool) : Call → Pool × Reply
  | .allocate hint => pool.settle (pool.allocate hint)
  | .free a => ((pool.free a).1, .truth (pool.free a).2)
  | .isAllocated a => (pool, .truth (pool.isAllocated a))
  | .available => (pool, .count pool.available)

def run (pool : Pool) : List Call → Pool × List Reply
  | [] => (pool, [])
  | call :: rest =>
    let (next, reply) := call.run pool
    let (last, replies) := next.run rest
    (last, reply :: replies)

namespace Guarded

def call (pool : Pool) : Call → Except Trap (Pool × Reply)
  | .allocate hint => (allocate pool hint).map pool.settle
  | .free a => (free pool a).map fun (next, taken) => (next, .truth taken)
  | .isAllocated a => (isAllocated pool a).map fun taken => (pool, .truth taken)
  | .available => .ok (pool, .count pool.available)

def run (pool : Pool) : List Call → Except Trap (Pool × List Reply)
  | [] => .ok (pool, [])
  | call :: rest => do
    let (next, reply) ← Guarded.call pool call
    let (last, replies) ← run next rest
    return (last, reply :: replies)

end Guarded

/-! ## A set of addresses in place of the bits -/

structure LowestFree (range : Range) (taken : Finset V4) (a : V4) : Prop where
  inside : a ∈ range.addresses
  free : a ∉ taken
  least : ∀ b ∈ range.addresses, b ∉ taken → a ≤ b

inductive Answers (range : Range) (taken : Finset V4) : Call → Finset V4 → Reply → Prop
  | hinted {a : V4} : a ∈ range.addresses → a ∉ taken →
      Answers range taken (.allocate (some a)) (insert a taken) (.address a)
  | lowest {hint : Option V4} {a : V4} :
      (∀ b, hint = some b → b ∉ range.addresses ∨ b ∈ taken) → LowestFree range taken a →
      Answers range taken (.allocate hint) (insert a taken) (.address a)
  | exhausted {hint : Option V4} : range.addresses ⊆ taken →
      Answers range taken (.allocate hint) taken (.exhausted ⟨range⟩)
  | free (a : V4) : Answers range taken (.free a) (taken.erase a) (.truth (decide (a ∈ taken)))
  | isAllocated (a : V4) : Answers range taken (.isAllocated a) taken (.truth (decide (a ∈ taken)))
  | available {n : Nat} : n + taken.card = range.size → Answers range taken .available taken (.count n)

inductive AnswersAll (range : Range) : Finset V4 → List Call → Finset V4 → List Reply → Prop
  | nil {taken : Finset V4} : AnswersAll range taken [] taken []
  | cons {taken next last : Finset V4} {call : Call} {rest : List Call} {reply : Reply}
      {replies : List Reply} : Answers range taken call next reply →
      AnswersAll range next rest last replies →
      AnswersAll range taken (call :: rest) last (reply :: replies)

theorem Answers.unique {taken first second : Finset V4} {call : Call} {reply other : Reply}
    (left : Answers range taken call first reply) (right : Answers range taken call second other) :
    first = second ∧ reply = other := by
  -- A hint that is granted, the lowest address and exhaustion exclude one another.
  cases left with
  | hinted inside free =>
    cases right with
    | hinted => exact ⟨rfl, rfl⟩
    | lowest unfit =>
      obtain outside | member := unfit _ rfl
      · exact absurd inside outside
      · exact absurd member free
    | exhausted full => exact absurd (full inside) free
  | lowest unfit lowest =>
    cases right with
    | hinted inside free =>
      obtain outside | member := unfit _ rfl
      · exact absurd inside outside
      · exact absurd member free
    | lowest _ again =>
      have below := lowest.least _ again.inside again.free
      have above := again.least _ lowest.inside lowest.free
      cases V4.ext (Nat.le_antisymm below above)
      exact ⟨rfl, rfl⟩
    | exhausted full => exact absurd (full lowest.inside) lowest.free
  | exhausted full =>
    cases right with
    | hinted inside free => exact absurd (full inside) free
    | lowest _ lowest => exact absurd (full lowest.inside) lowest.free
    | exhausted => exact ⟨rfl, rfl⟩
  | free | isAllocated =>
    cases right
    exact ⟨rfl, rfl⟩
  | available first =>
    cases right with
    | available second => exact ⟨rfl, congrArg Reply.count (by omega)⟩

theorem AnswersAll.unique {taken first second : Finset V4} {calls : List Call}
    {replies others : List Reply} (left : AnswersAll range taken calls first replies)
    (right : AnswersAll range taken calls second others) : first = second ∧ replies = others := by
  induction left generalizing others with
  | nil =>
    cases right
    exact ⟨rfl, rfl⟩
  | cons answers _ ih =>
    cases right with
    | cons again rest =>
      obtain ⟨rfl, rfl⟩ := answers.unique again
      obtain ⟨same, rfl⟩ := ih rest
      exact ⟨same, rfl⟩

/-! ## One call -/

theorem Sound.lowestFree (sound : pool.Sound) (allocated : pool.allocateLowest = .ok (a, next)) :
    LowestFree pool.range pool.taken a where
  inside := (sound.allocateLowest_ok allocated).inside
  free := (sound.allocateLowest_ok allocated).free
  least := fun _ inside free => allocateLowest_least allocated inside free

theorem Sound.allocate_granted {hint : Option V4} (sound : pool.Sound)
    (allocated : pool.allocate hint = .ok (a, next)) :
    hint = some a ∨ (∀ b, hint = some b → b ∉ pool.range.addresses ∨ b ∈ pool.taken) ∧
      LowestFree pool.range pool.taken a := by
  unfold Pool.allocate at allocated
  split at allocated
  next b =>
    split at allocated
    next =>
      cases allocated
      exact .inl rfl
    next unfit =>
      refine .inr ⟨fun c same => ?_, sound.lowestFree allocated⟩
      cases same
      by_contra fit
      obtain ⟨inside, free⟩ := not_or.mp fit
      have contained := Range.mem_addresses.mp (not_not.mp inside)
      have clear : pool.test (pool.offset b) = false :=
        Bool.eq_false_iff.mpr fun set => free (mem_taken.mpr ⟨contained, set⟩)
      exact unfit (by rw [contains, contained, clear]; rfl)
  next =>
    refine .inr ⟨fun b given => ?_, sound.lowestFree allocated⟩
    cases given

theorem allocate_error_range {hint : Option V4} {cause : Exhausted}
    (refused : pool.allocate hint = .error cause) : cause = ⟨pool.range⟩ := by
  have lowest : pool.allocateLowest = .error cause := by
    unfold Pool.allocate at refused
    split at refused
    · split at refused
      · cases refused
      · exact refused
    · exact refused
  unfold Pool.allocateLowest at lowest
  split at lowest
  · cases lowest
    rfl
  split at lowest
  · cases lowest
  · cases lowest
    rfl

theorem isAllocated_eq (pool : Pool) (a : V4) : pool.isAllocated a = decide (a ∈ pool.taken) := by
  rw [Bool.eq_iff_iff, decide_eq_true_iff, mem_taken_iff_isAllocated]

theorem free_told (pool : Pool) (a : V4) : (pool.free a).2 = decide (a ∈ pool.taken) := by
  rw [← isAllocated_eq]
  unfold Pool.free
  split
  next allocated => exact allocated.symm
  next missing => exact (Bool.eq_false_iff.mpr missing).symm

theorem Sound.available_add (sound : pool.Sound) :
    pool.available + pool.taken.card = pool.range.size := by
  have bounded := Finset.card_le_card pool.taken_subset
  rw [Range.card_addresses] at bounded
  rw [sound.available_eq]
  omega

/-- A call answers as the set of taken addresses does, and leaves a sound pool over the same range. -/
theorem Sound.call (sound : pool.Sound) (call : Call) :
    (call.run pool).1.Sound ∧ (call.run pool).1.range = pool.range ∧
      Answers pool.range pool.taken call (call.run pool).1.taken (call.run pool).2 := by
  cases call with
  | allocate hint =>
    simp only [Call.run]
    cases ended : pool.allocate hint with
    | ok result =>
      obtain ⟨a, next⟩ := result
      have takes := sound.allocate_ok ended
      refine ⟨takes.sound, takes.range, ?_⟩
      simp only [settle, takes.taken]
      obtain rfl | ⟨unfit, lowest⟩ := sound.allocate_granted ended
      · exact .hinted takes.inside takes.free
      · exact .lowest unfit lowest
    | error cause =>
      have full := sound.allocate_error ended
      cases allocate_error_range ended
      exact ⟨sound, rfl, .exhausted full.ge⟩
  | free a =>
    refine ⟨sound.free a, range_free pool a, ?_⟩
    simp only [Call.run, taken_free, free_told]
    exact .free a
  | isAllocated a =>
    refine ⟨sound, rfl, ?_⟩
    simp only [Call.run, isAllocated_eq]
    exact .isAllocated a
  | available => exact ⟨sound, rfl, .available sound.available_add⟩

theorem Sound.guarded_call (sound : pool.Sound) (call : Call) :
    Guarded.call pool call = .ok (call.run pool) := by
  cases call with
  | allocate hint => rw [Guarded.call, sound.guarded_allocate hint]; rfl
  | free a => rw [Guarded.call, sound.guarded_free a]; rfl
  | isAllocated a => rw [Guarded.call, sound.guarded_isAllocated a]; rfl
  | available => rfl

/-! ## Runs -/

theorem Sound.run (sound : pool.Sound) (calls : List Call) :
    (pool.run calls).1.Sound ∧ (pool.run calls).1.range = pool.range ∧
      AnswersAll pool.range pool.taken calls (pool.run calls).1.taken (pool.run calls).2 := by
  induction calls generalizing pool with
  | nil => exact ⟨sound, rfl, .nil⟩
  | cons call rest ih =>
    obtain ⟨soundNext, same, answers⟩ := sound.call call
    obtain ⟨soundLast, sameLast, answersRest⟩ := ih soundNext
    rw [same] at sameLast answersRest
    exact ⟨soundLast, sameLast, .cons answers answersRest⟩

theorem Sound.guarded_run (sound : pool.Sound) (calls : List Call) :
    Guarded.run pool calls = .ok (pool.run calls) := by
  induction calls generalizing pool with
  | nil => rfl
  | cons call rest ih =>
    rw [Guarded.run, sound.guarded_call call]
    simp only [bind, Except.bind, ih (sound.call call).1]
    rfl

/-! ## The bits that are set -/

def setBits (pool : Pool) : Finset Nat :=
  (Finset.range (8 * pool.bits.size)).filter (pool.test · = true)

theorem Sound.card_setBits (sound : pool.Sound) : pool.setBits.card = pool.taken.card := by
  have small : ∀ i ∈ pool.setBits, i < pool.size := by
    intro i member
    by_contra outside
    have clear := sound.padding i (Nat.le_of_not_lt outside)
    exact Bool.false_ne_true (clear.symm.trans (Finset.mem_filter.mp member).2)
  refine Finset.card_bij (fun i _ => pool.range.nth i) ?_ ?_ ?_
  · intro i member
    have inside := small i member
    have set := (Finset.mem_filter.mp member).2
    have place : pool.offset (pool.range.nth i) = i := by
      rw [offset, Range.toNat_nth inside, Nat.add_sub_cancel_left]
    exact mem_taken.mpr ⟨Range.contains_nth inside, place.symm ▸ set⟩
  · intro i member j memberJ same
    have first := Range.toNat_nth (small i member)
    have second := Range.toNat_nth (small j memberJ)
    have equal : (pool.range.nth i).toNat = (pool.range.nth j).toNat := congrArg V4.toNat same
    omega
  · intro a member
    obtain ⟨inside, set⟩ := mem_taken.mp member
    have held := sound.offset_in_bytes inside
    refine ⟨pool.offset a, Finset.mem_filter.mpr ⟨Finset.mem_range.mpr ?_, set⟩,
      Range.nth_offset inside⟩
    omega

/-- In every run a pool answers as the set of its taken addresses does, which starts as the reserved
addresses of the range: an allocation is refused exactly when that set is the whole range. The
counter counts the bits that are set, no bit past the range is set, and no call looks for a byte that
is not there or searches in vain. -/
theorem run_answers_as_set (range : Range) (reserved : List V4) (calls : List Call) :
    let pool := ofReserved range reserved
    let last := (pool.run calls).1
    (∀ taken replies, AnswersAll range (reserved.toFinset ∩ range.addresses) calls taken replies ↔
      taken = last.taken ∧ replies = (pool.run calls).2) ∧
    (∀ hint, (∃ cause, last.allocate hint = .error cause) ↔ last.taken = range.addresses) ∧
    last.used = last.setBits.card ∧ (∀ i, range.size ≤ i → last.test i = false) ∧
    Guarded.ofReserved range reserved = .ok pool ∧
    Guarded.run pool calls = .ok (pool.run calls) := by
  intro pool last
  have sound := sound_ofReserved range reserved
  obtain ⟨soundLast, same, answers⟩ := sound.run calls
  rw [range_ofReserved, taken_ofReserved] at answers
  rw [range_ofReserved] at same
  refine ⟨fun taken replies => ⟨fun also => also.unique answers, ?_⟩, fun hint => ⟨?_, ?_⟩,
    soundLast.counted.trans soundLast.card_setBits.symm, fun i outside => ?_,
    guarded_ofReserved range reserved, sound.guarded_run calls⟩
  · rintro ⟨rfl, rfl⟩
    exact answers
  · rintro ⟨cause, refused⟩
    rw [← same]
    exact soundLast.allocate_error refused
  · intro full
    cases ended : last.allocate hint with
    | error cause => exact ⟨cause, rfl⟩
    | ok result =>
      have takes := soundLast.allocate_ok ended
      have inside := takes.inside
      rw [same, ← full] at inside
      exact absurd inside takes.free
  · refine soundLast.padding i ?_
    rw [size, same]
    exact outside

end Netboot.Pool
