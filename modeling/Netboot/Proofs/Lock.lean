import Mathlib.Data.List.Nodup
import Netboot.Lock

/-! What a lock keeps apart.

Every thread that asked for the lock is inside a block of its access or waits for one, while the lock
itself sees three counters only. `Sound` ties these to the threads. Every step keeps it, and with it no
step lets a writer in beside anyone else, or a reader while a writer waits. A thread that asks again
inside a block counts as another one.
-/

set_option autoImplicit false

namespace Netboot

def LockThread.holds (access : Access) (thread : LockThread) : Bool :=
  thread = ⟨access, .holding⟩

def LockThread.awaits (access : Access) (thread : LockThread) : Bool :=
  thread.access = access && thread.standing ≠ .holding

namespace ReadWriteLock

variable {ι : Type} {lock : ReadWriteLock ι} {id other : ι} {access asked : Access}
  {thread : LockThread} {standing : Standing}

/-- The threads inside a block of this access. -/
def inside (lock : ReadWriteLock ι) (access : Access) : List ι :=
  (lock.threads.filter (·.2.holds access)).map (·.1)

/-- The threads that asked for this access and do not have it yet. -/
def queued (lock : ReadWriteLock ι) (access : Access) : List ι :=
  (lock.threads.filter (·.2.awaits access)).map (·.1)

def count (lock : ReadWriteLock ι) (kind : LockThread → Bool) : Nat :=
  lock.threads.countP (kind ·.2)

theorem length_inside (lock : ReadWriteLock ι) (access : Access) :
    (lock.inside access).length = lock.count (LockThread.holds access) := by
  rw [inside, List.length_map, count, List.countP_eq_length_filter]

theorem length_queued (lock : ReadWriteLock ι) (access : Access) :
    (lock.queued access).length = lock.count (LockThread.awaits access) := by
  rw [queued, List.length_map, count, List.countP_eq_length_filter]

theorem mem_inside : id ∈ lock.inside access ↔ (id, ⟨access, .holding⟩) ∈ lock.threads := by
  simp [inside, LockThread.holds]

/-- What the counters say about the threads. No thread asks again before it leaves. -/
structure Sound (lock : ReadWriteLock ι) : Prop where
  distinct : (lock.threads.map (·.1)).Nodup
  readers : lock.readers = lock.count (LockThread.holds .read)
  writer : lock.writer.toNat = lock.count (LockThread.holds .write)
  waiting : lock.waitingWriters = lock.count (LockThread.awaits .write)
  apart : lock.writer = true → lock.readers = 0

theorem sound_empty : Sound ({} : ReadWriteLock ι) where
  distinct := List.nodup_nil
  readers := rfl
  writer := rfl
  waiting := rfl
  apart := nofun

theorem holds_mk :
    LockThread.holds asked ⟨access, standing⟩ = decide (access = asked ∧ standing = .holding) := by
  simp [LockThread.holds]

theorem awaits_mk :
    LockThread.awaits asked ⟨access, standing⟩ = decide (access = asked ∧ standing ≠ .holding) := by
  simp [LockThread.awaits]

theorem admits_read_iff :
    lock.admits .read = true ↔ lock.writer = false ∧ lock.waitingWriters = 0 := by
  simp [admits]

theorem admits_write_iff :
    lock.admits .write = true ↔ lock.writer = false ∧ lock.readers = 0 := by
  simp [admits]

/-! ## Waking -/

theorem holds_notify (thread : LockThread) : (notify thread).holds access = thread.holds access := by
  obtain ⟨asked, standing⟩ := thread
  cases standing <;> simp [notify, LockThread.holds]

theorem awaits_notify (thread : LockThread) :
    (notify thread).awaits access = thread.awaits access := by
  obtain ⟨asked, standing⟩ := thread
  cases standing <;> simp [notify, LockThread.awaits]

theorem count_notifyAll {kind : LockThread → Bool}
    (kept : ∀ thread, kind (notify thread) = kind thread) :
    lock.notifyAll.count kind = lock.count kind := by
  rw [count, notifyAll, List.countP_map]
  exact List.countP_congr fun entry _ => by simp [kept]

theorem Sound.notifyAll (sound : lock.Sound) : lock.notifyAll.Sound where
  distinct := by
    rw [ReadWriteLock.notifyAll, List.map_map]
    exact sound.distinct
  readers := sound.readers.trans (count_notifyAll holds_notify).symm
  writer := sound.writer.trans (count_notifyAll holds_notify).symm
  waiting := sound.waiting.trans (count_notifyAll awaits_notify).symm
  apart := sound.apart

theorem mem_inside_notifyAll : id ∈ lock.notifyAll.inside access ↔ id ∈ lock.inside access := by
  simp [inside, notifyAll, holds_notify]

/-! ## One thread -/

variable [DecidableEq ι]

theorem Sound.split (sound : lock.Sound) (found : lock.thread? id = some thread) :
    ∃ before behind, lock.threads = before ++ (id, thread) :: behind ∧
      (∀ entry ∈ before, entry.1 ≠ id) ∧ ∀ entry ∈ behind, entry.1 ≠ id := by
  obtain ⟨before, behind, threads, -⟩ := List.lookup_eq_some_iff.mp found
  have distinct := sound.distinct
  rw [threads, List.map_append, List.map_cons] at distinct
  have fresh := (List.nodup_cons.mp (List.nodup_middle.mp distinct)).1
  rw [← List.map_append] at fresh
  refine ⟨before, behind, threads, fun entry member same => ?_, fun entry member same => ?_⟩
  · exact fresh (List.mem_map.mpr ⟨entry, List.mem_append_left _ member, same⟩)
  · exact fresh (List.mem_map.mpr ⟨entry, List.mem_append_right _ member, same⟩)

theorem Sound.count_setThread (sound : lock.Sound) (found : lock.thread? id = some thread)
    (new : LockThread) (kind : LockThread → Bool) :
    (lock.setThread id new).count kind + (kind thread).toNat =
      lock.count kind + (kind new).toNat := by
  obtain ⟨before, behind, threads, ahead, after⟩ := sound.split found
  have keeps : ∀ entries : List (ι × LockThread), (∀ entry ∈ entries, entry.1 ≠ id) →
      (entries.map fun entry => if entry.1 = id then (id, new) else entry) = entries := by
    intro entries others
    rw [List.map_congr_left fun entry member => if_neg (others entry member), List.map_id']
  simp only [count, setThread, threads, List.map_append, List.map_cons, keeps before ahead,
    keeps behind after, List.countP_append, List.countP_cons, if_true]
  cases kind thread <;> cases kind new <;> simp <;> omega

theorem Sound.count_drop (sound : lock.Sound) (found : lock.thread? id = some thread)
    (kind : LockThread → Bool) :
    (lock.drop id).count kind + (kind thread).toNat = lock.count kind := by
  obtain ⟨before, behind, threads, ahead, after⟩ := sound.split found
  have keeps : ∀ entries : List (ι × LockThread), (∀ entry ∈ entries, entry.1 ≠ id) →
      entries.filter (·.1 ≠ id) = entries := by
    intro entries others
    exact List.filter_eq_self.mpr fun entry member => decide_eq_true (others entry member)
  have gone : (lock.drop id).threads = before ++ behind := by
    rw [drop, threads, List.filter_append, List.filter_cons, keeps before ahead, keeps behind after]
    simp
  rw [count, gone, count, threads, List.countP_append, List.countP_append, List.countP_cons]
  cases kind thread <;> simp
  omega

theorem map_fst_setThread (lock : ReadWriteLock ι) (id : ι) (new : LockThread) :
    (lock.setThread id new).threads.map (·.1) = lock.threads.map (·.1) := by
  rw [setThread, List.map_map]
  refine List.map_congr_left fun entry _ => ?_
  by_cases same : entry.1 = id <;> simp [same]

theorem Sound.setThread (sound : lock.Sound) (found : lock.thread? id = some thread)
    {new : LockThread} (inside : ∀ access, new.holds access = thread.holds access)
    (outside : ∀ access, new.awaits access = thread.awaits access) :
    (lock.setThread id new).Sound := by
  have counts := sound.count_setThread found new
  have readers := counts (LockThread.holds .read)
  have writer := counts (LockThread.holds .write)
  have waiting := counts (LockThread.awaits .write)
  simp only [inside, outside, Nat.add_right_cancel_iff] at readers writer waiting
  exact ⟨(lock.map_fst_setThread id new).symm ▸ sound.distinct, sound.readers.trans readers.symm,
    sound.writer.trans writer.symm, sound.waiting.trans waiting.symm, sound.apart⟩

theorem Sound.stir (sound : lock.Sound) (id : ι) : (lock.stir id).Sound := by
  unfold ReadWriteLock.stir
  split
  next thread found =>
    exact sound.setThread found (fun _ => holds_notify thread) fun _ => awaits_notify thread
  next => exact sound

/-! ## Entering -/

theorem Sound.counts_enter (sound : lock.Sound) (found : lock.thread? id = some ⟨access, standing⟩)
    (waits : standing ≠ .holding) (asked : Access) :
    (lock.setThread id ⟨access, .holding⟩).count (LockThread.holds asked) =
        lock.count (LockThread.holds asked) + (if access = asked then 1 else 0) ∧
      (lock.setThread id ⟨access, .holding⟩).count (LockThread.awaits asked) +
        (if access = asked then 1 else 0) = lock.count (LockThread.awaits asked) := by
  have counts := sound.count_setThread found ⟨access, .holding⟩
  have within := counts (LockThread.holds asked)
  have without := counts (LockThread.awaits asked)
  by_cases same : access = asked <;> simp_all [holds_mk, awaits_mk]

theorem Sound.check (sound : lock.Sound) (found : lock.thread? id = some ⟨access, standing⟩)
    (waits : standing ≠ .holding) : (lock.check id access).Sound := by
  unfold ReadWriteLock.check
  split
  next admitted =>
    have distinct := (lock.map_fst_setThread id ⟨access, .holding⟩).symm ▸ sound.distinct
    obtain ⟨readers, -⟩ := sound.counts_enter found waits .read
    obtain ⟨writer, waiting⟩ := sound.counts_enter found waits .write
    cases access with
    | read =>
      obtain ⟨free, -⟩ := admits_read_iff.mp admitted
      refine ⟨distinct, ?_, sound.writer.trans writer.symm, sound.waiting.trans waiting.symm, ?_⟩
      · exact (congrArg (· + 1) sound.readers).trans readers.symm
      · intro held
        exact absurd (held.symm.trans free) nofun
    | write =>
      obtain ⟨free, empty⟩ := admits_write_iff.mp admitted
      have alone := sound.writer
      rw [free] at alone
      refine ⟨distinct, sound.readers.trans readers.symm, ?_, ?_, fun _ => empty⟩
      · exact (congrArg (· + 1) alone).trans writer.symm
      · -- The one that enters is counted as waiting, so the counter does not stop at zero.
        have fewer := congrArg (· - 1) (sound.waiting.trans waiting.symm)
        exact fewer.trans (Nat.add_sub_cancel _ 1)
  next =>
    refine sound.setThread found (fun asked => ?_) fun asked => ?_
    · simp [holds_mk, waits]
    · simp [awaits_mk, waits]

theorem Sound.join (sound : lock.Sound) (fresh : lock.thread? id = none) (access : Access) :
    Sound { lock.announce access with
      threads := (lock.announce access).threads ++ [(id, ⟨access, .asleep⟩)] } := by
  have unknown : ∀ entry ∈ lock.threads, entry.1 ≠ id := by
    intro entry member same
    have differs := List.lookup_eq_none_iff.mp fresh entry member
    exact (bne_iff_ne.mp differs) same.symm
  have distinct : ((lock.threads ++ [(id, LockThread.mk access .asleep)]).map (·.1)).Nodup := by
    rw [List.map_append]
    apply sound.distinct.append (List.nodup_singleton _)
    simpa using fun thread member => unknown (id, thread) member rfl
  cases access with
  | read =>
    refine ⟨distinct, ?_, ?_, ?_, sound.apart⟩
    · simpa [count, holds_mk, announce] using sound.readers
    · simpa [count, holds_mk, announce] using sound.writer
    · simpa [count, awaits_mk, announce] using sound.waiting
  | write =>
    refine ⟨distinct, ?_, ?_, ?_, sound.apart⟩
    · simpa [count, holds_mk, announce] using sound.readers
    · simpa [count, holds_mk, announce] using sound.writer
    · simpa [count, awaits_mk, announce] using sound.waiting

theorem Sound.request (sound : lock.Sound) (id : ι) (access : Access) :
    (lock.request id access).Sound := by
  unfold ReadWriteLock.request
  split
  next => exact sound
  next unknown =>
    have fresh : lock.thread? id = none := Option.not_isSome_iff_eq_none.mp unknown
    have joined := sound.join fresh access
    have absent : (lock.announce access).threads.lookup id = none := by
      cases access <;> exact fresh
    have found : ReadWriteLock.thread? { lock.announce access with
        threads := (lock.announce access).threads ++ [(id, ⟨access, .asleep⟩)] } id =
        some ⟨access, .asleep⟩ := by
      rw [thread?, List.lookup_append, absent]
      simp
    exact joined.check found nofun

theorem Sound.recheck (sound : lock.Sound) (id : ι) : (lock.recheck id).Sound := by
  unfold ReadWriteLock.recheck
  split
  next access found => exact sound.check found nofun
  next => exact sound

/-! ## Leaving -/

theorem Sound.counts_drop (sound : lock.Sound) (found : lock.thread? id = some ⟨access, .holding⟩)
    (asked : Access) :
    (lock.drop id).count (LockThread.holds asked) + (if access = asked then 1 else 0) =
        lock.count (LockThread.holds asked) ∧
      (lock.drop id).count (LockThread.awaits asked) = lock.count (LockThread.awaits asked) := by
  have counts := sound.count_drop found
  have within := counts (LockThread.holds asked)
  have without := counts (LockThread.awaits asked)
  by_cases same : access = asked <;> simp_all [holds_mk, awaits_mk]

theorem Sound.leave (sound : lock.Sound) (id : ι) : (lock.leave id).Sound := by
  have distinct := sound.distinct.sublist
    (List.filter_sublist (p := fun entry => entry.1 ≠ id) |>.map Prod.fst)
  unfold ReadWriteLock.leave
  split
  next found =>
    obtain ⟨readers, -⟩ := sound.counts_drop found .read
    obtain ⟨writer, waiting⟩ := sound.counts_drop found .write
    have left : Sound { lock.drop id with readers := lock.readers - 1 } := by
      refine ⟨distinct, ?_, sound.writer.trans writer.symm, sound.waiting.trans waiting.symm, ?_⟩
      · have fewer := congrArg (· - 1) (sound.readers.trans readers.symm)
        exact fewer.trans (Nat.add_sub_cancel _ 1)
      · intro held
        exact congrArg (· - 1) (sound.apart held)
    dsimp only
    split
    next => exact left.notifyAll
    next => exact left
  next found =>
    obtain ⟨readers, -⟩ := sound.counts_drop found .read
    obtain ⟨writer, waiting⟩ := sound.counts_drop found .write
    apply Sound.notifyAll
    refine ⟨distinct, sound.readers.trans readers.symm, ?_, sound.waiting.trans waiting.symm, nofun⟩
    -- There was one writer at most, and it is gone.
    have bound := Bool.toNat_le lock.writer
    have before : lock.writer.toNat = (lock.drop id).count (LockThread.holds .write) + 1 :=
      sound.writer.trans writer.symm
    change 0 = (lock.drop id).count (LockThread.holds .write)
    omega
  next => exact sound

theorem Sound.step (sound : lock.Sound) (step : Step ι) : (lock.step step).Sound := by
  cases step with
  | request id access => exact sound.request id access
  | stir id => exact sound.stir id
  | recheck id => exact sound.recheck id
  | leave id => exact sound.leave id

theorem Sound.run (sound : lock.Sound) (steps : List (Step ι)) : (lock.run steps).Sound := by
  induction steps generalizing lock with
  | nil => exact sound
  | cons step rest ih => exact ih (sound.step step)

/-! ## Who gets in -/

theorem mem_setThread {new : LockThread} (member : (other, thread) ∈ (lock.setThread id new).threads) :
    (other, thread) ∈ lock.threads ∧ other ≠ id ∨ other = id ∧ thread = new := by
  obtain ⟨entry, within, same⟩ := List.mem_map.mp member
  split at same
  next =>
    obtain ⟨rfl, rfl⟩ := Prod.mk.inj same
    exact .inr ⟨rfl, rfl⟩
  next apart =>
    subst same
    exact .inl ⟨within, apart⟩

theorem mem_inside_setThread {new : LockThread} (member : other ∈ (lock.setThread id new).inside access) :
    other ∈ lock.inside access ∨ other = id ∧ new = ⟨access, .holding⟩ := by
  obtain ⟨within, -⟩ | ⟨same, holding⟩ := mem_setThread (mem_inside.mp member)
  · exact .inl (mem_inside.mpr within)
  · exact .inr ⟨same, holding.symm⟩

theorem mem_inside_check (member : other ∈ (lock.check id asked).inside access) :
    other ∈ lock.inside access ∨ asked = access ∧ lock.admits access = true := by
  unfold check at member
  split at member
  next admitted =>
    have same : (lock.enter asked).inside access = lock.inside access := by
      cases asked <;> rfl
    obtain before | ⟨-, entered⟩ := mem_inside_setThread member
    · exact .inl (same ▸ before)
    · cases entered
      exact .inr ⟨rfl, admitted⟩
  next =>
    obtain before | ⟨-, asleep⟩ := mem_inside_setThread member
    · exact .inl before
    · cases asleep

theorem mem_inside_drop (member : other ∈ (lock.drop id).inside access) :
    other ∈ lock.inside access :=
  mem_inside.mpr (List.mem_of_mem_filter (mem_inside.mp member))

theorem mem_inside_leave (member : other ∈ (lock.leave id).inside access) :
    other ∈ lock.inside access := by
  unfold leave at member
  split at member
  next =>
    dsimp only at member
    split at member
    next => exact mem_inside_drop (mem_inside_notifyAll.mp member)
    next => exact mem_inside_drop member
  next => exact mem_inside_drop (mem_inside_notifyAll.mp member)
  next => exact member

theorem mem_inside_stir (member : other ∈ (lock.stir id).inside access) :
    other ∈ lock.inside access := by
  unfold stir at member
  split at member
  next thread found =>
    obtain before | ⟨rfl, woken⟩ := mem_inside_setThread member
    · exact before
    · have held := (holds_notify thread).symm.trans (decide_eq_true woken)
      rw [of_decide_eq_true held] at found
      obtain ⟨before, behind, threads, -⟩ := List.lookup_eq_some_iff.mp found
      rw [mem_inside, threads]
      exact List.mem_append_right _ List.mem_cons_self
  next => exact member

/-- Whoever is inside a read block was there before, or found no writer waiting. -/
theorem mem_inside_step (step : Step ι) (member : id ∈ (lock.step step).inside .read) :
    id ∈ lock.inside .read ∨ lock.waitingWriters = 0 := by
  cases step with
  | request other access =>
    change id ∈ (lock.request other access).inside .read at member
    unfold request at member
    split at member
    next => exact .inl member
    next =>
      obtain before | ⟨rfl, admitted⟩ := mem_inside_check member
      · have known := mem_inside.mp before
        cases access <;> exact .inl (by simpa [mem_inside, announce] using known)
      · exact .inr (admits_read_iff.mp admitted).2
  | stir other => exact .inl (mem_inside_stir member)
  | recheck other =>
    change id ∈ (lock.recheck other).inside .read at member
    unfold recheck at member
    split at member
    next access found =>
      obtain before | ⟨-, admitted⟩ := mem_inside_check member
      · exact .inl before
      · exact .inr (admits_read_iff.mp admitted).2
    next => exact .inl member
  | leave other => exact .inl (mem_inside_leave member)

/-- Whatever the threads do, in whatever order: a writer is inside alone, each counter tells the number
of the threads that it stands for, and a reader gets in only while no writer waits. -/
theorem run_exclusive (steps : List (Step ι)) :
    let lock := run ({} : ReadWriteLock ι) steps
    (lock.threads.map (·.1)).Nodup ∧
    (lock.inside .write = [] ∨ lock.inside .read = []) ∧
    (lock.inside .write).length ≤ 1 ∧
    lock.readers = (lock.inside .read).length ∧
    (lock.writer = true ↔ lock.inside .write ≠ []) ∧
    lock.waitingWriters = (lock.queued .write).length ∧
    ∀ step id, id ∉ lock.inside .read → id ∈ (lock.step step).inside .read →
      lock.queued .write = [] := by
  intro lock
  have sound : lock.Sound := sound_empty.run steps
  -- The invariant is about counts, the statement about the lists that they count.
  have readers : lock.readers = (lock.inside .read).length :=
    sound.readers.trans (lock.length_inside .read).symm
  have writers : lock.writer.toNat = (lock.inside .write).length :=
    sound.writer.trans (lock.length_inside .write).symm
  have waiting : lock.waitingWriters = (lock.queued .write).length :=
    sound.waiting.trans (lock.length_queued .write).symm
  have held : lock.writer = true ↔ lock.inside .write ≠ [] := by
    rw [← List.length_pos_iff, ← writers]
    cases lock.writer <;> simp
  refine ⟨sound.distinct, ?_, ?_, readers, held, waiting, ?_⟩
  · by_cases empty : lock.inside .write = []
    · exact .inl empty
    · right
      apply List.eq_nil_of_length_eq_zero
      rw [← readers]
      exact sound.apart (held.mpr empty)
  · rw [← writers]
    exact Bool.toNat_le lock.writer
  · intro step id outside entered
    obtain before | none := mem_inside_step step entered
    · exact absurd before outside
    · exact List.eq_nil_of_length_eq_zero (waiting.symm.trans none)

/-- A reader that has waited behind a writer gets in once the writer is gone. -/
theorem run_exclusive_of_waiting_reader :
    let lock := run ({} : ReadWriteLock Nat)
      [.request 1 .read, .request 2 .write, .request 3 .read, .leave 1, .recheck 3, .recheck 2,
        .leave 2]
    3 ∉ lock.inside .read ∧ 3 ∈ (lock.step (.recheck 3)).inside .read ∧
      lock.queued .write = [] := by
  intro lock
  have outside : 3 ∉ lock.inside .read := by decide
  have entered : 3 ∈ (lock.step (.recheck 3)).inside .read := by decide
  obtain ⟨-, -, -, -, -, -, enters⟩ := run_exclusive (ι := Nat)
    [.request 1 .read, .request 2 .write, .request 3 .read, .leave 1, .recheck 3, .recheck 2,
      .leave 2]
  exact ⟨outside, entered, enters (.recheck 3) 3 outside entered⟩

end ReadWriteLock

end Netboot
