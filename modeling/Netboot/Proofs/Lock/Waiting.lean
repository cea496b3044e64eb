import Netboot.Proofs.Keyed
import Netboot.Proofs.Lock

/-! Nobody waits for a lock without a reason.

A thread goes to sleep because the lock is not open to it. Whatever may open the lock to a sleeper
notifies everyone, so the reason lasts as long as the sleep, and no order of the steps leaves a thread
waiting for a lock that it could have. `Watchful` says so; every step keeps it, even where the counters
tell nothing about the threads.
-/

set_option autoImplicit false

namespace Netboot.ReadWriteLock

variable {ι : Type} {lock next : ReadWriteLock ι} {id other : ι} {access asked : Access}

/-- The lock is not open to any thread that is asleep. -/
def Watchful (lock : ReadWriteLock ι) : Prop :=
  ∀ id access, (id, ⟨access, .asleep⟩) ∈ lock.threads → lock.admits access = false

/-- Whoever waits for this access has to: a reader for the writers, a writer for everyone inside. -/
def Obstructs (lock : ReadWriteLock ι) : Access → Prop
  | .read => lock.inside .write ≠ [] ∨ lock.queued .write ≠ []
  | .write => lock.inside .write ≠ [] ∨ lock.inside .read ≠ []

theorem Watchful.of_shut (watchful : lock.Watchful)
    (shut : ∀ access, lock.admits access = false → next.admits access = false)
    (sleepers : ∀ id access, (id, ⟨access, .asleep⟩) ∈ next.threads →
      (id, ⟨access, .asleep⟩) ∈ lock.threads) : next.Watchful :=
  fun id access member => shut access (watchful id access (sleepers id access member))

theorem not_mem_notifyAll : (id, ⟨access, .asleep⟩) ∉ lock.notifyAll.threads := by
  intro member
  obtain ⟨⟨_, thread⟩, -, same⟩ := List.mem_map.mp member
  obtain ⟨asked, standing⟩ := thread
  cases standing <;> simp [notify] at same

theorem watchful_notifyAll (lock : ReadWriteLock ι) : lock.notifyAll.Watchful :=
  fun _ _ member => absurd member not_mem_notifyAll

/-! ## Reasons to wait -/

theorem Sound.obstructs (sound : lock.Sound) (closed : lock.admits access = false) :
    lock.Obstructs access := by
  have readers : lock.readers = (lock.inside .read).length :=
    sound.readers.trans (lock.length_inside .read).symm
  have writers : lock.writer.toNat = (lock.inside .write).length :=
    sound.writer.trans (lock.length_inside .write).symm
  have waiting : lock.waitingWriters = (lock.queued .write).length :=
    sound.waiting.trans (lock.length_queued .write).symm
  have held : lock.writer = true → lock.inside .write ≠ [] := by
    intro held empty
    rw [held, empty] at writers
    cases writers
  cases access with
  | read =>
    cases writer : lock.writer with
    | true => exact .inl (held writer)
    | false =>
      refine .inr fun empty => ?_
      rw [empty] at waiting
      exact absurd (admits_read_iff.mpr ⟨writer, waiting⟩) (Bool.eq_false_iff.mp closed)
  | write =>
    cases writer : lock.writer with
    | true => exact .inl (held writer)
    | false =>
      refine .inr fun empty => ?_
      rw [empty] at readers
      exact absurd (admits_write_iff.mpr ⟨writer, readers⟩) (Bool.eq_false_iff.mp closed)

theorem mem_queued (member : id ∈ lock.queued access) :
    ∃ standing, standing ≠ .holding ∧ (id, ⟨access, standing⟩) ∈ lock.threads := by
  obtain ⟨⟨_, asked, standing⟩, within, rfl⟩ := List.mem_map.mp member
  obtain ⟨entry, awaits⟩ := List.mem_filter.mp within
  rw [awaits_mk, decide_eq_true_eq] at awaits
  obtain ⟨rfl, waits⟩ := awaits
  exact ⟨standing, waits, entry⟩

/-- Where nobody is notified, everyone who waits is asleep, and so waits for a reason. -/
theorem Watchful.obstructs_of_queued (watchful : lock.Watchful) (sound : lock.Sound)
    (settled : ∀ id access, (id, ⟨access, .notified⟩) ∉ lock.threads)
    (waits : lock.queued access ≠ []) : lock.Obstructs access := by
  obtain ⟨id, member⟩ := List.exists_mem_of_ne_nil _ waits
  obtain ⟨standing, outside, entry⟩ := mem_queued member
  cases standing with
  | asleep => exact sound.obstructs (watchful id access entry)
  | notified => exact absurd entry (settled id access)
  | holding => exact absurd rfl outside

/-! ## What opens the lock to nobody -/

theorem admits_enter (closed : lock.admits asked = false) : (lock.enter access).admits asked = false := by
  cases access <;> cases asked <;> simp_all [admits, enter]

theorem admits_announce (closed : lock.admits asked = false) :
    (lock.announce access).admits asked = false := by
  cases access <;> cases asked <;> simp_all [admits, announce]

theorem threads_enter : (lock.enter access).threads = lock.threads := by
  cases access <;> rfl

theorem threads_announce : (lock.announce access).threads = lock.threads := by
  cases access <;> rfl

variable [DecidableEq ι]

/-! ## Steps -/

theorem watchful_check
    (others : ∀ other asked, other ≠ id → (other, ⟨asked, .asleep⟩) ∈ lock.threads →
      lock.admits asked = false) : (lock.check id access).Watchful := by
  intro other asked member
  unfold check at member ⊢
  split at member
  next admitted =>
    rw [if_pos admitted]
    obtain ⟨within, apart⟩ | ⟨-, holding⟩ := mem_setThread member
    · rw [threads_enter] at within
      exact admits_enter (others other asked apart within)
    · cases holding
  next refused =>
    rw [if_neg refused]
    obtain ⟨within, apart⟩ | ⟨-, asleep⟩ := mem_setThread member
    · exact others other asked apart within
    · cases asleep
      exact Bool.eq_false_iff.mpr refused

theorem Watchful.request (watchful : lock.Watchful) (id : ι) (access : Access) :
    (lock.request id access).Watchful := by
  unfold ReadWriteLock.request
  split
  next => exact watchful
  next =>
    -- A writer that announces itself closes the lock to readers and opens it to nobody.
    refine watchful_check fun other asked apart member => ?_
    rw [threads_announce] at member
    obtain within | joined := List.mem_append.mp member
    · exact admits_announce (watchful other asked within)
    · exact absurd (Prod.mk.inj (List.mem_singleton.mp joined)).1 apart

theorem Watchful.stir (watchful : lock.Watchful) (id : ι) : (lock.stir id).Watchful := by
  unfold ReadWriteLock.stir
  split
  next thread found =>
    refine watchful.of_shut (fun _ closed => closed) ?_
    intro other access member
    obtain ⟨within, -⟩ | ⟨-, asleep⟩ := mem_setThread member
    · exact within
    · obtain ⟨asked, standing⟩ := thread
      cases standing <;> simp [notify] at asleep
  next => exact watchful

theorem Watchful.recheck (watchful : lock.Watchful) (id : ι) : (lock.recheck id).Watchful := by
  unfold ReadWriteLock.recheck
  split
  next => exact watchful_check fun other asked _ member => watchful other asked member
  next => exact watchful

theorem Watchful.leave (watchful : lock.Watchful) (id : ι) : (lock.leave id).Watchful := by
  unfold ReadWriteLock.leave
  split
  next =>
    dsimp only
    split
    next => exact watchful_notifyAll _
    next remaining =>
      -- Readers are left, so no writer could enter; to readers the lock is as open as it was.
      refine watchful.of_shut (fun access closed => ?_) fun other access member =>
        List.mem_of_mem_filter member
      cases access with
      | read => exact closed
      | write =>
        have occupied : ((lock.readers - 1) == 0) = false := beq_false_of_ne remaining
        exact (congrArg (!lock.writer && ·) occupied).trans (Bool.and_false _)
  next => exact watchful_notifyAll _
  next => exact watchful

theorem Watchful.step (watchful : lock.Watchful) (step : Step ι) : (lock.step step).Watchful := by
  cases step with
  | request id access => exact watchful.request id access
  | stir id => exact watchful.stir id
  | recheck id => exact watchful.recheck id
  | leave id => exact watchful.leave id

theorem Watchful.run (watchful : lock.Watchful) (steps : List (Step ι)) : (lock.run steps).Watchful := by
  induction steps generalizing lock with
  | nil => exact watchful
  | cons step rest ih => exact ih (watchful.step step)

/-! ## Once everyone who was woken has looked -/

theorem Sound.thread?_eq (sound : lock.Sound) {thread : LockThread}
    (member : (id, thread) ∈ lock.threads) : lock.thread? id = some thread := by
  cases found : lock.thread? id with
  | none => exact absurd (List.lookup_eq_none_iff.mp found _ member) (by simp)
  | some first =>
    cases List.inj_on_of_nodup_map sound.distinct (mem_of_lookup found) member rfl
    rfl

theorem map_fst_recheck (lock : ReadWriteLock ι) (id : ι) :
    (lock.recheck id).threads.map (·.1) = lock.threads.map (·.1) := by
  unfold recheck
  split
  next access _ =>
    unfold check
    split
    · rw [map_fst_setThread, threads_enter]
    · rw [map_fst_setThread]
  next => rfl

theorem Sound.notified_recheck (sound : lock.Sound)
    (member : (other, ⟨asked, .notified⟩) ∈ (lock.recheck id).threads) :
    (other, ⟨asked, .notified⟩) ∈ lock.threads ∧ other ≠ id := by
  unfold ReadWriteLock.recheck at member
  split at member
  next access found =>
    unfold ReadWriteLock.check at member
    split at member
    · obtain ⟨within, apart⟩ | ⟨-, holding⟩ := mem_setThread member
      · rw [threads_enter] at within
        exact ⟨within, apart⟩
      · cases holding
    · obtain within | ⟨-, asleep⟩ := mem_setThread member
      · exact within
      · cases asleep
  next unwoken =>
    refine ⟨member, ?_⟩
    rintro rfl
    exact unwoken asked (sound.thread?_eq member)

/-- The threads look one after another, in any order: none is lost, and none stays notified that has
looked. -/
theorem Sound.run_rechecks (sound : lock.Sound) (order : List ι) :
    let settled := lock.run (order.map .recheck)
    settled.threads.map (·.1) = lock.threads.map (·.1) ∧
    ∀ other asked, (other, ⟨asked, .notified⟩) ∈ settled.threads →
      (other, ⟨asked, .notified⟩) ∈ lock.threads ∧ other ∉ order := by
  induction order generalizing lock with
  | nil => exact ⟨rfl, fun _ _ member => ⟨member, List.not_mem_nil⟩⟩
  | cons first rest ih =>
    obtain ⟨same, woken⟩ := ih (sound.recheck first)
    refine ⟨same.trans (lock.map_fst_recheck first), fun other asked member => ?_⟩
    obtain ⟨between, later⟩ := woken other asked member
    obtain ⟨before, apart⟩ := sound.notified_recheck between
    exact ⟨before, List.not_mem_cons_of_ne_of_not_mem apart later⟩

/-- Whatever the threads do, in whatever order: whoever sleeps has a reason to. Once everyone who was
woken has looked, in any order, nobody waits while nobody is inside, a writer waits for someone inside,
and a reader for a writer that is inside or waits itself. -/
theorem no_waiter_stranded (steps : List (Step ι)) :
    let lock := run ({} : ReadWriteLock ι) steps
    (∀ id access, (id, ⟨access, .asleep⟩) ∈ lock.threads →
      lock.admits access = false ∧ lock.Obstructs access) ∧
    ∀ order : List ι, (∀ id access, (id, ⟨access, .notified⟩) ∈ lock.threads → id ∈ order) →
      let settled := lock.run (order.map .recheck)
      settled.threads.map (·.1) = lock.threads.map (·.1) ∧
      (∀ id access, (id, ⟨access, .notified⟩) ∉ settled.threads) ∧
      (settled.inside .read = [] → settled.inside .write = [] →
        settled.queued .read = [] ∧ settled.queued .write = []) ∧
      (settled.queued .write ≠ [] → settled.inside .write ≠ [] ∨ settled.inside .read ≠ []) ∧
      (settled.queued .read ≠ [] → settled.inside .write ≠ [] ∨ settled.queued .write ≠ []) := by
  intro lock
  have sound : lock.Sound := sound_empty.run steps
  have watchful : lock.Watchful := by
    refine Watchful.run ?_ steps
    exact fun _ _ member => absurd member List.not_mem_nil
  refine ⟨fun id access member => ?_, fun order complete => ?_⟩
  · have closed := watchful id access member
    exact ⟨closed, sound.obstructs closed⟩
  intro settled
  obtain ⟨same, woken⟩ := sound.run_rechecks order
  -- Who is notified in the end was so from the start, has its place in the order, and has looked.
  have rested : ∀ id access, (id, ⟨access, .notified⟩) ∉ settled.threads := by
    intro id access member
    obtain ⟨before, missed⟩ := woken id access member
    exact missed (complete id access before)
  have reason : ∀ access, settled.queued access ≠ [] → settled.Obstructs access := fun access =>
    (watchful.run _).obstructs_of_queued (sound.run _) rested
  refine ⟨same, rested, fun readers writers => ?_, reason .write, reason .read⟩
  -- Without anyone inside the writers have no reason, and without writers the readers have none.
  have writers' : settled.queued .write = [] := by
    by_contra waits
    exact (reason .write waits).elim (· writers) (· readers)
  refine ⟨?_, writers'⟩
  by_contra waits
  exact (reason .read waits).elim (· writers) (· writers')

/-- A writer leaves while a reader and a second writer sleep. The reader looks first, and sleeps on for
the writer, which gets in. -/
theorem no_waiter_stranded_of_second_writer :
    let lock := run ({} : ReadWriteLock Nat)
      [.request 1 .write, .request 2 .read, .request 3 .write, .leave 1]
    let settled := lock.run ([2, 3].map .recheck)
    (∀ id access, (id, ⟨access, .notified⟩) ∈ lock.threads → id ∈ [2, 3]) ∧
      settled.inside .write = [3] ∧ settled.queued .read = [2] ∧
      (settled.inside .write ≠ [] ∨ settled.queued .write ≠ []) := by
  intro lock settled
  have complete : ∀ id access, (id, ⟨access, .notified⟩) ∈ lock.threads → id ∈ [2, 3] := by
    intro id access member
    have threads : lock.threads = [(2, ⟨.read, .notified⟩), (3, ⟨.write, .notified⟩)] := by decide
    rw [threads] at member
    exact List.mem_map_of_mem (f := Prod.fst) member
  have waits : settled.queued .read = [2] := by decide
  obtain ⟨-, settles⟩ := no_waiter_stranded (ι := Nat)
    [.request 1 .write, .request 2 .read, .request 3 .write, .leave 1]
  obtain ⟨-, -, -, -, reads⟩ := settles [2, 3] complete
  exact ⟨complete, by decide, waits, reads (by rw [waits]; decide)⟩

end Netboot.ReadWriteLock
