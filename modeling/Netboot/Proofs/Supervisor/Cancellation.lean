import Mathlib.Data.List.Count
import Netboot.Supervisor.Thread

/-! No cancellation gets lost.

The thread tells of itself before it reads the flag, and the canceller sets the flag before it looks for
the thread. So when the canceller finds no loop or no task, the thread has yet to read the flag, and will
find it set.
-/

set_option autoImplicit false

namespace Netboot.Supervisor

def Progress.begun : Progress → Bool
  | .serving => true
  | .ended served | .closed served => served
  | .fresh | .loopKnown | .taskKnown | .flagRead _ => false

/-- Whether the flag was read, and found unset. -/
def Progress.passed : Progress → Bool
  | .flagRead set => !set
  | .serving => true
  | .ended served | .closed served => served
  | .fresh | .loopKnown | .taskKnown => false

theorem Progress.passed_next (progress : Progress) :
    (progress.next true).passed = progress.passed := by
  cases progress with
  | flagRead set => cases set <;> rfl
  | fresh | loopKnown | taskKnown | serving | ended | closed => rfl

theorem Progress.begun_next {progress : Progress} (begun : progress.begun = true) (flag : Bool) :
    (progress.next flag).begun = true := by
  cases progress with
  | fresh | loopKnown | taskKnown | flagRead => cases begun
  | serving => rfl
  | ended | closed => exact begun

theorem Progress.passed_of_begun {progress : Progress} (begun : progress.begun = true) :
    progress.passed = true := by
  cases progress with
  | fresh | loopKnown | taskKnown | flagRead set => cases begun
  | serving => rfl
  | ended served | closed served => exact begun

def Cancelling.stage : Cancelling → Nat
  | .idle => 0
  | .flagged => 1
  | .lookedForLoop _ => 2
  | .lookedForTask _ => 3
  | .returned => 4

namespace Thread

variable {thread : Thread}

theorem progress_cancelNext (thread : Thread) : thread.cancelNext.progress = thread.progress := by
  unfold cancelNext
  split <;> rfl

theorem flag_cancelNext (set : thread.flag = true) : thread.cancelNext.flag = true := by
  unfold cancelNext
  split
  next => rfl
  all_goals exact set

/-! ## A thread that will not serve -/

/-- The flag is set, and the thread did not find it unset before. -/
structure Stopped (thread : Thread) : Prop where
  flag : thread.flag = true
  passed : thread.progress.passed = false

theorem Stopped.step (stopped : thread.Stopped) (actor : Actor) : (thread.step actor).Stopped := by
  cases actor with
  | thread =>
    constructor
    · exact stopped.flag
    · rw [Thread.step, advance, stopped.flag, Progress.passed_next]
      exact stopped.passed
  | canceller =>
    constructor
    · exact flag_cancelNext stopped.flag
    · exact (congrArg Progress.passed (progress_cancelNext thread)).trans stopped.passed

theorem Stopped.run (stopped : thread.Stopped) (actors : List Actor) :
    (thread.run actors).Stopped := by
  induction actors generalizing thread with
  | nil => exact stopped
  | cons actor rest ih => exact ih (stopped.step actor)

theorem Stopped.not_begun (stopped : thread.Stopped) : thread.progress.begun = false := by
  apply Bool.eq_false_iff.mpr
  intro begun
  exact absurd (stopped.passed.symm.trans (Progress.passed_of_begun begun)) nofun

theorem stopped_of_not_hasLoop (set : thread.flag = true) (missing : thread.hasLoop = false) :
    thread.Stopped := by
  have fresh : thread.progress = .fresh := by simpa [hasLoop] using missing
  exact ⟨set, by rw [fresh, Progress.passed]⟩

theorem stopped_of_not_hasTask (set : thread.flag = true) (missing : thread.hasTask = false) :
    thread.Stopped := by
  refine ⟨set, ?_⟩
  unfold hasTask at missing
  split at missing
  next fresh => rw [fresh, Progress.passed]
  next known => rw [known, Progress.passed]
  next => cases missing

theorem stopped_or_served (set : thread.flag = true) (closed : thread.isClosed = true) :
    thread.Stopped ∨ thread.progress = .closed true := by
  unfold isClosed at closed
  split at closed
  next served ended =>
    cases served with
    | false => exact .inl ⟨set, by rw [ended, Progress.passed]⟩
    | true => exact .inr ended
  next => cases closed

/-! ## The canceller -/

/-- What holds after each step of the canceller, wherever the thread is by then. -/
structure Sound (thread : Thread) : Prop where
  flag : thread.cancelling ≠ .idle → thread.flag = true
  noLoop : thread.cancelling = .lookedForLoop false → thread.Stopped
  noTask : thread.cancelling = .lookedForTask false → thread.Stopped
  returned : thread.cancelling = .returned →
    thread.Stopped ∨ thread.scheduled = true ∨ thread.progress = .closed true

theorem sound_fresh : Sound {} where
  flag := fun called => absurd rfl called
  noLoop := nofun
  noTask := nofun
  returned := nofun

theorem Sound.advance (sound : thread.Sound) : thread.advance.Sound := by
  have keeps (stopped : thread.Stopped) : thread.advance.Stopped := stopped.step .thread
  constructor
  · exact sound.flag
  · intro stands
    exact keeps (sound.noLoop stands)
  · intro stands
    exact keeps (sound.noTask stands)
  · intro stands
    obtain stopped | scheduled | closed := sound.returned stands
    · exact .inl (keeps stopped)
    · exact .inr (.inl scheduled)
    · exact .inr (.inr (congrArg (Progress.next thread.flag) closed))

theorem Sound.cancelNext (sound : thread.Sound) : thread.cancelNext.Sound := by
  unfold Thread.cancelNext
  split
  next => exact ⟨fun _ => rfl, nofun, nofun, nofun⟩
  next stands =>
    have set : thread.flag = true := sound.flag (by simp [stands])
    refine ⟨fun _ => set, ?_, nofun, nofun⟩
    intro looked
    -- A thread that has no loop yet is still to read the flag.
    have stopped := stopped_of_not_hasLoop set (Cancelling.lookedForLoop.inj looked)
    exact ⟨stopped.flag, stopped.passed⟩
  next found stands =>
    have set : thread.flag = true := sound.flag (by simp [stands])
    refine ⟨fun _ => set, nofun, ?_, nofun⟩
    intro looked
    have stopped : thread.Stopped := by
      cases found with
      | false => exact sound.noLoop stands
      | true => exact stopped_of_not_hasTask set (Cancelling.lookedForTask.inj looked)
    exact ⟨stopped.flag, stopped.passed⟩
  next found stands =>
    have set : thread.flag = true := sound.flag (by simp [stands])
    refine ⟨fun _ => set, nofun, nofun, fun _ => ?_⟩
    cases found with
    | false =>
      have stopped := sound.noTask stands
      exact .inl ⟨stopped.flag, stopped.passed⟩
    | true =>
      -- On a closed loop nothing is scheduled, and nothing needs to be.
      cases closed : thread.isClosed with
      | false => exact .inr (.inl (by simp))
      | true =>
        obtain stopped | served := stopped_or_served set closed
        · exact .inl ⟨stopped.flag, stopped.passed⟩
        · exact .inr (.inr served)
  next => exact sound

theorem Sound.run (sound : thread.Sound) (actors : List Actor) : (thread.run actors).Sound := by
  induction actors generalizing thread with
  | nil => exact sound
  | cons actor rest ih =>
    cases actor with
    | thread => exact ih sound.advance
    | canceller => exact ih sound.cancelNext

theorem stage_cancelNext (thread : Thread) :
    thread.cancelNext.cancelling.stage = min 4 (thread.cancelling.stage + 1) := by
  unfold cancelNext
  split
  all_goals
    next stands => rw [stands]; rfl

theorem stage_run (thread : Thread) (actors : List Actor) (bound : thread.cancelling.stage ≤ 4) :
    (thread.run actors).cancelling.stage =
      min 4 (thread.cancelling.stage + actors.count .canceller) := by
  induction actors generalizing thread with
  | nil => exact (Nat.min_eq_right bound).symm
  | cons actor rest ih =>
    cases actor with
    | thread =>
      rw [List.count_cons_of_ne (show Actor.thread ≠ .canceller from nofun)]
      exact ih thread.advance bound
    | canceller =>
      have next := stage_cancelNext thread
      have later := ih thread.cancelNext (by omega)
      rw [next] at later
      rw [List.count_cons_self]
      exact later.trans (by omega)

theorem returned_of_stage (all : thread.cancelling.stage = 4) : thread.cancelling = .returned := by
  cases stands : thread.cancelling with
  | returned => rfl
  | idle | flagged | lookedForLoop | lookedForTask =>
    rw [stands] at all
    cases all

/-! ## A thread that serves -/

theorem begun_run (begun : thread.progress.begun = true) (actors : List Actor) :
    (thread.run actors).progress.begun = true := by
  induction actors generalizing thread with
  | nil => exact begun
  | cons actor rest ih =>
    cases actor with
    | thread => exact ih (Progress.begun_next begun thread.flag)
    | canceller => exact ih ((congrArg Progress.begun (progress_cancelNext thread)).trans begun)

theorem run_append (thread : Thread) (actors later : List Actor) :
    thread.run (actors ++ later) = (thread.run actors).run later := List.foldl_append

/-- However the steps of the two fall, the canceller is through after four of its own. By then the
listener's loop has not begun and never will, or a cancellation is scheduled, or the loop had been over.
So no loop that runs at any time is missed once the canceller is through. -/
theorem cancellation_reaches (actors : List Actor) :
    let thread := run {} actors
    (4 ≤ actors.count .canceller → thread.cancelling = .returned) ∧
    (thread.cancelling = .returned →
      (∀ later, (thread.run later).progress.begun = false) ∨ thread.scheduled = true ∨
        thread.progress = .closed true) ∧
    (thread.progress = .serving → ∀ later, 4 ≤ later.count .canceller →
      (thread.run later).scheduled = true ∨ (thread.run later).progress = .closed true) := by
  have returns : ∀ made : List Actor, 4 ≤ made.count .canceller →
      (run {} made).cancelling = .returned := by
    intro made all
    apply returned_of_stage
    rw [stage_run {} made (by decide)]
    exact Nat.min_eq_left (by omega)
  intro thread
  refine ⟨returns actors, fun returned => ?_, fun serving later all => ?_⟩
  · obtain stopped | reached := (sound_fresh.run actors).returned returned
    · exact .inl fun later => (stopped.run later).not_begun
    · exact .inr reached
  · have begun : (thread.run later).progress.begun = true :=
      begun_run (by rw [serving, Progress.begun]) later
    have through : (thread.run later).cancelling = .returned := by
      rw [← run_append]
      exact returns _ (by rw [List.count_append]; omega)
    obtain stopped | reached := ((sound_fresh.run actors).run later).returned through
    · exact absurd (stopped.not_begun.symm.trans begun) nofun
    · exact reached

/-- A flag that is set just too late, and a look for the loop that comes too early. -/
theorem cancellation_reaches_of_races :
    let late := run {} [.thread, .thread, .thread, .canceller, .thread]
    let early := run {} [.canceller, .canceller, .thread, .thread, .canceller, .canceller]
    late.progress = .serving ∧ (late.run (List.replicate 4 .canceller)).scheduled = true ∧
      early.cancelling = .returned ∧ ∀ later, (early.run later).progress.begun = false := by
  intro late early
  have serving : late.progress = .serving := by decide
  have returned : early.cancelling = .returned := by decide
  refine ⟨serving, ?_, returned, ?_⟩
  · obtain ⟨-, -, missed⟩ := cancellation_reaches [.thread, .thread, .thread, .canceller, .thread]
    obtain scheduled | ended := missed serving (List.replicate 4 .canceller) (by decide)
    · exact scheduled
    · exact absurd ended (by decide)
  · obtain ⟨-, through, -⟩ := cancellation_reaches
      [.canceller, .canceller, .thread, .thread, .canceller, .canceller]
    obtain never | scheduled | ended := through returned
    · exact never
    · exact absurd scheduled (by decide)
    · exact absurd ended (by decide)

end Thread

end Netboot.Supervisor
