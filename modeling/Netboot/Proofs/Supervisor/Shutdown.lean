import Mathlib.Data.List.Infix
import Netboot.Proofs.Supervisor.Outcomes

/-! How often a shutdown is reported.

A shutdown call reports if it finds no delivered outcome and an empty queue, and in between another
report may come and the service may take it. As long as the service takes nothing, one call reports at
most: its outcome stays in the queue, where the next call finds it. The take empties the queue before
the outcome is marked as delivered, so a second call may report after it.
-/

set_option autoImplicit false

namespace Netboot.Supervisor.State

variable {state next : State} {move : Step} {report : Report} {report? : Option Report}

def shutdowns (reports : List Report) : Nat := reports.countP (·.outcome = shutdownOutcome)

/-- One report of a shutdown at most, and none once the service has its outcome. -/
structure ShutDownOnce (state : State) (steps : List Step) : Prop where
  once : shutdowns (state.handedIn steps) ≤ 1
  early : ∀ before later, steps = before ++ later → (state.run before).taken.isSome = true →
    shutdowns ((state.run before).handedIn later) = 0

theorem run_append (state : State) (before later : List Step) :
    state.run (before ++ later) = (state.run before).run later := List.foldl_append

theorem handedIn_append (state : State) (before later : List Step) :
    state.handedIn (before ++ later) =
      state.handedIn before ++ (state.run before).handedIn later := by
  induction before generalizing state with
  | nil => rfl
  | cons step rest ih =>
    rw [List.cons_append, handedIn, ih, handedIn, List.append_assoc]
    rfl

theorem handedIn_singleton (state : State) (step : Step) :
    state.handedIn [step] = (state.handsIn? step).toList := List.append_nil _

theorem shutdowns_append (reports others : List Report) :
    shutdowns (reports ++ others) = shutdowns reports + shutdowns others := List.countP_append

theorem mem_handedIn {steps : List Step} (member : report ∈ state.handedIn steps) :
    ∃ before step later, steps = before ++ step :: later ∧
      (state.run before).handsIn? step = some report := by
  induction steps generalizing state with
  | nil => cases member
  | cons step rest ih =>
    obtain now | after := List.mem_append.mp member
    · exact ⟨[], step, rest, rfl, Option.mem_toList.mp now⟩
    · obtain ⟨before, found, later, rfl, handed⟩ := ih after
      exact ⟨step :: before, found, later, rfl, handed⟩

/-! ## Who tells of a shutdown -/

theorem handsIn_shutdown (named : shutdownOutcome.source ∉ state.listeners)
    (handed : state.handsIn? move = some report) (tells : report.outcome = shutdownOutcome) :
    move = .finishShutdown ∧ state.closing = some (.decided true) := by
  unfold handsIn? at handed
  split at handed
  next listener ending =>
    split at handed
    · cases handed
    · obtain ⟨name, found, rfl⟩ := Option.map_eq_some_iff.mp handed
      have known := List.mem_of_getElem? found
      rw [← tells] at named
      exact absurd known named
  next =>
    split at handed
    next decided => exact ⟨rfl, decided⟩
    · cases handed
  · cases handed

theorem Moves.taken_or (moves : Moves state move report? next) :
    next.taken = state.taken ∨ move = .take ∧ state.taken = none := by
  cases moves with
  | took free => exact .inr ⟨rfl, free⟩
  | idle | ended | began | decided | shut | declined | delivered | cancelled => exact .inl rfl

theorem taken_step {outcome : Outcome} (sound : state.Sound) (taken : state.taken = some outcome)
    (step : Step) : (state.step step).taken = some outcome := by
  obtain same | ⟨-, free⟩ := (sound.moves step).taken_or
  · exact same.trans taken
  · cases free.symm.trans taken

theorem taken_run {outcome : Outcome} (sound : state.Sound) (taken : state.taken = some outcome)
    (steps : List Step) : (state.run steps).taken = some outcome := by
  induction steps generalizing state with
  | nil => exact taken
  | cons step rest ih => exact ih (sound.step step) (taken_step sound taken step)

theorem taken_of_run (sound : state.Sound) {before later : List Step}
    (same : (state.run (before ++ later)).taken = state.taken) :
    (state.run before).taken = state.taken := by
  rw [run_append] at same
  cases taken : (state.run before).taken with
  | none =>
    cases had : state.taken with
    | none => rfl
    | some outcome => exact taken.symm.trans (taken_run sound had before)
  | some outcome =>
    exact (taken_run (sound.run before) taken later).symm.trans same

/-- What is handed in stays in the queue until the service takes it. -/
theorem handedIn_of_queue_nil (sound : state.Sound) {steps : List Step}
    (same : (state.run steps).taken = state.taken) (empty : (state.run steps).queue = []) :
    state.handedIn steps = [] := by
  have accounts := sound.accounts steps
  rw [same, empty, List.append_nil, List.append_assoc] at accounts
  have nothing := List.self_eq_append_right.mp accounts
  exact List.map_eq_nil_iff.mp (List.append_eq_nil_iff.mp nothing).2

theorem promised_le_one (state : State) : state.promised ≤ 1 := by
  unfold promised
  split
  · exact Nat.le_refl 1
  · exact Nat.zero_le 1

theorem Moves.shutdowns (moves : Moves state move report? next)
    (named : shutdownOutcome.source ∉ state.listeners) (same : next.taken = state.taken) :
    State.shutdowns report?.toList + next.promised ≤ state.promised ∨
      State.shutdowns report?.toList = 0 ∧ state.queue = [] := by
  cases moves with
  | idle | delivered | cancelled => exact .inl (Nat.zero_add _).le
  | @ended listener ending name found running =>
    left
    have other : name ≠ shutdownOutcome.source := fun clash =>
      named (clash ▸ List.mem_of_getElem? found)
    have none : State.shutdowns [⟨.listener listener, ⟨name, ending.failure?⟩⟩] = 0 := by
      simp [State.shutdowns, shutdownOutcome] at other ⊢
      exact fun clash => absurd clash other
    exact (congrArg (· + state.promised) none).trans_le (Nat.zero_add _).le
  | began => exact .inl (Nat.zero_le _)
  | @decided delivered closing =>
    -- Only on an empty queue does the call promise a report.
    cases empty : state.queue with
    | nil => exact .inr ⟨rfl, rfl⟩
    | cons outcome rest =>
      left
      have refused : (!delivered && state.queue.isEmpty) = false := by simp [empty]
      simp [promised, State.shutdowns]
  | shut closing =>
    left
    simp [State.shutdowns, promised, closing]
  | declined => exact .inl (Nat.zero_le _)
  | took free => cases same.trans free

theorem shutdowns_of_taken_eq (sound : state.Sound)
    (named : shutdownOutcome.source ∉ state.listeners) (steps : List Step)
    (same : (state.run steps).taken = state.taken) :
    shutdowns (state.handedIn steps) + (state.run steps).promised ≤ 1 := by
  induction steps using List.reverseRecOn with
  | nil => exact (Nat.zero_add _).trans_le state.promised_le_one
  | append_singleton before step ih =>
    have earlier := taken_of_run sound same
    have bound := ih earlier
    have moves := (sound.run before).moves step
    have unnamed : shutdownOutcome.source ∉ (state.run before).listeners := by
      rwa [listeners_run]
    rw [run_append] at same ⊢
    rw [handedIn_append, shutdowns_append, handedIn_singleton]
    obtain fewer | ⟨none, empty⟩ := moves.shutdowns unnamed (same.trans earlier.symm)
    · change _ + _ + promised (State.step _ step) ≤ 1
      omega
    · -- The queue holds all that was handed in so far.
      rw [handedIn_of_queue_nil sound earlier empty, none]
      exact (Nat.zero_add _).trans_le (promised_le_one _)

/-! ## The take -/

theorem exists_take (sound : state.Sound) (free : state.taken = none) {steps : List Step}
    (taken : (state.run steps).taken.isSome = true) :
    ∃ before later, steps = before ++ .take :: later ∧ (state.run before).taken = none ∧
      (state.run (before ++ [.take])).taken.isSome = true := by
  induction steps generalizing state with
  | nil => exact absurd taken (by simp [run, free])
  | cons step rest ih =>
    cases took : (state.step step).taken with
    | none =>
      obtain ⟨before, later, rfl, without, has⟩ := ih (sound.step step) took taken
      exact ⟨step :: before, later, rfl, without, has⟩
    | some outcome =>
      obtain same | ⟨rfl, -⟩ := (sound.moves step).taken_or
      · cases took.symm.trans (same.trans free)
      · exact ⟨[], rest, rfl, free, Option.isSome_of_eq_some took⟩

/-! ## Calls that report late -/

/-- A run is in order exactly if every call that reports does so before the service takes its outcome. -/
theorem shutDownOnce_iff (sound : state.Sound) (free : state.taken = none)
    (named : shutdownOutcome.source ∉ state.listeners) (steps : List Step) :
    state.ShutDownOnce steps ↔ ∀ before, before ++ [.finishShutdown] <+: steps →
      (state.run before).closing = some (.decided true) → (state.run before).taken = none := by
  constructor
  · rintro ⟨-, early⟩ before ⟨later, rfl⟩ closing
    by_contra taken
    have none := early before (.finishShutdown :: later) (by simp)
      (Option.isSome_iff_ne_none.mpr taken)
    simp [handedIn, handsIn?, closing, shutdowns] at none
  · intro inTime
    have early : ∀ before later, steps = before ++ later →
        (state.run before).taken.isSome = true →
        shutdowns ((state.run before).handedIn later) = 0 := by
      rintro before later rfl taken
      apply List.countP_eq_zero.mpr
      intro report member tells
      obtain ⟨middle, step, rest, rfl, handed⟩ := mem_handedIn member
      have unnamed : shutdownOutcome.source ∉ ((state.run before).run middle).listeners := by
        rwa [listeners_run, listeners_run]
      obtain ⟨rfl, closing⟩ := handsIn_shutdown unnamed handed (of_decide_eq_true tells)
      rw [← run_append] at closing
      have still := inTime (before ++ middle) ⟨rest, by simp⟩ closing
      obtain ⟨outcome, has⟩ := Option.isSome_iff_exists.mp taken
      rw [run_append] at still
      cases still.symm.trans (taken_run (sound.run before) has middle)
    refine ⟨?_, early⟩
    -- One report at most before the take, and none after it.
    cases taken : (state.run steps).taken with
    | none =>
      have bound := shutdowns_of_taken_eq sound named steps (taken.trans free.symm)
      omega
    | some outcome =>
      obtain ⟨before, later, rfl, without, has⟩ :=
        exists_take sound free (Option.isSome_of_eq_some taken)
      have bound := shutdowns_of_taken_eq sound named before (without.trans free.symm)
      have none := early (before ++ [.take]) later (by simp) has
      rw [List.append_cons, handedIn_append, shutdowns_append, none, handedIn_append,
        shutdowns_append]
      have silent : shutdowns ((state.run before).handedIn [.take]) = 0 := rfl
      omega

/-- A call that has missed the mark, and may yet report. -/
def Misses (state : State) : Prop :=
  state.closing = some (.looked false) ∨ state.closing = some (.decided true)

theorem Moves.not_misses (moves : Moves state move report? next) (marked : state.delivered = true)
    (seen : ¬ state.Misses) : ¬ next.Misses := by
  rintro (looked | decided)
  · cases moves with
    | began => exact absurd (marked.symm.trans (Closing.looked.inj (Option.some.inj looked))) nofun
    | idle | ended | took | delivered | cancelled => exact seen (.inl looked)
    | decided | shut | declined => cases looked
  · cases moves with
    | @decided delivered closing =>
      cases delivered with
      | false => exact seen (.inl closing)
      | true => cases decided
    | idle | ended | took | delivered | cancelled => exact seen (.inr decided)
    | began | shut | declined => cases decided

theorem Moves.closing_of_marks (moves : Moves state move report? next)
    (marks : next.delivered = true) (unmarked : state.delivered = false) :
    next.closing = state.closing ∧ state.taken.isSome = true := by
  cases moves with
  | delivered taken => exact ⟨rfl, taken⟩
  | idle | ended | began | decided | shut | declined | took | cancelled =>
    exact absurd (marks.symm.trans unmarked) nofun

/-- If no call is under way between the take and the mark, none reports late. -/
theorem not_misses_of_quiet (sound : state.Sound) (free : state.taken = none) {steps : List Step}
    (quiet : ∀ before, before <+: steps → (state.run before).taken.isSome = true →
      (state.run before).delivered = false → (state.run before).closing = none)
    (taken : (state.run steps).taken.isSome = true) : ¬ (state.run steps).Misses := by
  induction steps using List.reverseRecOn with
  | nil => exact absurd taken (by simp [run, free])
  | append_singleton before step ih =>
    have within := sound.run before
    cases marked : (state.run (before ++ [step])).delivered with
    | false =>
      have idle := quiet _ (List.prefix_refl _) taken marked
      rintro (looked | decided)
      · exact absurd (looked.symm.trans idle) nofun
      · exact absurd (decided.symm.trans idle) nofun
    | true =>
      rw [run_append] at marked ⊢
      cases already : (state.run before).delivered with
      | false =>
        -- This step marks the outcome, and no call is under way.
        obtain ⟨same, has⟩ := (within.moves step).closing_of_marks marked already
        have idle := quiet before (List.prefix_append _ _) has already
        rintro (looked | decided)
        · exact absurd (looked.symm.trans (same.trans idle)) nofun
        · exact absurd (decided.symm.trans (same.trans idle)) nofun
      | true =>
        have seen := ih (fun early isPrefix => quiet early (isPrefix.trans (List.prefix_append _ _)))
          (within.delivered already)
        exact (within.moves step).not_misses already seen

/-- Whatever the order of the steps, where no listener goes by the name of a shutdown: all that is
handed in is queued, one shutdown at most is reported before the service takes its outcome, and one at
most after. No shutdown is reported twice or late exactly if every call that reports does so before the
take; it is enough that no call is under way between the take and the mark. -/
theorem shutdown_reported_once_iff (listeners : List String)
    (named : shutdownOutcome.source ∉ listeners) (steps : List Step) :
    let start : State := { listeners }
    (start.run steps).taken.toList ++ (start.run steps).queue =
        (start.handedIn steps).map (·.outcome) ∧
      (∀ before later, steps = before ++ later →
        ((start.run before).taken = none → shutdowns (start.handedIn before) ≤ 1) ∧
        ((start.run before).taken.isSome = true →
          shutdowns ((start.run before).handedIn later) ≤ 1)) ∧
      (start.ShutDownOnce steps ↔ ∀ before, before ++ [.finishShutdown] <+: steps →
        (start.run before).closing = some (.decided true) → (start.run before).taken = none) ∧
      ((∀ before, before <+: steps → (start.run before).taken.isSome = true →
        (start.run before).delivered = false → (start.run before).closing = none) →
          start.ShutDownOnce steps) := by
  intro start
  have sound : start.Sound := sound_start listeners
  have exactly := shutDownOnce_iff sound rfl named steps
  refine ⟨sound.accounts steps, ?_, exactly, ?_⟩
  · rintro before later rfl
    constructor
    · intro without
      have bound := shutdowns_of_taken_eq sound named before without
      omega
    · intro taken
      obtain ⟨outcome, has⟩ := Option.isSome_iff_exists.mp taken
      have unnamed : shutdownOutcome.source ∉ (start.run before).listeners := by
        rwa [listeners_run]
      -- What is taken stays, so the bound for a stretch in which nothing is taken applies.
      have still := taken_run (sound.run before) has later
      have bound := shutdowns_of_taken_eq (sound.run before) unnamed later (still.trans has.symm)
      omega
  · intro quiet
    apply exactly.mpr
    intro before reports closing
    by_contra taken
    have within := (List.prefix_append _ _).trans reports
    exact not_misses_of_quiet sound rfl (fun early isPrefix => quiet early (isPrefix.trans within))
      (Option.isSome_iff_ne_none.mpr taken) (.inr closing)

def shutdownCall : List Step := [.beginShutdown, .decideShutdown, .finishShutdown]

/-- A second call after the mark does not report. -/
theorem shutdown_reported_once_iff_of_second_call :
    ShutDownOnce { listeners := ["http"] } (shutdownCall ++ [.take, .deliver] ++ shutdownCall) := by
  obtain ⟨-, -, -, once⟩ := shutdown_reported_once_iff ["http"] (by decide)
    (shutdownCall ++ [.take, .deliver] ++ shutdownCall)
  apply once
  intro before isPrefix
  have listed := (List.mem_inits _ _).mpr isPrefix
  clear isPrefix
  revert before
  decide

/-- A second call before the mark does report, and so does a listener that goes by the name. -/
theorem shutdown_reported_twice :
    ¬ ShutDownOnce { listeners := ["http"] } (shutdownCall ++ [.take] ++ shutdownCall ++ [.deliver]) ∧
    ¬ ShutDownOnce { listeners := ["shutdown"] }
      (shutdownCall ++ [.take, .deliver, .cancel, .ends 0 .cancelled]) := by
  constructor
  · intro inOrder
    exact absurd inOrder.once (by decide)
  · intro inOrder
    exact absurd inOrder.once (by decide)

end Netboot.Supervisor.State
