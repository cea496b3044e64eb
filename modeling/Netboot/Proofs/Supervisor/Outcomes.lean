import Mathlib.Data.List.Nodup
import Mathlib.Data.List.Perm.Subperm
import Netboot.Supervisor

/-! What becomes of the outcomes that listeners and shutdown calls report.

A listener reports when its thread ends, and a shutdown call reports when it has found neither a queued
nor a delivered outcome, though it may find some by the time it does. The queue has room for all of
them, the service takes the first, and no shutdown call returns before there is one.
-/

set_option autoImplicit false

namespace Netboot.Supervisor

inductive Reporter where
  | listener (index : Nat)
  | shutdown
  deriving DecidableEq, Repr

structure Report where
  reporter : Reporter
  outcome : Outcome
  deriving DecidableEq, Repr

namespace State

variable {state next : State} {move : Step} {report? : Option Report}

def handsIn? (state : State) : Step → Option Report
  | .ends listener ending =>
    if state.ended.contains listener then none
    else state.listeners[listener]?.map fun name =>
      ⟨.listener listener, ⟨name, ending.failure?⟩⟩
  | .finishShutdown =>
    if state.closing = some (.decided true) then some ⟨.shutdown, shutdownOutcome⟩ else none
  | _ => none

def handedIn (state : State) : List Step → List Report
  | [] => []
  | step :: rest => (state.handsIn? step).toList ++ (state.step step).handedIn rest

/-- There is an outcome for the service, or it has one. -/
def HasOutcome (state : State) : Prop := state.queue ≠ [] ∨ state.taken.isSome = true

/-- One for a shutdown call that has decided to report, and has yet to. -/
def promised (state : State) : Nat := if state.closing = some (.decided true) then 1 else 0

/-! ## Steps -/

/-- What holds between the steps. A shutdown call finds the queue empty before it decides to report,
so its outcome is the only one there that is not from a listener. -/
structure Sound (state : State) : Prop where
  once : state.ended.Nodup
  known : ∀ index ∈ state.ended, index < state.listeners.length
  room : state.queue.length + state.promised ≤ state.ended.length + 1
  looked : state.closing = some (.looked true) → state.taken.isSome = true
  declined : state.closing = some (.decided false) → state.HasOutcome
  delivered : state.delivered = true → state.taken.isSome = true
  cancelled : state.cancelled = true → state.delivered = true

/-- What a step can do, with what it hands in. -/
inductive Moves (state : State) : Step → Option Report → State → Prop
  | idle {step : Step} : Moves state step none state
  | ended {listener : Nat} {ending : Ending} {name : String} :
      state.listeners[listener]? = some name → listener ∉ state.ended →
      Moves state (.ends listener ending) (some ⟨.listener listener, ⟨name, ending.failure?⟩⟩)
        { state with
          ended := state.ended ++ [listener]
          queue := state.queue ++ [⟨name, ending.failure?⟩] }
  | began : state.closing = none →
      Moves state .beginShutdown none { state with closing := some (.looked state.delivered) }
  | decided {delivered : Bool} : state.closing = some (.looked delivered) →
      Moves state .decideShutdown none
        { state with closing := some (.decided (!delivered && state.queue.isEmpty)) }
  | shut : state.closing = some (.decided true) →
      Moves state .finishShutdown (some ⟨.shutdown, shutdownOutcome⟩)
        { state with closing := none, queue := state.queue ++ [shutdownOutcome] }
  | declined : state.closing = some (.decided false) →
      Moves state .finishShutdown none { state with closing := none }
  | took {outcome : Outcome} {rest : List Outcome} : state.taken = none →
      state.queue = outcome :: rest →
      Moves state .take none { state with taken := some outcome, queue := rest }
  | delivered : state.taken.isSome = true →
      Moves state .deliver none { state with delivered := true }
  | cancelled : state.delivered = true →
      Moves state .cancel none { state with cancelled := true }

theorem Sound.length_ended (sound : state.Sound) :
    state.ended.length ≤ state.listeners.length := by
  have inside : state.ended ⊆ List.range state.listeners.length := fun index member =>
    List.mem_range.mpr (sound.known index member)
  have fits := (sound.once.subperm inside).length_le
  rwa [List.length_range] at fits

/-- A listener that has not ended leaves room for its own outcome. -/
theorem Sound.length_ended_lt (sound : state.Sound) {index : Nat}
    (inside : index < state.listeners.length) (running : index ∉ state.ended) :
    state.ended.length < state.listeners.length := by
  have larger : (index :: state.ended) ⊆ List.range state.listeners.length := by
    intro other member
    obtain rfl | member := List.mem_cons.mp member
    · exact List.mem_range.mpr inside
    · exact List.mem_range.mpr (sound.known other member)
  have once : (index :: state.ended).Nodup := List.nodup_cons.mpr ⟨running, sound.once⟩
  have fits := (once.subperm larger).length_le
  rwa [List.length_range] at fits

theorem Sound.room_of_handsIn (sound : state.Sound) {report : Report}
    (handed : state.handsIn? move = some report) : state.queue.length < state.capacity := by
  have bound := sound.room
  unfold capacity
  cases move with
  | ends listener ending =>
    simp only [handsIn?] at handed
    split at handed
    · cases handed
    next running =>
      obtain ⟨name, found, -⟩ := Option.map_eq_some_iff.mp handed
      have inside := (List.getElem?_eq_some_iff.mp found).1
      have free := sound.length_ended_lt inside fun member => running (by simpa using member)
      omega
  | finishShutdown =>
    simp only [handsIn?] at handed
    split at handed
    next promised =>
      have ended := sound.length_ended
      simp only [State.promised, promised, if_true] at bound
      omega
    · cases handed
  | beginShutdown | decideShutdown | take | deliver | cancel => cases handed

theorem report_of_room (state : State) (outcome : Outcome)
    (room : state.queue.length < state.capacity) :
    state.report outcome = { state with queue := state.queue ++ [outcome] } := if_pos room

theorem Sound.moves (sound : state.Sound) (step : Step) :
    Moves state step (state.handsIn? step) (state.step step) := by
  -- The full queue that a report could meet is ruled out once, for all steps that hand one in.
  have room := fun report => @room_of_handsIn _ step sound report
  cases step with
  | ends listener ending =>
    simp only [handsIn?, State.step] at room ⊢
    cases found : state.listeners[listener]? with
    | none =>
      rw [Option.map_none, ite_self]
      exact .idle
    | some name =>
      cases running : state.ended.contains listener with
      | true => exact .idle
      | false =>
        simp only [found, running, Bool.false_eq_true, if_false, Option.map_some] at room ⊢
        rw [report_of_room { state with ended := state.ended ++ [listener] } _ (room _ rfl)]
        exact .ended found (by simpa using running)
  | beginShutdown =>
    simp only [handsIn?, State.step]
    cases closing : state.closing with
    | none => exact .began closing
    | some call => exact .idle
  | decideShutdown =>
    simp only [handsIn?, State.step]
    split
    next delivered closing => exact .decided closing
    · exact .idle
  | finishShutdown =>
    simp only [handsIn?, State.step] at room ⊢
    cases closing : state.closing with
    | none => exact .idle
    | some call =>
      cases call with
      | looked delivered => exact .idle
      | decided reports =>
        cases reports with
        | false => exact .declined closing
        | true =>
          rw [closing] at room
          rw [report_of_room { state with closing := none } _ (room _ rfl)]
          exact .shut closing
  | take =>
    simp only [handsIn?, State.step]
    split
    next outcome rest taken queued => exact .took taken queued
    · exact .idle
  | deliver =>
    simp only [handsIn?, State.step]
    split
    next taken => exact .delivered taken
    · exact .idle
  | cancel =>
    simp only [handsIn?, State.step]
    split
    next delivered => exact .cancelled delivered
    · exact .idle

theorem Moves.accounts (moves : Moves state move report? next) :
    next.taken.toList ++ next.queue =
      state.taken.toList ++ state.queue ++ report?.toList.map (·.outcome) := by
  cases moves with
  | ended | shut => exact (List.append_assoc _ _ _).symm
  | took taken queued => simp [taken, queued]
  | idle | began | decided | declined | delivered | cancelled => exact (List.append_nil _).symm

theorem Moves.hasOutcome (moves : Moves state move report? next) (has : state.HasOutcome) :
    next.HasOutcome := by
  cases moves with
  | ended | shut => exact .inl (List.append_ne_nil_of_right_ne_nil _ (List.cons_ne_nil _ _))
  | took => exact .inr rfl
  | idle | began | decided | declined | delivered | cancelled => exact has

theorem Moves.sound (moves : Moves state move report? next) (sound : state.Sound) : next.Sound := by
  have kept := moves.hasOutcome
  have room := sound.room
  cases moves with
  | idle => exact sound
  | @ended listener ending name found running =>
    have inside := (List.getElem?_eq_some_iff.mp found).1
    refine ⟨?_, ?_, ?_, sound.looked, fun closing => kept (sound.declined closing),
      sound.delivered, sound.cancelled⟩
    · exact sound.once.append (List.nodup_singleton _) (by simpa using running)
    · intro index member
      obtain member | same := List.mem_append.mp member
      · exact sound.known index member
      · rw [List.mem_singleton.mp same]
        exact inside
    · simp only [promised, List.length_append, List.length_singleton] at room ⊢
      omega
  | began closing =>
    refine ⟨sound.once, sound.known, ?_, ?_, nofun, sound.delivered, sound.cancelled⟩
    · simp only [promised, closing] at room ⊢
      simpa using room
    · intro looked
      exact sound.delivered (Closing.looked.inj (Option.some.inj looked))
  | @decided delivered closing =>
    refine ⟨sound.once, sound.known, ?_, nofun, ?_, sound.delivered, sound.cancelled⟩
    · simp only [promised, closing] at room ⊢
      split
      next decided =>
        -- The queue is empty where the call decides to report.
        have both := Closing.decided.inj (Option.some.inj decided)
        have empty := List.isEmpty_iff.mp ((Bool.and_eq_true _ _).mp both).2
        simp [empty]
      · simpa using room
    · intro declined
      have refused : (!delivered && state.queue.isEmpty) = false :=
        Closing.decided.inj (Option.some.inj declined)
      cases found : delivered with
      | true => exact .inr (sound.looked (found ▸ closing))
      | false => exact .inl (by simpa [found] using refused)
  | shut closing =>
    refine ⟨sound.once, sound.known, ?_, nofun, nofun, sound.delivered, sound.cancelled⟩
    simpa [promised, closing] using room
  | declined closing =>
    refine ⟨sound.once, sound.known, ?_, nofun, nofun, sound.delivered, sound.cancelled⟩
    simpa [promised, closing] using room
  | took taken queued =>
    refine ⟨sound.once, sound.known, ?_, fun _ => rfl, fun _ => .inr rfl, fun _ => rfl,
      sound.cancelled⟩
    simp only [promised, queued, List.length_cons] at room ⊢
    omega
  | delivered taken =>
    exact ⟨sound.once, sound.known, room, sound.looked, sound.declined, fun _ => taken,
      fun _ => rfl⟩
  | cancelled delivered =>
    exact ⟨sound.once, sound.known, room, sound.looked, sound.declined, sound.delivered,
      fun _ => delivered⟩

theorem Sound.step (sound : state.Sound) (step : Step) : (state.step step).Sound :=
  (sound.moves step).sound sound

@[simp] theorem listeners_report (state : State) (outcome : Outcome) :
    (state.report outcome).listeners = state.listeners := by
  unfold report
  split <;> rfl

@[simp] theorem ended_report (state : State) (outcome : Outcome) :
    (state.report outcome).ended = state.ended := by
  unfold report
  split <;> rfl

theorem listeners_step (state : State) (step : Step) :
    (state.step step).listeners = state.listeners := by
  fun_cases State.step state step <;> simp only [listeners_report]

/-! ## Runs -/

theorem sound_start (listeners : List String) : Sound { listeners } where
  once := List.nodup_nil
  known := nofun
  room := Nat.zero_le _
  looked := nofun
  declined := nofun
  delivered := nofun
  cancelled := nofun

theorem Sound.run (sound : state.Sound) (steps : List Step) : (state.run steps).Sound := by
  induction steps generalizing state with
  | nil => exact sound
  | cons step rest ih => exact ih (sound.step step)

theorem Sound.accounts (sound : state.Sound) (steps : List Step) :
    (state.run steps).taken.toList ++ (state.run steps).queue =
      state.taken.toList ++ state.queue ++ (state.handedIn steps).map (·.outcome) := by
  induction steps generalizing state with
  | nil => exact (List.append_nil _).symm
  | cons step rest ih =>
    rw [handedIn, List.map_append, ← List.append_assoc, ← (sound.moves step).accounts]
    exact ih (sound.step step)

theorem Sound.hasOutcome_run (sound : state.Sound) (has : state.HasOutcome) (steps : List Step) :
    (state.run steps).HasOutcome := by
  induction steps generalizing state with
  | nil => exact has
  | cons step rest ih => exact ih (sound.step step) ((sound.moves step).hasOutcome has)

theorem listeners_run (state : State) (steps : List Step) :
    (state.run steps).listeners = state.listeners := by
  induction steps generalizing state with
  | nil => rfl
  | cons step rest ih => exact (ih (state.step step)).trans (state.listeners_step step)

/-! ## One report from each listener -/

def Step.ending? (index : Nat) : Step → Option Ending
  | .ends listener ending => if listener = index then some ending else none
  | _ => none

/-- How the first of the steps that ends a listener's thread does so. A thread ends once, so there
is nothing to later ones. -/
def ending? (index : Nat) (steps : List Step) : Option Ending := steps.findSome? (Step.ending? index)

theorem filter_handsIn {index : Nat} {name : String} (found : state.listeners[index]? = some name)
    (step : Step) :
    (state.handsIn? step).toList.filter (·.reporter = .listener index) =
      if index ∈ state.ended then []
      else (step.ending? index).toList.map fun ending =>
        ⟨.listener index, ⟨name, ending.failure?⟩⟩ := by
  cases step with
  | ends listener ending =>
    by_cases same : listener = index
    · subst same
      by_cases running : listener ∈ state.ended <;> simp [handsIn?, Step.ending?, found, running]
    · have other : ∀ report ∈ (state.handsIn? (.ends listener ending)).toList,
          report.reporter ≠ .listener index := by
        intro report member
        simp only [handsIn?] at member
        split at member
        · cases member
        · obtain ⟨-, -, rfl⟩ := Option.map_eq_some_iff.mp (Option.mem_toList.mp member)
          exact fun claimed => same (Reporter.listener.inj claimed)
      simpa [Step.ending?, same] using other
  | finishShutdown => by_cases closing : state.closing = some (.decided true) <;>
      simp [handsIn?, Step.ending?, closing]
  | beginShutdown | decideShutdown | take | deliver | cancel => simp [handsIn?, Step.ending?]

theorem mem_ended_step {index : Nat} {name : String} (found : state.listeners[index]? = some name)
    (step : Step) :
    index ∈ (state.step step).ended ↔ index ∈ state.ended ∨ (step.ending? index).isSome = true := by
  cases step with
  | ends listener ending =>
    by_cases same : listener = index
    · subst same
      by_cases running : listener ∈ state.ended <;>
        simp [State.step, Step.ending?, found, running]
    · have other : index ≠ listener := Ne.symm same
      simp only [State.step, Step.ending?, same, if_false, Option.isSome_none, Bool.false_eq_true,
        or_false]
      split
      · split <;> simp [other]
      · rfl
  | beginShutdown | decideShutdown | finishShutdown | take | deliver | cancel =>
    simp only [State.step, Step.ending?, Option.isSome_none, Bool.false_eq_true, or_false]
    split <;> simp

/-- What a listener hands in: nothing any more once it has ended, and before that the outcome of the
step that ends it. -/
theorem filter_handedIn {index : Nat} {name : String} (found : state.listeners[index]? = some name)
    (steps : List Step) :
    (state.handedIn steps).filter (·.reporter = .listener index) =
      if index ∈ state.ended then []
      else (ending? index steps).toList.map fun ending =>
        ⟨.listener index, ⟨name, ending.failure?⟩⟩ := by
  induction steps generalizing state with
  | nil => simp [handedIn, ending?]
  | cons step rest ih =>
    have later := ih ((state.listeners_step step).symm ▸ found)
    rw [handedIn, List.filter_append, filter_handsIn found, later]
    -- Either the step or the rest of the run has the listener's report, since it ends in one of them.
    simp only [mem_ended_step found, ending?, List.findSome?_cons]
    by_cases before : index ∈ state.ended
    · simp [before]
    · cases ends : step.ending? index <;> simp [before]

theorem reporter_handsIn (state : State) (step : Step) {report : Report}
    (handed : state.handsIn? step = some report) :
    report = ⟨.shutdown, shutdownOutcome⟩ ∨
      ∃ index < state.listeners.length, report.reporter = .listener index := by
  unfold handsIn? at handed
  split at handed
  next listener ending =>
    split at handed
    · cases handed
    · obtain ⟨name, found, rfl⟩ := Option.map_eq_some_iff.mp handed
      exact .inr ⟨listener, (List.getElem?_eq_some_iff.mp found).1, rfl⟩
  · split at handed
    · exact .inl (Option.some.inj handed).symm
    · cases handed
  · cases handed

theorem reporter_handedIn (state : State) (steps : List Step) {report : Report}
    (member : report ∈ state.handedIn steps) :
    report = ⟨.shutdown, shutdownOutcome⟩ ∨
      ∃ index < state.listeners.length, report.reporter = .listener index := by
  induction steps generalizing state with
  | nil => cases member
  | cons step rest ih =>
    obtain now | later := List.mem_append.mp member
    · exact state.reporter_handsIn step (Option.mem_toList.mp now)
    · have told := ih (state.step step) later
      rwa [listeners_step] at told

/-! ## The service -/

def served? (state : State) : Option (Except Fault Unit) := state.result?.map Outcome.result

theorem Sound.result (sound : state.Sound) (cancelled : state.cancelled = true) :
    ∃ outcome, state.taken = some outcome ∧ state.served? = some outcome.result := by
  have taken := sound.delivered (sound.cancelled cancelled)
  obtain ⟨outcome, taken⟩ := Option.isSome_iff_exists.mp taken
  exact ⟨outcome, taken, by simp [served?, result?, cancelled, taken]⟩

theorem Sound.hasOutcome_finish (sound : state.Sound) {decision : Bool}
    (closing : state.closing = some (.decided decision)) :
    (state.step .finishShutdown).HasOutcome := by
  have moves := sound.moves .finishShutdown
  cases decision with
  -- A call declines only because there is an outcome already.
  | false =>
    have stays := moves.hasOutcome (sound.declined closing)
    exact stays
  | true =>
    have handed : state.handsIn? .finishShutdown = some ⟨.shutdown, shutdownOutcome⟩ :=
      if_pos closing
    rw [handed] at moves
    generalize state.step .finishShutdown = next at moves
    cases moves with
    | shut => exact .inl (List.append_ne_nil_of_right_ne_nil _ (List.cons_ne_nil _ _))

/-- Whatever the order of the steps, the queue has room for each outcome that is handed in: one from
every listener that ends, which tells how it ended, and those of shutdown calls. They are queued in
this order, the service takes the first and ends cleanly or with the failure in it, and from the end
of any shutdown call on there is an outcome. -/
theorem first_report_served (listeners : List String) (steps : List Step) :
    let start : State := { listeners }
    let state := start.run steps
    let reports := start.handedIn steps
    state.queue.length ≤ listeners.length + 1 ∧
    (∀ step report, state.handsIn? step = some report →
      state.queue.length < listeners.length + 1) ∧
    state.taken.toList ++ state.queue = reports.map (·.outcome) ∧
    (∀ index name, listeners[index]? = some name →
      reports.filter (·.reporter = .listener index) =
        (ending? index steps).toList.map fun ending =>
          ⟨.listener index, ⟨name, ending.failure?⟩⟩) ∧
    (∀ report ∈ reports, report = ⟨.shutdown, shutdownOutcome⟩ ∨
      ∃ index < listeners.length, report.reporter = .listener index) ∧
    (state.cancelled = true → ∃ first rest, reports = first :: rest ∧
      state.queue = rest.map (·.outcome) ∧
      (state.served? = some (.ok ()) ↔ first.outcome.failure = none) ∧
      ∀ failure, first.outcome.failure = some failure ↔
        state.served? = some (.error (.listener first.outcome.source failure))) ∧
    ∀ decision later, state.closing = some (.decided decision) →
      ((state.step .finishShutdown).run later).HasOutcome := by
  intro start state reports
  have begun : start.Sound := sound_start listeners
  have sound : state.Sound := begun.run steps
  have same : state.listeners = listeners := listeners_run start steps
  have accounts : state.taken.toList ++ state.queue = reports.map (·.outcome) := begun.accounts steps
  refine ⟨?_, ?_, accounts, ?_, ?_, ?_, ?_⟩
  · have room := sound.room
    have ended := sound.length_ended
    rw [same] at ended
    omega
  · intro step report handed
    have room := sound.room_of_handsIn handed
    rwa [capacity, same] at room
  · intro index name found
    have known : start.listeners[index]? = some name := found
    exact filter_handedIn known steps
  · intro report member
    exact start.reporter_handedIn steps member
  · intro cancelled
    obtain ⟨outcome, taken, served⟩ := sound.result cancelled
    -- The account starts with what was taken, so that is the first report.
    rw [taken, Option.toList_some, List.singleton_append] at accounts
    obtain ⟨first, rest, split, rfl, queued⟩ := List.map_eq_cons_iff.mp accounts.symm
    refine ⟨first, rest, split, queued.symm, ?_, fun failure => ?_⟩
    all_goals
      rw [served, Outcome.result]
      cases first.outcome.failure <;> simp
  · intro decision later closing
    exact (sound.step _).hasOutcome_run (sound.hasOutcome_finish closing) later

def exited : Failure := ⟨"SystemExit", "3", false⟩

/-- A shutdown call has decided to report when a listener exits, so it reports second. -/
def lateShutdown : List Step :=
  [.beginShutdown, .decideShutdown, .ends 1 (.failed exited), .finishShutdown, .take,
    .ends 0 .cancelled, .deliver, .cancel]

/-- The service fails with the listener though it was shut down, and the queue keeps the outcomes of
the shutdown call and of the listener that was cancelled. -/
theorem first_report_served_of_late_shutdown :
    let state := run { listeners := ["http", "dns"] } lateShutdown
    state.cancelled = true ∧
      state.served? = some (.error (.listener "dns" exited)) ∧
      state.queue = [shutdownOutcome, ⟨"http", none⟩] := by
  intro state
  have cancelled : state.cancelled = true := rfl
  have handed : handedIn { listeners := ["http", "dns"] } lateShutdown =
      [⟨.listener 1, ⟨"dns", some exited⟩⟩, ⟨.shutdown, shutdownOutcome⟩,
        ⟨.listener 0, ⟨"http", none⟩⟩] := by
    decide
  obtain ⟨-, -, -, -, -, ends, -⟩ := first_report_served ["http", "dns"] lateShutdown
  obtain ⟨first, rest, split, queued, -, fails⟩ := ends cancelled
  rw [handed] at split
  obtain ⟨rfl, rfl⟩ := List.cons.inj split
  exact ⟨cancelled, (fails exited).mp rfl, queued⟩

end State

end Netboot.Supervisor
