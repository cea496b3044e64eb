import Netboot.Bootstrap
import Netboot.Proofs.Text.Fields

/-! Commands in a row, each given only when the one before it has been carried out. -/

set_option autoImplicit false

namespace Netboot

namespace Interface

/-- A command that ended like this counts as carried out. -/
def Outcome.Accepted (outcome : Outcome) : Prop :=
  ∃ code stderr, outcome = .exited code stderr ∧
    (code = 0 ∨ alreadyExists <:+: complaint stderr)

theorem result_eq_ok_iff {command : Command} {outcome : Outcome} :
    command.result outcome = .ok () ↔ outcome.Accepted := by
  cases outcome with
  | missing => exact iff_of_false nofun fun ⟨_, _, same, _⟩ => nomatch same
  | exited code stderr =>
    unfold Command.result
    dsimp only
    split
    next accepted =>
      exact iff_of_true rfl ⟨code, stderr, rfl, accepted.imp_right Text.occurs_iff.mp⟩
    next refused =>
      refine iff_of_false nofun ?_
      rintro ⟨_, _, same, accepted⟩
      obtain ⟨rfl, rfl⟩ := Outcome.exited.inj same
      exact refused (accepted.imp_right Text.occurs_iff.mpr)

theorem result_of_not_accepted (command : Command) {outcome : Outcome}
    (refused : ¬ outcome.Accepted) : ∃ fault, command.result outcome = .error fault := by
  cases judged : command.result outcome with
  | ok => exact absurd (result_eq_ok_iff.mp judged) refused
  | error fault => exact ⟨fault, rfl⟩

end Interface

namespace Bootstrap

open Interface (Command Outcome Link)

variable {α β γ : Type} {outcomes : List Outcome} {negotiation : Negotiation} {trace : Trace}

namespace Plan

theorem bind_assoc (plan : Plan α) (next : α → Plan β) (last : β → Plan γ) :
    plan >>= next >>= last = plan >>= fun value => next value >>= last := by
  induction plan with
  | done | fail => rfl
  | run command rest ih => exact congrArg (Plan.run command) (funext ih)
  | negotiate interface timeout rest ih =>
    exact congrArg (Plan.negotiate interface timeout) (funext ih)

def commands : List Command → Plan Unit
  | [] => pure ()
  | first :: rest => do
    Plan.command first
    commands rest

def outcomeAt (outcomes : List Outcome) (i : Nat) : Outcome := outcomes[i]?.getD .success

def line (command : Command) : List String := "ip" :: command.arguments

/-- The command at this place is the first that is refused. -/
structure FirstRefused (outcomes : List Outcome) (i : Nat) : Prop where
  refused : ¬ (outcomeAt outcomes i).Accepted
  before : ∀ j < i, (outcomeAt outcomes j).Accepted

theorem accepted_or_firstRefused (outcomes : List Outcome) (n : Nat) :
    (∀ i < n, (outcomeAt outcomes i).Accepted) ∨ ∃ i < n, FirstRefused outcomes i := by
  induction n with
  | zero => exact .inl nofun
  | succ n ih =>
    rcases ih with before | ⟨i, inside, first⟩
    · by_cases here : (outcomeAt outcomes n).Accepted
      · exact .inl fun i inside =>
          (Nat.lt_succ_iff_lt_or_eq.mp inside).elim (before i) (· ▸ here)
      · exact .inr ⟨n, Nat.lt_succ_self n, here, before⟩
    · exact .inr ⟨i, Nat.lt_succ_of_lt inside, first⟩

theorem outcomeAt_zero (outcomes : List Outcome) :
    outcomeAt outcomes 0 = outcomes.head?.getD .success := by
  rw [outcomeAt, List.head?_eq_getElem?]

theorem outcomeAt_tail (outcomes : List Outcome) (i : Nat) :
    outcomeAt outcomes.tail i = outcomeAt outcomes (i + 1) := by
  rw [outcomeAt, List.getElem?_tail, outcomeAt]

theorem follow_command {rest : Unit → Plan α} {command : Command}
    (accepted : (outcomeAt outcomes 0).Accepted) :
    (Plan.command command >>= rest).follow outcomes negotiation trace =
      (rest ()).follow outcomes.tail negotiation
        { trace with commands := trace.commands ++ [line command] } := by
  have judged : command.result (outcomeAt outcomes 0) = .ok () :=
    Interface.result_eq_ok_iff.mpr accepted
  rw [outcomeAt_zero] at judged
  change Plan.follow _ _ _ ((ofExcept ((command.result _).mapError .interface)).bind rest) = _
  rw [judged]
  rfl

theorem follow_command_refused {rest : Unit → Plan α} {command : Command}
    (refused : ¬ (outcomeAt outcomes 0).Accepted) :
    let run := (Plan.command command >>= rest).follow outcomes negotiation trace
    run.1.commands = trace.commands ++ [line command] ∧
      ∃ fault, run.2 = .error (.interface fault) := by
  intro run
  obtain ⟨fault, judged⟩ := Interface.result_of_not_accepted command refused
  rw [outcomeAt_zero] at judged
  have followed : run =
      ({ trace with commands := trace.commands ++ [line command] }, .error (.interface fault)) := by
    change Plan.follow _ _ _ ((ofExcept ((command.result _).mapError .interface)).bind rest) = _
    rw [judged]
    rfl
  rw [followed]
  exact ⟨rfl, fault, rfl⟩

theorem follow_commands {rest : Unit → Plan α} {commands : List Command}
    (accepted : ∀ i < commands.length, (outcomeAt outcomes i).Accepted) :
    (Plan.commands commands >>= rest).follow outcomes negotiation trace =
      (rest ()).follow (outcomes.drop commands.length) negotiation
        { trace with commands := trace.commands ++ commands.map line } := by
  induction commands generalizing outcomes trace with
  | nil =>
    rw [List.map_nil, List.append_nil]
    rfl
  | cons first others ih =>
    have later : ∀ i < others.length, (outcomeAt outcomes.tail i).Accepted := fun i inside =>
      outcomeAt_tail outcomes i ▸ accepted (i + 1) (Nat.succ_lt_succ inside)
    rw [Plan.commands, bind_assoc, follow_command (accepted 0 (Nat.zero_lt_succ _)), ih later]
    simp

theorem FirstRefused.tail {i : Nat} (first : FirstRefused outcomes (i + 1)) :
    FirstRefused outcomes.tail i where
  refused := outcomeAt_tail outcomes i ▸ first.refused
  before j lt := outcomeAt_tail outcomes j ▸ first.before (j + 1) (Nat.succ_lt_succ lt)

theorem follow_commands_refused {rest : Unit → Plan α} {commands : List Command} {i : Nat}
    (inside : i < commands.length) (first : FirstRefused outcomes i) :
    let run := (Plan.commands commands >>= rest).follow outcomes negotiation trace
    run.1.commands = trace.commands ++ (commands.take (i + 1)).map line ∧
      ∃ fault, run.2 = .error (.interface fault) := by
  -- Each command before the refused one uses up an outcome, so the place moves down by one.
  induction commands generalizing outcomes trace i with
  | nil => cases inside
  | cons command others ih =>
    rw [Plan.commands, bind_assoc]
    cases i with
    | zero => exact follow_command_refused first.refused
    | succ i =>
      rw [follow_command (first.before 0 (Nat.zero_lt_succ i))]
      refine (ih (Nat.lt_of_succ_lt_succ inside) first.tail).imp_left (·.trans ?_)
      simp

end Plan

end Bootstrap

end Netboot
