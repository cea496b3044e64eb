import Netboot.Dispatch

/-! When the filter in front of an application registers a machine.

The names change only with a boot request that the application answers with status 200, and then by
the address that the query announces; the answer is relayed as it was captured.
-/

set_option autoImplicit false

namespace Netboot.Dispatch

variable {σ ε : Type} {config : Config} {menu : Option String} {names : NameStore}
  {captured relayed : Captured} {selection : Selection} {request : Request} {a : V4}

@[simp] theorem capture_answer (status : Int) (headers : List (Bytes × Bytes)) (body : Bytes) :
    capture (answer status headers body) = ⟨status, headers, body⟩ := by
  simp [capture, answer, Captured.add, Captured.none]

/-- What has to come together for the filter to register the address: the application answers a boot
request with status 200, and the query elects the machine and announces the address. -/
structure Registers (run : Run ε) (request : Request) (a : V4) : Prop where
  applies : applies request = true
  completed : run.failure = none
  answered : (capture run.messages).status = 200
  elected : ∃ selection, Selection.ofQuery (request.query.getD []) = .ok selection ∧
    selection.role.elects = true ∧ selection.address = some a

theorem decide_registers (decided : decide captured selection = .relay relayed (some a)) :
    relayed = captured ∧ captured.status = 200 ∧ selection.role.elects = true ∧
      selection.address = some a := by
  unfold decide at decided
  split at decided
  · cases decided
  split at decided
  next both =>
    obtain ⟨found, elects⟩ := (Bool.and_eq_true _ _).mp both
    obtain ⟨rfl, announced⟩ := Decision.relay.inj decided
    exact ⟨rfl, of_decide_eq_true found, elects, announced⟩
  · cases decided

theorem perform_names (config : Config) (menu : Option String) (names : NameStore)
    (decision : Decision) :
    (perform ε config menu names decision).names = names ∨
      ∃ captured a, decision = .relay captured (some a) ∧
        perform ε config menu names decision =
          ⟨.register a :: (answer captured.status captured.headers captured.body).map .send, none,
            (names.registerAddress config.controlplane (.v4 a)).1, some .relay⟩ := by
  cases decision with
  | menu => cases menu <;> exact .inl rfl
  | relay captured address =>
    cases address with
    | none => exact .inl rfl
    | some a => exact .inr ⟨captured, a, rfl, rfl⟩

theorem handle_names (config : Config) (menu : Option String) (app : App σ ε) (state : σ)
    (names : NameStore) (request : Request) :
    (handle config menu app state names request).1.names = names ∨
      ∃ a, Registers (app state request).1 request a ∧
        let captured := capture (app state request).1.messages
        (handle config menu app state names request).1 =
          ⟨.register a :: (answer captured.status captured.headers captured.body).map .send, none,
            (names.registerAddress config.controlplane (.v4 a)).1, some .relay⟩ := by
  simp only [handle]
  cases boots : applies request with
  | false => exact .inl rfl
  | true =>
    cases ended : (app state request).1.failure with
    | some failure => exact .inl rfl
    | none =>
      simp only [Bool.not_true, Bool.false_eq_true, if_false, respond]
      cases read : Selection.ofQuery (request.query.getD []) with
      | error fault =>
        -- An unreadable query counts as one that elects nobody.
        simp only
        split
        · exact .inl rfl
        · obtain same | ⟨relayed, a, decided, -⟩ := perform_names (ε := ε) config menu names
            (decide (capture (app state request).1.messages) {})
          · exact .inl same
          · cases (decide_registers decided).2.2.1
      | ok selection =>
        obtain same | ⟨relayed, a, decided, performed⟩ := perform_names (ε := ε) config menu names
          (decide (capture (app state request).1.messages) selection)
        · exact .inl same
        · obtain ⟨rfl, found, elects, announced⟩ := decide_registers decided
          exact .inr ⟨a, ⟨boots, ended, found, selection, read, elects, announced⟩, performed⟩

theorem handle_of_registers {app : App σ ε} {state : σ} (config : Config) (menu : Option String)
    (names : NameStore) (registers : Registers (app state request).1 request a) :
    let captured := capture (app state request).1.messages
    (handle config menu app state names request).1 =
      ⟨.register a :: (answer captured.status captured.headers captured.body).map .send, none,
        (names.registerAddress config.controlplane (.v4 a)).1, some .relay⟩ := by
  obtain ⟨selection, read, elects, announced⟩ := registers.elected
  have decided : decide (capture (app state request).1.messages) selection =
      .relay (capture (app state request).1.messages) (some a) := by
    simp [decide, registers.answered, elects, announced]
  simp only [handle, registers.applies, registers.completed, respond, read, decided, perform]
  rfl

end Netboot.Dispatch
