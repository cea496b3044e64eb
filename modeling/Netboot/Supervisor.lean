import Netboot.Failure

/-! Supervision of listeners: they are bound one after the other, each runs in a thread of its own,
and the first outcome that any of them reports ends the service.

The queue of outcomes has room for one of every listener and one of a shutdown. -/

set_option autoImplicit false

namespace Netboot.Supervisor

inductive BindFault where
  | refused (listener : String) (failure : Failure)
  | broke (failure : Failure)
  deriving DecidableEq, Repr

structure Handle (α : Type) where
  name : α → String
  bind : α → α × Option Failure
  close : α → α × Option Failure

structure Binding (α : Type) where
  bound : List α
  rest : List α := []
  fault : Option BindFault := none

namespace Handle

variable {α : Type}

def closeAll (handle : Handle α) : List α → List α × Option Failure
  | [] => ([], none)
  | listener :: rest =>
    match handle.close listener with
    | (listener, some failure) => (listener :: rest, some failure)
    | (listener, none) =>
      let (rest, failure) := handle.closeAll rest
      (listener :: rest, failure)

/-- Bind listeners in order. When the system refuses one, those bound before are closed again, and a
failure to close one of them counts for the other. -/
def bindAll (handle : Handle α) (bound : List α) : List α → Binding α
  | [] => { bound }
  | listener :: rest =>
    match handle.bind listener with
    | (listener, none) => handle.bindAll (bound ++ [listener]) rest
    | (listener, some failure) =>
      if failure.system then
        let (closed, trouble) := handle.closeAll bound
        { bound := closed
          rest := listener :: rest
          fault := some (trouble.elim (.refused (handle.name listener) failure) .broke) }
      else { bound, rest := listener :: rest, fault := some (.broke failure) }

end Handle

def namedListeners : Handle (String × Option Failure) where
  name := (·.1)
  bind listener := (listener, listener.2)
  close listener := (listener, none)

def bindAll (listeners : List (String × Option Failure)) : Nat × Option BindFault :=
  let binding := namedListeners.bindAll [] listeners
  (binding.bound.length, binding.fault)

structure Launch (α : Type) extends Binding α where
  threads : List String := []

def Handle.launch {α : Type} (handle : Handle α) (listeners : List α) : Launch α :=
  let binding := handle.bindAll [] listeners
  match binding.fault with
  | none => { binding with threads := binding.bound.map handle.name }
  | some _ => { binding with }

def BindFault.closesBound : BindFault → Bool
  | .refused _ _ => true
  | .broke _ => false

structure Outcome where
  source : String
  failure : Option Failure
  deriving DecidableEq, Repr

/-- How far a shutdown call is that holds the lock: it has looked whether an outcome is delivered,
or has decided whether to report. -/
inductive Closing where
  | looked (delivered : Bool)
  | decided (reports : Bool)
  deriving DecidableEq, Repr

/-- `closing` is the shutdown call that holds the lock. `taken` is the outcome that the service ends
with, `delivered` whether that is marked. -/
structure State where
  listeners : List String
  ended : List Nat := []
  queue : List Outcome := []
  closing : Option Closing := none
  taken : Option Outcome := none
  delivered : Bool := false
  cancelled : Bool := false
  deriving DecidableEq, Repr

namespace State

def capacity (state : State) : Nat := state.listeners.length + 1

/-- Queue an outcome; a full queue drops it. -/
def report (state : State) (outcome : Outcome) : State :=
  if state.queue.length < state.capacity then { state with queue := state.queue ++ [outcome] }
  else state

/-- The atomic steps of the threads: a listener's thread ends with its report, a shutdown call takes
the lock and looks for a delivered outcome, then for a queued one, and at last reports or not and
gives the lock back, and the service takes an outcome, marks it and cancels the listeners. -/
inductive Step where
  | ends (listener : Nat) (ending : Ending)
  | beginShutdown
  | decideShutdown
  | finishShutdown
  | take
  | deliver
  | cancel
  deriving DecidableEq, Repr

def shutdownOutcome : Outcome := ⟨"shutdown", none⟩

/-- A step that is not due changes nothing. -/
def step (state : State) : Step → State
  | .ends listener ending =>
    match state.listeners[listener]? with
    | some name =>
      if state.ended.contains listener then state
      else report { state with ended := state.ended ++ [listener] } ⟨name, ending.failure?⟩
    | none => state
  | .beginShutdown =>
    if state.closing.isSome then state
    else { state with closing := some (.looked state.delivered) }
  | .decideShutdown =>
    match state.closing with
    | some (.looked delivered) =>
      { state with closing := some (.decided (!delivered && state.queue.isEmpty)) }
    | _ => state
  | .finishShutdown =>
    match state.closing with
    | some (.decided true) => report { state with closing := none } shutdownOutcome
    | some (.decided false) => { state with closing := none }
    | _ => state
  | .take =>
    match state.taken, state.queue with
    | none, outcome :: rest => { state with taken := some outcome, queue := rest }
    | _, _ => state
  | .deliver => if state.taken.isSome then { state with delivered := true } else state
  | .cancel => if state.delivered then { state with cancelled := true } else state

def run (state : State) (steps : List Step) : State := steps.foldl step state

def shutdown (state : State) : State :=
  state.run [.beginShutdown, .decideShutdown, .finishShutdown]

/-- What the service does once an outcome is there. -/
def finish (state : State) : State := state.run [.take, .deliver, .cancel]

def result? (state : State) : Option Outcome := if state.cancelled then state.taken else none

end State

inductive Fault where
  | bind (fault : BindFault)
  | listener (name : String) (failure : Failure)
  deriving DecidableEq, Repr

def BindFault.message : BindFault → String
  | .refused name failure => s!"{name}: {failure.text}"
  | .broke failure => failure.text

def Fault.message : Fault → String
  | .bind fault => fault.message
  | .listener name failure => s!"{name} listener failed: {failure.text}"

def Outcome.result (outcome : Outcome) : Except Fault Unit :=
  match outcome.failure with
  | none => .ok ()
  | some failure => .error (.listener outcome.source failure)

end Netboot.Supervisor
