/-! Cancelling a listener's thread while it starts.

The thread makes its loop and its task known, looks at the flag and then begins to serve. A
canceller sets the flag, looks for the loop and the task, and schedules a cancellation when both
are known. -/

set_option autoImplicit false

namespace Netboot.Supervisor

/-- How far the thread is. Its task ends first and its loop is closed then, whether it served or
not. -/
inductive Progress where
  | fresh
  | loopKnown
  | taskKnown
  | flagRead (set : Bool)
  | serving
  | ended (served : Bool)
  | closed (served : Bool)
  deriving DecidableEq, Repr

def Progress.next (flag : Bool) : Progress → Progress
  | .fresh => .loopKnown
  | .loopKnown => .taskKnown
  | .taskKnown => .flagRead flag
  | .flagRead true => .ended false
  | .flagRead false => .serving
  | .serving => .ended true
  | .ended served => .closed served
  | .closed served => .closed served

inductive Cancelling where
  | idle
  | flagged
  | lookedForLoop (found : Bool)
  | lookedForTask (found : Bool)
  | returned
  deriving DecidableEq, Repr

structure Thread where
  progress : Progress := .fresh
  cancelling : Cancelling := .idle
  flag : Bool := false
  scheduled : Bool := false
  deriving DecidableEq, Repr

namespace Thread

def hasLoop (thread : Thread) : Bool := thread.progress != .fresh

def hasTask (thread : Thread) : Bool :=
  match thread.progress with
  | .fresh | .loopKnown => false
  | _ => true

def isClosed (thread : Thread) : Bool :=
  match thread.progress with
  | .closed _ => true
  | _ => false

def advance (thread : Thread) : Thread :=
  { thread with progress := thread.progress.next thread.flag }

/-- The canceller's next step. On a closed loop nothing can be scheduled any more. -/
def cancelNext (thread : Thread) : Thread :=
  match thread.cancelling with
  | .idle => { thread with flag := true, cancelling := .flagged }
  | .flagged => { thread with cancelling := .lookedForLoop thread.hasLoop }
  | .lookedForLoop found => { thread with cancelling := .lookedForTask (found && thread.hasTask) }
  | .lookedForTask found =>
    { thread with
      scheduled := thread.scheduled || (found && !thread.isClosed)
      cancelling := .returned }
  | .returned => thread

inductive Actor where
  | thread
  | canceller
  deriving DecidableEq, Repr

def step (thread : Thread) : Actor → Thread
  | .thread => thread.advance
  | .canceller => thread.cancelNext

def run (thread : Thread) (actors : List Actor) : Thread := actors.foldl step thread

end Thread

end Netboot.Supervisor
