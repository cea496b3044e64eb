/-! A lock that many readers or one writer hold, with writers preferred.

Every step happens under the lock's own monitor. A thread that cannot enter sleeps until it wakes,
as a rule because it is notified, and then checks again. -/

set_option autoImplicit false

namespace Netboot

inductive Access where
  | read
  | write
  deriving DecidableEq, Repr

inductive Standing where
  | asleep
  | notified
  | holding
  deriving DecidableEq, Repr

structure LockThread where
  access : Access
  standing : Standing
  deriving DecidableEq, Repr

structure ReadWriteLock (ι : Type) where
  readers : Nat := 0
  writer : Bool := false
  waitingWriters : Nat := 0
  threads : List (ι × LockThread) := []

namespace ReadWriteLock

variable {ι : Type} [DecidableEq ι]

def thread? (lock : ReadWriteLock ι) (id : ι) : Option LockThread := lock.threads.lookup id

def setThread (lock : ReadWriteLock ι) (id : ι) (thread : LockThread) : ReadWriteLock ι :=
  { lock with threads := lock.threads.map fun entry =>
      if entry.1 = id then (id, thread) else entry }

def admits (lock : ReadWriteLock ι) : Access → Bool
  | .read => !lock.writer && lock.waitingWriters == 0
  | .write => !lock.writer && lock.readers == 0

def enter (lock : ReadWriteLock ι) : Access → ReadWriteLock ι
  | .read => { lock with readers := lock.readers + 1 }
  | .write => { lock with waitingWriters := lock.waitingWriters - 1, writer := true }

def check (lock : ReadWriteLock ι) (id : ι) (access : Access) : ReadWriteLock ι :=
  if lock.admits access then (lock.enter access).setThread id ⟨access, .holding⟩
  else lock.setThread id ⟨access, .asleep⟩

def announce (lock : ReadWriteLock ι) : Access → ReadWriteLock ι
  | .read => lock
  | .write => { lock with waitingWriters := lock.waitingWriters + 1 }

def request (lock : ReadWriteLock ι) (id : ι) (access : Access) : ReadWriteLock ι :=
  if (lock.thread? id).isSome then lock
  else
    let lock := lock.announce access
    check { lock with threads := lock.threads ++ [(id, ⟨access, .asleep⟩)] } id access

def recheck (lock : ReadWriteLock ι) (id : ι) : ReadWriteLock ι :=
  match lock.thread? id with
  | some ⟨access, .notified⟩ => lock.check id access
  | _ => lock

def notify (thread : LockThread) : LockThread :=
  if thread.standing = .asleep then { thread with standing := .notified } else thread

def notifyAll (lock : ReadWriteLock ι) : ReadWriteLock ι :=
  { lock with threads := lock.threads.map fun entry => (entry.1, notify entry.2) }

def drop (lock : ReadWriteLock ι) (id : ι) : ReadWriteLock ι :=
  { lock with threads := lock.threads.filter (·.1 ≠ id) }

/-- A holder leaves, whether normally or by a failure. The last reader and a writer notify all. -/
def leave (lock : ReadWriteLock ι) (id : ι) : ReadWriteLock ι :=
  match lock.thread? id with
  | some ⟨.read, .holding⟩ =>
    let lock := { lock.drop id with readers := lock.readers - 1 }
    if lock.readers = 0 then lock.notifyAll else lock
  | some ⟨.write, .holding⟩ => notifyAll { lock.drop id with writer := false }
  | _ => lock

/-- A sleeper wakes though no one notified it. -/
def stir (lock : ReadWriteLock ι) (id : ι) : ReadWriteLock ι :=
  match lock.thread? id with
  | some thread => lock.setThread id (notify thread)
  | none => lock

inductive Step (ι : Type) where
  | request (id : ι) (access : Access)
  | stir (id : ι)
  | recheck (id : ι)
  | leave (id : ι)

def step (lock : ReadWriteLock ι) : Step ι → ReadWriteLock ι
  | .request id access => lock.request id access
  | .stir id => lock.stir id
  | .recheck id => lock.recheck id
  | .leave id => lock.leave id

def run (lock : ReadWriteLock ι) (steps : List (Step ι)) : ReadWriteLock ι := steps.foldl step lock

/-- Every notified thread wakes once; no one is notified by that. -/
def settle (lock : ReadWriteLock ι) : ReadWriteLock ι :=
  (lock.threads.map (·.1)).foldl recheck lock

def holders (lock : ReadWriteLock ι) : List ι :=
  (lock.threads.filter (·.2.standing = .holding)).map (·.1)

def waiting (lock : ReadWriteLock ι) : List ι :=
  (lock.threads.filter (·.2.standing ≠ .holding)).map (·.1)

end ReadWriteLock

end Netboot
