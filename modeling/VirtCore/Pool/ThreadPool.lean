import Mathlib.Logic.Function.Basic
import VirtCore.Transition.System

/-!
# VirtCore — the thread pool

`ThreadPool` with `n` workers as a transition system. A step is a section under `queue_mutex`, a
notification, a wake-up without one, or a part of a thread that touches nothing shared.

* **`ThreadPool`** — the queue, the stop flag, where each thread is, and the history.
* **`Worker`** — where a worker is in its loop.
* **`threadPool`** — the steps of any number of `enqueue` calls, the workers and one destructor.

A task is the `packaged_task` that `enqueue` makes, numbered in the order of `make_shared`.
-/

namespace VirtCore

open Transition

/-- How a function called by a thread ends. -/
inductive CallEnd where
  | returned
  | threw
  deriving DecidableEq, Repr

/-- Where a worker is in its `for (;;)`. -/
inductive Worker where
  /-- About to lock `queue_mutex` at the top of the loop. -/
  | locking
  /-- Blocked in `condition.wait`, the mutex released. -/
  | waiting
  /-- Woken inside `condition.wait`, about to lock the mutex again and test the predicate. -/
  | woken
  | running (task : Nat)
  /-- The thread function has returned. -/
  | ended
  /-- An exception has left the thread function. -/
  | terminated
  deriving DecidableEq, Repr

/-- Where the destructor is. -/
inductive Destructor where
  | notCalled
  /-- `stop` is set, `notify_all` still to come. -/
  | stopped
  /-- Joining the workers; so many have been joined. -/
  | joining (joined : Nat)
  deriving DecidableEq, Repr

structure ThreadPool (n : Nat) where
  workers : Fin n → Worker
  tasks : List Nat
  stop : Bool
  destructor : Destructor
  /-- The packaged tasks made so far. -/
  made : Nat
  /-- The `enqueue` calls between their section and their `notify_one`. -/
  notifying : List Nat
  /-- The tasks accepted, those started by a worker and those executed, in order. -/
  accepted : List Nat
  started : List Nat
  executed : List (Nat × CallEnd)
  /-- The tasks of the `enqueue` calls that threw. -/
  rejected : List Nat

namespace ThreadPool

variable {n : Nat}

/-- `ThreadPool(size_t threads)`. -/
def init (n : Nat) : ThreadPool n where
  workers _ := .locking
  tasks := []
  stop := false
  destructor := .notCalled
  made := 0
  notifying := []
  accepted := []
  started := []
  executed := []
  rejected := []

def setWorker (s : ThreadPool n) (w : Fin n) (x : Worker) : ThreadPool n :=
  { s with workers := Function.update s.workers w x }

/-- `enqueue`, up to the end of its section. -/
def enqueue (s : ThreadPool n) : ThreadPool n :=
  if s.stop then
    -- throw std::runtime_error("enqueue on stopped ThreadPool")
    { s with made := s.made + 1, rejected := s.rejected ++ [s.made] }
  else
    { s with
      made := s.made + 1
      tasks := s.tasks ++ [s.made]
      accepted := s.accepted ++ [s.made]
      notifying := s.notifying ++ [s.made] }

/-- `condition.notify_one()` of the `enqueue` call with task `t`, waking `w` or nobody. -/
def notifyOne (s : ThreadPool n) (t : Nat) (w : Option (Fin n)) : ThreadPool n :=
  let s := { s with notifying := s.notifying.erase t }
  match w with
  | some w => s.setWorker w .woken
  | none => s

/-- The section of a worker: the wait predicate, and what follows it under the lock. -/
def takeTask (s : ThreadPool n) (w : Fin n) : ThreadPool n :=
  if s.stop || !s.tasks.isEmpty then
    match s.tasks with
    -- stop && tasks.empty()
    | [] => s.setWorker w .ended
    | t :: rest => { s with tasks := rest, started := s.started ++ [t] }.setWorker w (.running t)
  else
    s.setWorker w .waiting

/-- `packaged_task::operator()`: what the function ends with goes into the shared state, an
exception too, and the call returns. -/
def packagedTask : CallEnd → CallEnd
  | .returned => .returned
  | .threw => .returned

/-- `task()`, whose function ends with `e`. -/
def runTask (s : ThreadPool n) (w : Fin n) (t : Nat) (e : CallEnd) : ThreadPool n :=
  { s with executed := s.executed ++ [(t, e)] }.setWorker w
    (match packagedTask e with
    | .returned => .locking
    | .threw => .terminated)

/-- The section of the destructor. -/
def setStop (s : ThreadPool n) : ThreadPool n := { s with stop := true, destructor := .stopped }

/-- `condition.notify_all()`. -/
def notifyAll (s : ThreadPool n) : ThreadPool n :=
  { s with
    workers := fun w => if s.workers w = .waiting then .woken else s.workers w
    destructor := .joining 0 }

end ThreadPool

/-- The steps of the threads that use a pool. -/
inductive PoolStep (n : Nat) where
  | enqueue
  | notifyOne (t : Nat) (w : Option (Fin n))
  | takeTask (w : Fin n)
  | runTask (w : Fin n) (e : CallEnd)
  | spuriousWakeup (w : Fin n)
  | setStop
  | notifyAll
  | join
  deriving DecidableEq

namespace ThreadPool

variable {n : Nat}

/-- The step relation. The mutex is free between steps, so a section needs no turn of its own. -/
inductive Step : ThreadPool n → PoolStep n → ThreadPool n → Prop where
  | enqueue (s) : Step s .enqueue s.enqueue
  | notifyOne (s) (t : Nat) (w : Fin n) (ht : t ∈ s.notifying) (hw : s.workers w = .waiting) :
      Step s (.notifyOne t (some w)) (s.notifyOne t (some w))
  | notifyNobody (s) (t : Nat) (ht : t ∈ s.notifying) (hw : ∀ w, s.workers w ≠ .waiting) :
      Step s (.notifyOne t none) (s.notifyOne t none)
  | takeTask (s) (w : Fin n) (hw : s.workers w = .locking ∨ s.workers w = .woken) :
      Step s (.takeTask w) (s.takeTask w)
  | runTask (s) (w : Fin n) (t : Nat) (e : CallEnd) (hw : s.workers w = .running t) :
      Step s (.runTask w e) (s.runTask w t e)
  | spuriousWakeup (s) (w : Fin n) (hw : s.workers w = .waiting) :
      Step s (.spuriousWakeup w) (s.setWorker w .woken)
  | setStop (s) (hd : s.destructor = .notCalled) : Step s .setStop s.setStop
  | notifyAll (s) (hd : s.destructor = .stopped) : Step s .notifyAll s.notifyAll
  | join (s) (k : Nat) (hd : s.destructor = .joining k) (hk : k < n)
      (hw : s.workers ⟨k, hk⟩ = .ended) : Step s .join { s with destructor := .joining (k + 1) }

end ThreadPool

/-- A pool with `n` workers. -/
def threadPool (n : Nat) : System (ThreadPool n) (PoolStep n) where
  start s := s = .init n
  step := ThreadPool.Step

end VirtCore
