import Mathlib.Data.List.Nodup
import VirtCore.Pool.ThreadPool

/-!
# VirtCore — what the thread pool guarantees

* **`InOrder`** — the queue is what has been accepted and not yet started.
* **`Stopping`** — a worker leaves its loop only once `stop` is set and the queue is empty.
* **`Attended`** — a non-empty queue has somebody who will look at it.
* **`Accounted`** — what has been started has been executed or is being executed.
* **`threadPool_guarantees`** — the guarantees, in every reachable state.
-/

namespace VirtCore

open Transition

/-- A worker that has neither blocked nor left its loop. -/
def Worker.active : Worker → Bool
  | .locking | .woken | .running _ => true
  | .waiting | .ended | .terminated => false

namespace ThreadPool

variable {n : Nat} {s s' : ThreadPool n} {a : PoolStep n}

/-- The worker that was changed. -/
@[simp] theorem setWorker_self (s : ThreadPool n) (w : Fin n) (x : Worker) :
    (s.setWorker w x).workers w = x := Function.update_self ..

/-- The others are as they were. -/
theorem setWorker_workers (s : ThreadPool n) (w w' : Fin n) (x : Worker) :
    (s.setWorker w x).workers w' = if w' = w then x else s.workers w' := by
  simp [setWorker, Function.update_apply]

/-- The queue is not theirs. -/
@[simp] theorem setWorker_tasks (s : ThreadPool n) (w : Fin n) (x : Worker) :
    (s.setWorker w x).tasks = s.tasks := rfl

/-- What the section of a worker comes to: it blocks, leaves its loop or takes the first task. -/
theorem takeTask_cases (s : ThreadPool n) (w : Fin n) :
    (s.stop = false ∧ s.tasks = [] ∧ s.takeTask w = s.setWorker w .waiting) ∨
    (s.stop = true ∧ s.tasks = [] ∧ s.takeTask w = s.setWorker w .ended) ∨
    ∃ t rest, s.tasks = t :: rest ∧ s.takeTask w =
      { s with tasks := rest, started := s.started ++ [t] }.setWorker w (.running t) := by
  cases htasks : s.tasks with
  | nil =>
    cases hstop : s.stop with
    | false => exact .inl ⟨rfl, rfl, by simp [takeTask, htasks, hstop]⟩
    | true => exact .inr (.inl ⟨rfl, rfl, by simp [takeTask, htasks, hstop]⟩)
  | cons t rest => exact .inr (.inr ⟨t, rest, rfl, by simp [takeTask, htasks]⟩)

/-! ## The order of the tasks

Tasks are numbered as they arrive. What has been started is a prefix of the numbers, and the queue
is the rest of it. -/

/-- The started tasks and the queue are the accepted tasks, in order. -/
structure InOrder (s : ThreadPool n) : Prop where
  queued : s.accepted = s.started ++ s.tasks
  nodup : s.accepted.Nodup
  made : ∀ t ∈ s.accepted, t < s.made

/-- A task that arrives is put behind the others. -/
theorem InOrder.enqueue (h : s.InOrder) : s.enqueue.InOrder := by
  unfold ThreadPool.enqueue
  split
  · exact ⟨h.queued, h.nodup, fun t ht => Nat.lt_succ_of_lt (h.made t ht)⟩
  · refine ⟨?_, ?_, fun t ht => ?_⟩
    · show s.accepted ++ [s.made] = s.started ++ (s.tasks ++ [s.made])
      rw [h.queued, List.append_assoc]
    · show (s.accepted ++ [s.made]).Nodup
      refine List.nodup_append.mpr ⟨h.nodup, List.nodup_singleton _, fun t ht u hu => ?_⟩
      obtain rfl := List.mem_singleton.mp hu
      exact Nat.ne_of_lt (h.made t ht)
    · show t < s.made + 1
      rcases List.mem_append.mp ht with ht | ht
      · exact Nat.lt_succ_of_lt (h.made t ht)
      · obtain rfl := List.mem_singleton.mp ht
        exact Nat.lt_succ_self _

/-- Taking a task moves the first of the queue to the started ones. -/
theorem inOrder_step (h : s.InOrder) (hs : Step s a s') : s'.InOrder := by
  cases hs with
  | enqueue => exact h.enqueue
  | notifyOne | notifyNobody | runTask | spuriousWakeup | setStop | notifyAll | join =>
    exact ⟨h.queued, h.nodup, h.made⟩
  | takeTask w =>
    rcases s.takeTask_cases w with ⟨-, -, heq⟩ | ⟨-, -, heq⟩ | ⟨t, rest, htasks, heq⟩
    · exact heq ▸ ⟨h.queued, h.nodup, h.made⟩
    · exact heq ▸ ⟨h.queued, h.nodup, h.made⟩
    · rw [heq]
      refine ⟨?_, h.nodup, h.made⟩
      show s.accepted = (s.started ++ [t]) ++ rest
      rw [h.queued, htasks, List.append_assoc, List.singleton_append]

/-- The tasks are started in the order in which they arrive. -/
theorem inOrder (hs : Reachable (threadPool n) s) : s.InOrder := by
  refine hs.invariant (I := InOrder) (fun s hs => ?_) fun _ _ _ h hstep => inOrder_step h hstep
  obtain rfl := hs
  exact ⟨rfl, List.nodup_nil, fun t ht => (List.not_mem_nil ht).elim⟩

/-! ## Leaving the loop

A worker looks at `stop` and at the queue under the mutex, and nothing is put into the queue once
`stop` is set, so that the queue it saw empty stays empty. -/

/-- Who has left the loop has seen both, and who still blocks after `stop` is ahead of the
destructor's notification. -/
structure Stopping (s : ThreadPool n) : Prop where
  called : s.stop = true ↔ s.destructor ≠ .notCalled
  ended : ∀ w, s.workers w = .ended → s.stop = true ∧ s.tasks = []
  notTerminated : ∀ w, s.workers w ≠ .terminated
  waiting : ∀ w, s.workers w = .waiting → s.stop = true → s.destructor = .stopped

/-- A worker comes to a phase that says nothing about the rest of the pool. -/
theorem Stopping.setWorker (h : s.Stopping) (w : Fin n) {x : Worker} (hended : x ≠ .ended)
    (hterminated : x ≠ .terminated) (hwaiting : x = .waiting → s.stop = false) :
    (s.setWorker w x).Stopping := by
  refine ⟨h.called, fun w' hw => ?_, fun w' => ?_, fun w' hw hstop => ?_⟩
  · rw [setWorker_workers] at hw
    split at hw
    · exact (hended hw).elim
    · exact h.ended w' hw
  · rw [setWorker_workers]
    split
    · exact hterminated
    · exact h.notTerminated w'
  · rw [setWorker_workers] at hw
    split at hw
    · exact absurd (hstop.symm.trans (hwaiting hw)) (by decide)
    · exact h.waiting w' hw hstop

/-- `enqueue` only does anything while `stop` is not set. -/
theorem Stopping.enqueue (h : s.Stopping) : s.enqueue.Stopping := by
  unfold ThreadPool.enqueue
  split
  · exact ⟨h.called, h.ended, h.notTerminated, h.waiting⟩
  · next hstop =>
    refine ⟨h.called, fun w hw => ?_, h.notTerminated, h.waiting⟩
    exact absurd (h.ended w hw).1 hstop

/-- A worker that looks at the queue blocks, leaves or takes a task. -/
theorem Stopping.takeTask (h : s.Stopping) (w : Fin n) : (s.takeTask w).Stopping := by
  rcases s.takeTask_cases w with ⟨hstop, -, heq⟩ | ⟨hstop, htasks, heq⟩ |
    ⟨t, rest, htasks, heq⟩
  · exact heq ▸ h.setWorker w (by decide) (by decide) fun _ => hstop
  · rw [heq]
    refine ⟨h.called, fun _ _ => ⟨hstop, htasks⟩, fun w' => ?_, fun w' hw => ?_⟩
    · rw [setWorker_workers]
      split
      · decide
      · exact h.notTerminated w'
    · rw [setWorker_workers] at hw
      split at hw
      · cases hw
      · exact h.waiting w' hw
  · have hrest : Stopping { s with tasks := rest, started := s.started ++ [t] } := by
      refine ⟨h.called, fun w' hw => ?_, h.notTerminated, h.waiting⟩
      exact absurd (h.ended w' hw).2 (by simp [htasks])
    exact heq ▸ hrest.setWorker w nofun nofun nofun

/-- One step of the pool. -/
theorem stopping_step (h : s.Stopping) (hs : Step s a s') : s'.Stopping := by
  cases hs with
  | enqueue => exact h.enqueue
  | notifyOne t w =>
    have hrest : Stopping { s with notifying := s.notifying.erase t } :=
      ⟨h.called, h.ended, h.notTerminated, h.waiting⟩
    exact hrest.setWorker w nofun nofun nofun
  | notifyNobody => exact ⟨h.called, h.ended, h.notTerminated, h.waiting⟩
  | takeTask w => exact h.takeTask w
  | runTask w t e =>
    have hrest : Stopping { s with executed := s.executed ++ [(t, e)] } :=
      ⟨h.called, h.ended, h.notTerminated, h.waiting⟩
    -- `packagedTask` has the function return whatever the task does
    cases e <;> exact hrest.setWorker w nofun nofun nofun
  | spuriousWakeup w => exact h.setWorker w nofun nofun nofun
  | setStop hd =>
    refine ⟨by simp [setStop], fun w hw => ⟨rfl, (h.ended w hw).2⟩, h.notTerminated, ?_⟩
    exact fun _ _ _ => rfl
  | notifyAll hd =>
    have hstop : s.stop = true := h.called.mpr (by simp [hd])
    refine ⟨by simp [ThreadPool.notifyAll, hstop], fun w hw => ?_, fun w => ?_, fun w hw => ?_⟩
    · simp only [ThreadPool.notifyAll] at hw ⊢
      split at hw
      · cases hw
      · exact h.ended w hw
    · simp only [ThreadPool.notifyAll]
      split
      · decide
      · exact h.notTerminated w
    · simp only [ThreadPool.notifyAll] at hw
      split at hw
      · cases hw
      · contradiction
  | join k hd =>
    have hstop : s.stop = true := h.called.mpr (by simp [hd])
    refine ⟨by simp [hstop], h.ended, h.notTerminated, fun w hw _ => ?_⟩
    exact absurd (h.waiting w hw hstop) (by simp [hd])

/-- And so every reachable state. -/
theorem stopping (hs : Reachable (threadPool n) s) : s.Stopping := by
  refine hs.invariant (I := Stopping) (fun s hs => ?_) fun _ _ _ h hstep => stopping_step h hstep
  obtain rfl := hs
  exact ⟨by simp [init], nofun, nofun, nofun⟩

/-! ## No lost wake-up

A task that is put into the queue is followed by a notification. Somebody is awake already, or the
notification wakes a worker up. -/

/-- A non-empty queue has a `notify_one` to come or a worker that will lock the mutex again. -/
def Attended (s : ThreadPool n) : Prop :=
  s.tasks ≠ [] → s.notifying ≠ [] ∨ ∃ w, (s.workers w).active = true

/-- An awake worker attends to the queue. -/
theorem attended_of_active (w : Fin n) (h : (s.workers w).active = true) : s.Attended :=
  fun _ => .inr ⟨w, h⟩

/-- Before the queue has been seen empty with `stop` set, a worker that has not
blocked is active. -/
theorem Stopping.active (h : s.Stopping) (htasks : s.tasks ≠ []) {w : Fin n}
    (hw : s.workers w ≠ .waiting) : (s.workers w).active = true := by
  cases hx : s.workers w with
  | locking | woken | running t => rfl
  | waiting => exact (hw hx).elim
  | ended => exact (htasks (h.ended w hx).2).elim
  | terminated => exact (h.notTerminated w hx).elim

/-- A step of worker `w` leaves the others as they are. -/
theorem Attended.setWorker (h : s.Attended) (w : Fin n) {x : Worker}
    (hx : x.active = true ∨ (s.workers w).active = false) : (s.setWorker w x).Attended := by
  intro htasks
  rcases h htasks with hn | ⟨w', hw'⟩
  · exact .inl hn
  · refine .inr ⟨w', ?_⟩
    rw [setWorker_workers]
    split
    · next heq =>
      subst heq
      exact hx.resolve_right (by simp [hw'])
    · exact hw'

/-- One step of the pool; a worker that blocks has seen the queue empty. -/
theorem attended_step (hn : 0 < n) (hstop : s.Stopping) (h : s.Attended) (hs : Step s a s') :
    s'.Attended := by
  cases hs with
  | enqueue =>
    unfold ThreadPool.enqueue
    split
    · exact h
    · exact fun _ => .inl (by simp)
  | notifyOne t w => exact attended_of_active w (by simp [ThreadPool.notifyOne, Worker.active])
  | notifyNobody t ht hw =>
    -- with nobody blocked, any worker that is left is active
    exact fun htasks => .inr ⟨⟨0, hn⟩, hstop.active htasks (hw _)⟩
  | takeTask w =>
    rcases s.takeTask_cases w with ⟨-, htasks, heq⟩ | ⟨-, htasks, heq⟩ |
      ⟨t, rest, -, heq⟩
    · exact heq ▸ fun hne => (hne htasks).elim
    · exact heq ▸ fun hne => (hne htasks).elim
    · exact heq ▸ attended_of_active w (by simp [Worker.active])
  | runTask w t e =>
    refine attended_of_active w ?_
    cases e <;> simp [ThreadPool.runTask, packagedTask, Worker.active]
  | spuriousWakeup w => exact h.setWorker w (.inl rfl)
  | setStop => exact h
  | notifyAll hd =>
    intro htasks
    refine .inr ⟨⟨0, hn⟩, ?_⟩
    simp only [ThreadPool.notifyAll]
    split
    · -- a worker that was blocked is woken
      rfl
    · next hw => exact hstop.active htasks hw
  | join => exact h

/-- In a pool with workers, every reachable state is. -/
theorem attended (hn : 0 < n) (hs : Reachable (threadPool n) s) : s.Attended := by
  refine hs.invariant_with (I := Attended) (fun _ h => stopping h) (fun s hs => ?_)
    fun _ _ _ hstop h hstep => attended_step hn hstop h hstep
  obtain rfl := hs
  exact fun htasks => (htasks rfl).elim

/-- There is something to see, for a non-empty queue or for some worker that has not left its loop
after `stop`, but every such worker is blocked and no notification is on its way. -/
structure LostWakeup (s : ThreadPool n) : Prop where
  due : s.tasks ≠ [] ∨ s.stop = true ∧ ∃ w, s.workers w = .waiting
  blocked : ∀ w, s.workers w = .waiting ∨ s.workers w = .ended ∨ s.workers w = .terminated
  noNotifyOne : s.notifying = []
  noNotifyAll : s.destructor ≠ .stopped

/-- **No wake-up is lost**: `Attended` excludes the first kind, and `Stopping` the second. -/
theorem not_lostWakeup (hstop : s.Stopping) (h : s.Attended) : ¬s.LostWakeup := by
  rintro ⟨htasks | ⟨hset, w, hw⟩, hblocked, hone, hall⟩
  · rcases h htasks with hn | ⟨w, hw⟩
    · exact hn hone
    · rcases hblocked w with hx | hx | hx <;> simp [hx, Worker.active] at hw
  · exact hall (hstop.waiting w hw hset)

/-! ## Joining

The destructor waits for each worker in turn, and what it waits for is the end of the loop. -/

/-- What has been started is executed, or is what some worker is at; and the destructor is past a
worker only once that has ended. -/
structure Accounted (s : ThreadPool n) : Prop where
  started : ∀ t ∈ s.started, t ∈ s.executed.map Prod.fst ∨ ∃ w, s.workers w = .running t
  joined : ∀ k, s.destructor = .joining k → ∀ w : Fin n, w.val < k → s.workers w = .ended

/-- A worker that runs nothing and has not ended comes to another phase. -/
theorem Accounted.setWorker (h : s.Accounted) (w : Fin n) {x : Worker}
    (hidle : ∀ t, s.workers w ≠ .running t) (hended : s.workers w ≠ .ended) :
    (s.setWorker w x).Accounted := by
  refine ⟨fun t ht => ?_, fun k hk w' hw' => ?_⟩
  · rcases h.started t ht with he | ⟨w', hw'⟩
    · exact .inl he
    · refine .inr ⟨w', ?_⟩
      rw [setWorker_workers, if_neg (by rintro rfl; exact hidle t hw')]
      exact hw'
  · rw [setWorker_workers, if_neg (by rintro rfl; exact hended (h.joined k hk _ hw'))]
    exact h.joined k hk w' hw'

/-- One step of the pool; a worker that stops running a task has executed it. -/
theorem accounted_step (h : s.Accounted) (hs : Step s a s') : s'.Accounted := by
  cases hs with
  | enqueue =>
    unfold ThreadPool.enqueue
    split <;> exact ⟨h.started, h.joined⟩
  | notifyOne t w ht hw =>
    have hrest : Accounted { s with notifying := s.notifying.erase t } := ⟨h.started, h.joined⟩
    exact hrest.setWorker w (by simp [hw]) (by simp [hw])
  | notifyNobody => exact ⟨h.started, h.joined⟩
  | takeTask w hw =>
    -- a worker that looks at the queue runs nothing
    have hidle : ∀ t, s.workers w ≠ .running t := by rcases hw with hw | hw <;> simp [hw]
    have hended : s.workers w ≠ .ended := by rcases hw with hw | hw <;> simp [hw]
    rcases s.takeTask_cases w with ⟨-, -, heq⟩ | ⟨-, -, heq⟩ | ⟨t, rest, -, heq⟩
    · exact heq ▸ h.setWorker w hidle hended
    · exact heq ▸ h.setWorker w hidle hended
    · rw [heq]
      refine ⟨fun u hu => ?_, (h.setWorker w hidle hended).joined⟩
      rcases List.mem_append.mp hu with hu | hu
      · exact (h.setWorker (x := .running t) w hidle hended).started u hu
      · obtain rfl := List.mem_singleton.mp hu
        exact .inr ⟨w, setWorker_self _ w _⟩
  | runTask w t e hw =>
    refine ⟨fun u hu => ?_, fun k hk w' hw' => ?_⟩
    · rcases h.started u hu with he | ⟨w', hw'⟩
      · exact .inl (by simp [runTask, setWorker, he])
      · -- the task of this worker is executed, the others still run theirs
        by_cases heq : w' = w
        · subst heq
          obtain rfl : u = t := by simpa [hw'] using hw
          exact .inl (by simp [runTask, setWorker])
        · refine .inr ⟨w', ?_⟩
          rw [runTask, setWorker_workers, if_neg heq]
          exact hw'
    · have hended := h.joined k hk w' hw'
      rw [runTask, setWorker_workers, if_neg (by rintro rfl; simp [hended] at hw)]
      exact hended
  | spuriousWakeup w hw => exact h.setWorker w (by simp [hw]) (by simp [hw])
  | setStop => exact ⟨h.started, nofun⟩
  | notifyAll =>
    refine ⟨fun t ht => ?_, fun k hk w hw => ?_⟩
    · refine (h.started t ht).imp id fun ⟨w, hw⟩ => ⟨w, ?_⟩
      simp [ThreadPool.notifyAll, hw]
    · cases hk
      exact absurd hw (Nat.not_lt_zero _)
  | join k hd hk hended =>
    refine ⟨h.started, fun k' hk' w hw => ?_⟩
    cases hk'
    rcases Nat.lt_succ_iff_lt_or_eq.mp hw with hw | rfl
    · exact h.joined k hd w hw
    · exact hended

/-- So no task that was started is lost. -/
theorem accounted (hs : Reachable (threadPool n) s) : s.Accounted := by
  refine hs.invariant (I := Accounted) (fun s hs => ?_) fun _ _ _ h hstep => accounted_step h hstep
  obtain rfl := hs
  exact ⟨nofun, nofun⟩

/-- The destructor has joined all the workers: each has ended, so the queue is empty and nothing
is being executed. -/
theorem executed_of_joined (hn : 0 < n) (horder : s.InOrder) (hstop : s.Stopping)
    (h : s.Accounted) (hd : s.destructor = .joining n) {t : Nat} (ht : t ∈ s.accepted) :
    t ∈ s.executed.map Prod.fst := by
  have hended : ∀ w, s.workers w = .ended := fun w => h.joined n hd w w.isLt
  have htasks : s.tasks = [] := (hstop.ended _ (hended ⟨0, hn⟩)).2
  have hstarted : t ∈ s.started := by
    rw [horder.queued, htasks, List.append_nil] at ht
    exact ht
  rcases h.started t hstarted with he | ⟨w, hw⟩
  · exact he
  · simp [hended w] at hw

end ThreadPool

/-- **The guarantees of the thread pool.** In every reachable state of a pool with at least one
worker: tasks are started in the order in which they were accepted, each at most once; no worker
has left its loop before `stop`; no wake-up is lost; once every worker has been joined every
accepted task has been executed; and an `enqueue` that finds `stop` set throws and leaves the
queue as it is. -/
theorem threadPool_guarantees {n : Nat} (hn : 0 < n) {s : ThreadPool n}
    (hs : Reachable (threadPool n) s) :
    (s.started <+: s.accepted ∧ s.started.Nodup) ∧
    (∀ w, s.workers w = .ended ∨ s.workers w = .terminated → s.stop = true) ∧
    ¬s.LostWakeup ∧
    (s.destructor = .joining n → ∀ t ∈ s.accepted, t ∈ s.executed.map Prod.fst) ∧
    (s.stop = true → ∀ s', (threadPool n).step s .enqueue s' →
      s'.rejected = s.rejected ++ [s.made] ∧ s'.accepted = s.accepted ∧
        s'.tasks = s.tasks) := by
  -- each part from the invariant that it is about
  have horder := ThreadPool.inOrder hs
  have hstop := ThreadPool.stopping hs
  have hattended := ThreadPool.attended hn hs
  have haccounted := ThreadPool.accounted hs
  refine ⟨⟨⟨s.tasks, horder.queued.symm⟩, ?_⟩, fun w hw => ?_, ?_, ?_,
    fun hset s' hstep => ?_⟩
  · have hnodup := horder.nodup
    rw [horder.queued] at hnodup
    exact hnodup.of_append_left
  · exact hw.elim (fun hw => (hstop.ended w hw).1) fun hw => (hstop.notTerminated w hw).elim
  · exact ThreadPool.not_lostWakeup hstop hattended
  · exact fun hd t ht => ThreadPool.executed_of_joined hn horder hstop haccounted hd ht
  · cases hstep
    simp [ThreadPool.enqueue, hset]

/-- The life of a pool with one worker: it blocks on the empty queue, is woken for a task that
throws, goes on, and leaves its loop once the destructor has set `stop`. -/
def ThreadPool.oneTask : ThreadPool 1 :=
  ((((((((ThreadPool.init 1).takeTask 0).enqueue).notifyOne 0 (some 0)).takeTask 0).runTask 0 0
    .threw).setStop).notifyAll).takeTask 0

/-- One worker, one task, and the destructor waiting for it. -/
theorem oneTask_reachable :
    Reachable (threadPool 1) { ThreadPool.oneTask with destructor := .joining 1 } := by
  have h₁ := (Reachable.start (M := threadPool 1) rfl).step (.takeTask _ 0 (.inl rfl))
  have h₂ := (h₁.step (.enqueue _)).step (.notifyOne _ 0 0 (by decide) rfl)
  have h₃ := (h₂.step (.takeTask _ 0 (.inr rfl))).step (.runTask _ 0 0 .threw rfl)
  have h₄ := (h₃.step (.setStop _ rfl)).step (.notifyAll _ rfl)
  exact (h₄.step (.takeTask _ 0 (.inl rfl))).step (.join _ 0 rfl Nat.one_pos rfl)

/-- The guarantees at that state. -/
theorem threadPool_guarantees_oneTask :
    0 ∈ ThreadPool.oneTask.executed.map Prod.fst :=
  (threadPool_guarantees Nat.one_pos oneTask_reachable).2.2.2.1 rfl 0 List.mem_cons_self

end VirtCore
