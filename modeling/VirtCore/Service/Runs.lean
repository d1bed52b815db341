import VirtCore.Service.Invariants
import VirtCore.Protocol.Replies
import VirtCore.VBox.Calm

/-!
# VirtCore — what the service guarantees to its clients

* **`contexts_tracked`** — the contexts of all calls are armed, handled and deleted as they
  should.
* **`Settles`** — a handler replies exactly where no constructor and no operation is left.
* **`executed_answered_iff`** — exactly when an executed task has answered.
* **`never_aborts`** — the main loop survives every run in which no call is dead when it is
  answered.
-/

namespace VirtCore

open Transition Interact VcaController

namespace VcaService

variable {s s' : ServiceState} {a : ServiceAct}

/-! ## The contexts

The contexts that wait for a call are armed, or their event is in the completion queue. -/

/-- The contexts that were passed to the `Request…` call of `rpc` and whose arrival event the main
loop has not taken. -/
def unmet (s : ServiceState) (rpc : Rpc) : List Nat :=
  (s.armed.filter fun a => a.2 == rpc).map Prod.fst ++
    (s.cq.filter fun e => e.op == .arrival rpc).map CqEvent.tag

theorem place_waits (e : CqEvent) (rpc : Rpc) :
    e.place.phase.waits rpc = (e.op == .arrival rpc) := by
  unfold CqEvent.place
  cases e.op with
  | arrival r => simp [Phase.waits, beq_eq_decide]
  | finish => rfl

theorem unmet_length (hmain : s.main = .next) (rpc : Rpc) :
    (unmet s rpc).length = waiting s rpc := by
  -- a context that waits for a request is armed, or its arrival is in the completion queue
  have htasks : (s.tasks.map fun t => (⟨t.2, .queued t.1⟩ : Place)).countP
      (fun p => p.phase.waits rpc) = 0 := by
    simp [List.countP_eq_zero, Phase.waits]
  have hbusy : (s.busy.map Work.place).countP (fun p => p.phase.waits rpc) = 0 := by
    refine List.countP_eq_zero.mpr fun p hp => ?_
    obtain ⟨w, -, rfl⟩ := List.mem_map.mp hp
    cases w <;> exact Bool.false_ne_true
  have hfinishing : (s.finishing.map fun f => (⟨f.1, .finishing⟩ : Place)).countP
      (fun p => p.phase.waits rpc) = 0 := by
    simp [List.countP_eq_zero, Phase.waits]
  have habandoned : (s.abandoned.map fun c => (⟨c, .abandoned⟩ : Place)).countP
      (fun p => p.phase.waits rpc) = 0 := by
    simp [List.countP_eq_zero, Phase.waits]
  have hcq : (s.cq.map CqEvent.place).countP (fun p => p.phase.waits rpc) =
      (s.cq.filter fun e => e.op == .arrival rpc).length := by
    rw [List.countP_map, ← List.countP_eq_length_filter]
    exact List.countP_congr fun e _ => by rw [Function.comp_apply, place_waits]
  have harmed : (s.armed.map fun a => (⟨a.1, .armed a.2⟩ : Place)).countP
      (fun p => p.phase.waits rpc) = (s.armed.filter fun a => a.2 == rpc).length := by
    rw [List.countP_map, ← List.countP_eq_length_filter]
    rfl
  simp only [waiting, places, hmain, MainLoop.places, List.nil_append, List.countP_append, htasks,
    hbusy, hfinishing, habandoned, hcq, harmed, unmet, List.length_append, List.length_map,
    Nat.add_zero]

/-- The task of a worker is on the context it was made for, as what that was allocated as. -/
def Faithful (s : ServiceState) : Work → Prop
  | .started i c => ∃ h rpc, s.heap c = some h ∧ h.type_ = i ∧ h.armedFor = some rpc ∧
      dispatch i = some (h.requestType, rpc)
  | .calling c as rpc => ∃ h, s.heap c = some h ∧ h.requestType = as ∧ h.armedFor = some rpc
  | .answered c as _ => ∃ h, s.heap c = some h ∧ h.requestType = as

theorem faithful (hs : Reachable vcaService s) {w : Work} (hw : w ∈ s.busy) : Faithful s w := by
  have hmem : w.place ∈ places s := by
    simp only [places, List.mem_append]
    exact .inl (.inl (.inr (List.mem_map_of_mem hw)))
  have hgood := (located hs).placed.good _ hmem
  cases w with
  | started i c =>
    obtain ⟨rpc, rfl, q, hq⟩ := hgood
    exact ⟨_, rpc, hq, rfl, rfl, rpc.dispatch_type_⟩
  | calling c as rpc =>
    obtain ⟨rfl, q, hq⟩ := hgood
    exact ⟨_, hq, rfl, rfl⟩
  | answered c as t =>
    obtain ⟨rpc, rfl, q, hq⟩ := hgood
    exact ⟨_, hq, rfl⟩

/-- **The contexts are tracked.** In every reachable state: before `Next` each call has one
context that waits for its next client; every tag in the completion queue is alive; each context is
deleted at most once, on the event of its own `Finish` and as what it was allocated as, and no task
has a context that is not alive; and each task is handled as what its context was armed for. -/
theorem contexts_tracked (hs : Reachable vcaService s) :
    (s.main = .next → ∀ rpc, (unmet s rpc).length = 1) ∧
    (∀ e ∈ s.cq, (s.heap e.tag).isSome) ∧
    ((s.deleted.map Deletion.htc).Nodup ∧
      (∀ d ∈ s.deleted, d.as = d.requestType ∧ d.event.tag = d.htc ∧
        d.event.op = .finish ∧ s.finished.count d.htc = 1) ∧
      (∀ t ∈ s.tasks, (s.heap t.2).isSome) ∧ ∀ w ∈ s.busy, (s.heap w.htc).isSome) ∧
    ∀ w ∈ s.busy, Faithful s w := by
  -- a context that has a place is in the heap
  have hlive (p : Place) (hp : p ∈ places s) : (s.heap p.htc).isSome :=
    ((located hs).placed.good p hp).isSome
  have hrec := recorded hs
  refine ⟨fun hmain rpc => ?_, fun e he => ?_,
    ⟨hrec.deletedOnce, hrec.deleted, fun t ht => ?_, fun w hw => ?_⟩,
    fun w hw => faithful hs hw⟩
  · rw [unmet_length hmain, armed_once hs]
  · refine hlive e.place ?_
    simp only [places, List.mem_append]
    exact .inl (.inl (.inl (.inl (.inr (List.mem_map_of_mem he)))))
  · refine hlive ⟨t.2, .queued t.1⟩ ?_
    simp only [places, List.mem_append]
    exact .inl (.inl (.inl (.inr (List.mem_map.mpr ⟨t, ht, rfl⟩))))
  · have hw' : (s.heap w.place.htc).isSome := by
      refine hlive w.place ?_
      simp only [places, List.mem_append]
      exact .inl (.inl (.inr (List.mem_map_of_mem hw)))
    cases w <;> exact hw'

/-! ## A call on its way to a worker

A run in which one call arrives and nothing else happens, up to its handler. -/

/-- No call is dead when the server answers it, and none dies while the answer is under way. -/
def Alive (s : ServiceState) : ServiceAct → Prop
  | .finish c => c ∉ s.dropped
  | .drop c => c ∉ s.finishing.map Prod.fst
  | _ => True

/-- The handler of `rpc` is about to be called with `q`, and nothing else is under way. -/
structure AtWork (s : ServiceState) (rpc : Rpc) (q : rpc.Request) (c : Nat) : Prop where
  reachable : Reachable (vcaService.restrict Alive) s
  main : s.main = .next
  cq : s.cq = []
  busy : s.busy = [.calling c rpc.requestType rpc]
  finishing : s.finishing = []
  dropped : s.dropped = []
  heap : ∃ h, s.heap c = some h ∧ h.req_ = some ⟨rpc, q⟩

theorem alive_step (hs : Reachable (vcaService.restrict Alive) s) (hstep : Step s a s')
    (halive : Alive s a) : Reachable (vcaService.restrict Alive) s' :=
  hs.step ⟨halive, hstep⟩

/-- `RegisterRequest` runs to its end. -/
theorem registers (rest : List (Rpc × Nat)) (hs : Reachable (vcaService.restrict Alive) s)
    (hmain : s.main = .registering rest) :
    ∃ s', Reachable (vcaService.restrict Alive) s' ∧ s'.main = .next ∧
      s'.armed = s.armed ++ rest.map (fun e => (e.2, e.1)) ∧ s'.cq = s.cq ∧
      s'.tasks = s.tasks ∧
      s'.busy = s.busy ∧ s'.finishing = s.finishing ∧ s'.dropped = s.dropped := by
  induction rest generalizing s with
  | nil => exact ⟨_, alive_step hs (.enterLoop s hmain) trivial, rfl, by simp, rfl, rfl, rfl,
      rfl, rfl⟩
  | cons e rest ih =>
    have hstep := alive_step hs (.registerRequest s e.1 e.2 rest hmain) trivial
    obtain ⟨s', hs', hnext, harmed, hrest⟩ := ih hstep rfl
    exact ⟨s', hs', hnext, by rw [harmed]; simp, hrest⟩

/-- Any client can reach a worker with any request. -/
theorem reaches_work (rpc : Rpc) (q : rpc.Request) : ∃ s c, AtWork s rpc q c := by
  obtain ⟨s, hs, hmain, harmed, hcq, htasks, hbusy, hfinishing, hdropped⟩ :=
    registers _ (.start (M := vcaService.restrict Alive) rfl) (s := init) rfl
  change s.cq = [] at hcq
  change s.tasks = [] at htasks
  change s.busy = [] at hbusy
  have hmem : ∃ c, (c, rpc) ∈ s.armed := by
    rw [harmed]
    exact ⟨members.idxOf (registerRequest.find? (·.1 == rpc) |>.elim .Test Prod.snd), by
      cases rpc <;> decide⟩
  obtain ⟨c, hc⟩ := hmem
  obtain ⟨l₁, l₂, hsplit⟩ := List.append_of_mem hc
  have hplace : (⟨c, .armed rpc⟩ : Place) ∈ places s := by
    simp only [places, List.mem_append]
    exact .inl (.inl (.inl (.inl (.inl (.inr (List.mem_map.mpr ⟨_, hc, rfl⟩))))))
  have hctx : s.heap c = some ⟨rpc.requestType, rpc.type_, 1, some rpc, none⟩ :=
    (located hs.of_restrict).placed.good _ hplace
  -- the client calls, the main loop takes the event and makes the next context
  have harrive := alive_step hs (.arrive s l₁ l₂ c rpc q hsplit) trivial
  have htaken := alive_step harrive
    (.next _ [] [] ⟨c, .arrival rpc, true⟩ hmain (by simp [hcq])) trivial
  have hhandle := alive_step htaken (.handle _ _ ⟨rpc.requestType, rpc.type_, 1, some rpc,
    some ⟨rpc, q⟩⟩ rfl rfl (by simp [modify, hctx]) (show (1 : Int) ≠ 2 by decide)) trivial
  have hrearm := alive_step hhandle (.rearm _ rpc.type_ c _ _ _ rfl rpc.rearm_type_) trivial
  -- a worker takes the task
  have henqueue := alive_step hrearm (.enqueue _ rpc.type_ c rfl) trivial
  have htake := alive_step henqueue (.takeTask _ rpc.type_ c [] (by simp [modify, htasks])
    (by simp [modify, hbusy, poolSize])) trivial
  have hdispatch := alive_step htake (.dispatch _ [] [] rpc.type_ c _ _
    (by simp [modify, hbusy]) rpc.dispatch_type_) trivial
  refine ⟨_, c, hdispatch, rfl, by simp, rfl, hfinishing, hdropped, ?_⟩
  have hne : c ≠ s.fresh := Nat.ne_of_lt ((located hs.of_restrict).fresh _ hplace)
  refine ⟨⟨rpc.requestType, rpc.type_, 1, some rpc, some ⟨rpc, q⟩⟩, ?_, rfl⟩
  simp [modify, Function.update_of_ne hne, hctx]

/-- The contexts are tracked while a worker handles a call. -/
theorem contexts_tracked_atWork : ∃ s, s.main = .next ∧ (∀ rpc, (unmet s rpc).length = 1) ∧
    ∃ w ∈ s.busy, Faithful s w := by
  obtain ⟨s, c, h⟩ := reaches_work .Test ()
  have htracked := contexts_tracked h.reachable.of_restrict
  exact ⟨s, h.main, htracked.1 h.main, _, by rw [h.busy]; exact List.mem_cons_self,
    htracked.2.2.2 _ (by rw [h.busy]; exact List.mem_cons_self)⟩

/-! ## The answers

What a handler calls is settled by the calls it makes and by how it ends; an exception leaves it
without an answer. -/

/-- A handler returns exactly where no constructor and no operation is left. -/
def Settles {α : Type} (p : Server α) : Prop :=
  ∀ t o, Runs p t o → ((∃ a, o = .ok a) ↔ ∀ e ∈ t, ¬leaves e.1 e.2)

variable {α β : Type}

theorem settles_ret (a : α) : Settles (.ret a) := by
  intro t o hr
  obtain ⟨rfl, rfl⟩ := runs_ret.mp hr
  simp

theorem settles_bind {p : Server α} {f : α → Server β} (hp : Settles p)
    (hf : ∀ a, Settles (f a)) : Settles (p >>= f) := by
  intro t o hr
  rcases runs_bind.mp hr with ⟨t₁, t₂, a, rfl, hpr, hfr⟩ | ⟨e, hpr, rfl⟩
  · have hfirst := (hp _ _ hpr).mp ⟨a, rfl⟩
    rw [hf a _ _ hfr]
    simp only [List.forall_mem_append, and_iff_right hfirst]
  · rw [← hp _ _ hpr]
    simp

theorem settles_ask {c : ServerCall} (hc : ∀ x, ¬leaves c x) : Settles (ask c) := by
  intro t o hr
  obtain ⟨x, t', rfl, hrest⟩ := runs_call.mp hr
  obtain ⟨rfl, rfl⟩ := runs_ret.mp hrest
  simp [hc]

/-- A call that may be left goes on as it was left. -/
theorem settles_returned {c : ServerCall} (k : c.Ans → Except Exit α)
    (hk : ∀ x, leaves c x ↔ ∃ e, k x = .error e) :
    Settles (Prog.call (σ := serverSig) c fun x => returned (k x)) := by
  intro t o hr
  obtain ⟨x, t', rfl, hrest⟩ := runs_call.mp hr
  cases hx : k x with
  | ok a =>
    rw [hx] at hrest
    obtain ⟨rfl, rfl⟩ := runs_ret.mp hrest
    simp [hk, hx]
  | error e =>
    rw [hx] at hrest
    obtain ⟨rfl, rfl⟩ := runs_exit.mp hrest
    simp [hk, hx]

theorem settles_call (op : Op) : Settles (call op) :=
  settles_returned (c := .op op) id fun x => by cases x <;> simp [leaves]

theorem settles_newQiVCA : Settles newQiVCA :=
  settles_returned (c := .newQiVCA) id fun x => by cases x <;> simp [leaves]

theorem settles_newVmConfigure : Settles newVmConfigure :=
  settles_returned (c := .newVmConfigure) id fun x => by cases x <;> simp [leaves]

theorem settles_serve (name : String) (c : ServerCall) : Settles (serve name c) := by
  unfold serve
  split
  · refine settles_bind (settles_ask fun _ => id) fun data => ?_
    refine settles_bind (settles_call _) fun r => ?_
    dsimp only
    split <;> exact settles_ret _
  · split
    · exact settles_bind (settles_call _) fun r => settles_ret _
    · exact settles_bind (settles_call _) fun r => settles_ret _
  · exact settles_bind (settles_ask fun _ => id) fun ret => settles_ret _
  · exact settles_ret _

theorem settles_make (rpc : Rpc) : Settles rpc.make := by
  cases rpc
  case Test => exact settles_ret _
  case HostInfo | P2P => exact settles_bind (settles_ask fun _ => id) fun _ => settles_ret _
  all_goals first | exact settles_newQiVCA | exact settles_newVmConfigure

/-- **Every handler settles.** -/
theorem settles_controller (rpc : Rpc) (q : rpc.Request) : Settles (controller rpc q) := by
  cases hid : rpc.vcamethod q with
  | none =>
    cases rpc <;> cases hid
    · exact settles_bind (settles_ask fun _ => id) fun _ =>
        settles_bind (settles_ask fun _ => id) fun _ => settles_ret _
    · exact settles_bind (settles_ask fun _ => id) fun _ =>
        settles_bind (settles_ask fun _ => id) fun _ => settles_ret _
  | some id =>
    rw [controller_eq hid]
    refine settles_bind (settles_make rpc) fun machines => ?_
    unfold Rpc.dispatch
    repeat' split
    · exact settles_ret _
    · exact settles_ret _
    · exact settles_serve _ _

/-- Where a handler has returned, nothing was left; where a task has been executed, it returned
exactly if nothing was left. -/
structure Settled (s : ServiceState) : Prop where
  answered : ∀ c as t, .answered c as t ∈ s.busy → ∀ e ∈ t, ¬leaves e.1 e.2
  executed : ∀ x ∈ s.executed, x.ending = .returned ↔ ∀ e ∈ x.calls, ¬leaves e.1 e.2

/-- A step that answers nothing and executes nothing. -/
theorem Settled.of_eq (h : Settled s) (hbusy : ∀ c as t, .answered c as t ∈ s'.busy →
    .answered c as t ∈ s.busy) (hexecuted : s'.executed = s.executed) : Settled s' := by
  refine ⟨fun c as t ht => h.answered c as t (hbusy c as t ht), ?_⟩
  rw [hexecuted]
  exact h.executed

/-- A task has been executed. -/
theorem Settled.append (h : Settled s) {x : Execution} (hbusy : ∀ w ∈ s'.busy, w ∈ s.busy)
    (hexecuted : s'.executed = s.executed ++ [x])
    (hx : x.ending = .returned ↔ ∀ e ∈ x.calls, ¬leaves e.1 e.2) : Settled s' := by
  refine ⟨fun c as t ht => h.answered c as t (hbusy _ ht), fun y hy => ?_⟩
  rw [hexecuted, List.mem_append, List.mem_singleton] at hy
  rcases hy with hy | rfl
  · exact h.executed y hy
  · exact hx

theorem Settled.step (h : Settled s) (hstep : Step s a s') : Settled s' := by
  have hsub {l₁ l₂ : List Work} {w : Work} (heq : s.busy = l₁ ++ w :: l₂) :
      ∀ w' ∈ l₁ ++ l₂, w' ∈ s.busy := by
    intro w' hw'
    rw [heq]
    rcases List.mem_append.mp hw' with hw' | hw'
    · exact List.mem_append_left _ hw'
    · exact List.mem_append_right _ (List.mem_cons_of_mem _ hw')
  cases hstep with
  | takeTask i c rest htasks hidle =>
    refine h.of_eq (fun c' as t ht => ?_) rfl
    simpa using ht
  | dispatch l₁ l₂ i c as rpc hbusy hi =>
    refine h.of_eq (fun c' as' t ht => hsub hbusy _ ?_) rfl
    simpa using ht
  | noCase l₁ l₂ i c hbusy hi => exact h.append (hsub hbusy) rfl (by simp)
  | answer l₁ l₂ c as ctx rpc q t reply hbusy hheap hreq hruns =>
    refine ⟨fun c' as' t' ht' => ?_, h.executed⟩
    rcases List.mem_append.mp ht' with hw | hw
    · exact h.answered c' as' t' (hsub hbusy _ (List.mem_append_left _ hw))
    · rcases List.mem_cons.mp hw with heq | hw
      · cases heq
        exact (settles_controller rpc q _ _ hruns).mp ⟨reply, rfl⟩
      · exact h.answered c' as' t' (hsub hbusy _ (List.mem_append_right _ hw))
  | throw l₁ l₂ c as ctx rpc q t err hbusy hheap hreq hruns =>
    refine h.append (hsub hbusy) rfl ?_
    rw [← settles_controller rpc q _ _ hruns]
    simp
  | finish l₁ l₂ c as t hbusy =>
    refine h.append (hsub hbusy) rfl ⟨fun _ => h.answered c as t ?_, fun _ => rfl⟩
    rw [hbusy]
    exact List.mem_append_right _ List.mem_cons_self
  | _ => exact h.of_eq (fun _ _ _ ht => ht) rfl

theorem settled (hs : Reachable vcaService s) : Settled s := by
  refine hs.invariant (I := Settled) (fun s hs => ?_) fun _ _ _ h hstep => h.step hstep
  obtain rfl := hs
  exact ⟨fun _ _ _ ht => (List.not_mem_nil ht).elim, fun _ hx => (List.not_mem_nil hx).elim⟩

/-- **Exactly when a call is answered.** An executed task has called `Finish` once and left its
context with status 2 if and only if no constructor and no operation it called was left by an
exception. -/
theorem executed_answered_iff (hs : Reachable vcaService s) {x : Execution}
    (hx : x ∈ s.executed) :
    (s.finished.count x.htc = 1 ∧ x.status = some 2) ↔ ∀ e ∈ x.calls, ¬leaves e.1 e.2 := by
  rw [← (settled hs).executed x hx]
  constructor
  · rintro ⟨hcount, -⟩
    cases hending : x.ending with
    | returned => rfl
    | threw =>
      have hzero := (recorded hs).thrown x hx hending
      omega
  · exact (recorded hs).answered x hx

/-- The request to shut down a machine that VirtualBox does not know. -/
def shutDownRequest : RequestSimple := ⟨1, "vm"⟩

/-- What `findMachine` throws then. -/
def objectNotFound : COMError := ⟨0x80BB0001⟩

/-- The call of `shutDown` that the exception leaves. -/
def shutDownThrown : ServerTrace :=
  [⟨.newQiVCA, .ok []⟩, ⟨.op (.shutDown "vm"), .error (.threw objectNotFound)⟩]

theorem shutDownRequest_throws :
    Runs (controller .VmCommon shutDownRequest) shutDownThrown
      (.error (.threw objectNotFound)) :=
  runs_call.mpr ⟨_, _, rfl, runs_call.mpr ⟨_, _, rfl, runs_exit.mpr ⟨rfl, rfl⟩⟩⟩

/-- The exception of `findMachine` leaves `shutDown`, and its call is never answered. -/
theorem shutDown_unanswered :
    Runs ((Op.shutDown "vm").prog .mute 0) [⟨.ptr (.findMachine "vm"), .error objectNotFound⟩]
      (.error (.threw objectNotFound)) ∧
    ∃ s x, Reachable vcaService s ∧ x ∈ s.executed ∧ x.calls = shutDownThrown ∧
      s.finished.count x.htc = 0 ∧ x.status = some 1 := by
  refine ⟨runs_call.mpr ⟨_, _, rfl, runs_exit.mpr ⟨rfl, rfl⟩⟩, ?_⟩
  obtain ⟨s, c, h⟩ := reaches_work .VmCommon shutDownRequest
  obtain ⟨ctx, hheap, hreq⟩ := h.heap
  have hthrow := h.reachable.of_restrict.step (Step.throw s [] [] c _ ctx _ _ _ _ h.busy hheap hreq
    shutDownRequest_throws)
  have hmem : (⟨c, .threw, status s c, shutDownThrown⟩ : Execution) ∈
      s.executed ++ [⟨c, .threw, status s c, shutDownThrown⟩] :=
    List.mem_append_right _ List.mem_cons_self
  have hplace : (⟨c, .called Rpc.VmCommon.requestType .VmCommon⟩ : Place) ∈ places s := by
    simp [places, h.busy, Work.place]
  obtain ⟨-, q, hq⟩ := (located h.reachable.of_restrict).placed.good _ hplace
  exact ⟨_, _, hthrow, hmem, rfl, (recorded hthrow).thrown _ hmem rfl,
    by simp [status, show s.heap c = _ from hq]⟩

/-- What the `Test` handler calls where both processes run. -/
def testCalls : ServerTrace :=
  [⟨.getProcessPidByName "VBoxXPCOMIPCD", (7 : Int)⟩,
    ⟨.getProcessPidByName "VBoxSVC", (8 : Int)⟩]

theorem test_runs : Runs (controller .Test ()) testCalls
    (.ok ⟨"Test", "VirtualizationCoreAPI Version 1.0.0", 1⟩) :=
  runs_call.mpr ⟨_, _, rfl, runs_call.mpr ⟨_, _, rfl, runs_ret.mpr ⟨rfl, rfl⟩⟩⟩

/-- A worker has set the status of a `Test` call, and its `Finish` is to come. -/
theorem reaches_answered : ∃ s c, Reachable (vcaService.restrict Alive) s ∧ s.main = .next ∧
    s.cq = [] ∧ s.finishing = [] ∧ s.dropped = [] ∧
    s.busy = [.answered c Rpc.Test.requestType testCalls] ∧
    ∃ h, s.heap c = some h ∧ h.req_ = some ⟨.Test, ()⟩ := by
  obtain ⟨s, c, h⟩ := reaches_work .Test ()
  obtain ⟨ctx, hheap, hreq⟩ := h.heap
  have hanswer := alive_step h.reachable
    (.answer s [] [] c _ ctx _ _ _ _ h.busy hheap hreq test_runs) trivial
  exact ⟨_, c, hanswer, h.main, h.cq, h.finishing, h.dropped, rfl, { ctx with status_ := 2 },
    by simp [modify, hheap], hreq⟩

/-- A `Test` call is answered. -/
theorem executed_answered_iff_test : ∃ (s : ServiceState) (x : Execution), x ∈ s.executed ∧
    x.calls = testCalls ∧ s.finished.count x.htc = 1 ∧ x.status = some 2 := by
  obtain ⟨s, c, hs, -, -, -, -, hbusy, -⟩ := reaches_answered
  have hfinish := hs.of_restrict.step (Step.finish s [] [] c _ _ hbusy)
  have hmem : (⟨c, .returned, status s c, testCalls⟩ : Execution) ∈
      s.executed ++ [⟨c, .returned, status s c, testCalls⟩] :=
    List.mem_append_right _ List.mem_cons_self
  exact ⟨_, _, hmem, rfl, (executed_answered_iff hfinish hmem).mpr
    (by simp [testCalls, leaves])⟩

/-! ## The main loop

An event is delivered with `ok` if its call was alive. The assertion of the loop is about the
others. -/

/-- Every event is, or will be, delivered with `ok`. -/
structure Delivered (s : ServiceState) : Prop where
  cq : ∀ e ∈ s.cq, e.ok = true
  taken : ∀ e, s.main = .taken e → e.ok = true
  alive : ∀ e, s.main ≠ .aborted e
  finishing : ∀ f ∈ s.finishing, f.1 ∉ s.dropped

/-- A step that delivers nothing new. -/
theorem Delivered.of_eq (h : Delivered s) (hcq : ∀ e ∈ s'.cq, e ∈ s.cq)
    (hmain : s'.main = s.main ∨ (∀ e, s'.main ≠ .taken e) ∧ ∀ e, s'.main ≠ .aborted e)
    (hfinishing : s'.finishing = s.finishing) (hdropped : s'.dropped = s.dropped) :
    Delivered s' := by
  refine ⟨fun e he => h.cq e (hcq e he), fun e he => ?_, fun e he => ?_, ?_⟩
  · rcases hmain with hmain | ⟨hmain, -⟩
    · exact h.taken e (hmain ▸ he)
    · exact absurd he (hmain e)
  · rcases hmain with hmain | ⟨-, hmain⟩
    · exact h.alive e (hmain ▸ he)
    · exact hmain e he
  · rw [hfinishing, hdropped]
    exact h.finishing

theorem Delivered.step (h : Delivered s) (halive : Alive s a) (hstep : Step s a s') :
    Delivered s' := by
  cases hstep with
  | arrive l₁ l₂ c rpc q harmed =>
    refine ⟨fun e he => ?_, h.taken, h.alive, h.finishing⟩
    rcases List.mem_append.mp he with he | he
    · exact h.cq e he
    · obtain rfl := List.mem_singleton.mp he
      rfl
  | drop c ctx hheap hreq =>
    refine ⟨h.cq, h.taken, h.alive, fun f hf hmem => ?_⟩
    rcases List.mem_append.mp hmem with hmem | hmem
    · exact h.finishing f hf hmem
    · obtain rfl := List.mem_singleton.mp hmem
      exact halive (List.mem_map_of_mem hf)
  | next l₁ l₂ e hmain hcq =>
    have hsub : ∀ e' ∈ l₁ ++ l₂, e' ∈ s.cq := by
      intro e' he'
      rw [hcq]
      rcases List.mem_append.mp he' with he' | he'
      · exact List.mem_append_left _ he'
      · exact List.mem_append_right _ (List.mem_cons_of_mem _ he')
    refine ⟨fun e' he' => h.cq e' (hsub e' he'), fun e' he' => ?_, nofun, h.finishing⟩
    cases he'
    exact h.cq e (by simp [hcq])
  | assertOk e hmain hok =>
    have htrue := h.taken e hmain
    simp [htrue] at hok
  | finish l₁ l₂ c as t hbusy =>
    refine ⟨h.cq, h.taken, h.alive, fun f hf => ?_⟩
    rcases List.mem_append.mp hf with hf | hf
    · exact h.finishing f hf
    · obtain rfl := List.mem_singleton.mp hf
      exact halive
  | complete l₁ l₂ c dead ok hfinishing hdead hok =>
    have hmem : (c, dead) ∈ s.finishing := by simp [hfinishing]
    refine ⟨fun e he => ?_, h.taken, h.alive, fun f hf => h.finishing f ?_⟩
    · rcases List.mem_append.mp he with he | he
      · exact h.cq e he
      · obtain rfl := List.mem_singleton.mp he
        -- the call has not died, so its completion is delivered with `ok`
        cases ok with
        | true => rfl
        | false => exact absurd (hok rfl) (h.finishing _ hmem)
    · rw [hfinishing]
      rcases List.mem_append.mp hf with hf | hf
      · exact List.mem_append_left _ hf
      · exact List.mem_append_right _ (List.mem_cons_of_mem _ hf)
  | registerRequest | enterLoop | delete | deleteNothing | handle | readDead | rearm
  | rearmNothing | enqueue =>
    exact h.of_eq (fun _ he => he) (.inr ⟨nofun, nofun⟩) rfl rfl
  | takeTask | dispatch | noCase | answer | throw =>
    exact h.of_eq (fun _ he => he) (.inl rfl) rfl rfl

theorem delivered (hs : Reachable (vcaService.restrict Alive) s) : Delivered s := by
  refine hs.invariant (I := Delivered) (fun s hs => ?_)
    fun s a s' h (hstep : Alive s a ∧ Step s a s') => h.step hstep.1 hstep.2
  obtain rfl := hs
  exact ⟨fun _ he => (List.not_mem_nil he).elim, nofun, nofun,
    fun _ hf => (List.not_mem_nil hf).elim⟩

/-- **The main loop survives.** In a run in which no call is dead when it is answered, or dies
meanwhile, `GPR_ASSERT` does not fail, and before `Next` every call of the service has a context
that waits for its next client. -/
theorem never_aborts (hs : Reachable (vcaService.restrict Alive) s) :
    (∀ e, s.main ≠ .aborted e) ∧ (s.main = .next → ∀ rpc, (unmet s rpc).length = 1) :=
  ⟨(delivered hs).alive, fun hmain rpc => by rw [unmet_length hmain, armed_once hs.of_restrict]⟩

/-- A client that drops its call before the answer stops the service. -/
theorem dropped_aborts : ∃ s e, Reachable vcaService s ∧ s.main = .aborted e := by
  obtain ⟨s, c, hs, hmain, hcq, hfinishing, -, hbusy, ctx, hheap, hreq⟩ := reaches_answered
  have hdrop := hs.of_restrict.step (Step.drop s c ctx hheap (by simp [hreq]))
  have hfinish := hdrop.step (Step.finish _ [] [] c _ _ hbusy)
  have hcomplete := hfinish.step (Step.complete _ [] [] c true false (by simp [hfinishing])
    (fun _ => rfl) fun _ => List.mem_append_right _ List.mem_cons_self)
  have htaken := hcomplete.step (Step.next _ [] [] ⟨c, .finish, false⟩ hmain (by simp [hcq]))
  exact ⟨_, _, htaken.step (Step.assertOk _ _ rfl rfl), rfl⟩

/-- The main loop survives the answer to a call that is alive. -/
theorem never_aborts_test : ∃ s : ServiceState, s.finished ≠ [] ∧ s.main = .next ∧
    ∀ rpc, (unmet s rpc).length = 1 := by
  obtain ⟨s, c, hs, hmain, -, -, hdropped, hbusy, -⟩ := reaches_answered
  have hfinish := alive_step hs (.finish s [] [] c _ _ hbusy) (by simp [Alive, hdropped])
  refine ⟨_, ?_, ?_, (never_aborts hfinish).2 hmain⟩
  · simp
  · exact hmain

end VcaService

end VirtCore
