import VirtCore.Operation
import VirtCore.Protocol.Replies
import VirtCore.VBox.Calm
import Mathlib.Algebra.Ring.Nat

/-!
# VirtCore — the references and objects of a request

A `COMPtr` that a call returns owns one reference; its destructor releases it, its move assignment
overwrites what it held, and `Release()` releases a reference without clearing the pointer. A
handler makes its object with `new` and has no `delete`.

* **`acquired`** / **`pointers`** / **`released`** — the references that a function acquires,
  those its pointers hold at its end, and those that are released: by hand, and by the
  destructors.
* **`count_released`** — what is released by hand is released twice.
* **`MethodRun`** — a handler's execution, with what each of its calls does at VirtualBox.
* **`History`** — requests that were completed, and requests in flight.
* **`references_balanced_iff`** — exactly when everything is released once and destroyed.
-/

namespace VirtCore

open Interact VcaController

/-! ## The references of a function

Each pointer that a call returns is a reference, and each that a function gives back, by hand or
on its way out, is one less. -/

/-- A COM object that can be referred to. -/
inductive Interface where
  | virtualBoxClient
  | virtualBox
  | session (s : ISession)
  | machine (m : IMachine)
  | medium (d : IMedium)
  | attachment (a : IMediumAttachment)
  | appliance (a : IAppliance)
  | systemDescription (d : IVirtualSystemDescription)
  | console (c : IConsole)
  | VRDEServer (s : IVRDEServer)
  | VRDEServerInfo (i : IVRDEServerInfo)
  | progress (p : IProgress)
  | storageController (c : IStorageController)
  | networkAdapter (a : INetworkAdapter)
  | snapshot (s : ISnapshot)
  | recordingSettings (r : IRecordingSettings)
  | screenSettings (s : IRecordingScreenSettings)
  | USBController (c : IUSBController)
  | audioAdapter (a : IAudioAdapter)
  | serialPort (s : ISerialPort)
  | errorInfo (e : IVirtualBoxErrorInfo)
  | currentError (e : COMErrorInfo)
  deriving DecidableEq

/-- The object that a call returns a pointer to. -/
def PtrCall.interface : (c : PtrCall) → c.Ifc → Interface
  | .virtualBoxClient, _ => .virtualBoxClient
  | .virtualBox, _ => .virtualBox
  | .session, s => .session s
  | .findMachine .., m | .createMachine .., m | .sessionMachine .., m | .snapshotMachine .., m =>
    .machine m
  | .createMedium .., d | .openMedium .., d | .mediumParent .., d | .attachmentMedium .., d =>
    .medium d
  | .createAppliance, a => .appliance a
  | .console .., c => .console c
  | .VRDEServerInfo .., i => .VRDEServerInfo i
  | .powerDown .., p | .launchVMProcess .., p | .saveState .., p | .takeSnapshot .., p
  | .restoreSnapshot .., p | .deleteSnapshot .., p | .cloneTo .., p | .deleteConfig .., p
  | .createBaseStorage .., p | .deleteStorage .., p | .read .., p | .importMachines .., p
  | .write .., p => .progress p
  | .getStorageControllerByName .., c | .addStorageController .., c => .storageController c
  | .getNetworkAdapter .., a => .networkAdapter a
  | .currentSnapshot .., s | .findSnapshot .., s | .snapshotParent .., s => .snapshot s
  | .exportTo .., d => .systemDescription d
  | .VRDEServer .., s => .VRDEServer s
  | .recordingSettings .., r => .recordingSettings r
  | .addUSBController .., c => .USBController c
  | .audioAdapter .., a => .audioAdapter a
  | .getSerialPort .., s => .serialPort s
  | .getScreenSettings .., s => .screenSettings s
  | .queryVirtualBoxErrorInfo .., e | .nextError .., e => .errorInfo e

/-- The objects that the pointers of a list refer to. -/
def ValCall.interfaces : (c : ValCall) → c.Val → List Interface
  | .machines, ms => ms.filterMap (Option.map .machine)
  | .hardDisks, ds | .unregister .., ds => ds.filterMap (Option.map .medium)
  | .getMediumAttachmentsOfController .., as => as.filterMap (Option.map .attachment)
  | .virtualSystemDescriptions .., ds => ds.filterMap (Option.map .systemDescription)
  | _, _ => []

/-- The references that an answer brings. -/
def acquires : (a : Act) → a.Ans → List Interface
  | .ptr c, .ok (some x) => [c.interface x]
  | .val c, .ok x => c.interfaces x
  | .currentError, some e => [.currentError e]
  | _, _ => []

/-- `vboxError = vboxError->next()`: the pointer loses the reference that it held. It is the only
pointer that is assigned to while it is not null. -/
def overwrites : (a : Act) → a.Ans → Option Interface
  | .ptr (.nextError error), .ok _ => some (.errorInfo error)
  | _, _ => none

/-- The object of a `Release()`. -/
def Released.interface : Released → Interface
  | .virtualBox => .virtualBox
  | .virtualBoxClient => .virtualBoxClient
  | .machine m => .machine m
  | .medium d => .medium d

def releasesByHand : Act → Option Interface
  | .release o => some o.interface
  | _ => none

/-- What the pointers of a function hold after an answered call. -/
def pointersNext (held : List Interface) (e : Event vboxSig) : List Interface :=
  match overwrites e.1 e.2 with
  | some o => (held ++ acquires e.1 e.2).erase o
  | none => held ++ acquires e.1 e.2

/-- What the pointers of a function hold at its end. -/
def pointers (t : VbTrace) : List Interface := t.foldl pointersNext []

def acquired (t : VbTrace) : List Interface := t.flatMap fun e => acquires e.1 e.2

def byHand (t : VbTrace) : List Interface := t.filterMap fun e => releasesByHand e.1

/-- What is released by the end of a function: by hand, and by the destructors of its pointers. -/
def released (t : VbTrace) : List Interface := byHand t ++ pointers t

/-- Only a reference to an error is ever overwritten. -/
theorem count_pointers {o : Interface} (ho : ∀ error, o ≠ .errorInfo error) (t : VbTrace) :
    (pointers t).count o = (acquired t).count o := by
  have hnext (l : List Interface) (e : Event vboxSig) :
      (pointersNext l e).count o = l.count o + (acquires e.1 e.2).count o := by
    unfold pointersNext
    cases h : overwrites e.1 e.2 with
    | none => exact List.count_append
    | some o' =>
      -- only error information is overwritten, and that is not what is counted
      have hne : o' ≠ o := by
        rintro rfl
        unfold overwrites at h
        split at h
        · exact ho _ (Option.some.inj h).symm
        · cases h
      dsimp only
      rw [List.count_erase_of_ne hne.symm, List.count_append]
  have hfold (l : List Interface) :
      (t.foldl pointersNext l).count o = l.count o + (acquired t).count o := by
    unfold acquired
    induction t generalizing l with
    | nil => simp
    | cons e t ih =>
      rw [List.foldl_cons, ih, hnext, List.flatMap_cons, List.count_append]
      omega
  rw [pointers, hfold, List.count_nil, Nat.zero_add]

/-- **What is released by hand is released once too often.** -/
theorem count_released {o : Interface} (ho : ∀ error, o ≠ .errorInfo error) (t : VbTrace) :
    (released t).count o = (acquired t).count o + (byHand t).count o := by
  rw [released, List.count_append, count_pointers ho, Nat.add_comm]

/-! ## The methods

What a method makes and what it gives back is counted over its trace. -/

variable {J : Jsoncpp}

/-- The result that an operation has put out. -/
def resultAfter (t : VbTrace) : String :=
  t.foldl (fun result e => match e.1 with
    | .put .result value => value
    | _ => result) ""

/-- What the call of an operation leaves behind for the handler. -/
def OpRun.answer (r : OpRun J) : Except Exit OpReturn :=
  r.result.map fun ret => ⟨ret, messageAfter r.trace, resultAfter r.trace, dataAfter r.trace⟩

/-- What an answered call of a handler does at VirtualBox. -/
inductive Executes (J : Jsoncpp) : (c : ServerCall) → c.Ans → VbTrace → Prop where
  | newQiVCA {x : Except Exit (List (COMPtr IMachine))} {t : VbTrace}
      (runs : Runs QiVCA.QiVCA t x) : Executes J .newQiVCA x t
  | newVmConfigure {x : Except Exit (List (COMPtr IMachine))} {t : VbTrace}
      (runs : Runs VcaVmConfigure.vcaVmConfigure t x) : Executes J .newVmConfigure x t
  | op (r : OpRun J) : Executes J (.op r.op) r.answer r.trace
  | newMurderHook : Executes J .newMurderHook () []
  | newMonitor : Executes J .newMonitor () []
  | hook (hook : Hook) (ret : Bool) : Executes J (.hook hook) ret []
  | getHostInfo (info : Bool × String × String) : Executes J .getHostInfo info []
  | getProcessPidByName (name : String) (pid : Int) : Executes J (.getProcessPidByName name) pid []
  | indeterminate (data : Int) : Executes J .indeterminate data []

/-- The objects that an answered call of a handler makes. A constructor that throws makes none. -/
def makes : (c : ServerCall) → c.Ans → Nat
  | .newQiVCA, .ok _ => 1
  | .newVmConfigure, .ok _ => 1
  | .newMurderHook, _ => 1
  | .newMonitor, _ => 1
  | _, _ => 0

/-- The objects alive after a handler's calls: none of the handlers has a `delete`. -/
def objects (t : ServerTrace) : Nat := (t.map fun e => makes e.1 e.2).sum

/-- What is released by the end of a handler of what a call of it has acquired. An object keeps in
its members what its constructor acquired. -/
def releasedBy : (c : ServerCall) → c.Ans → VbTrace → List Interface
  | .newQiVCA, .ok _, _ => []
  | .newVmConfigure, .ok _, _ => []
  | _, _, t => released t

/-- An execution of a handler that has returned, with what its calls do at VirtualBox. -/
structure MethodRun (J : Jsoncpp) where
  rpc : Rpc
  request : rpc.Request
  calls : List (Event serverSig × VbTrace)
  reply : VcaReply
  runs : Runs (controller rpc request) (calls.map Prod.fst) (.ok reply)
  executes : ∀ c ∈ calls, Executes J c.1.1 c.1.2 c.2

namespace MethodRun

def trace (r : MethodRun J) : ServerTrace := r.calls.map Prod.fst

def acquired (r : MethodRun J) : List Interface := r.calls.flatMap fun c => VirtCore.acquired c.2

def released (r : MethodRun J) : List Interface :=
  r.calls.flatMap fun c => releasedBy c.1.1 c.1.2 c.2

/-- Every reference is released once, and every object is destroyed. -/
structure Balanced (r : MethodRun J) : Prop where
  references : ∀ o, r.released.count o = r.acquired.count o
  destroyed : objects r.trace = 0

end MethodRun

/-- A request whose handler has not returned: its calls so far are the first of an execution. -/
structure InFlight where
  rpc : Rpc
  request : rpc.Request
  trace : ServerTrace
  rest : ServerTrace
  outcome : Except Exit VcaReply
  runs : Runs (controller rpc request) (trace ++ rest) outcome

/-- The requests that were completed, and those in flight. -/
structure History (J : Jsoncpp) where
  completed : List (MethodRun J)
  inFlight : List InFlight

namespace History

/-- The objects that are alive. -/
def live (h : History J) : Nat :=
  (h.completed.map fun r => objects r.trace).sum + (h.inFlight.map fun r => objects r.trace).sum

/-- Every completed request is balanced, and no more objects are alive than requests are in
flight. -/
structure Balanced (h : History J) : Prop where
  completed : ∀ r ∈ h.completed, r.Balanced
  bounded : h.live ≤ h.inFlight.length

end History

/-! ## The objects of a handler

A handler makes its object at the start. Nothing in the service deletes it. -/

/-- A call that makes no object. -/
def MakesNone (c : ServerCall) : Prop := ∀ x, makes c x = 0

theorem call_makesNone {op : Op} {f : OpReturn → Server VcaReply}
    (hf : ∀ r, (f r).Calls MakesNone) : (call op >>= f).Calls MakesNone := by
  refine ⟨fun _ => rfl, fun x => ?_⟩
  cases x with
  | ok r => exact hf r
  | error e => trivial

theorem serve_makesNone {name : String} {c : ServerCall}
    (hc : (∃ op, c = .op op) ∨ ∃ hook, c = .hook hook) : (serve name c).Calls MakesNone := by
  rcases hc with ⟨op, rfl⟩ | ⟨hook, rfl⟩
  · by_cases hstart : ∃ n ui, op = .startUp n ui
    · obtain ⟨n, ui, rfl⟩ := hstart
      refine ⟨fun _ => rfl, fun data => call_makesNone fun r => ?_⟩
      dsimp only
      split <;> trivial
    · rw [serve_op fun n ui heq => hstart ⟨n, ui, heq⟩]
      split <;> exact call_makesNone fun _ => trivial
  · exact ⟨fun _ => rfl, fun _ => trivial⟩

/-- The switch of a handler makes no object. -/
theorem dispatch_makesNone (rpc : Rpc) (q : rpc.Request) (id : Int)
    (machines : List (COMPtr IMachine)) : (rpc.dispatch q id machines).Calls MakesNone := by
  unfold Rpc.dispatch
  split
  · trivial
  · split
    · trivial
    · exact serve_makesNone (operation_isOperation ‹_›)

theorem objects_of_calls {α : Type} {p : Server α} (hp : p.Calls MakesNone) {t : ServerTrace}
    {o : Except Exit α} (hr : Runs p t o) : objects t = 0 := by
  induction hr with
  | ret a => rfl
  | exit e => rfl
  | call c k x _ ih =>
    rw [objects, List.map_cons, List.sum_cons, hp.1 x, Nat.zero_add]
    exact ih (hp.2 x)

/-- A program that makes one object first, or leaves. -/
theorem objects_of_first {p : Server VcaReply} {c : ServerCall} {k : c.Ans → Server VcaReply}
    (hp : p = .call c k) (hk : ∀ x, (k x).Calls MakesNone)
    (hfirst : ∀ x, makes c x = 1 ∨ makes c x = 0 ∧ ∃ e, k x = .exit e) {t : ServerTrace}
    {o : Except Exit VcaReply} (hr : Runs p t o) :
    objects t ≤ 1 ∧ ∀ reply, o = .ok reply → objects t = 1 := by
  subst hp
  obtain ⟨x, t', rfl, hrest⟩ := runs_call.mp hr
  have hobjects : objects (⟨c, x⟩ :: t') = makes c x := by
    rw [objects, List.map_cons, List.sum_cons]
    exact congrArg (makes c x + ·) (objects_of_calls (hk x) hrest)
  rw [hobjects]
  rcases hfirst x with hone | ⟨hzero, e, hexit⟩
  · exact ⟨Nat.le_of_eq hone, fun _ _ => hone⟩
  · rw [hexit] at hrest
    obtain ⟨-, rfl⟩ := runs_exit.mp hrest
    exact ⟨by omega, nofun⟩

/-- The handlers but `Test` make one object, before anything else, or leave. -/
theorem controller_makes {rpc : Rpc} (hrpc : rpc ≠ .Test) (q : rpc.Request) {t : ServerTrace}
    {o : Except Exit VcaReply} (hr : Runs (controller rpc q) t o) :
    objects t ≤ 1 ∧ ∀ reply, o = .ok reply → objects t = 1 := by
  have hreturned {f : List (COMPtr IMachine) → Server VcaReply}
      (hf : ∀ machines, (f machines).Calls MakesNone)
      (x : Except Exit (List (COMPtr IMachine))) : (returned x >>= f).Calls MakesNone := by
    cases x with
    | ok machines => exact hf machines
    | error e => trivial
  cases hid : rpc.vcamethod q with
  | none =>
    cases rpc <;> simp only [Rpc.vcamethod, reduceCtorEq] at hid
    · exact (hrpc rfl).elim
    · -- `HostInfo` makes its object first, and so do the others below
      refine objects_of_first (c := .newMonitor) rfl (fun _ => ?_) (fun _ => .inl rfl) hr
      exact ⟨fun _ => rfl, fun _ => trivial⟩
  | some id =>
    have hdispatch := dispatch_makesNone rpc q id
    have heq := controller_eq hid
    cases rpc
    case Test => exact (hrpc rfl).elim
    case HostInfo => cases hid
    case P2P =>
      exact objects_of_first (c := .newMurderHook) heq (fun _ => hdispatch [])
        (fun _ => .inl rfl) hr
    case VmCommon | VmInstall | VmOperateSnapshot | VmClone | VmImpAndExp | VmExtends =>
      refine objects_of_first (c := .newQiVCA) heq (hreturned hdispatch) (fun x => ?_) hr
      cases x with
      | ok machines => exact .inl rfl
      | error e => exact .inr ⟨rfl, e, rfl⟩
    all_goals
      refine objects_of_first (c := .newVmConfigure) heq (hreturned hdispatch) (fun x => ?_) hr
      cases x with
      | ok machines => exact .inl rfl
      | error e => exact .inr ⟨rfl, e, rfl⟩

/-- `Test` asks for two process ids. -/
theorem test_calls {q : Unit} {t : ServerTrace} {o : Except Exit VcaReply}
    (hr : Runs (controller .Test q) t o) :
    ∃ pid pid', t = [⟨.getProcessPidByName "VBoxXPCOMIPCD", pid⟩,
      ⟨.getProcessPidByName "VBoxSVC", pid'⟩] := by
  obtain ⟨pid, t₁, rfl, hpid⟩ := runs_call.mp hr
  obtain ⟨pid', t₂, rfl, hreply⟩ := runs_call.mp hpid
  obtain ⟨rfl, -⟩ := runs_ret.mp hreply
  exact ⟨pid, pid', rfl⟩

theorem controller_makes_le (rpc : Rpc) (q : rpc.Request) {t : ServerTrace}
    {o : Except Exit VcaReply} (hr : Runs (controller rpc q) t o) : objects t ≤ 1 := by
  by_cases hrpc : rpc = .Test
  · subst hrpc
    obtain ⟨pid, pid', rfl⟩ := test_calls hr
    exact Nat.zero_le 1
  · exact (controller_makes hrpc q hr).1

/-- A request in flight has made one object at most. -/
theorem InFlight.objects_le (r : InFlight) : objects r.trace ≤ 1 := by
  have hall := controller_makes_le r.rpc r.request r.runs
  rw [objects, List.map_append, List.sum_append] at hall
  exact Nat.le_trans (Nat.le_add_right _ _) hall

/-! ## Balance

Only the method that makes no object is balanced whatever it is answered. -/

theorem releasedBy_nil (c : ServerCall) (x : c.Ans) : releasedBy c x [] = [] := by
  unfold releasedBy
  split <;> rfl

/-- `Test` acquires nothing and makes nothing. -/
theorem MethodRun.balanced_of_test (r : MethodRun J) (hrpc : r.rpc = .Test) : r.Balanced := by
  obtain ⟨rpc, q, calls, reply, hruns, hexecutes⟩ := r
  obtain rfl : rpc = .Test := hrpc
  obtain ⟨pid, pid', htrace⟩ := test_calls hruns
  -- looking up a process makes no call of libvbox
  have hnone : ∀ c ∈ calls, c.2 = [] := by
    rintro ⟨⟨c, x⟩, t⟩ hc
    have hmem : (⟨c, x⟩ : Event serverSig) ∈ calls.map Prod.fst := List.mem_map_of_mem hc
    have hexec := hexecutes _ hc
    rw [htrace] at hmem
    obtain ⟨name, rfl⟩ : ∃ name, c = .getProcessPidByName name := by
      simp only [List.mem_cons, List.not_mem_nil, or_false] at hmem
      rcases hmem with h | h
      · exact ⟨_, congrArg Sigma.fst h⟩
      · exact ⟨_, congrArg Sigma.fst h⟩
    cases hexec
    rfl
  refine ⟨fun o => ?_, ?_⟩
  · have hacquired : calls.flatMap (fun c => VirtCore.acquired c.2) = [] :=
      List.flatMap_eq_nil_iff.mpr fun c hc => by rw [hnone c hc]; rfl
    have hreleased : calls.flatMap (fun c => releasedBy c.1.1 c.1.2 c.2) = [] :=
      List.flatMap_eq_nil_iff.mpr fun c hc => by rw [hnone c hc, releasedBy_nil]
    show List.count o (calls.flatMap _) = List.count o (calls.flatMap _)
    rw [hacquired, hreleased]
  · show objects (calls.map Prod.fst) = 0
    rw [htrace]
    rfl

theorem sum_map_le {α : Type} {f : α → Nat} {n : Nat} {l : List α}
    (h : ∀ a ∈ l, f a ≤ n) : (l.map f).sum ≤ n * l.length := by
  induction l with
  | nil => exact Nat.zero_le _
  | cons a l ih =>
    have hhead := h a List.mem_cons_self
    have htail := ih fun b hb => h b (List.mem_cons_of_mem a hb)
    rw [List.map_cons, List.sum_cons, List.length_cons, Nat.mul_succ]
    omega

/-- **Exactly when everything is released once and destroyed**: no request but `Test` has been
completed. -/
theorem references_balanced_iff (h : History J) :
    h.Balanced ↔ ∀ r ∈ h.completed, r.rpc = .Test := by
  constructor
  · intro hbalanced r hr
    refine Decidable.byContradiction fun hrpc => ?_
    have hone := (controller_makes hrpc r.request r.runs).2 r.reply rfl
    have hzero := (hbalanced.completed r hr).destroyed
    rw [MethodRun.trace, hone] at hzero
    cases hzero
  · intro htest
    have hbalanced (r : MethodRun J) (hr : r ∈ h.completed) : r.Balanced :=
      r.balanced_of_test (htest r hr)
    refine ⟨hbalanced, ?_⟩
    have hcompleted := sum_map_le fun r hr => Nat.le_of_eq (hbalanced r hr).destroyed
    have hinFlight := sum_map_le fun (r : InFlight) (_ : r ∈ h.inFlight) => r.objects_le
    unfold History.live
    omega

/-- A machine that is running is told to shut down; every call succeeds. -/
def shutDownRun : OpRun .mute := Op.play .mute 0 (calm .Running) (.shutDown "vm")

/-- The calls of the constructor on a host without machines. -/
def constructed : VbTrace :=
  [⟨.ptr .virtualBoxClient, .ok (some ())⟩, ⟨.ptr .virtualBox, .ok (some ())⟩,
    ⟨.val .machines, .ok []⟩]

/-- The request to shut it down. -/
def shutDownRequest : MethodRun .mute where
  rpc := .VmCommon
  request := (⟨1, "vm"⟩ : RequestSimple)
  calls := [(⟨.newQiVCA, .ok []⟩, constructed),
    (⟨.op (.shutDown "vm"), shutDownRun.answer⟩, shutDownRun.trace)]
  reply := { vcamethod := "shutDown", code := 1 }
  runs := runs_call.mpr ⟨_, _, rfl, runs_call.mpr ⟨_, _, rfl, runs_ret.mpr ⟨rfl, rfl⟩⟩⟩
  executes := by
    intro c hc
    simp only [List.mem_cons, List.not_mem_nil, or_false] at hc
    rcases hc with rfl | rfl
    · refine .newQiVCA (runs_call.mpr ⟨_, _, rfl, runs_call.mpr ⟨_, _, rfl, ?_⟩⟩)
      exact runs_call.mpr ⟨_, _, rfl, runs_ret.mpr ⟨rfl, rfl⟩⟩
    · exact .op shutDownRun

/-- **Released twice.** `shutDown` finds the machine once; it is released by hand and again by the
destructor of its pointer. -/
theorem shutDown_unbalanced : ¬∀ h : History .mute, h.Balanced := by
  intro hclaim
  have hbalanced := (hclaim ⟨[shutDownRequest], []⟩).completed _ List.mem_cons_self
  have hcount := hbalanced.references (.machine ⟨0, .host⟩)
  have hacquired : shutDownRequest.acquired.count (.machine ⟨0, .host⟩) = 1 := by decide
  have hreleased : shutDownRequest.released.count (.machine ⟨0, .host⟩) = 2 := by decide
  omega

/-- A completed `Test`. -/
def testRequest : MethodRun .mute where
  rpc := .Test
  request := ()
  calls := [(⟨.getProcessPidByName "VBoxXPCOMIPCD", (7 : Int)⟩, []),
    (⟨.getProcessPidByName "VBoxSVC", (8 : Int)⟩, [])]
  reply := { vcamethod := "Test", code := 1, data := "VirtualizationCoreAPI Version 1.0.0" }
  runs := runs_call.mpr ⟨_, _, rfl, runs_call.mpr ⟨_, _, rfl, runs_ret.mpr ⟨rfl, rfl⟩⟩⟩
  executes := by
    intro c hc
    simp only [List.mem_cons, List.not_mem_nil, or_false] at hc
    rcases hc with rfl | rfl
    · exact .getProcessPidByName _ _
    · exact .getProcessPidByName _ _

theorem references_balanced_iff_test : (⟨[testRequest], []⟩ : History .mute).Balanced :=
  (references_balanced_iff _).mpr fun r hr => by
    obtain rfl := List.mem_singleton.mp hr
    rfl

end VirtCore
