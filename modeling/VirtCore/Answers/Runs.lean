import VirtCore.Answers.Core
import VirtCore.Answers.Configure
import VirtCore.VBox.Calm
import Mathlib.Algebra.Ring.Nat

/-!
# VirtCore — definite answers of every operation

An execution of an operation that takes the name of a machine ends with a definite answer exactly
where no answer it got was fatal to it.

* **`absentView` / `Declines`** — an operation that gets no answer about its machine can only
  decline with a message.
* **`OpRun.Definite`** — a result, and the data of `startUp`; a refusal with a message where
  there is no machine of the name.
* **`OpRun.Hurt`** — an answer of `Op.tolerance` came.
* **`op_copes`** — one operation; **`definite_iff`** — the equivalence.
-/

namespace VirtCore


open Interact QiVCA VcaVmConfigure

variable {J : Jsoncpp}

/-! ## Without a machine

An operation that is not told of its machine writes a message and returns `false`, or goes on and
uses the null pointer. Which of the two happens is said by the tolerances; here is the first half.
-/

/-- The message, where no answer about machine `n` arrives. -/
def absentView (n : String) : View vboxSig String where
  next message a _ := messageNext message a
  ok _ a _ := a ≠ .ptr (.findMachine n)

/-- A program that, without an answer about machine `n`, returns `false` with a message or does
not return. -/
abbrev Declines (n : String) (p : Vb Bool) : Prop :=
  Triple (absentView n) (fun _ => True) p (fun b message => b = false ∧ message ≠ "")
    fun _ _ => True

variable {n : String}

@[simp] theorem absentView_next (message : String) (a : Act) (x : a.Ans) :
    (absentView n).next message a x = messageNext message a := rfl

@[simp] theorem absentView_ok (message : String) (a : Act) (x : a.Ans) :
    (absentView n).ok message a x = (a ≠ .ptr (.findMachine n)) := rfl

theorem declines_find (k : COMPtr IMachine → Vb Bool) :
    Declines n (ptr (.findMachine n) >>= k) := by
  intro message _
  rw [wp_bind, wp_ptr]
  exact ⟨fun h => (h rfl).elim, fun _ h => (h rfl).elim, fun _ h => (h rfl).elim⟩

/-- The catch block does not return. -/
theorem declines_tryReport {fuel : Nat} {body : Vb Bool} (h : Declines n body) :
    Declines n (tryReport fuel body) := by
  refine triple_catchReport (I := fun _ => True) ?_ ?_ ?_ h fun _ _ => ?_
  · exact fun _ _ _ _ _ _ => trivial
  · exact fun _ _ _ => trivial
  · exact fun _ _ _ => trivial
  · exact Triple.exit fun _ _ => trivial

theorem declines_resetLimit (fuel : Nat) (inRange : Bool) {outOfRange : String}
    (hne : outOfRange ≠ "") (set : IMachine → Cmd) :
    Declines n (resetLimit fuel inRange outOfRange set n) := by
  refine declines_tryReport fun message _ => ?_
  cases inRange <;> simp [hne]

theorem declines_anyState (change : INetworkAdapter → Vb Unit) (slot : Int) :
    Declines n (anyState change n slot) := by
  intro message _
  simp [anyState]

theorem declines_poweredOff (change : INetworkAdapter → Vb Unit) (slot : Int) :
    Declines n (poweredOff change n slot) := by
  intro message _
  simp [poweredOff]

theorem declines_switchSerialPort (fuel : Nat) (slot : Int) (en : Bool) :
    Declines n (switchSerialPort fuel n slot en) := by
  refine declines_tryReport fun message _ => ?_
  simp [withMutable]

theorem recordingRangeError_ne {id w h fps kbps aq : Int} {message : String}
    (hmessage : recordingRangeError id w h fps kbps aq = some message) : message ≠ "" := by
  unfold recordingRangeError at hmessage
  intro hnil
  subst hnil
  revert hmessage
  repeat' split
  all_goals simp

theorem declines_vmSleep (n : String) : Declines n (vmSleep n) := by
  intro message _
  simp [vmSleep, vmSleepWith]

theorem declines_addDiskToVm (fuel : Nat) (d fmt c bf : String) (slot : Int) :
    Declines n (addDiskToVm fuel n d fmt c bf slot) := by
  unfold addDiskToVm
  split
  · intro message _
    simp
  split
  · intro message _
    simp
  · exact declines_find _

theorem declines_detachDiskFromVm (fuel : Nat) (slot : Int) :
    Declines n (detachDiskFromVm fuel n slot) := by
  intro message _
  simp [detachDiskFromVm]

theorem declines_resetGraphics (fuel : Nat) (ram mon : Int) (card : String) (en : Bool) :
    Declines n (resetGraphics fuel n ram mon card en) := by
  refine declines_tryReport fun message _ => ?_
  simp

theorem declines_setRecordingScreenConfig (fuel : Nat) (id : Int) (on : Bool) (base : String)
    (w h fps kbps aq : Int) :
    Declines n (setRecordingScreenConfig fuel n id on base w h fps kbps aq) := by
  refine declines_tryReport fun message _ => ?_
  cases hrange : recordingRangeError id w h fps kbps aq with
  | some text => simp [recordingRangeError_ne hrange]
  | none => simp

theorem declines_switchRecordingScreen (fuel : Nat) (id : Int) (on : Bool) :
    Declines n (switchRecordingScreen fuel n id on) := by
  refine declines_tryReport fun message _ => ?_
  simp

/-- **Without a machine.** A bool operation that gets no answer about its machine declines. -/
theorem op_declines (J : Jsoncpp) (fuel : Nat) (op : Op) (hop : op.looksUp = some n) :
    Triple (absentView n) (fun _ => True) (op.prog J fuel)
      (fun b message => b = none ∨ (b = some false ∧ message ≠ "")) fun _ _ => True := by
  have hmap {p : Vb Bool} (hp : Declines n p) : Triple (absentView n) (fun _ => True) (some <$> p)
      (fun b message => b = none ∨ (b = some false ∧ message ≠ "")) fun _ _ => True :=
    Triple.map (hp.conseq (fun _ h => h) (fun b _ h => .inr ⟨by rw [h.1], h.2⟩) fun _ _ h => h)
  -- the operations by how far they come before they look the machine up
  cases op <;> cases hop
  case startUp =>
    refine Triple.bind (Triple.of_calls (I := fun _ => True) ?_ (Prog.calls_true _)) fun _ => ?_
    · exact fun _ _ _ _ _ _ => trivial
    · exact Triple.ret fun _ _ => .inl rfl
  case shutDown | powerOff | pause | resume | restart | getVmInfo | getVmSnapshotInfo
      | takeSnapshot | deleteSnapshot | cloneFullVM =>
    exact hmap (declines_find _)
  case restoreSnapshot | cloneLinkVM | deleteVM | exportVM | createSharefolder
      | removeSharedFolder | setSimpleRemoteDisplay | getRdpInfo | disableRDP | addUSBController
      | delUSBController | setAudio | switchAudio =>
    exact hmap (declines_tryReport (declines_find _))
  case vmSleep => exact hmap (declines_vmSleep n)
  case addDiskToVm => exact hmap (declines_addDiskToVm _ _ _ _ _ _)
  case detachDiskFromVm => exact hmap (declines_detachDiskFromVm _ _)
  case setBridge | setNat => exact hmap (declines_tryReport (declines_anyState _ _))
  case addBridge => exact hmap (declines_poweredOff _ _)
  case addNat | setAdaptorMAC | disableAdaptor =>
    exact hmap (declines_tryReport (declines_poweredOff _ _))
  case resetCpuCount | resetMemSize => exact hmap (declines_resetLimit _ _ (by simp) _)
  case resetGraphics => exact hmap (declines_resetGraphics _ _ _ _ _)
  case setRecordingScreenConfig =>
    exact hmap (declines_setRecordingScreenConfig _ _ _ _ _ _ _ _ _)
  case switchRecordingScreen => exact hmap (declines_switchRecordingScreen _ _ _)
  case addSerialPort | delSerialPort => exact hmap (declines_switchSerialPort _ _ _)

/-! ## Definite answers

The view is evaluated over a trace, so that what it says of a program becomes a statement about
the execution: which of its answers was fatal, and with what remembered. -/

/-- How often the execution had to go round an unbounded loop again. -/
def waits (t : VbTrace) : Nat := (t.map fun e => waiting e.1 e.2).sum

/-- The memory of a tolerance after a trace. -/
def Tolerance.armed (tol : Tolerance) (t : VbTrace) : Prop :=
  t.foldl (fun armed e => tol.arms armed e.1 e.2) False

theorem answerView_after (tol : Tolerance) (s : AnswerState) (t : VbTrace) :
    (answerView tol).after s t =
      { coped := s.coped ∧ ∀ before e later, t = before ++ e :: later →
          ¬tol.fatal (before.foldl (fun armed e => tol.arms armed e.1 e.2) s.armed) e.1 e.2
        armed := t.foldl (fun armed e => tol.arms armed e.1 e.2) s.armed
        waits := s.waits + waits t
        message := t.foldl (fun message e => messageNext message e.1) s.message
        data := t.foldl (fun data e => dataNext data e.1) s.data } := by
  induction t generalizing s with
  | nil => simp [waits]
  | cons e t ih =>
    rw [View.after_cons, ih]
    simp only [answerView_next, waits, List.map_cons, List.sum_cons, List.foldl_cons,
      AnswerState.mk.injEq, and_true, true_and]
    refine ⟨propext ⟨?_, ?_⟩, Nat.add_assoc _ _ _⟩
    · rintro ⟨⟨hs, he⟩, ht⟩
      refine ⟨hs, fun before e' later h => ?_⟩
      -- a fatal answer is this one, or one of those behind it
      cases before with
      | nil =>
        cases h
        exact he
      | cons e₀ before =>
        cases h
        exact ht before e' later rfl
    · rintro ⟨hs, ht⟩
      exact ⟨⟨hs, ht [] e t rfl⟩, fun before e' later h =>
        ht (e :: before) e' later (congrArg (e :: ·) h)⟩

/-- The operations that take the name of a machine. -/
def Op.named : Op → Prop
  | .listVMs .. | .makeFloatDisk .. | .destroyFloatDiskWithoutAttach .. => False
  | _ => True

/-- **One operation.** It returns, and `startUp` assigns its data, exactly where no answer was
fatal. -/
theorem op_copes (J : Jsoncpp) (fuel : Nat) (op : Op) (hop : op.named) :
    Triple (answerView op.tolerance) (fun s => s.coped ∧ ¬s.armed ∧ s.data = none)
      (op.prog J fuel) (fun b s => s.coped ↔ b.isSome ∨ s.data.isSome) (Failed fuel) := by
  have harmed {tol : Tolerance} {p : Vb Bool} (hp : Triple (answerView tol)
        (fun s => s.coped ∧ ¬s.armed) p (fun _ s => s.coped) (Failed fuel)) :
      Triple (answerView tol) (fun s => s.coped ∧ ¬s.armed ∧ s.data = none) (some <$> p)
        (fun b s => s.coped ↔ b.isSome ∨ s.data.isSome) (Failed fuel) :=
    Triple.map (hp.conseq (fun _ hs => ⟨hs.1, hs.2.1⟩) (fun _ s hs => by simp [hs])
      fun _ _ hs => hs)
  have hplain {tol : Tolerance} {p : Vb Bool} (hp : Copes tol fuel p) :
      Triple (answerView tol) (fun s => s.coped ∧ ¬s.armed ∧ s.data = none) (some <$> p)
        (fun b s => s.coped ↔ b.isSome ∨ s.data.isSome) (Failed fuel) :=
    harmed (hp.conseq (fun _ hs => hs.1) (fun _ _ hs => hs) fun _ _ hs => hs)
  -- one lemma for each operation; `listVMs` and the two of the disks alone name no machine
  cases op with
  | listVMs => exact hop.elim
  | startUp =>
    refine Triple.bind ((startUp_copes fuel _ _).conseq ?_ (fun _ _ h => h) fun _ _ h => h) ?_
    · exact fun _ hs => ⟨hs.1, hs.2.2⟩
    · exact fun _ => Triple.ret fun s hs => by simp [hs]
  | shutDown => exact hplain (shutDown_copes _ _)
  | powerOff => exact hplain (powerOff_copes _ _)
  | pause => exact hplain (pause_copes _ _)
  | resume => exact hplain (resume_copes _ _)
  | vmSleep => exact hplain (vmSleep_copes _ _)
  | restart => exact hplain (restart_copes _ _)
  | makeFloatDisk => exact hop.elim
  | addDiskToVm => exact harmed (addDiskToVm_copes _ _ _ _ _ _ _)
  | destroyFloatDiskWithoutAttach => exact hop.elim
  | detachDiskFromVm => exact hplain (detachDiskFromVm_copes _ _ _)
  | getVmInfo => exact hplain (getVmInfo_copes _ _ _)
  | getVmSnapshotInfo => exact hplain (getVmSnapshotInfo_copes _ _ _)
  | takeSnapshot => exact harmed (takeSnapshot_copes _ _ _)
  | restoreSnapshot => exact hplain (restoreSnapshot_copes _ _ _)
  | deleteSnapshot => exact hplain (deleteSnapshot_copes _ _ _)
  | cloneFullVM => exact hplain (cloneFullVM_copes _ _ _ _ _ _ _)
  | cloneLinkVM => exact hplain (cloneLinkVM_copes _ _ _ _)
  | createVMfromSystemdisk => exact hplain (createVMfromSystemdisk_copes _ _ _ _ _ _ _ _)
  | createVMfromISO => exact harmed (createVMfromISO_copes _)
  | deleteVM => exact hplain (deleteVM_copes _ _ _)
  | exportVM => exact hplain (exportVM_copes _ _ _ _ _)
  | importVM => exact hplain (importVM_copes _ _ _ _ _ _ _ _ _)
  | setBridge => exact hplain (setBridge_copes _ _ _ _)
  | addBridge => exact hplain (addBridge_copes _ _ _ _)
  | setNat => exact hplain (setNat_copes _ _ _)
  | addNat => exact hplain (addNat_copes _ _ _)
  | setAdaptorMAC => exact hplain (setAdaptorMAC_copes _ _ _ _)
  | disableAdaptor => exact hplain (disableAdaptor_copes _ _ _)
  | createSharefolder => exact hplain (createSharefolder_copes _ _ _ _ _ _ _)
  | removeSharedFolder => exact hplain (removeSharedFolder_copes _ _ _)
  | setSimpleRemoteDisplay => exact hplain (setSimpleRemoteDisplay_copes _ _ _ _ _ _)
  | getRdpInfo => exact hplain (getRdpInfo_copes _ _ _)
  | disableRDP => exact hplain (disableRDP_copes _ _)
  | resetCpuCount => exact hplain (resetLimit_copes _ _ _ _ _)
  | resetMemSize => exact hplain (resetLimit_copes _ _ _ _ _)
  | resetGraphics => exact hplain (resetGraphics_copes _ _ _ _ _ _)
  | setRecordingScreenConfig => exact hplain (setRecordingScreenConfig_copes _ _ _ _ _ _ _ _ _ _)
  | switchRecordingScreen => exact hplain (switchRecordingScreen_copes _ _ _ _)
  | addUSBController => exact hplain (addUSBController_copes _ _ _ _)
  | delUSBController => exact hplain (delUSBController_copes _ _ _)
  | setAudio => exact hplain (setAudio_copes _ _ _ _)
  | switchAudio => exact hplain (switchAudio_copes _ _ _)
  | addSerialPort => exact hplain (switchSerialPort_copes _ _ _ _)
  | delSerialPort => exact hplain (switchSerialPort_copes _ _ _ _)

/-- A lookup that throws is fatal to every operation that makes one. -/
theorem lookup_fatal {op : Op} (hop : op.looksUp = some n) (armed : Prop) (err : COMError) :
    op.tolerance.fatal armed (.ptr (.findMachine n)) (.error err) := by
  cases op <;> cases hop <;> simp [Op.tolerance]

/-- Some answer was fatal to the operation. -/
def OpRun.Hurt (r : OpRun J) : Prop :=
  ∃ before e later, r.trace = before ++ e :: later ∧
    r.op.tolerance.fatal (r.op.tolerance.armed before) e.1 e.2

/-- The execution returned a result, or for `startUp` returned with its data assigned; where no
machine has the name that is looked up, the result is `false` and there is a message. -/
def OpRun.Definite (registered : String → Prop) (r : OpRun J) : Prop :=
  match r.result with
  | .ok (some b) => ∀ n, r.op.looksUp = some n → ¬registered n →
      b = false ∧ messageAfter r.trace ≠ ""
  | .ok none => (dataAfter r.trace).isSome
  | .error _ => False

theorem absentView_after (message : String) (t : VbTrace) :
    (absentView n).after message t =
      t.foldl (fun message e => messageNext message e.1) message := by
  induction t generalizing message with
  | nil => rfl
  | cons e t ih => exact ih _

theorem admits_absent {message : String} {t : VbTrace}
    (h : ∀ e ∈ t, e.1 ≠ .ptr (.findMachine n)) : (absentView n).Admits message t := by
  induction t generalizing message with
  | nil => trivial
  | cons e t ih =>
    exact ⟨h e List.mem_cons_self, ih fun e' he' => h e' (List.mem_cons_of_mem e he')⟩

theorem answerView_admits (tol : Tolerance) (s : AnswerState) (t : VbTrace) :
    (answerView tol).Admits s t := by
  induction t generalizing s with
  | nil => trivial
  | cons e t ih => exact ⟨trivial, ih _⟩

/-- How an execution ended, by the fatal answers it got. -/
theorem OpRun.outcome_hurt (r : OpRun J) (named : r.op.named) :
    match r.result with
    | .ok b => ¬r.Hurt ↔ b.isSome ∨ (dataAfter r.trace).isSome
    | .error e => (e = .spin ∧ r.fuel ≤ waits r.trace + 1) ∨ r.Hurt := by
  have hout := (op_copes J r.fuel r.op named).runs (s := ⟨True, False, 0, "", none⟩)
    ⟨trivial, id, rfl⟩ r.runs (answerView_admits _ _ _)
  -- what the view has not coped with is an answer that hurts
  have hcoped : ((answerView r.op.tolerance).after ⟨True, False, 0, "", none⟩ r.trace).coped ↔
      ¬r.Hurt := by
    rw [answerView_after]
    refine
      ⟨?_, fun h => ⟨trivial, fun before e later ht he => h ⟨before, e, later, ht, he⟩⟩⟩
    rintro ⟨-, h⟩ ⟨before, e, later, ht, he⟩
    exact h before e later ht he
  have hdata : ((answerView r.op.tolerance).after ⟨True, False, 0, "", none⟩ r.trace).data =
      dataAfter r.trace := by rw [answerView_after]; rfl
  have hwaits : ((answerView r.op.tolerance).after ⟨True, False, 0, "", none⟩ r.trace).waits =
      waits r.trace := by rw [answerView_after]; exact Nat.zero_add _
  revert hout
  rcases r.result with e | b
  · rw [outcome_error, Failed, hcoped, hwaits, Classical.not_not]
    exact id
  · rw [outcome_ok, hcoped, hdata]
    exact id

/-- Where the name is not registered and nothing was fatal, the machine was not looked up. -/
theorem OpRun.declined {r : OpRun J} {b : Bool} (hresult : r.result = .ok (some b))
    (hop : r.op.looksUp = some n)
    (lookups : ∀ x, ⟨.ptr (.findMachine n), x⟩ ∈ r.trace → ∃ err, x = .error err)
    (unhurt : ¬r.Hurt) : b = false ∧ messageAfter r.trace ≠ "" := by
  have habsent : ∀ e ∈ r.trace, e.1 ≠ .ptr (.findMachine n) := by
    rintro ⟨a, x⟩ hx rfl
    obtain ⟨err, rfl⟩ := lookups x hx
    obtain ⟨before, later, ht⟩ := List.append_of_mem hx
    exact unhurt ⟨before, _, later, ht, lookup_fatal hop _ err⟩
  have hout := (op_declines J r.fuel r.op hop).runs (s := "") trivial r.runs
    (admits_absent habsent)
  rw [hresult, outcome_ok, absentView_after] at hout
  rcases hout with h | ⟨h, hmessage⟩
  · cases h
  · exact ⟨Option.some.inj h, hmessage⟩

/-- **Definite answers.** Where `findMachine` throws for an unregistered name, and the execution
was given more rounds than it had to wait, it ends with a definite answer exactly where no answer
it got was fatal to it. -/
theorem definite_iff {registered : String → Prop} (r : OpRun J) (named : r.op.named)
    (lookups : ∀ n, ¬registered n → ∀ x, ⟨.ptr (.findMachine n), x⟩ ∈ r.trace →
      ∃ err, x = .error err)
    (patience : waits r.trace + 1 < r.fuel) : r.Definite registered ↔ ¬r.Hurt := by
  have hout := r.outcome_hurt named
  unfold OpRun.Definite
  cases hresult : r.result with
  | error e =>
    rw [hresult] at hout
    rcases hout with ⟨-, hfuel⟩ | hhurt
    · omega
    · simp [hhurt]
  | ok b =>
    rw [hresult] at hout
    cases b with
    | none => simpa using hout.symm
    | some b =>
      -- whoever returns has not been hurt, and a machine that is not there has been declined
      have hunhurt : ¬r.Hurt := hout.mpr (.inl rfl)
      refine ⟨fun _ => hunhurt, fun _ n hop hn => ?_⟩
      exact OpRun.declined hresult hop (lookups n hn) hunhurt

/-- A running machine is shut down, and every call succeeds. -/
theorem definite_iff_shutDown :
    (Op.play .mute 2 (calm .Running) (.shutDown "vm")).Definite (· = "vm") ↔
      ¬(Op.play .mute 2 (calm .Running) (.shutDown "vm")).Hurt := by
  have htrace : (Op.play .mute 2 (calm .Running) (.shutDown "vm")).trace =
      [⟨.ptr (.findMachine "vm"), .ok (some ⟨0, .host⟩)⟩,
        ⟨.val (.state ⟨0, .host⟩), .ok .Running⟩,
        ⟨.ptr .session, .ok (some ⟨0⟩)⟩,
        ⟨.cmd (.lockMachine ⟨0, .host⟩ (some ⟨0⟩) .Shared), .ok ()⟩,
        ⟨.ptr (.console ⟨0⟩), .ok (some ⟨⟨0⟩⟩)⟩,
        ⟨.cmd (.powerButton ⟨⟨0⟩⟩), .ok ()⟩,
        ⟨.cmd (.unlockMachine ⟨0⟩), .ok ()⟩,
        ⟨.release (.machine ⟨0, .host⟩), ()⟩] := rfl
  refine definite_iff _ trivial (fun n hn x hx => ?_) (by decide)
  rw [htrace] at hx
  simp at hx
  exact (hn hx.1).elim

/-- **No answer.** A powered-off machine is told to power off: every call succeeds, the message
is written, and the function ends without a return statement. -/
theorem powerOff_runs_off :
    ¬∀ r : OpRun .mute, r.op.named → (∀ n, n ≠ "vm" → ∀ x,
      ⟨.ptr (.findMachine n), x⟩ ∈ r.trace → ∃ err, x = .error err) →
      waits r.trace + 1 < r.fuel → r.Definite (· = "vm") := by
  intro h
  refine h (Op.play .mute 2 (calm .PoweredOff) (.powerOff "vm")) trivial ?_ (by decide)
  intro n hn x hx
  have htrace : (Op.play .mute 2 (calm .PoweredOff) (.powerOff "vm")).trace =
      [⟨.ptr (.findMachine "vm"), .ok (some ⟨0, .host⟩)⟩,
        ⟨.val (.state ⟨0, .host⟩), .ok .PoweredOff⟩,
        ⟨.put .callbackdata "Virtual machine state is saved of poweroff!", ()⟩,
        ⟨.release (.machine ⟨0, .host⟩), ()⟩] := rfl
  rw [htrace] at hx
  simp at hx
  exact (hn hx.1).elim

end VirtCore
