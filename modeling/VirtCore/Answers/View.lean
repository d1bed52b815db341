import VirtCore.VBox.Rules
import VirtCore.VBox.Kinds
import VirtCore.Operation

/-!
# VirtCore — definite answers

Whether an operation answers at all depends on what VirtualBox answers to it. The view marks the
answers an operation does not cope with; the operations are then shown to answer exactly where
no answer was of that kind.

* **`Tolerance`** — the fatal answers of an operation. A few answers are fatal only after an
  earlier one (a null session that is used later), so there is one bit of memory.
* **`fatalUnless`** — the common case: every error is fatal, and every null pointer except those
  of the given calls.
* **`Op.tolerance`** — the table.
* **`answerView`** — the view: was any answer fatal, the message, and the `data` of `startUp`.
-/

namespace VirtCore


open Interact

/-- Which answers an operation does not survive. -/
structure Tolerance where
  fatal : Prop → (a : Act) → a.Ans → Prop
  arms : Prop → (a : Act) → a.Ans → Prop

/-- Every error is fatal, and a null pointer from every call that is not `fine`. -/
def fatalUnless (fine : PtrCall → Prop) (a : Act) (x : a.Ans) : Prop :=
  threwError a x ∨ nullUnless fine a x

/-! ## The null pointers that are noticed, or not used

A null pointer is used as a receiver sooner or later, unless the operation asks for it or has no
more use for it. For each operation, or for several that are alike, these are the calls after
which that is so; the names say which pointer it is. -/

/-- Every pointer of the operation is used without a check. -/
def noneFine : PtrCall → Prop := fun _ => False

/-- `powerOff` throws the progress object away. -/
def powerDownFine : PtrCall → Prop
  | .powerDown _ => True
  | _ => False

/-- The mutable machine is checked. -/
def mutableFine : PtrCall → Prop
  | .sessionMachine _ => True
  | _ => False

/-- `takeSnapshot` checks the mutable machine, and uses the session only in one of its branches. -/
def takeSnapshotFine : PtrCall → Prop
  | .session => True
  | .sessionMachine _ => True
  | _ => False

/-- The mutable machine and the snapshot of the given name are checked. -/
def snapshotFine : PtrCall → Prop
  | .sessionMachine _ => True
  | .findSnapshot .. => True
  | _ => False

/-- `cloneFullVM` checks the machine that is to become the clone. -/
def targetFine : PtrCall → Prop
  | .createMachine .. => True
  | _ => False

/-- `exportVM` throws the description away that `exportTo` returns. -/
def exportFine : PtrCall → Prop
  | .exportTo .. => True
  | _ => False

/-- `addDiskToVm` checks the disk, and uses the mutable machine only behind that, as
`addDiskFatal` says; in its error report a chain may end at once. -/
def addDiskFine : PtrCall → Prop
  | .sessionMachine _ => True
  | .openMedium .. => True
  | .queryVirtualBoxErrorInfo _ => True
  | .nextError _ => True
  | _ => False

/-- In the error report of `detachDiskFromVm` a chain may end at once. -/
def detachDiskFine : PtrCall → Prop
  | .queryVirtualBoxErrorInfo _ => True
  | .nextError _ => True
  | _ => False

/-- `createVMfromISO` checks the DVD; its controllers are looked at in `isoFatal`. -/
def isoFine : PtrCall → Prop
  | .openMedium .. => True
  | .addStorageController .. => True
  | _ => False

/-- A medium without a parent is the base of a chain. -/
def parentFine : PtrCall → Prop
  | .mediumParent _ => True
  | _ => False

/-- The network operations check the adapter of the slot. -/
def adapterFine : PtrCall → Prop
  | .getNetworkAdapter .. => True
  | _ => False

/-- `switchRecordingScreen` checks the mutable machine, and does not use the screen that it
fetches. -/
def switchRecordingFine : PtrCall → Prop
  | .sessionMachine _ => True
  | .getScreenSettings .. => True
  | _ => False

/-- Only the two types that are added use the mutable machine. -/
def addUSBFine (usbType : String) : PtrCall → Prop
  | .sessionMachine _ => ¬strcmpEq usbType "XHCI" ∧ ¬strcmpEq usbType "EHCI"
  | .addUSBController .. => True
  | _ => False

/-- The audio adapter and the serial port are checked. -/
def deviceFine : PtrCall → Prop
  | .audioAdapter _ => True
  | .getSerialPort .. => True
  | _ => False

/-! ## The table

Most operations fail with every error and with every null pointer that they do not check. The
others differ in a state that they refuse without an answer, in an error that they catch, or in a
null pointer that hurts only on one path; these have a kind of fatal answer of their own. -/

/-- A tolerance without memory. -/
def Tolerance.plain (fatal : (a : Act) → a.Ans → Prop) : Tolerance where
  fatal _ := fatal
  arms _ _ _ := False

/-- `powerOff` does not answer in the states it refuses. -/
def powerOffFatal (a : Act) (x : a.Ans) : Prop :=
  fatalUnless powerDownFine a x ∨ stateIn QiVCA.powerOffRefuses a x

/-- A null session hurts `takeSnapshot` only where the machine runs. -/
def takeSnapshotFatal (armed : Prop) (a : Act) (x : a.Ans) : Prop :=
  fatalUnless takeSnapshotFine a x ∨ (armed ∧ stateIn [.Running] a x)

/-- The session was null. -/
def takeSnapshotArms (armed : Prop) (a : Act) (x : a.Ans) : Prop := armed ∨ noSession a x

/-- Some errors are caught by the inner `try`, which needs the error information. The mutable
machine is used once the disk is open and the controller's name is known. -/
def addDiskFatal (storagecontroller : String) (armed : Prop) (a : Act) (x : a.Ans) : Prop :=
  (fatalUnless addDiskFine a x ∧ ¬attachError a x) ∨ noErrorInfo a x ∨
    (armed ∧ storagecontroller ∈ QiVCA.storageBus ∧ openedMedium a x)

/-- The mutable machine was null. -/
def addDiskArms (armed : Prop) (a : Act) (x : a.Ans) : Prop := armed ∨ noMutable a x

/-- The inner `try` catches the error of detaching, and needs the error information. -/
def detachDiskFatal (a : Act) (x : a.Ans) : Prop :=
  (fatalUnless detachDiskFine a x ∧ ¬detachError a x) ∨ noErrorInfo a x

/-- An unknown bus leaves the controller null. -/
def systemdiskFatal (storagebustype : String) (a : Act) (x : a.Ans) : Prop :=
  fatalUnless noneFine a x ∨ (QiVCA.storageBusOf storagebustype = none ∧ openedMedium a x)

/-- The controllers are used once the DVD is open. -/
def isoFatal (storagebustype : String) (armed : Prop) (a : Act) (x : a.Ans) : Prop :=
  fatalUnless isoFine a x ∨
    ((armed ∨ QiVCA.storageBusOf storagebustype = none) ∧ openedMedium a x)

/-- One of the two controllers was null. -/
def isoArms (armed : Prop) (a : Act) (x : a.Ans) : Prop := armed ∨ noController a x

/-- A medium's parent is asked for again after the null check. -/
def vmInfoFatal (armed : Prop) (a : Act) (x : a.Ans) : Prop :=
  fatalUnless parentFine a x ∨ (armed ∧ noParent a x) ∨ nullAttachment a x

/-- The port is asked of each attachment before its medium's parent. -/
def vmInfoArms (armed : Prop) : (a : Act) → a.Ans → Prop
  | .ptr (.mediumParent _), .ok (some _) => True
  | .val (.port _), _ => False
  | _, _ => armed

/-- **What each operation copes with.** Those that are not named check no pointer at all. -/
def Op.tolerance : Op → Tolerance
  | .powerOff .. => .plain powerOffFatal
  | .vmSleep .. => .plain (fatalUnless mutableFine)
  | .addDiskToVm _ _ _ c _ _ => ⟨addDiskFatal c, addDiskArms⟩
  | .detachDiskFromVm .. => .plain detachDiskFatal
  | .getVmInfo .. => ⟨vmInfoFatal, vmInfoArms⟩
  | .takeSnapshot .. => ⟨takeSnapshotFatal, takeSnapshotArms⟩
  | .restoreSnapshot .. | .deleteSnapshot .. => .plain (fatalUnless snapshotFine)
  | .cloneFullVM .. => .plain (fatalUnless targetFine)
  | .cloneLinkVM .. => .plain (fatalUnless mutableFine)
  | .createVMfromSystemdisk _ _ _ _ _ _ bus => .plain (systemdiskFatal bus)
  | .createVMfromISO _ _ _ _ _ _ _ _ bus _ => ⟨isoFatal bus, isoArms⟩
  | .exportVM .. => .plain (fatalUnless exportFine)
  -- `machine` is null at both ends, whatever is answered
  | .importVM .. => .plain fun _ _ => True
  | .setBridge .. | .addBridge .. | .setNat .. | .addNat .. | .setAdaptorMAC ..
  | .disableAdaptor .. => .plain (fatalUnless adapterFine)
  | .setSimpleRemoteDisplay .. | .disableRDP .. | .resetCpuCount .. | .resetMemSize ..
  | .resetGraphics .. | .setRecordingScreenConfig .. => .plain (fatalUnless mutableFine)
  | .switchRecordingScreen .. => .plain (fatalUnless switchRecordingFine)
  | .addUSBController _ _ ty => .plain (fatalUnless (addUSBFine ty))
  | .setAudio .. | .switchAudio .. | .addSerialPort .. | .delSerialPort .. =>
    .plain (fatalUnless deviceFine)
  | _ => .plain (fatalUnless noneFine)

/-! ## The view

A tolerance is read along a trace. The rules are those of the view, with an invariant that the
loops over tasks and over errors keep. -/

/-- What has been answered so far: no fatal answer yet, the bit of memory, the rounds of waiting,
and the two outputs. -/
structure AnswerState where
  coped : Prop
  armed : Prop
  waits : Nat
  message : String
  data : Option Int

/-- The answers that keep an unbounded loop going: a task that has not completed, and one more
error in a chain. -/
def waiting : (a : Act) → a.Ans → Nat
  | .val (.completed _), .ok false => 1
  | .ptr (.nextError _), .ok (some _) => 1
  | _, _ => 0

/-- The view that reads a trace through a tolerance. -/
def answerView (tol : Tolerance) : View vboxSig AnswerState where
  next s a x :=
    { coped := s.coped ∧ ¬tol.fatal s.armed a x
      armed := tol.arms s.armed a x
      waits := s.waits + waiting a x
      message := messageNext s.message a
      data := dataNext s.data a }
  ok _ _ _ := True

/-- An abnormal exit has a fatal answer behind it, or as many rounds of waiting as were
allowed. -/
def Failed (fuel : Nat) (e : Exit) (s : AnswerState) : Prop :=
  (e = .spin ∧ fuel ≤ s.waits + 1) ∨ ¬s.coped

/-- A program that returns exactly where no answer was fatal. -/
abbrev Copes {α : Type} (tol : Tolerance) (fuel : Nat) (p : Vb α) : Prop :=
  Triple (answerView tol) (·.coped) p (fun _ s => s.coped) (Failed fuel)

attribute [simp] fatalUnless noneFine powerDownFine mutableFine takeSnapshotFine snapshotFine
  targetFine exportFine addDiskFine detachDiskFine isoFine parentFine adapterFine
  switchRecordingFine addUSBFine deviceFine powerOffFatal takeSnapshotFatal takeSnapshotArms
  addDiskFatal addDiskArms detachDiskFatal systemdiskFatal isoFatal isoArms vmInfoFatal vmInfoArms
  waiting

@[simp] theorem plain_fatal (fatal : (a : Act) → a.Ans → Prop) (armed : Prop) :
    (Tolerance.plain fatal).fatal armed = fatal := rfl

@[simp] theorem plain_arms (fatal : (a : Act) → a.Ans → Prop) (armed : Prop) (a : Act)
    (x : a.Ans) : (Tolerance.plain fatal).arms armed a x = False := rfl

variable {α : Type} {tol : Tolerance} {fuel : Nat}

@[simp] theorem answerView_next (s : AnswerState) (a : Act) (x : a.Ans) :
    (answerView tol).next s a x =
      { coped := s.coped ∧ ¬tol.fatal s.armed a x
        armed := tol.arms s.armed a x
        waits := s.waits + waiting a x
        message := messageNext s.message a
        data := dataNext s.data a } := rfl

@[simp] theorem answerView_ok (s : AnswerState) (a : Act) (x : a.Ans) :
    (answerView tol).ok s a x = True := rfl

@[simp] theorem failed_threw (err : COMError) (s : AnswerState) :
    Failed fuel (.threw err) s ↔ ¬s.coped := by simp [Failed]

@[simp] theorem failed_nullUse (s : AnswerState) : Failed fuel .nullUse s ↔ ¬s.coped := by
  simp [Failed]

@[simp] theorem failed_noReturn (s : AnswerState) : Failed fuel .noReturn s ↔ ¬s.coped := by
  simp [Failed]

/-- To run a program symbolically: no answer was fatal so far. -/
theorem copes_of {p : Vb α} {R : α → AnswerState → Prop} {E : Exit → AnswerState → Prop}
    (h : ∀ armed waits message data, wp (answerView tol) p (outcome R E)
      ⟨True, armed, waits, message, data⟩) : Triple (answerView tol) (·.coped) p R E := by
  rintro ⟨coped, armed, waits, message, data⟩ hs
  obtain rfl : coped = True := eq_true hs
  exact h armed waits message data

/-- Once an answer was fatal it stays so, whatever the program does. -/
theorem lost (p : Vb α) :
    Triple (answerView tol) (¬·.coped) p (fun _ s => ¬s.coped) (Failed fuel) := by
  have h : Triple (answerView tol) (¬·.coped) p (fun _ s => ¬s.coped) fun _ s => ¬s.coped :=
    Triple.of_calls (fun s a x _ hs _ hcoped => hs hcoped.1) (Prog.calls_true p)
  exact h.conseq (fun _ hs => hs) (fun _ _ hs => hs) fun _ _ hs => .inr hs

/-- After a fatal answer nothing matters any more. -/
theorem copes_catchReport {P : AnswerState → Prop} {body : Vb α}
    {k : COMError → Bool → Vb α}
    (h : Triple (answerView tol) P body (fun _ s => s.coped) (Failed fuel))
    (hk : ∀ err r,
      Triple (answerView tol) (¬·.coped) (k err r) (fun _ s => s.coped) (Failed fuel)) :
    Triple (answerView tol) P (catchCOM body fun err => reportError fuel err >>= k err)
      (fun _ s => s.coped) (Failed fuel) := by
  refine triple_catchReport (fun s a x _ hs _ => ?_) (fun err s hs => ?_) ?_ h hk
  · exact fun hcoped => hs hcoped.1
  · exact (failed_threw err s).mp hs
  · rintro e s (hs | hs)
    · exact hs
    · exact .inr hs

/-- A `try` around the body of an operation: the handler ends without an answer, as a fatal answer
should. -/
theorem copes_tryReport {P : AnswerState → Prop} {body : Vb Bool}
    (h : Triple (answerView tol) P body (fun _ s => s.coped) (Failed fuel)) :
    Triple (answerView tol) P (tryReport fuel body) (fun _ s => s.coped) (Failed fuel) :=
  copes_catchReport h fun _ _ => Triple.exit fun _ hs => .inr hs

/-- Two parts that cope one after the other. -/
theorem copes_bind {β : Type} {p : Vb α} {f : α → Vb β} (hp : Copes tol fuel p)
    (hf : ∀ a, Copes tol fuel (f a)) : Copes tol fuel (p >>= f) :=
  Triple.bind hp hf

/-- A loop that leaves early is as good as one that does not. -/
theorem copes_forEach {β γ : Type} {body : γ → Vb (Option β)} {l : List γ}
    (round : ∀ x ∈ l, Copes tol fuel (body x)) : Copes tol fuel (Prog.forEach body l) := by
  have hround : ∀ x ∈ l, Triple (answerView tol) (·.coped) (body x)
      (fun r s => r.elim s.coped fun _ => s.coped) (Failed fuel) := fun x hx =>
    (round x hx).conseq (fun _ h => h) (fun r _ h => by cases r <;> exact h) fun _ _ h => h
  exact (Triple.forEach (R := fun _ s => s.coped) _ hround).conseq (fun _ h => h)
    (fun r _ h => by cases r <;> exact h) fun _ _ h => h

/-- A poll is answered "not yet", "done" or with an error. -/
theorem copes_pollCompleted {fatal : (a : Act) → a.Ans → Prop} {p : IProgress}
    (herr : ∀ err, fatal (.val (.completed p)) (.error err))
    (hok : ∀ b, ¬fatal (.val (.completed p)) (.ok b)) (fuel : Nat) :
    Copes (.plain fatal) fuel (pollCompleted fuel (some p)) := by
  refine (triple_pollCompleted (P := fun k s => AnswerState.coped s ∧ k ≤ s.waits) fuel
    ?_ ?_ ?_ ?_).conseq (fun s hs => ⟨hs, Nat.zero_le _⟩) (fun _ _ h => h) fun _ _ h => h
  · exact fun s hs => .inl ⟨rfl, Nat.le_succ_of_le hs.2⟩
  · exact fun k s hs => ⟨⟨hs.1, hok _⟩, Nat.succ_le_succ hs.2⟩
  · exact fun k s hs _ => ⟨hs.1, hok _⟩
  · exact fun err k s _ _ => .inr fun h => h.2 (herr err)

/-! ## Error reports

Describing an error makes calls of its own, which may fail in turn. Two operations go on after it,
so that it matters to them which of its answers are fatal. -/

/-- The tolerances of the two operations that go on after describing an error: what is fatal
meanwhile is an error, or that there is no information about the first one. -/
structure Describes (tol : Tolerance) : Prop where
  current : ∀ armed x, tol.fatal armed .currentError x ↔ x = none
  query : ∀ armed info x,
    tol.fatal armed (.ptr (.queryVirtualBoxErrorInfo info)) x ↔ ∃ err, x = .error err
  text : ∀ armed e x, tol.fatal armed (.val (.text e)) x ↔ ∃ err, x = .error err
  next : ∀ armed e x, tol.fatal armed (.ptr (.nextError e)) x ↔ ∃ err, x = .error err
  print : ∀ armed text, ¬tol.fatal armed (.print text) ()

/-- The chain of errors is followed to its end; each round that is not the last one counts as a
round of waiting. -/
theorem copes_printErrors (h : Describes tol) (e : COMPtr IVirtualBoxErrorInfo) :
    Copes tol fuel (printErrors fuel e) := by
  -- every round but the last one has seen another error in the chain
  have hrounds : Triple (answerView tol)
      (fun s => AnswerState.coped s ∧ 0 ≤ s.waits + if e.isSome then 0 else 1)
      (printErrors fuel e) (fun _ s => s.coped) (Failed fuel) := by
    refine Triple.iterate
      (fun k e s => AnswerState.coped s ∧ k ≤ s.waits + if e.isSome then 0 else 1) fuel
      (fun e s hs => ?_) (fun k e => ?_) e
    · refine .inl ⟨rfl, Nat.le_trans hs.2 ?_⟩
      split <;> omega
    · cases e with
      | none => exact Triple.ret fun _ hs => hs.1
      | some e =>
        rintro ⟨coped, armed, waits, message, data⟩ ⟨hs, hk⟩
        obtain rfl : coped = True := eq_true hs
        have hk : k ≤ waits := hk
        simp [h.text, h.print, h.next]
        exact hk
  exact hrounds.conseq (fun s hs => ⟨hs, Nat.zero_le _⟩) (fun _ _ hs => hs) fun _ _ hs => hs

/-- The whole report: the error information, the first error and the chain behind it. -/
theorem copes_reportError (h : Describes tol) (err : COMError) :
    Copes tol fuel (reportError fuel err) := by
  refine copes_of fun armed waits message data => ?_
  simp [reportError, h.current, h.query, h.print]
  exact fun _ e => (copes_printErrors h (some e)).use trivial (fun _ _ hs => hs) fun _ _ hs => hs

end VirtCore
