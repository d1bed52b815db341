import VirtCore.VBox.Rules
import VirtCore.VBox.Kinds
import VirtCore.Operation

/-!
# VirtCore — truthful success

A success is truthful where every libvbox call succeeded and every task had completed with code
0. An operation that goes on after a failure overlooks it; one that cannot succeed any more has
noticed it.

* **`fails`** — the answers that are failures. What becomes of a task is a fact about the
  environment: `ending` gives the code with which a task has completed by the time the operation
  returns.
* **`coherent`** — the calls about a task tell its ending.
* **`Notice`** — which failures an operation overlooks; **`Op.notice`** is the table.
* **`noticeView`** — the view: was a failure overlooked, was one noticed.
-/

namespace VirtCore


open Interact

/-! ## Failures

What counts as a failure is said by the answer alone: an error, a null pointer where there should
be an object, a task that ended otherwise than with code 0. -/

/-- The calls that return null where there is nothing to return. -/
def mayBeNull : PtrCall → Prop
  | .mediumParent _ => True
  | .snapshotParent _ => True
  | .attachmentMedium _ => True
  | .queryVirtualBoxErrorInfo _ => True
  | .nextError _ => True
  | _ => False

/-- The task that a call started, if it starts one. -/
def startedTask : (c : PtrCall) → c.Ifc → Option IProgress
  | .powerDown _, p => some p
  | .launchVMProcess .., p => some p
  | .saveState _, p => some p
  | .takeSnapshot .., p => some p
  | .restoreSnapshot .., p => some p
  | .deleteSnapshot .., p => some p
  | .cloneTo .., p => some p
  | .deleteConfig .., p => some p
  | .createBaseStorage .., p => some p
  | .deleteStorage _, p => some p
  | .read .., p => some p
  | .importMachines .., p => some p
  | .write .., p => some p
  | _, _ => none

/-- A failure: an error, a null pointer from a call that has something to return, or a task that
has not completed with code 0. -/
def fails (ending : IProgress → Option Int) : (a : Act) → a.Ans → Prop
  | .cmd _, .error _ => True
  | .val _, .error _ => True
  | .ptr _, .error _ => True
  | .ptr c, .ok none => ¬mayBeNull c
  | .ptr c, .ok (some o) => ∃ p, startedTask c o = some p ∧ ending p ≠ some 0
  | _, _ => False

/-- What the calls about a task say of its ending: to have waited for it without a limit, or to
have seen it completed, means that it has one, and the result code is the ending. -/
def coherent (ending : IProgress → Option Int) : (a : Act) → a.Ans → Prop
  | .cmd (.waitForCompletion p timeout), .ok _ => timeout = -1 → (ending p).isSome
  | .val (.completed p), .ok b => b = true → (ending p).isSome
  | .val (.resultCode p), .ok code => ending p = some code
  | _, _ => True

/-! ## The table

Most operations overlook nothing: they succeed only where every call has. The others drop a task
without asking how it ended, or go on without an object that they could not get; each of these is
a kind of calls. -/

/-- What an operation overlooks. `slept` is whether a machine was seen in a state in which
`restoreSnapshot` puts it to sleep; an `alarm` is no failure, but means that one is noticed. -/
structure Notice where
  overlooks : Prop → (a : Act) → a.Ans → Prop
  alarms : (a : Act) → a.Ans → Prop

/-- Overlook the tasks of some calls, and null pointers from some calls. -/
def overlooking (tasks nulls : PtrCall → Prop) : (a : Act) → a.Ans → Prop
  | .ptr c, .ok (some _) => tasks c
  | .ptr c, .ok none => nulls c
  | _, _ => False

/-- An operation that overlooks the tasks of some calls and null pointers from some calls. -/
def Notice.only (tasks nulls : PtrCall → Prop) : Notice where
  overlooks _ := overlooking tasks nulls
  alarms _ _ := False

/-- An operation that overlooks nothing. -/
abbrev Notice.full : Notice := .only (fun _ => False) fun _ => False

/-- The task of starting a machine. -/
def launchTask : PtrCall → Prop
  | .launchVMProcess .. => True
  | _ => False

/-- Of powering it down. -/
def powerDownTask : PtrCall → Prop
  | .powerDown _ => True
  | _ => False

/-- Of saving its state. -/
def saveStateTask : PtrCall → Prop
  | .saveState _ => True
  | _ => False

/-- Of taking a snapshot. -/
def takeSnapshotTask : PtrCall → Prop
  | .takeSnapshot .. => True
  | _ => False

/-- Of deleting one. -/
def deleteSnapshotTask : PtrCall → Prop
  | .deleteSnapshot .. => True
  | _ => False

/-- Of making a disk. -/
def createBaseStorageTask : PtrCall → Prop
  | .createBaseStorage .. => True
  | _ => False

/-- Of deleting one. -/
def deleteStorageTask : PtrCall → Prop
  | .deleteStorage _ => True
  | _ => False

/-- Of deleting the files of a machine. -/
def deleteConfigTask : PtrCall → Prop
  | .deleteConfig .. => True
  | _ => False

/-- The mutable machine, where an operation goes on without it. -/
def mutableNull : PtrCall → Prop
  | .sessionMachine _ => True
  | _ => False

/-- The description of an appliance, which `exportVM` drops. -/
def exportToNull : PtrCall → Prop
  | .exportTo .. => True
  | _ => False

/-- The screen that `switchRecordingScreen` does not use. -/
def screenNull : PtrCall → Prop
  | .getScreenSettings .. => True
  | _ => False

/-- The controller that `addUSBController` drops. -/
def addUSBNull : PtrCall → Prop
  | .addUSBController .. => True
  | _ => False

/-- `restoreSnapshot` looks at no task; the mutable machine it misses only where it puts the
machine to sleep. -/
def restoreOverlooks (slept : Prop) : (a : Act) → a.Ans → Prop
  | .ptr (.saveState _), .ok (some _) => True
  | .ptr (.restoreSnapshot ..), .ok (some _) => True
  | .ptr (.sessionMachine _), .ok none => slept
  | _, _ => False

/-- `addDiskToVm` goes on after an error of the attachment that has no description. -/
def Notice.addDisk : Notice where
  overlooks _ := attachError
  alarms a x := describedError a x ∨ noErrorInfo a x

/-- **What each operation overlooks.** Those that are not named overlook nothing. -/
def Op.notice : Op → Notice
  | .startUp .. => .only launchTask fun _ => False
  | .powerOff .. => .only powerDownTask powerDownTask
  | .vmSleep .. => .only saveStateTask mutableNull
  | .makeFloatDisk .. => .only createBaseStorageTask fun _ => False
  | .addDiskToVm .. => .addDisk
  | .destroyFloatDiskWithoutAttach .. => .only deleteStorageTask deleteStorageTask
  | .takeSnapshot .. => .only takeSnapshotTask fun _ => False
  | .restoreSnapshot .. => ⟨restoreOverlooks, fun _ _ => False⟩
  | .deleteSnapshot .. => .only deleteSnapshotTask fun _ => False
  | .cloneLinkVM .. => .only takeSnapshotTask mutableNull
  | .deleteVM .. => .only deleteConfigTask fun _ => False
  | .exportVM .. => .only (fun _ => False) exportToNull
  | .resetCpuCount .. | .resetMemSize .. | .resetGraphics .. | .setRecordingScreenConfig .. =>
    .only (fun _ => False) mutableNull
  | .switchRecordingScreen .. => .only (fun _ => False) screenNull
  | .addUSBController .. => .only (fun _ => False) addUSBNull
  | _ => .full

/-! ## The view

A failure is overlooked or noticed. An operation is truthful where it reports success only if none
was either. -/

/-- What has happened: a failure that was overlooked, one that was noticed, a machine that was put
to sleep, and the `data` of `startUp`. -/
structure NoticeState where
  overlooked : Prop
  noticed : Prop
  slept : Prop
  data : Option Int

/-- The view that reads a trace through a `Notice`; the answers about a task are to tell its
ending. -/
def noticeView (ending : IProgress → Option Int) (N : Notice) : View vboxSig NoticeState where
  next s a x :=
    { overlooked := s.overlooked ∨ (fails ending a x ∧ N.overlooks s.slept a x)
      noticed := s.noticed ∨ (fails ending a x ∧ ¬N.overlooks s.slept a x) ∨ N.alarms a x
      slept := s.slept ∨ stateIn QiVCA.restoreSleeps a x
      data := dataNext s.data a }
  ok _ a x := coherent ending a x

/-- How an operation may leave: a thrown error has been noticed, and where it ends otherwise it
overlooked nothing without noticing something. -/
def Excused : Exit → NoticeState → Prop
  | .threw _, s => s.noticed
  | .spin, _ => True
  | _, s => s.overlooked → s.noticed

/-- A result of an operation: success with nothing noticed, or no success and nothing overlooked
without something noticed. -/
def Told (success : Prop) (s : NoticeState) : Prop :=
  (success → ¬s.noticed) ∧ (¬success → s.overlooked → s.noticed)

/-- No failure so far. -/
def Unaware (s : NoticeState) : Prop := ¬s.overlooked ∧ ¬s.noticed

/-- A program that sees no failure from one end to the other. -/
abbrev Clean {α : Type} (ending : IProgress → Option Int) (N : Notice) (p : Vb α) : Prop :=
  Triple (noticeView ending N) Unaware p (fun _ s => Unaware s) Excused

/-- A program whose success tells what it noticed. -/
abbrev Honest (ending : IProgress → Option Int) (N : Notice) (p : Vb Bool) : Prop :=
  Triple (noticeView ending N) Unaware p (fun b s => Told (b = true) s) Excused

attribute [simp] mayBeNull startedTask fails coherent overlooking launchTask
  powerDownTask saveStateTask takeSnapshotTask deleteSnapshotTask createBaseStorageTask
  deleteStorageTask deleteConfigTask mutableNull exportToNull screenNull addUSBNull
  restoreOverlooks

variable {α : Type} {ending : IProgress → Option Int} {N : Notice}

@[simp] theorem only_overlooks (tasks nulls : PtrCall → Prop) (slept : Prop) :
    (Notice.only tasks nulls).overlooks slept = overlooking tasks nulls := rfl

@[simp] theorem only_alarms (tasks nulls : PtrCall → Prop) (a : Act) (x : a.Ans) :
    (Notice.only tasks nulls).alarms a x = False := rfl

@[simp] theorem addDisk_overlooks (slept : Prop) : Notice.addDisk.overlooks slept = attachError :=
  rfl

@[simp] theorem addDisk_alarms (a : Act) (x : a.Ans) :
    Notice.addDisk.alarms a x = (describedError a x ∨ noErrorInfo a x) := rfl

@[simp] theorem noticeView_next (s : NoticeState) (a : Act) (x : a.Ans) :
    (noticeView ending N).next s a x =
      { overlooked := s.overlooked ∨ (fails ending a x ∧ N.overlooks s.slept a x)
        noticed := s.noticed ∨ (fails ending a x ∧ ¬N.overlooks s.slept a x) ∨ N.alarms a x
        slept := s.slept ∨ stateIn QiVCA.restoreSleeps a x
        data := dataNext s.data a } := rfl

@[simp] theorem noticeView_ok (s : NoticeState) (a : Act) (x : a.Ans) :
    (noticeView ending N).ok s a x = coherent ending a x := rfl

@[simp] theorem excused_threw (err : COMError) (s : NoticeState) :
    Excused (.threw err) s = s.noticed := rfl

@[simp] theorem excused_nullUse (s : NoticeState) :
    Excused .nullUse s = (s.overlooked → s.noticed) := rfl

@[simp] theorem excused_noReturn (s : NoticeState) :
    Excused .noReturn s = (s.overlooked → s.noticed) := rfl

@[simp] theorem excused_spin (s : NoticeState) : Excused .spin s = True := rfl

@[simp] theorem told_true (s : NoticeState) : Told True s ↔ ¬s.noticed := by simp [Told]

@[simp] theorem told_false (s : NoticeState) : Told False s ↔ (s.overlooked → s.noticed) := by
  simp [Told]

/-- To run a program symbolically. -/
theorem unaware_of {p : Vb α} {R : α → NoticeState → Prop} {E : Exit → NoticeState → Prop}
    (h : ∀ slept data, wp (noticeView ending N) p (outcome R E) ⟨False, False, slept, data⟩) :
    Triple (noticeView ending N) Unaware p R E := by
  rintro ⟨overlooked, noticed, slept, data⟩ ⟨ho, hn⟩
  obtain rfl : overlooked = False := eq_false ho
  obtain rfl : noticed = False := eq_false hn
  exact h slept data

/-- After an error was noticed the catch block changes nothing. -/
theorem noticed_catchReport {P : NoticeState → Prop} {R : α → NoticeState → Prop}
    {fuel : Nat} {body : Vb α} {k : COMError → Bool → Vb α}
    (h : Triple (noticeView ending N) P body R Excused)
    (hk : ∀ err r, Triple (noticeView ending N) (·.noticed) (k err r) R Excused) :
    Triple (noticeView ending N) P (catchCOM body fun err => reportError fuel err >>= k err) R
      Excused := by
  refine triple_catchReport (fun s a x _ hs _ => .inl hs) (fun _ _ hs => hs) ?_ h hk
  rintro (_ | _ | _ | _) s (hs | hs)
  all_goals first | exact hs | exact fun _ => hs | trivial

/-- What was noticed stays noticed, whatever the program does. -/
theorem aware (p : Vb α) :
    Triple (noticeView ending N) (·.noticed) p (fun _ s => s.noticed) Excused := by
  have h : Triple (noticeView ending N) (·.noticed) p (fun _ s => s.noticed)
      fun _ s => s.noticed :=
    Triple.of_calls (fun s a x _ hs _ => .inl hs) (Prog.calls_true p)
  refine h.conseq (fun _ hs => hs) (fun _ _ hs => hs) ?_
  rintro (_ | _ | _ | _) s hs
  all_goals first | exact hs | exact fun _ => hs | trivial

/-- A `try` around the body of an operation: what it reports was noticed, and the operation does
not answer. -/
theorem noticed_tryReport {P : NoticeState → Prop} {R : Bool → NoticeState → Prop}
    {fuel : Nat} {body : Vb Bool} (h : Triple (noticeView ending N) P body R Excused) :
    Triple (noticeView ending N) P (tryReport fuel body) R Excused :=
  noticed_catchReport h fun _ _ => Triple.exit fun _ hs _ => hs

/-- A poll that ends changes nothing, and the task has an ending. -/
theorem pollCompleted_keeps {tasks nulls : PtrCall → Prop} (fuel : Nat) (p : IProgress)
    (s : NoticeState) : Triple (noticeView ending (.only tasks nulls)) (· = s)
      (pollCompleted fuel (some p)) (fun _ s' => s' = s ∧ (ending p).isSome) Excused := by
  obtain ⟨overlooked, noticed, slept, data⟩ := s
  refine triple_pollCompleted (P := fun _ s' => s' = _) fuel ?_ ?_ ?_ ?_
  · exact fun _ _ => trivial
  · rintro _ _ rfl
    simp
  · rintro _ _ rfl hok
    simpa using hok
  · rintro _ _ _ rfl _
    simp

/-- Two parts that overlook and notice nothing, one after the other. -/
theorem clean_bind {β : Type} {p : Vb α} {f : α → Vb β} (hp : Clean ending N p)
    (hf : ∀ a, Clean ending N (f a)) : Clean ending N (p >>= f) :=
  Triple.bind hp hf

/-- A loop of such parts. -/
theorem clean_fold {β γ : Type} {body : β → γ → Vb β} (l : List γ)
    (round : ∀ b x, Clean ending N (body b x)) (b : β) : Clean ending N (Prog.fold body b l) :=
  Triple.fold (fun _ s => Unaware s) (fun x _ b => round b x) b

/-- Such a part on a pointer; a null one ends the operation. -/
theorem clean_via {Ifc : Type} {p : COMPtr Ifc} {f : Ifc → Vb α}
    (hf : ∀ o, Clean ending N (f o)) : Clean ending N (via p f) :=
  triple_via (fun _ hs ho => (hs.1 ho).elim) hf

end VirtCore
