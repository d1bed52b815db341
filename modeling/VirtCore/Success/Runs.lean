import VirtCore.Success.Core
import VirtCore.Success.Configure
import VirtCore.VBox.Calm

/-!
# VirtCore — truthful success of every operation

* **`OpRun.Succeeds`** — `true`, or `data = 1` from `startUp`.
* **`OpRun.Overlooked` / `OpRun.Noticed`** — a failure came that the operation overlooks, or one
  that it does not.
* **`op_honest`** — one operation; **`truthful_iff`** — the equivalence.
-/

namespace VirtCore


open Interact QiVCA VcaVmConfigure

variable {J : Jsoncpp} {ending : IProgress → Option Int}

/-- **One operation.** -/
theorem op_honest (J : Jsoncpp) (fuel : Nat) (op : Op) :
    Triple (noticeView ending op.notice) (fun s => Unaware s ∧ ¬s.slept ∧ s.data = none)
      (op.prog J fuel) (fun b s => Told (b = some true ∨ (b = none ∧ s.data = some 1)) s)
      Excused := by
  have hbool {N : Notice} {p : Vb Bool} {P : NoticeState → Prop}
      (hp : Triple (noticeView ending N) P p (fun b s => Told (b = true) s) Excused) :
      Triple (noticeView ending N) P (some <$> p)
        (fun b s => Told (b = some true ∨ (b = none ∧ s.data = some 1)) s) Excused :=
    Triple.map (hp.conseq (fun _ hs => hs) (fun _ s hs => by simpa using hs) fun _ _ hs => hs)
  have hplain {N : Notice} {p : Vb Bool} (hp : Honest ending N p) :
      Triple (noticeView ending N) (fun s => Unaware s ∧ ¬s.slept ∧ s.data = none) (some <$> p)
        (fun b s => Told (b = some true ∨ (b = none ∧ s.data = some 1)) s) Excused :=
    hbool (hp.conseq (fun _ hs => hs.1) (fun _ _ hs => hs) fun _ _ hs => hs)
  -- one lemma for each operation; `startUp` tells by its output, and `restoreSnapshot` may put to
  -- sleep
  cases op with
  | listVMs => exact hplain (listVMs_honest _ _)
  | startUp =>
    refine Triple.bind ((startUp_honest fuel _ _).conseq ?_ (fun _ _ h => h) fun _ _ h => h) ?_
    · exact fun _ hs => ⟨hs.1, hs.2.2⟩
    · exact fun _ => Triple.ret fun s hs => by simpa using hs
  | shutDown => exact hplain (consoleAction_honest _ _ _ _ _)
  | powerOff => exact hplain (powerOff_honest _)
  | pause => exact hplain (consoleAction_honest _ _ _ _ _)
  | resume => exact hplain (consoleAction_honest _ _ _ _ _)
  | vmSleep => exact hplain (vmSleep_honest _)
  | restart => exact hplain (consoleAction_honest _ _ _ _ _)
  | makeFloatDisk => exact hplain (makeFloatDisk_honest _ _ _ _ _)
  | addDiskToVm => exact hplain (addDiskToVm_honest _ _ _ _ _ _ _)
  | destroyFloatDiskWithoutAttach => exact hplain (destroyFloatDiskWithoutAttach_honest _)
  | detachDiskFromVm => exact hplain (detachDiskFromVm_honest _ _ _)
  | getVmInfo => exact hplain (getVmInfo_honest _ _)
  | getVmSnapshotInfo => exact hplain (getVmSnapshotInfo_honest _ _)
  | takeSnapshot => exact hplain (takeSnapshot_honest _ _)
  | restoreSnapshot =>
    refine hbool ((restoreSnapshot_honest fuel _ _).conseq ?_ (fun _ _ h => h) fun _ _ h => h)
    exact fun _ hs => ⟨hs.1, hs.2.1⟩
  | deleteSnapshot => exact hplain (deleteSnapshot_honest _ _)
  | cloneFullVM => exact hplain (cloneFullVM_honest _ _ _ _ _ _ _)
  | cloneLinkVM => exact hplain (cloneLinkVM_honest _ _ _ _)
  | createVMfromSystemdisk => exact hplain (createVMfromSystemdisk_honest _ _ _ _ _ _ _ _)
  | createVMfromISO => exact hplain (createVMfromISO_honest _)
  | deleteVM => exact hplain (deleteVM_honest _ _ _)
  | exportVM => exact hplain (exportVM_honest _ _ _ _ _)
  | importVM => exact hplain (importVM_honest _ _ _ _ _ _ _ _ _)
  | setBridge => exact hplain (noticed_tryReport (anyState_honest (bridge_clean _) _ _))
  | addBridge => exact hplain (poweredOff_honest (bridge_clean _) _ _)
  | setNat => exact hplain (noticed_tryReport (anyState_honest nat_clean _ _))
  | addNat => exact hplain (noticed_tryReport (poweredOff_honest nat_clean _ _))
  | setAdaptorMAC => exact hplain (noticed_tryReport (poweredOff_honest (setMAC_clean _) _ _))
  | disableAdaptor => exact hplain (noticed_tryReport (poweredOff_honest disable_clean _ _))
  | createSharefolder => exact hplain (createSharefolder_honest _ _ _ _ _ _ _)
  | removeSharedFolder => exact hplain (removeSharedFolder_honest _ _ _)
  | setSimpleRemoteDisplay => exact hplain (setSimpleRemoteDisplay_honest _ _ _ _ _ _)
  | getRdpInfo => exact hplain (getRdpInfo_honest _ _ _)
  | disableRDP => exact hplain (disableRDP_honest _ _)
  | resetCpuCount => exact hplain (resetLimit_honest _ _ _ _ _)
  | resetMemSize => exact hplain (resetLimit_honest _ _ _ _ _)
  | resetGraphics => exact hplain (resetGraphics_honest _ _ _ _ _ _)
  | setRecordingScreenConfig => exact hplain (setRecordingScreenConfig_honest _ _ _ _ _ _ _ _ _ _)
  | switchRecordingScreen => exact hplain (switchRecordingScreen_honest _ _ _ _)
  | addUSBController => exact hplain (addUSBController_honest _ _ _ _)
  | delUSBController => exact hplain (delUSBController_honest _ _ _)
  | setAudio => exact hplain (setAudio_honest _ _ _ _)
  | switchAudio => exact hplain (switchAudio_honest _ _ _)
  | addSerialPort => exact hplain (switchSerialPort_honest _ _ _ _)
  | delSerialPort => exact hplain (switchSerialPort_honest _ _ _ _)

/-! ## Executions -/

/-- A machine was seen in a state in which `restoreSnapshot` puts it to sleep. -/
def sleptIn (t : VbTrace) : Prop := ∃ e ∈ t, stateIn restoreSleeps e.1 e.2

/-- The operation reports success. -/
def OpRun.Succeeds (r : OpRun J) : Prop :=
  r.result = .ok (some true) ∨ (r.result = .ok none ∧ dataAfter r.trace = some 1)

/-- Where the operation reports success, every call succeeded and every task had completed with
code 0. -/
def OpRun.Truthful (ending : IProgress → Option Int) (r : OpRun J) : Prop :=
  r.Succeeds → ∀ e ∈ r.trace, ¬fails ending e.1 e.2

/-- A failure came that the operation overlooks. -/
def OpRun.Overlooked (ending : IProgress → Option Int) (r : OpRun J) : Prop :=
  ∃ before e later, r.trace = before ++ e :: later ∧ fails ending e.1 e.2 ∧
    r.op.notice.overlooks (sleptIn before) e.1 e.2

/-- A failure came that the operation does not overlook, or what tells of one. -/
def OpRun.Noticed (ending : IProgress → Option Int) (r : OpRun J) : Prop :=
  ∃ before e later, r.trace = before ++ e :: later ∧
    ((fails ending e.1 e.2 ∧ ¬r.op.notice.overlooks (sleptIn before) e.1 e.2) ∨
      r.op.notice.alarms e.1 e.2)

theorem sleptIn_cons (e : Event vboxSig) (t : VbTrace) :
    sleptIn (e :: t) ↔ stateIn restoreSleeps e.1 e.2 ∨ sleptIn t := by
  simp [sleptIn]

/-- What a split of a trace says about its first event or about the rest. -/
theorem exists_split_cons {P : VbTrace → Event vboxSig → Prop} (e : Event vboxSig)
    (t : VbTrace) : (∃ before e' later, e :: t = before ++ e' :: later ∧ P before e') ↔
      P [] e ∨ ∃ before e' later, t = before ++ e' :: later ∧ P (e :: before) e' := by
  constructor
  · rintro ⟨_ | ⟨e₀, before⟩, e', later, h, hP⟩
    · cases h
      exact .inl hP
    · cases h
      exact .inr ⟨before, e', later, rfl, hP⟩
  · rintro (hP | ⟨before, e', later, rfl, hP⟩)
    · exact ⟨[], e, t, rfl, hP⟩
    · exact ⟨e :: before, e', later, rfl, hP⟩

theorem noticeView_after (N : Notice) (s : NoticeState) (t : VbTrace) :
    (noticeView ending N).after s t =
      { overlooked := s.overlooked ∨ ∃ before e later, t = before ++ e :: later ∧
          fails ending e.1 e.2 ∧ N.overlooks (s.slept ∨ sleptIn before) e.1 e.2
        noticed := s.noticed ∨ ∃ before e later, t = before ++ e :: later ∧
          ((fails ending e.1 e.2 ∧ ¬N.overlooks (s.slept ∨ sleptIn before) e.1 e.2) ∨
            N.alarms e.1 e.2)
        slept := s.slept ∨ sleptIn t
        data := t.foldl (fun data e => dataNext data e.1) s.data } := by
  induction t generalizing s with
  | nil => simp [sleptIn]
  | cons e t ih =>
    have hnil : sleptIn [] = False := by simp [sleptIn]
    rw [View.after_cons, ih]
    simp only [noticeView_next, NoticeState.mk.injEq]
    -- a failure is this event or one behind it, with what has been put to sleep before
    refine ⟨?_, ?_, ?_, rfl⟩
    · rw [exists_split_cons, hnil, or_false, or_assoc]
      simp only [sleptIn_cons, or_assoc]
    · rw [exists_split_cons, hnil, or_false, or_assoc]
      simp only [sleptIn_cons, or_assoc]
    · rw [sleptIn_cons, or_assoc]

theorem noticeView_admits {N : Notice} {s : NoticeState} {t : VbTrace}
    (h : ∀ e ∈ t, coherent ending e.1 e.2) : (noticeView ending N).Admits s t := by
  induction t generalizing s with
  | nil => trivial
  | cons e t ih =>
    exact ⟨h e List.mem_cons_self, ih fun e' he' => h e' (List.mem_cons_of_mem e he')⟩

/-- How an execution ended, by what it overlooked and noticed. -/
theorem OpRun.outcome_told (r : OpRun J) (tasks : ∀ e ∈ r.trace, coherent ending e.1 e.2)
    (ended : r.result ≠ .error .spin) :
    (r.Succeeds → ¬r.Noticed ending) ∧
    (¬r.Succeeds → r.Overlooked ending → r.Noticed ending) := by
  have hout := (op_honest J r.fuel r.op).runs (s := ⟨False, False, False, none⟩)
    ⟨⟨id, id⟩, id, rfl⟩ r.runs (noticeView_admits tasks)
  have hoverlooked : ((noticeView ending r.op.notice).after ⟨False, False, False, none⟩
      r.trace).overlooked ↔ r.Overlooked ending := by
    rw [noticeView_after]
    simp only [false_or, OpRun.Overlooked]
  have hnoticed : ((noticeView ending r.op.notice).after ⟨False, False, False, none⟩
      r.trace).noticed ↔ r.Noticed ending := by
    rw [noticeView_after]
    simp only [false_or, OpRun.Noticed]
  have hdata :
    ((noticeView ending r.op.notice).after ⟨False, False, False, none⟩ r.trace).data =
      dataAfter r.trace := by rw [noticeView_after]; rfl
  unfold OpRun.Succeeds
  -- an abnormal end by its kind, and an answer
  revert hout ended
  rcases r.result with (_ | _ | _ | _) | b <;> intro ended hout
  · rw [outcome_error, excused_threw, hnoticed] at hout
    simp [hout]
  · rw [outcome_error, excused_nullUse, hnoticed, hoverlooked] at hout
    simpa using hout
  · rw [outcome_error, excused_noReturn, hnoticed, hoverlooked] at hout
    simpa using hout
  · exact (ended rfl).elim
  · rw [outcome_ok, Told, hnoticed, hoverlooked, hdata] at hout
    simpa using hout

/-- **Truthful success.** An execution that ends is truthful exactly where the operation overlooked
no failure, or noticed another one. -/
theorem truthful_iff (r : OpRun J) (tasks : ∀ e ∈ r.trace, coherent ending e.1 e.2)
    (ended : r.result ≠ .error .spin) :
    r.Truthful ending ↔ (r.Overlooked ending → r.Noticed ending) := by
  obtain ⟨hsuccess, hother⟩ := r.outcome_told tasks ended
  constructor
  · intro htruthful hoverlooked
    by_cases hs : r.Succeeds
    · obtain ⟨before, e, later, ht, hfails, -⟩ := hoverlooked
      exact (htruthful hs e (by rw [ht]; simp) hfails).elim
    · exact hother hs hoverlooked
  · intro h hs e he hfails
    obtain ⟨before, later, ht⟩ := List.append_of_mem he
    by_cases hover : r.op.notice.overlooks (sleptIn before) e.1 e.2
    · exact hsuccess hs (h ⟨before, e, later, ht, hfails, hover⟩)
    · exact hsuccess hs ⟨before, e, later, ht, .inl ⟨hfails, hover⟩⟩

/-- A start whose task ends with an error code. -/
abbrev failedLaunch : OpRun .mute := Op.play .mute 0 (calm .PoweredOff) (.startUp "vm" "gui")

/-- The environment of `failedLaunch`. -/
def launchFails : IProgress → Option Int := fun _ => some (-2147467259)

theorem failedLaunch_trace : failedLaunch.trace =
    [⟨.ptr (.findMachine "vm"), .ok (some ⟨0, .host⟩)⟩,
      ⟨.val (.state ⟨0, .host⟩), .ok .PoweredOff⟩,
      ⟨.ptr .session, .ok (some ⟨0⟩)⟩,
      ⟨.ptr (.launchVMProcess ⟨0, .host⟩ (some ⟨0⟩) "gui" ""), .ok (some ⟨0⟩)⟩,
      ⟨.cmd (.waitForCompletion ⟨0⟩ (-1)), .ok ()⟩,
      ⟨.cmd (.unlockMachine ⟨0⟩), .ok ()⟩,
      ⟨.release (.machine ⟨0, .host⟩), ()⟩,
      ⟨.putData 1, ()⟩] := rfl

theorem failedLaunch_coherent : ∀ e ∈ failedLaunch.trace, coherent launchFails e.1 e.2 := by
  rw [failedLaunch_trace]
  simp [launchFails]

theorem truthful_iff_failedLaunch :
    failedLaunch.Truthful launchFails ↔
      (failedLaunch.Overlooked launchFails → failedLaunch.Noticed launchFails) :=
  truthful_iff failedLaunch failedLaunch_coherent nofun

/-- **A launch that fails.** The task of `startUp` is waited for and ends with an error code;
`data` is 1 all the same. -/
theorem startUp_reports_success :
    ¬∀ (ending : IProgress → Option Int) (r : OpRun .mute),
      (∀ e ∈ r.trace, coherent ending e.1 e.2) → r.Truthful ending := by
  intro h
  have htruthful := h launchFails failedLaunch failedLaunch_coherent (.inr ⟨rfl, by decide⟩)
  rw [failedLaunch_trace] at htruthful
  simp [launchFails] at htruthful

end VirtCore
