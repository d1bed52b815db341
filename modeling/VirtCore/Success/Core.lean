import VirtCore.Success.View

/-!
# VirtCore — truthful success of the operations of `QiVCA`

Each operation succeeds only where it noticed no failure, and where it overlooked one without
noticing another it does succeed.
-/

namespace VirtCore.QiVCA


open Interact

variable (J : Jsoncpp) (fuel : Nat) {ending : IProgress → Option Int}

/-! ## The machine list and the power operations

Of these, `startUp`, `powerOff` and `vmSleep` wait for a task, or not even that, and never ask for
its result. -/

/-- `listVMs` succeeds where it has read every name and every state. -/
theorem listVMs_honest (ms : List (COMPtr IMachine)) :
    Honest ending .full (listVMs J ms) := by
  refine Triple.bind (R := fun _ s => Unaware s) (unaware_of fun _ _ => by simp [Unaware])
    fun _ => ?_
  refine Triple.bind (clean_fold ms (fun names machine => ?_) _) fun names => ?_
  · exact clean_bind (clean_via fun m => unaware_of fun _ _ => by simp [Unaware])
      fun _ => Triple.ret fun _ hs => hs
  · refine Triple.bind (clean_fold names (fun map name => ?_) _) fun map => ?_
    · refine unaware_of fun _ _ => ?_
      simp [Unaware]
    · refine unaware_of fun _ _ => ?_
      simp

/-- `startUp` says with `data` whether it has started the machine; how its task ended it does not
ask. -/
theorem startUp_honest (n ui : String) :
    Triple (noticeView ending (.only launchTask fun _ => False))
      (fun s => Unaware s ∧ s.data = none) (startUp fuel n ui)
      (fun _ s => Told (s.data = some 1) s) Excused := by
  refine triple_catchReport (D := fun e s => Excused e s ∧ s.data = none)
    (I := fun s => s.noticed ∧ s.data = none) ?_ ?_ ?_ ?_ ?_
  · rintro s a x ha ⟨hs, hd⟩ -
    refine ⟨.inl hs, ?_⟩
    cases a <;> first | exact ha.elim | exact hd
  · exact fun _ _ hs => hs
  · rintro (_ | _ | _ | _) s (⟨hs, -⟩ | ⟨hs, -⟩)
    all_goals first | exact hs | exact fun _ => hs | trivial
  · -- the body, from a state in which nothing has happened
    rintro ⟨overlooked, noticed, slept, data⟩ ⟨⟨ho, hn⟩, rfl⟩
    obtain rfl : overlooked = False := eq_false ho
    obtain rfl : noticed = False := eq_false hn
    simp
  · rintro err r s ⟨hs, hd⟩
    simp [hs, hd]

/-- The four operations that act by the console overlook nothing. -/
theorem consoleAction_honest (states : List MachineState) (action : IConsole → Cmd)
    (wrongState : String) (notFound : COMPtr IMachine → Vb Unit) (n : String) :
    Honest ending .full (consoleAction states action wrongState notFound n) := by
  refine unaware_of fun slept data => ?_
  simp [consoleAction]
  exact (aware _).use trivial (fun _ _ hs _ => hs) fun _ _ hs => hs

/-- `powerOff` drops its task, null or not. -/
theorem powerOff_honest (n : String) :
    Honest ending (.only powerDownTask powerDownTask) (powerOff n) := by
  refine unaware_of fun slept data => ?_
  simp [powerOff]

/-- `vmSleep` does not ask how its task ended, and goes on without a mutable machine. -/
theorem vmSleep_honest (n : String) :
    Honest ending (.only saveStateTask mutableNull) (vmSleep n) := by
  refine unaware_of fun slept data => ?_
  simp [vmSleep, vmSleepWith]

/-! ## Disks -/

/-- `makeFloatDisk` waits for its task, and does not ask how it ended. -/
theorem makeFloatDisk_honest (n fmt bf : String) (size : Int) :
    Honest ending (.only createBaseStorageTask fun _ => False)
      (makeFloatDisk fuel n fmt bf size) := by
  unfold makeFloatDisk
  split
  · refine unaware_of fun slept data => ?_
    simp
  · refine unaware_of fun slept data => ?_
    simp
    refine fun disk p => (pollCompleted_keeps fuel p _).use rfl ?_ fun _ _ hs => hs
    rintro _ _ ⟨rfl, -⟩
    simp

/-- An error of the attachment is noticed exactly where it has a description. -/
theorem addDisk_reportError (err : COMError) :
    Triple (noticeView ending .addDisk) (¬·.noticed) (reportError fuel err)
      (fun described s => s.noticed ↔ described = true) Excused := by
  rintro ⟨overlooked, noticed, slept, data⟩ hn
  obtain rfl : noticed = False := eq_false hn
  simp [reportError]
  exact fun _ _ => (aware _).use trivial (fun _ _ hs => hs) fun _ _ hs => hs

/-- The inner `try` of `addDiskToVm`: where it goes on, it has noticed nothing, although attaching
may have failed. -/
theorem attachDisk_honest (m : IMachine) (ctl : IStorageController) (slot : Int)
    (disk : COMPtr IMedium) (path : String) :
    Triple (noticeView ending .addDisk) Unaware (attachDisk fuel (some m) (some ctl) slot disk path)
      (fun r s => r.elim (¬s.noticed) fun b => b = false ∧ s.noticed) Excused := by
  refine unaware_of fun slept data => ?_
  simp [attachDisk, wp_catchCOM]
  refine fun err => (addDisk_reportError fuel err).use id (fun described s hs => ?_) fun _ _ h => h
  cases described <;> simp [hs]

/-- `addDiskToVm` overlooks an error of attaching that has no description. -/
theorem addDiskToVm_honest (n d fmt c bf : String) (slot : Int) :
    Honest ending .addDisk (addDiskToVm fuel n d fmt c bf slot) := by
  unfold addDiskToVm
  split
  · exact unaware_of fun slept data => by simp
  split
  · exact unaware_of fun slept data => by simp
  · refine unaware_of fun slept data => ?_
    simp
    refine fun machine session m disk _ => ⟨by simp [attachDisk, wp_catchCOM], fun ctl => ?_⟩
    refine (attachDisk_honest fuel m ctl slot _ _).use ⟨id, id⟩ ?_ fun _ _ hs => hs
    rintro (_ | b) s hs
    · simp_all
    · simp [hs.1, hs.2]

/-- `destroyFloatDiskWithoutAttach` drops its task. -/
theorem destroyFloatDiskWithoutAttach_honest (u : String) :
    Honest ending (.only deleteStorageTask deleteStorageTask)
      (destroyFloatDiskWithoutAttach u) := by
  refine Triple.bind (R := fun _ s => Unaware s) (unaware_of fun _ _ => by simp [Unaware])
    fun disks => ?_
  refine Triple.bind (Triple.forEach (R := fun _ s => ¬NoticeState.noticed s) Unaware
    fun disk _ => ?_) fun r => ?_
  · refine unaware_of fun slept data => ?_
    cases disk <;> simp [Unaware]
  · cases r with
    | none => exact Triple.ret fun s hs => by simp [hs.2]
    | some _ => exact Triple.ret fun s hs => by simpa using hs

/-- `detachDiskFromVm` overlooks nothing. -/
theorem detachDiskFromVm_honest (n : String) (slot : Int) :
    Honest ending .full (detachDiskFromVm fuel n slot) := by
  refine unaware_of fun slept data => ?_
  simp [detachDiskFromVm, detachDisk, wp_catchCOM]
  exact fun _ _ _ => (aware _).use trivial (fun _ _ hs _ => hs) fun _ _ hs => hs

/-! ## Queries

A query that answers has read everything, so that its parts are clean: they overlook nothing, and
a failure ends them. -/

/-- One attachment. -/
theorem diskEntry_clean (attach : COMPtr IMediumAttachment) :
    Clean ending .full (diskEntry attach) := by
  refine unaware_of fun slept data => ?_
  cases attach with
  | none => simp [diskEntry]
  | some a => simp [diskEntry, Unaware]

/-- One adapter. -/
theorem netEntry_clean (json : Json) (adapter : COMPtr INetworkAdapter) :
    Clean ending .full (netEntry J json adapter) := by
  refine unaware_of fun slept data => ?_
  cases adapter with
  | none => simp [netEntry]
  | some a => simp [netEntry, Unaware]

/-- All attachments. -/
theorem diskInfo_clean (m : IMachine) : Clean ending .full (diskInfo J (some m)) := by
  refine clean_bind (unaware_of fun _ _ => by simp [Unaware]) fun medium => ?_
  exact clean_fold medium (fun _ attach => clean_bind (diskEntry_clean attach) fun _ =>
    Triple.ret fun _ hs => hs) _

/-- Fetching an adapter; a null one is a failure, though it is used later. -/
theorem getNetworkAdapter_honest (m : IMachine) (slot : Nat) (found : Prop) :
    Triple (noticeView ending .full) (fun s => ¬s.overlooked ∧ (¬s.noticed ↔ found))
      (via (some m) fun m => ptr (.getNetworkAdapter m slot) : Vb (COMPtr INetworkAdapter))
      (fun adapter s => ¬s.overlooked ∧ (¬s.noticed ↔ found ∧ adapter.isSome)) Excused := by
  rintro ⟨overlooked, noticed, slept, data⟩ ⟨ho, hn⟩
  simp_all

/-- All four adapters are fetched before the first one is used; a missing one ends the loop. -/
theorem networkInfo_clean (m : IMachine) : Clean ending .full (networkInfo J (some m)) := by
  have hadapter := @getNetworkAdapter_honest ending m
  have hfour : Triple (noticeView ending .full) (fun s => ¬s.overlooked ∧ (¬s.noticed ↔ True))
      (networkInfo J (some m)) (fun _ s => Unaware s) Excused := by
    refine Triple.bind (hadapter 0 True) fun a0 => Triple.bind (hadapter 1 _) fun a1 =>
      Triple.bind (hadapter 2 _) fun a2 => Triple.bind (hadapter 3 _) fun a3 => ?_
    -- a null adapter is used in its turn, and without one every round is clean
    -- a null adapter is used in its round of the loop, which nobody can miss
    by_cases hnull : none ∈ [a0, a1, a2, a3]
    · have hlost := Triple.fold_exit (v := noticeView ending .full) (E := Excused)
        (fun _ s => NoticeState.noticed s) (fun a _ json => aware (netEntry J json a)) hnull
        (fun _ => Triple.exit (e := Exit.nullUse) fun _ hs _ => hs) .null
      refine hlost.conseq (fun s hs => ?_) (fun _ _ hs => hs.elim) fun _ _ hs => hs
      obtain ⟨-, hs⟩ := hs
      refine Classical.not_not.mp fun hn => ?_
      rw [hs] at hn
      rcases a0 with _ | a0 <;> rcases a1 with _ | a1 <;> rcases a2 with _ | a2 <;>
        rcases a3 with _ | a3 <;> simp at hnull hn
    · refine (clean_fold [a0, a1, a2, a3] (fun json a => netEntry_clean J json a) _).conseq
        (fun s hs => ⟨hs.1, hs.2.mpr ?_⟩) (fun _ _ hs => hs) fun _ _ hs => hs
      rcases a0 with _ | a0 <;> rcases a1 with _ | a1 <;> rcases a2 with _ | a2 <;>
        rcases a3 with _ | a3 <;> simp at hnull ⊢
  exact hfour.conseq (fun s hs => ⟨hs.1, iff_true_intro hs.2⟩)
    (fun _ _ hs => hs) fun _ _ hs => hs

/-- `getVmInfo` overlooks nothing. -/
theorem getVmInfo_honest (n : String) : Honest ending .full (getVmInfo J n) := by
  refine unaware_of fun slept data => ?_
  simp [getVmInfo]
  refine ⟨by simp [diskInfo], fun m => ?_⟩
  refine (diskInfo_clean J m).use ⟨id, id⟩ (fun disks s hs => ?_) fun _ _ hs => hs
  refine (networkInfo_clean J m).use hs (fun adapters s hs => ?_) fun _ _ hs => hs
  simp [graphicsInfo, hs.1, hs.2]

/-- Nor does `getVmSnapshotInfo`. -/
theorem getVmSnapshotInfo_honest (n : String) :
    Honest ending .full (getVmSnapshotInfo J n) := by
  refine unaware_of fun slept data => ?_
  simp [getVmSnapshotInfo]

/-! ## Snapshots and clones

The tasks of the snapshot operations are waited for and not asked for their results; a full clone
is. -/

/-- `takeSnapshot` overlooks how its task ended. -/
theorem takeSnapshot_honest (n s : String) :
    Honest ending (.only takeSnapshotTask fun _ => False) (takeSnapshot n s) := by
  refine unaware_of fun slept data => ?_
  simp [takeSnapshot]

/-- `restoreSnapshot` overlooks how its tasks ended, and where it puts the machine to sleep also
that there was no mutable machine. -/
theorem restoreSnapshot_honest (n s : String) :
    Triple (noticeView ending ⟨restoreOverlooks, fun _ _ => False⟩)
      (fun s => Unaware s ∧ ¬s.slept) (restoreSnapshot fuel n s)
      (fun b s => Told (b = true) s) Excused := by
  refine noticed_tryReport ?_
  rintro ⟨overlooked, noticed, slept, data⟩ ⟨⟨ho, hn⟩, hs⟩
  obtain rfl : overlooked = False := eq_false ho
  obtain rfl : noticed = False := eq_false hn
  obtain rfl : slept = False := eq_false hs
  simp [vmSleepWith, restoreSleeps]
  grind

/-- `deleteSnapshot` overlooks how its task ended. -/
theorem deleteSnapshot_honest (n s : String) :
    Honest ending (.only deleteSnapshotTask fun _ => False) (deleteSnapshot n s) := by
  refine unaware_of fun slept data => ?_
  simp [deleteSnapshot]

/-- `cloneFullVM` reads the result of the clone, and overlooks nothing. -/
theorem cloneFullVM_honest (n bf t : String) (macs uuids disks : Bool) :
    Honest ending .full (cloneFullVM fuel n bf t macs uuids disks) := by
  refine unaware_of fun slept data => ?_
  simp [cloneFullVM]
  refine fun machine => ⟨?_, ?_⟩
  all_goals
    intro _ _ target p
    refine (pollCompleted_keeps fuel p _).use rfl ?_ fun _ _ hs => hs
    rintro _ _ ⟨rfl, -⟩ code hcode
    simp [Told, hcode]

/-- `cloneLinkVM` overlooks how its snapshot went, and goes on without one. -/
theorem cloneLinkVM_honest (n bf t : String) :
    Honest ending (.only takeSnapshotTask mutableNull) (cloneLinkVM fuel n bf t) := by
  refine noticed_tryReport (unaware_of fun slept data => ?_)
  simp
  refine fun machine => ⟨fun session => ⟨?_, ?_⟩, fun session => ⟨?_, ?_⟩⟩
  all_goals
    intros
    refine (pollCompleted_keeps fuel _ _).use rfl ?_ fun _ _ hs => hs
    rintro _ _ ⟨rfl, -⟩ code hcode
    simp +contextual [Told, hcode]

/-- `deleteVM` overlooks whether the files are gone. -/
theorem deleteVM_honest (n : String) (ty : Int) :
    Honest ending (.only deleteConfigTask fun _ => False) (deleteVM fuel n ty) := by
  refine noticed_tryReport (unaware_of fun slept data => ?_)
  cases cleanupMode ty <;> simp

/-- One round of `createVMfromSystemdisk`: it answers, or goes on with nothing overlooked and
nothing noticed. -/
theorem installSystemdisk_honest (n os : String) (cpu mem : Int) (bf d bus : String) :
    Triple (noticeView ending .full) Unaware (installSystemdisk n os cpu mem bf d bus)
      (fun r s => r.elim (Unaware s) fun b => Told (b = true) s) Excused := by
  refine unaware_of fun slept data => ?_
  cases h : storageBusOf bus <;> simp [installSystemdisk, addBusController, h, Unaware]

/-- `createVMfromSystemdisk` overlooks nothing. -/
theorem createVMfromSystemdisk_honest (n os : String) (cpu mem : Int) (bf d bus : String) :
    Honest ending .full (createVMfromSystemdisk fuel n os cpu mem bf d bus) := by
  refine noticed_tryReport (Triple.bind (Triple.forEach (R := fun b s => Told (b = true) s)
    Unaware fun iter _ => ?_) fun r => ?_)
  · split
    · exact installSystemdisk_honest n os cpu mem bf d bus
    · exact Triple.ret fun _ hs => hs
  · cases r with
    | none => exact Triple.ret fun s hs => by simp [hs.2]
    | some b => exact Triple.ret fun _ hs => hs

section

variable {n os : String} {cpu mem : Int} {bf : String} {size : Int} {iso fmt bus : String}
  {fix : Bool}

/-- The devices of an installation. -/
theorem installISODevices_honest (session : COMPtr ISession) (m : COMPtr IMachine)
    (disk : COMPtr IMedium) :
    Triple (noticeView ending .full) Unaware (installISODevices session m disk iso bus)
      (fun r s => r.elim (Unaware s) fun b => Told (b = true) s) Excused := by
  refine unaware_of fun slept data => ?_
  cases h : storageBusOf bus <;> cases session <;> cases m <;>
    simp [installISODevices, addBusController, h, Unaware]

/-- One round of `createVMfromISO`. -/
theorem installISO_honest :
    Triple (noticeView ending .full) Unaware (installISO n os cpu mem bf size iso fmt bus fix)
      (fun r s => r.elim (Unaware s) fun b => Told (b = true) s) Excused := by
  refine unaware_of fun slept data => ?_
  cases hpath : createVMfromISOPath n fmt bf with
  | none => simp [installISO, hpath, Unaware]
  | some path =>
    simp [installISO, hpath]
    intro session m disk progress _ code hcode hzero
    have hended : ¬¬ending progress = some 0 := fun h => h (hcode.trans (congrArg some hzero))
    exact installISODevices_honest _ _ _ _ ⟨id, hended⟩

/-- `createVMfromISO` reads the result of making the disk, and overlooks nothing. -/
theorem createVMfromISO_honest :
    Honest ending .full (createVMfromISO fuel n os cpu mem bf size iso fmt bus fix) := by
  refine noticed_tryReport (Triple.bind (Triple.forEach (R := fun b s => Told (b = true) s)
    Unaware fun iter _ => ?_) fun r => ?_)
  · split
    · refine Triple.forEach (R := fun b s => Told (b = true) s) Unaware fun iter_l _ => ?_
      split
      · exact installISO_honest
      · exact Triple.ret fun _ hs => hs
    · exact Triple.ret fun _ hs => hs
  · cases r with
    | none => exact Triple.ret fun s hs => by simp [hs.2]
    | some b => exact Triple.ret fun _ hs => hs

end

/-! ## Appliances -/

/-- `exportVM` reads the result of writing, and drops the description. -/
theorem exportVM_honest (n : String) (mac : Bool) (ty path : String) :
    Honest ending (.only (fun _ => False) exportToNull) (exportVM fuel n mac ty path) := by
  refine noticed_tryReport (unaware_of fun slept data => ?_)
  simp
  refine fun app => ⟨fun p => ?_, fun p => ?_⟩
  all_goals
    refine (pollCompleted_keeps fuel _ _).use rfl ?_ fun _ _ hs => hs
    rintro _ _ ⟨rfl, -⟩ code hcode
    simp +contextual [hcode, eq_comm]

/-- Printing overlooks nothing. -/
theorem printWarnings_keeps (warn : List String) :
    Triple (noticeView ending .full) (¬·.overlooked) (printWarnings fuel warn)
      (fun _ s => ¬s.overlooked) Excused := by
  refine Triple.iterate (fun _ _ s => ¬NoticeState.overlooked s) fuel (fun _ _ _ => trivial)
    (fun _ iter => ?_) warn
  rintro ⟨overlooked, noticed, slept, data⟩ ho
  obtain rfl : overlooked = False := eq_false ho
  cases iter <;> simp

/-- Nor does setting the values of an import. -/
theorem setImportValues_keeps (n os : String) (cpu mem : Int) (net : Bool) (bf : String)
    (desc : List (COMPtr IVirtualSystemDescription)) :
    Triple (noticeView ending .full) (¬·.overlooked) (setImportValues n os cpu mem net bf desc)
      (fun _ s => ¬s.overlooked) Excused := by
  refine Triple.fold (fun _ s => ¬NoticeState.overlooked s) (fun d _ values => ?_) _
  rintro ⟨overlooked, noticed, slept, data⟩ ho
  obtain rfl : overlooked = False := eq_false ho
  cases d <;> simp

/-- `importVM` never succeeds. -/
theorem importVM_honest (n ova : String) (mac : Bool) (os : String) (cpu mem : Int) (net : Bool)
    (bf : String) :
    Honest ending .full (importVM fuel n ova mac os cpu mem net bf) := by
  refine noticed_tryReport (unaware_of fun slept data => ?_)
  simp
  intro app progress _ code _ _ warn
  refine (printWarnings_keeps fuel warn).use id (fun _ s hs => ?_) fun _ _ hs => hs
  intro desc
  refine (setImportValues_keeps n os cpu mem net bf desc).use hs (fun _ s hs => ?_)
    fun _ _ hs => hs
  intro p
  refine (pollCompleted_keeps fuel p _).use rfl ?_ fun _ _ hs => hs
  rintro _ _ ⟨rfl, -⟩
  exact fun ho => (hs ho).elim

end VirtCore.QiVCA
