import VirtCore.Calls.Ordinary
import VirtCore.Core.Info
import VirtCore.Core.Snapshot
import VirtCore.Core.Install
import VirtCore.Core.Appliance

/-!
# VirtCore — what the operations of `QiVCA` call
-/

namespace VirtCore.QiVCA


open Interact

variable (J : Jsoncpp) (fuel : Nat)

/-! ## The machine list and the power operations

None of these starts a task for a snapshot or sets a limited resource, so that their calls are
found by running through them once. -/

/-- `listVMs` reads names and states. -/
theorem listVMs_ordinary (ms : List (COMPtr IMachine)) : Ordinary (listVMs J ms) := by
  refine only_bind (only_of (by simp)) fun _ => ?_
  refine only_bind (only_fold (fun machine _ names => ?_) _) fun names => ?_
  · exact only_bind (only_via fun m => only_of (by simp)) fun name => only_ret _
  · refine only_bind (only_fold (fun name _ map => only_of (by simp)) _) fun map => ?_
    exact only_of (by simp)

/-- `startUp` starts the machine, and its handler reports. -/
theorem startUp_ordinary (n ui : String) : Ordinary (startUp fuel n ui) :=
  only_catchCOM (only_of (by simp)) fun err =>
    only_bind (only_reportError reporting_ordinary fuel err) fun _ => only_ret _

/-- The four operations that act by the console, whatever the console does and whatever is done
without a machine. -/
theorem consoleAction_ordinary {A : IConsole → Cmd} {notFound : COMPtr IMachine → Vb Unit}
    (haction : ∀ c, ordinary (.cmd (A c)))
    (hnotFound : ∀ machine, Ordinary (notFound machine)) (states : List MachineState)
    (wrongState n : String) : Ordinary (consoleAction states A wrongState notFound n) := by
  refine only_of ?_
  simp [consoleAction]
  refine ⟨(hnotFound none).seq (fun _ => trivial) fun _ => trivial, fun _ st _ session c => ?_⟩
  exact haction c

/-- `shutDown` asks the console to press the power button. -/
theorem shutDown_ordinary (n : String) : Ordinary (shutDown n) :=
  consoleAction_ordinary (A := .powerButton) (fun _ => trivial)
    (fun m => only_of (by cases m <;> simp)) _ _ n

/-- `powerOff` starts the task of powering down. -/
theorem powerOff_ordinary (n : String) : Ordinary (powerOff n) := only_of (by simp [powerOff])

/-- `pause` asks the console to pause. -/
theorem pause_ordinary (n : String) : Ordinary (pause n) :=
  consoleAction_ordinary (A := .pause) (fun _ => trivial)
    (fun m => only_of (by cases m <;> simp)) _ _ n

/-- `resume` asks it to go on. -/
theorem resume_ordinary (n : String) : Ordinary (resume n) :=
  consoleAction_ordinary (A := .resume) (fun _ => trivial)
    (fun m => only_of (by cases m <;> simp)) _ _ n

/-- Saving the state, with an assignment that is ordinary itself. -/
theorem vmSleepWith_ordinary {assign : String → Vb Unit}
    (hassign : ∀ text, Ordinary (assign text))
    (n : String) : Ordinary (vmSleepWith assign n) := by
  refine only_bind (only_of (by simp)) fun machine => ?_
  cases machine with
  | none => exact only_bind (hassign _) fun _ => only_exit _
  | some m =>
    refine only_of ?_
    simp
    exact fun _ _ _ => (hassign _).seq (fun _ => trivial) fun _ => trivial

/-- `vmSleep` assigns to the message of its caller. -/
theorem vmSleep_ordinary (n : String) : Ordinary (vmSleep n) :=
  only_bind (vmSleepWith_ordinary (fun _ => only_of (by simp)) n) fun _ => only_ret _

/-- `restart` asks the console for a reset. -/
theorem restart_ordinary (n : String) : Ordinary (restart n) :=
  consoleAction_ordinary (A := .reset) (fun _ => trivial)
    (fun m => only_of (by cases m <;> simp)) _ _ n

/-! ## Disks -/

/-- Waiting for a task asks whether it has completed, and nothing else. -/
theorem pollCompleted_ordinary (progress : COMPtr IProgress) :
    Ordinary (pollCompleted fuel progress) :=
  only_pollCompleted (fun _ => trivial) fuel progress

/-- `makeFloatDisk` creates one disk, for a format that it knows. -/
theorem makeFloatDisk_ordinary (n fmt bf : String) (size : Int) :
    Ordinary (makeFloatDisk fuel n fmt bf size) := by
  unfold makeFloatDisk
  split
  · exact only_of (by simp)
  · refine only_of ?_
    simp
    exact fun disk p => (pollCompleted_ordinary fuel _).seq (by simp) (by simp)

/-- The inner `try` of `addDiskToVm`, with its report. -/
theorem attachDisk_ordinary (m : COMPtr IMachine) (ctl : COMPtr IStorageController) (slot : Int)
    (disk : COMPtr IMedium) (path : String) : Ordinary (attachDisk fuel m ctl slot disk path) := by
  refine only_catchCOM (only_of (by cases ctl <;> cases m <;> simp)) fun err =>
    only_bind (only_reportError reporting_ordinary fuel err) fun described => only_of ?_
  cases described <;> cases m <;> simp

/-- `addDiskToVm` locks the machine, opens a disk and attaches it. -/
theorem addDiskToVm_ordinary (n d fmt c bf : String) (slot : Int) :
    Ordinary (addDiskToVm fuel n d fmt c bf slot) := by
  unfold addDiskToVm
  -- the slot and the format are looked at before any call
  split
  · exact only_of (by simp)
  split
  · exact only_of (by simp)
  · refine only_of ?_
    simp
    refine fun machine session m disk _ => ⟨?_, fun ctl => ?_⟩
    all_goals
      refine (attachDisk_ordinary fuel (some m) _ slot _ _).seq (fun r => ?_) (by simp)
      cases r <;> simp

/-- `destroyFloatDiskWithoutAttach` goes through the disks and deletes one. -/
theorem destroyFloatDiskWithoutAttach_ordinary (u : String) :
    Ordinary (destroyFloatDiskWithoutAttach u) := by
  refine only_bind (only_of (by simp)) fun disks => ?_
  refine only_bind (only_forEach fun disk _ =>
    only_bind (only_via fun d => only_of (by simp)) fun id => only_of ?_) fun _ => only_ret _
  cases disk <;> simp

/-- The inner `try` of `detachDiskFromVm`. -/
theorem detachDisk_ordinary (m : COMPtr IMachine) (ctl : COMPtr IStorageController) (slot : Int) :
    Ordinary (detachDisk fuel m ctl slot) := by
  refine only_catchCOM (only_of (by cases ctl <;> cases m <;> simp)) fun err =>
    only_bind (only_reportError reporting_ordinary fuel err) fun _ => only_of ?_
  cases m <;> simp

/-- `detachDiskFromVm` locks the machine and detaches the disk of a slot. -/
theorem detachDiskFromVm_ordinary (n : String) (slot : Int) :
    Ordinary (detachDiskFromVm fuel n slot) := by
  refine only_of ?_
  simp [detachDiskFromVm]
  refine fun _ _ machine session m => ⟨?_, fun ctl => ?_⟩
  all_goals
    refine (detachDisk_ordinary fuel (some m) _ slot).seq (fun r => ?_) (by simp)
    cases r <;> simp

/-! ## Queries -/

/-- `getVmInfo` asks, and asks for no serial port. -/
theorem getVmInfo_ordinary (n : String) : Ordinary (getVmInfo J n) := by
  refine only_bind (only_of (by simp)) fun machine => ?_
  refine only_bind ?_ fun disks => only_bind ?_ fun adapters => only_bind ?_ fun graphics => ?_
  · refine only_bind (only_via fun m => only_of (by simp)) fun medium =>
      only_fold (fun attach _ _ => only_bind (only_of ?_) fun _ => only_ret _) _
    cases attach <;> simp [diskEntry]
  · have hadapter {slot : Nat} (hslot : slot ≤ 3) : Ordinary
        (via machine fun m => ptr (.getNetworkAdapter m slot) : Vb (COMPtr INetworkAdapter)) :=
      only_via fun m => only_of (by simp [hslot])
    refine only_bind (hadapter (by decide)) fun _ => only_bind (hadapter (by decide)) fun _ =>
      only_bind (hadapter (by decide)) fun _ => only_bind (hadapter (by decide)) fun _ =>
        only_fold (fun adapter _ json => only_of ?_) _
    cases adapter <;> simp [netEntry]
  · exact only_of (by cases machine <;> simp [graphicsInfo])
  · exact only_of (by cases machine <;> simp)

/-- `getVmSnapshotInfo` asks for snapshots, and takes none. -/
theorem getVmSnapshotInfo_ordinary (n : String) : Ordinary (getVmSnapshotInfo J n) :=
  only_of (by simp [getVmSnapshotInfo])

/-! ## Clones, creating and deleting

The two operations that create machines set their processors and their memory, without a limit;
what these calls have to be allowed by is left to the kind `E`. -/

/-- `cloneFullVM` copies the whole machine, for which it needs no snapshot. -/
theorem cloneFullVM_ordinary (n bf t : String) (macs uuids disks : Bool) :
    Ordinary (cloneFullVM fuel n bf t macs uuids disks) := by
  refine only_of ?_
  simp [cloneFullVM]
  exact fun machine path os target p => (pollCompleted_ordinary fuel _).seq (by simp) (by simp)

/-- `deleteVM` unregisters the machine and deletes what is left of it. -/
theorem deleteVM_ordinary (n : String) (ty : Int) : Ordinary (deleteVM fuel n ty) := by
  refine only_tryReport reporting_ordinary (only_of ?_)
  cases cleanupMode ty <;> simp

section

variable {E : Act → Prop}

/-- One round of `createVMfromSystemdisk`. -/
theorem installSystemdisk_also {cpu mem : Int}
    (hcpu : ∀ m, E (.cmd (.setCPUCount m (uint32 cpu))))
    (hmem : ∀ m, E (.cmd (.setMemorySize m (uint32 mem)))) (n os bf d bus : String) :
    Only (also E) (installSystemdisk n os cpu mem bf d bus) := by
  refine only_of ?_
  cases h : storageBusOf bus <;> simp [installSystemdisk, addBusController, h, hcpu, hmem]

/-- `createVMfromSystemdisk` sets the resources only where it knows the system, so that `E` need
not allow them elsewhere. -/
theorem createVMfromSystemdisk_also {os : String} {cpu mem : Int}
    (hset : osType.any (strcmpEq os) → ∀ m, E (.cmd (.setCPUCount m (uint32 cpu))) ∧
      E (.cmd (.setMemorySize m (uint32 mem)))) (n bf d bus : String) :
    Only (also E) (createVMfromSystemdisk fuel n os cpu mem bf d bus) := by
  refine only_tryReport reporting_also
    (only_bind (only_forEach fun iter hiter => ?_) fun _ => only_ret _)
  split
  case isTrue heq =>
    have hset := hset (List.any_eq_true.mpr ⟨iter, hiter, heq⟩)
    exact installSystemdisk_also (fun m => (hset m).1) (fun m => (hset m).2) n os bf d bus
  case isFalse => exact only_ret _

/-- The devices of a machine that is installed from a DVD. -/
theorem installISODevices_also (session : COMPtr ISession) (m disk) (iso bus : String) :
    Only (also E) (installISODevices session m disk iso bus) := by
  refine Only.also (only_of ?_)
  cases h : storageBusOf bus <;> cases session <;> cases m <;>
    simp [installISODevices, addBusController, h]

/-- One round of `createVMfromISO`. -/
theorem installISO_also {cpu mem : Int} (hcpu : ∀ m, E (.cmd (.setCPUCount m (uint32 cpu))))
    (hmem : ∀ m, E (.cmd (.setMemorySize m (uint32 mem)))) (n os bf : String) (size : Int)
    (iso fmt bus : String) (fix : Bool) :
    Only (also E) (installISO n os cpu mem bf size iso fmt bus fix) := by
  refine only_of ?_
  cases hpath : createVMfromISOPath n fmt bf with
  | none => simp [installISO, hpath, hcpu, hmem]
  | some path =>
    simp [installISO, hpath, hcpu, hmem]
    exact fun session m disk => installISODevices_also _ _ _ iso bus _ trivial

/-- `createVMfromISO` sets the resources only where it knows the system and the format. -/
theorem createVMfromISO_also {os fmt : String} {cpu mem : Int}
    (hset : osType.any (strcmpEq os) → mediaType.any (strcmpEq fmt) → ∀ m,
      E (.cmd (.setCPUCount m (uint32 cpu))) ∧ E (.cmd (.setMemorySize m (uint32 mem))))
    (n bf : String) (size : Int) (iso bus : String) (fix : Bool) :
    Only (also E) (createVMfromISO fuel n os cpu mem bf size iso fmt bus fix) := by
  refine only_tryReport reporting_also
    (only_bind (only_forEach fun iter hiter => ?_) fun _ => only_ret _)
  -- a round that does not match makes no calls
  split
  case isTrue heq =>
    refine only_forEach fun iter_l hl => ?_
    split
    case isTrue heq_l =>
      have hset := hset (List.any_eq_true.mpr ⟨iter, hiter, heq⟩)
        (List.any_eq_true.mpr ⟨iter_l, hl, heq_l⟩)
      exact installISO_also (fun m => (hset m).1) (fun m => (hset m).2) n os bf size iso fmt bus fix
    case isFalse => exact only_ret _
  case isFalse => exact only_ret _

end

/-! ## Appliances -/

/-- `exportVM` writes an appliance. -/
theorem exportVM_ordinary (n : String) (mac : Bool) (ty path : String) :
    Ordinary (exportVM fuel n mac ty path) := by
  refine only_tryReport reporting_ordinary (only_of ?_)
  simp
  exact fun app p => (pollCompleted_ordinary fuel _).seq (by simp) (by simp)

/-- `importVM` hands its values to the appliance as texts. -/
theorem importVM_ordinary (n ova : String) (mac : Bool) (os : String) (cpu mem : Int) (net : Bool)
    (bf : String) : Ordinary (importVM fuel n ova mac os cpu mem net bf) := by
  have hwarn (warn : List String) : Ordinary (printWarnings fuel warn) :=
    only_iterate fuel (fun iter => only_of (by cases iter <;> simp)) warn
  have hvalues (desc : List (COMPtr IVirtualSystemDescription)) :
      Ordinary (setImportValues n os cpu mem net bf desc) :=
    only_fold (fun d _ values => only_of (by cases d <;> simp)) _
  refine only_tryReport reporting_ordinary (only_of ?_)
  simp
  intro app progress code hcode warn
  refine (hwarn warn).seq (fun _ => ?_) (by simp)
  simp
  intro desc
  refine (hvalues desc).seq (fun _ => ?_) (by simp)
  simp
  exact fun p => (pollCompleted_ordinary fuel _).seq (by simp) (by simp)

/-! ## The snapshot operations

Three operations work on a snapshot that is named, and the linked clone takes one of its own; the
kind `E` has to allow these calls and no others. -/

section

variable {E : Act → Prop}

/-- `takeSnapshot` takes one. -/
theorem takeSnapshot_also (htake : ∀ m s d p, E (.ptr (.takeSnapshot m s d p))) (n s : String) :
    Only (also E) (takeSnapshot n s) :=
  only_of (by simp [takeSnapshot, htake])

/-- `restoreSnapshot` restores one, or puts the machine to sleep. -/
theorem restoreSnapshot_also (hrestore : ∀ m s, E (.ptr (.restoreSnapshot m s))) (n s : String) :
    Only (also E) (restoreSnapshot fuel n s) := by
  have hsleep : Only (also E) (vmSleepWith (fun _ => pure ()) n) :=
    Only.also (vmSleepWith_ordinary (fun _ => only_ret _) n)
  refine only_tryReport reporting_also (only_of ?_)
  simp [hrestore]
  intro machine st _
  refine hsleep.seq (fun r => ?_) (by simp)
  cases r <;> simp

/-- `deleteSnapshot` deletes one by its id. -/
theorem deleteSnapshot_also (hdelete : ∀ m id, E (.ptr (.deleteSnapshot m id))) (n s : String) :
    Only (also E) (deleteSnapshot n s) :=
  only_of (by simp [deleteSnapshot, hdelete])

/-- `cloneLinkVM` takes one before it clones. -/
theorem cloneLinkVM_also (htake : ∀ m s d p, E (.ptr (.takeSnapshot m s d p))) (n bf t : String) :
    Only (also E) (cloneLinkVM fuel n bf t) := by
  have hpoll (p : IProgress) : Only (also E) (pollCompleted fuel (some p)) :=
    Only.also (pollCompleted_ordinary fuel _)
  refine only_tryReport reporting_also (only_of ?_)
  simp [htake]
  exact fun machine path os target snap snapmachine p => (hpoll p).seq (by simp) (by simp)

end

end VirtCore.QiVCA
