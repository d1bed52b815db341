import VirtCore.Locks.View

/-!
# VirtCore — session locks across the operations of `QiVCA`

Each operation that starts without a lock ends without one, as long as no answer strands it.
Where an operation has a loop, the proof goes segment by segment; otherwise the operation is
run symbolically under the view.
-/

namespace VirtCore.QiVCA


open Interact

variable (J : Jsoncpp) (fuel : Nat)

/-! ## The machine list and the power operations

Each locks once at most, and unlocks on the same path. The answers in between are not fatal unless
they are errors. -/

/-- `listVMs` locks nothing. -/
theorem listVMs_settles (ms : List (COMPtr IMachine)) : Settles threwError (listVMs J ms) := by
  refine settles_bind (by rintro _ rfl; simp) fun _ => ?_
  refine settles_bind (settles_fold ms (fun names machine => ?_) _) fun names => ?_
  · refine settles_bind (settles_via fun m => ?_) fun name => by rintro _ rfl; simp
    rintro _ rfl
    simp
  · refine settles_bind (settles_fold names (fun map name => ?_) _) fun map => ?_
    · rintro _ rfl
      simp
    · rintro _ rfl
      simp

/-- `startUp` gets its lock from the task that starts the machine. -/
theorem startUp_settles (n ui : String) : Settles threwError (startUp fuel n ui) := by
  refine settles_catchReport ?_ fun _ _ => Triple.ret fun _ h => h
  rintro _ rfl
  simp

/-- An action that touches no lock runs between the lock and the unlock. -/
theorem consoleAction_settles {action : IConsole → Cmd} {notFound : COMPtr IMachine → Vb Unit}
    (haction : ∀ b c x, lockNext b (.cmd (action c)) x = b)
    (hnotFound : ∀ machine, Settles threwError (notFound machine)) (states : List MachineState)
    (wrongState n : String) :
    Settles threwError (consoleAction states action wrongState notFound n) := by
  rintro _ rfl
  simp [consoleAction]
  refine ⟨(hnotFound none).use rfl (by simp) fun _ _ h => h, fun _ _ _ s c => ?_⟩
  show (lockNext (Balance.free.acquire s) (.cmd (action c)) (.ok ())).release s = .free
  rw [haction, Balance.release_acquire]

/-- `shutDown`, by the shape of the console operations. -/
theorem shutDown_settles (n : String) : Settles threwError (shutDown n) := by
  refine consoleAction_settles (fun _ _ _ => rfl) (fun m => ?_) _ _ n
  rintro _ rfl
  cases m <;> simp

/-- `powerOff` falls off its end without having locked. -/
theorem powerOff_settles (n : String) : Settles threwError (powerOff n) := by
  rintro _ rfl
  simp [powerOff]

/-- `pause`, by the same shape. -/
theorem pause_settles (n : String) : Settles threwError (pause n) := by
  refine consoleAction_settles (fun _ _ _ => rfl) (fun m => ?_) _ _ n
  rintro _ rfl
  cases m <;> simp

/-- `resume`, by the same shape. -/
theorem resume_settles (n : String) : Settles threwError (resume n) := by
  refine consoleAction_settles (fun _ _ _ => rfl) (fun m => ?_) _ _ n
  rintro _ rfl
  cases m <;> simp

/-- Saving the state, with an assignment that locks nothing. -/
theorem vmSleepWith_settles {assign : String → Vb Unit}
    (hassign : ∀ message, Settles threwError (assign message)) (n : String) :
    Settles threwError (vmSleepWith assign n) := by
  refine settles_bind (by rintro _ rfl; simp) fun machine => ?_
  cases machine with
  | none => exact settles_bind (hassign _) fun _ => Triple.exit fun _ _ => trivial
  | some m =>
    rintro _ rfl
    simp
    intro st _ _
    exact (hassign _).use rfl (fun _ _ h => h) fun _ _ h => h

/-- `vmSleep`. -/
theorem vmSleep_settles (n : String) : Settles threwError (vmSleep n) :=
  settles_bind (vmSleepWith_settles (fun _ => by rintro _ rfl; simp) n) fun _ _ h => h

/-- `restart`, by the shape of the console operations. -/
theorem restart_settles (n : String) : Settles threwError (restart n) := by
  refine consoleAction_settles (fun _ _ _ => rfl) (fun m => ?_) _ _ n
  rintro _ rfl
  cases m <;> simp

/-! ## Disks

The two that attach and detach lock their machine. What is caught within them is followed by an
unlock or by a return without one. -/

/-- `makeFloatDisk` locks nothing. -/
theorem makeFloatDisk_settles (n fmt bf : String) (size : Int) :
    Settles threwError (makeFloatDisk fuel n fmt bf size) := by
  unfold makeFloatDisk
  split
  · rintro _ rfl
    simp
  · rintro _ rfl
    simp
    exact fun disk p => (settles_pollCompleted fuel p).use rfl (by simp) fun _ _ h => h

/-- While the disk is attached the lock is held: the `try` falls through with it. -/
theorem attachDisk_keeps (c : String) {b : Balance} (hb : b ≠ .free) (m : COMPtr IMachine)
    (ctl : COMPtr IStorageController) (slot : Int) (disk : COMPtr IMedium) (path : String) :
    Triple (lockView (attachStrands c)) (· = b) (attachDisk fuel m ctl slot disk path)
      (fun r b' => r = none ∧ b' = b) (fun e _ => e = .nullUse) := by
  rintro _ rfl
  cases ctl <;> cases m <;> simp [attachDisk, wp_catchCOM, reportError, hb]

/-- Beside errors `addDiskToVm` has two ways to leave without an unlock, where the disk or the
controller is refused; both are in `attachStrands`. -/
theorem addDiskToVm_settles (n d fmt c bf : String) (slot : Int) :
    Settles (attachStrands c) (addDiskToVm fuel n d fmt c bf slot) := by
  unfold addDiskToVm
  -- the slot and the format are refused before the lock
  split
  · rintro _ rfl
    simp
  split
  · rintro _ rfl
    simp
  · rintro _ rfl
    simp
    intro machine s m disk hc
    have hattach (ctl : COMPtr IStorageController) (path : String) :=
      attachDisk_keeps fuel c (Balance.acquire_free_ne s) (some m) ctl slot (some disk) path
    refine ⟨fun _ => ⟨?_, fun ctl => ?_⟩, hc⟩
    all_goals
      refine (hattach _ _).use rfl ?_ (by rintro _ _ rfl; trivial)
      rintro _ _ ⟨rfl, rfl⟩
      simp

/-- `destroyFloatDiskWithoutAttach` locks nothing. -/
theorem destroyFloatDiskWithoutAttach_settles (u : String) :
    Settles threwError (destroyFloatDiskWithoutAttach u) := by
  refine settles_bind (by rintro _ rfl; simp) fun disks => ?_
  refine settles_bind (settles_forEach fun disk _ =>
    settles_bind (settles_via fun d => ?_) fun id => ?_)
    fun _ _ h => h
  · rintro _ rfl
    simp
  · rintro _ rfl
    cases disk <;> simp

/-- `detachDiskFromVm` returns from its inner `try` only after an error, which strands it. -/
theorem detachDiskFromVm_settles (n : String) (slot : Int) :
    Settles threwError (detachDiskFromVm fuel n slot) := by
  rintro _ rfl
  simp [detachDiskFromVm, detachDisk, wp_catchCOM]

/-! ## Queries -/

/-- One attachment is read without a lock. -/
theorem diskEntry_settles (attach : COMPtr IMediumAttachment) :
    Settles threwError (diskEntry attach) := by
  rintro _ rfl
  cases attach with
  | none => trivial
  | some a => simp [diskEntry]

/-- One adapter is read without a lock. -/
theorem netEntry_settles (json : Json) (adapter : COMPtr INetworkAdapter) :
    Settles threwError (netEntry J json adapter) := by
  rintro _ rfl
  cases adapter with
  | none => trivial
  | some a => simp [netEntry]

/-- `getVmInfo` locks nothing. -/
theorem getVmInfo_settles (n : String) : Settles threwError (getVmInfo J n) := by
  refine settles_bind (by rintro _ rfl; simp) fun machine => ?_
  refine settles_bind ?_ fun disks => settles_bind ?_ fun adapters => settles_bind ?_ ?_
  · refine settles_bind (settles_via fun m => by rintro _ rfl; simp) fun medium => ?_
    refine settles_fold medium (fun _ attach => ?_) _
    exact settles_bind (diskEntry_settles attach) fun _ => Triple.ret fun _ h => h
  · have hadapter (slot : Nat) : Settles threwError
        (via machine fun m => ptr (.getNetworkAdapter m slot) : Vb (COMPtr INetworkAdapter)) :=
      settles_via fun m => by rintro _ rfl; simp
    exact settles_bind (hadapter 0) fun _ => settles_bind (hadapter 1) fun _ =>
      settles_bind (hadapter 2) fun _ => settles_bind (hadapter 3) fun _ =>
        settles_fold _ (netEntry_settles J) _
  · rintro _ rfl
    cases machine <;> simp [graphicsInfo]
  · rintro graphics _ rfl
    cases machine <;> simp

/-- Nor does `getVmSnapshotInfo`. -/
theorem getVmSnapshotInfo_settles (n : String) :
    Settles threwError (getVmSnapshotInfo J n) := by
  rintro _ rfl
  simp [getVmSnapshotInfo]

/-! ## Snapshots and clones

The snapshot operations unlock on every path that they return by; the full clone works without a
lock. -/

/-- `takeSnapshot` unlocks also where there is no mutable machine. -/
theorem takeSnapshot_settles (n s : String) : Settles threwError (takeSnapshot n s) := by
  rintro _ rfl
  simp [takeSnapshot]

/-- `deleteSnapshot` unlocks also where there is no such snapshot. -/
theorem deleteSnapshot_settles (n s : String) : Settles threwError (deleteSnapshot n s) := by
  rintro _ rfl
  simp [deleteSnapshot]

/-- `restoreSnapshot` restores under one lock, or puts the machine to sleep under another. -/
theorem restoreSnapshot_settles (n s : String) :
    Settles threwError (restoreSnapshot fuel n s) := by
  have hsleep : Settles threwError (vmSleepWith (fun _ => pure ()) n) :=
    vmSleepWith_settles (fun _ => Triple.ret fun _ h => h) n
  refine settles_tryReport ?_ fuel
  rintro _ rfl
  simp
  refine fun machine st hst => hsleep.use rfl ?_ fun _ _ h => h
  rintro (_ | data) _ rfl <;> simp

/-- `cloneFullVM` locks nothing. -/
theorem cloneFullVM_settles (n bf t : String) (macs uuids disks : Bool) :
    Settles threwError (cloneFullVM fuel n bf t macs uuids disks) := by
  rintro _ rfl
  simp [cloneFullVM]
  exact fun machine path os target p =>
    (settles_pollCompleted fuel p).use rfl (by simp) fun _ _ h => h

/-- `cloneLinkVM` unlocks before it clones. -/
theorem cloneLinkVM_settles (n bf t : String) :
    Settles threwError (cloneLinkVM fuel n bf t) := by
  refine settles_tryReport ?_ fuel
  rintro _ rfl
  simp
  exact fun machine path os target snap m p =>
    (settles_pollCompleted fuel p).use rfl (by simp) fun _ _ h => h

/-! ## Creating and deleting

The machine to be locked is the one just made, which nobody else has found yet. -/

/-- `deleteVM` locks nothing. -/
theorem deleteVM_settles (n : String) (ty : Int) : Settles threwError (deleteVM fuel n ty) := by
  refine settles_tryReport ?_ fuel
  cases cleanupMode ty <;> (rintro _ rfl; simp)

/-- One round of `createVMfromSystemdisk`. -/
theorem installSystemdisk_settles (n os : String) (cpu mem : Int) (bf d bus : String) :
    Settles threwError (installSystemdisk n os cpu mem bf d bus) := by
  rintro _ rfl
  cases h : storageBusOf bus <;> simp [installSystemdisk, addBusController, h]

/-- `createVMfromSystemdisk`, whose rounds each end without a lock. -/
theorem createVMfromSystemdisk_settles (n os : String) (cpu mem : Int) (bf d bus : String) :
    Settles threwError (createVMfromSystemdisk fuel n os cpu mem bf d bus) := by
  refine settles_tryReport (settles_bind (settles_forEach fun iter _ => ?_) fun r =>
    Triple.ret fun _ h => h) fuel
  split
  · exact installSystemdisk_settles n os cpu mem bf d bus
  · exact Triple.ret fun _ h => h

section

variable {n os : String} {cpu mem : Int} {bf : String} {size : Int} {iso fmt bus : String}
  {fix : Bool}

/-- The devices of an installation, from the lock on: where the round goes on or answers, the lock
is gone. -/
theorem installISODevices_unlocks (s : ISession) (m : IMachine) (disk : COMPtr IMedium) :
    Triple (lockView isoStrands) (· = Balance.free.acquire s)
      (installISODevices (some s) (some m) disk iso bus) (fun _ b => b = .free) Settled := by
  rintro _ rfl
  cases h : storageBusOf bus <;> simp [installISODevices, addBusController, h]

/-- One round of `createVMfromISO`. -/
theorem installISO_settles (hpath : (createVMfromISOPath n fmt bf).isSome) :
    Settles isoStrands
      (installISO n os cpu mem bf size iso fmt bus fix) := by
  obtain ⟨path, hpath⟩ := Option.isSome_iff_exists.mp hpath
  rintro _ rfl
  simp [installISO, hpath]
  intro session m disk
  exact (installISODevices_unlocks session m _).use rfl (fun _ _ h => h) fun _ _ h => h

/-- `createVMfromISO`, whose rounds go over systems and formats. -/
theorem createVMfromISO_settles :
    Settles isoStrands (createVMfromISO fuel n os cpu mem bf size iso fmt bus fix) := by
  refine settles_tryReport (settles_bind (settles_forEach fun iter _ => ?_) fun r =>
    Triple.ret fun _ h => h) fuel
  -- other systems and formats are skipped
  split
  · refine settles_forEach fun iter_l hl => ?_
    split
    · exact installISO_settles (createVMfromISOPath_isSome hl (by assumption))
    · exact Triple.ret fun _ h => h
  · exact Triple.ret fun _ h => h

end

/-! ## Appliances -/

/-- `exportVM` locks nothing. -/
theorem exportVM_settles (n : String) (mac : Bool) (ty path : String) :
    Settles threwError (exportVM fuel n mac ty path) := by
  refine settles_tryReport ?_ fuel
  rintro _ rfl
  simp
  exact fun app p => (settles_pollCompleted fuel p).use rfl (by simp) fun _ _ h => h

/-- Printing locks nothing. -/
theorem printWarnings_settles (warn : List String) :
    Settles threwError (printWarnings fuel warn) := by
  refine Triple.iterate (fun _ _ b => b = Balance.free) fuel (fun _ _ _ => trivial)
    (fun _ iter => ?_) warn
  rintro _ rfl
  cases iter <;> simp

/-- Nor does setting the values of an import. -/
theorem setImportValues_settles (n os : String) (cpu mem : Int) (net : Bool) (bf : String)
    (desc : List (COMPtr IVirtualSystemDescription)) :
    Settles threwError (setImportValues n os cpu mem net bf desc) := by
  refine settles_fold desc (fun values d => ?_) _
  rintro _ rfl
  cases d <;> simp

/-- `importVM` locks nothing, wherever it leaves. -/
theorem importVM_settles (n ova : String) (mac : Bool) (os : String) (cpu mem : Int) (net : Bool)
    (bf : String) : Settles threwError (importVM fuel n ova mac os cpu mem net bf) := by
  refine settles_tryReport ?_ fuel
  rintro _ rfl
  simp
  intro app progress code hcode warn
  refine (printWarnings_settles fuel warn).use rfl ?_ fun _ _ h => h
  rintro _ _ rfl desc
  refine (setImportValues_settles n os cpu mem net bf desc).use rfl ?_ fun _ _ h => h
  rintro _ _ rfl p
  exact (settles_pollCompleted fuel p).use rfl (by simp) fun _ _ h => h

end VirtCore.QiVCA
