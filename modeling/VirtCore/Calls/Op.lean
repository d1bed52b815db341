import VirtCore.Calls.Configure
import VirtCore.Calls.Core
import VirtCore.Operation

/-!
# VirtCore — what an operation calls

* **`Op.Permits`** — a kind of calls has all the calls of an operation that are not ordinary.
* **`op_also`** — then its other calls are ordinary.
-/

namespace VirtCore

open Interact QiVCA VcaVmConfigure

/-- The kind `E` has the calls of the operation that are not ordinary. -/
def Op.Permits (E : Act → Prop) : Op → Prop
  | .takeSnapshot .. => ∀ m s d p, E (.ptr (.takeSnapshot m s d p))
  | .restoreSnapshot .. => ∀ m s, E (.ptr (.restoreSnapshot m s))
  | .deleteSnapshot .. => ∀ m id, E (.ptr (.deleteSnapshot m id))
  | .cloneLinkVM .. => ∀ m s d p, E (.ptr (.takeSnapshot m s d p))
  | .createVMfromSystemdisk _ os cpu mem _ _ _ => osType.any (strcmpEq os) → ∀ m,
    E (.cmd (.setCPUCount m (uint32 cpu))) ∧ E (.cmd (.setMemorySize m (uint32 mem)))
  | .createVMfromISO _ os cpu mem _ _ _ fmt _ _ =>
    osType.any (strcmpEq os) → mediaType.any (strcmpEq fmt) → ∀ m,
      E (.cmd (.setCPUCount m (uint32 cpu))) ∧ E (.cmd (.setMemorySize m (uint32 mem)))
  | .resetCpuCount _ cpu => 1 ≤ cpu ∧ cpu ≤ 4 →
      ∀ m, E (.cmd (.setCPUCount m (uint32 cpu)))
  | .resetMemSize _ mem => 0 ≤ mem ∧ mem ≤ 8192 →
      ∀ m, E (.cmd (.setMemorySize m (uint32 mem)))
  | .resetGraphics _ ram mon _ _ => 0 ≤ ram ∧ ram ≤ 128 → 1 ≤ mon ∧ mon ≤ 8 → ∀ m,
    E (.cmd (.setVRAMSize m (uint32 ram))) ∧ E (.cmd (.setMonitorCount m (uint32 mon)))
  | .addSerialPort _ slot => 0 ≤ slot ∧ slot ≤ 4 →
      ∀ m, E (.ptr (.getSerialPort m (uint32 slot)))
  | .delSerialPort _ slot => 0 ≤ slot ∧ slot ≤ 4 →
      ∀ m, E (.ptr (.getSerialPort m (uint32 slot)))
  | _ => True

/-- **What an operation calls.** -/
theorem op_also {J : Jsoncpp} {E : Act → Prop} (fuel : Nat) {op : Op} (hop : op.Permits E) :
    Only (also E) (op.prog J fuel) := by
  -- only some operations make a call of the other kind; for these it is what `Permits` asks
  cases op with
  | listVMs => exact only_map (listVMs_ordinary _ _).also
  | startUp => exact only_bind (startUp_ordinary _ _ _).also fun _ => only_ret _
  | shutDown => exact only_map (shutDown_ordinary _).also
  | powerOff => exact only_map (powerOff_ordinary _).also
  | pause => exact only_map (pause_ordinary _).also
  | resume => exact only_map (resume_ordinary _).also
  | vmSleep => exact only_map (vmSleep_ordinary _).also
  | restart => exact only_map (restart_ordinary _).also
  | makeFloatDisk => exact only_map (makeFloatDisk_ordinary _ _ _ _ _).also
  | addDiskToVm => exact only_map (addDiskToVm_ordinary _ _ _ _ _ _ _).also
  | destroyFloatDiskWithoutAttach =>
    exact only_map (destroyFloatDiskWithoutAttach_ordinary _).also
  | detachDiskFromVm => exact only_map (detachDiskFromVm_ordinary _ _ _).also
  | getVmInfo => exact only_map (getVmInfo_ordinary _ _).also
  | getVmSnapshotInfo => exact only_map (getVmSnapshotInfo_ordinary _ _).also
  | takeSnapshot => exact only_map (takeSnapshot_also hop _ _)
  | restoreSnapshot => exact only_map (restoreSnapshot_also _ hop _ _)
  | deleteSnapshot => exact only_map (deleteSnapshot_also hop _ _)
  | cloneFullVM => exact only_map (cloneFullVM_ordinary _ _ _ _ _ _ _).also
  | cloneLinkVM => exact only_map (cloneLinkVM_also _ hop _ _ _)
  | createVMfromSystemdisk => exact only_map (createVMfromSystemdisk_also _ hop _ _ _ _)
  | createVMfromISO => exact only_map (createVMfromISO_also _ hop _ _ _ _ _ _)
  | deleteVM => exact only_map (deleteVM_ordinary _ _ _).also
  | exportVM => exact only_map (exportVM_ordinary _ _ _ _ _).also
  | importVM => exact only_map (importVM_ordinary _ _ _ _ _ _ _ _ _).also
  | setBridge =>
    exact only_map (only_tryReport reporting_ordinary
      (anyState_ordinary (bridge_ordinary _) _ _)).also
  | addBridge => exact only_map (poweredOff_ordinary (bridge_ordinary _) _ _).also
  | setNat =>
    exact only_map (only_tryReport reporting_ordinary (anyState_ordinary nat_ordinary _ _)).also
  | addNat =>
    exact only_map (only_tryReport reporting_ordinary (poweredOff_ordinary nat_ordinary _ _)).also
  | setAdaptorMAC =>
    exact only_map (only_tryReport reporting_ordinary
      (poweredOff_ordinary (setMAC_ordinary _) _ _)).also
  | disableAdaptor =>
    exact only_map (only_tryReport reporting_ordinary
      (poweredOff_ordinary disable_ordinary _ _)).also
  | createSharefolder => exact only_map (createSharefolder_ordinary _ _ _ _ _ _ _).also
  | removeSharedFolder => exact only_map (removeSharedFolder_ordinary _ _ _).also
  | setSimpleRemoteDisplay => exact only_map (setSimpleRemoteDisplay_ordinary _ _ _ _ _ _).also
  | getRdpInfo => exact only_map (getRdpInfo_ordinary _ _ _).also
  | disableRDP => exact only_map (disableRDP_ordinary _ _).also
  | resetCpuCount =>
    exact only_map (resetLimit_also _ (fun hrange => hop (of_decide_eq_true hrange)) _ _)
  | resetMemSize =>
    exact only_map (resetLimit_also _ (fun hrange => hop (of_decide_eq_true hrange)) _ _)
  | resetGraphics => exact only_map (resetGraphics_also _ hop _ _ _)
  | setRecordingScreenConfig =>
    exact only_map (setRecordingScreenConfig_ordinary _ _ _ _ _ _ _ _ _ _).also
  | switchRecordingScreen => exact only_map (switchRecordingScreen_ordinary _ _ _ _).also
  | addUSBController => exact only_map (addUSBController_ordinary _ _ _ _).also
  | delUSBController => exact only_map (delUSBController_ordinary _ _ _).also
  | setAudio => exact only_map (setAudio_ordinary _ _ _ _).also
  | switchAudio => exact only_map (switchAudio_ordinary _ _ _).also
  | addSerialPort => exact only_map (switchSerialPort_also _ hop _ _)
  | delSerialPort => exact only_map (switchSerialPort_also _ hop _ _)

end VirtCore
