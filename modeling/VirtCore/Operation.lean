import VirtCore.Core.Info
import VirtCore.Core.Snapshot
import VirtCore.Core.Install
import VirtCore.Core.Appliance
import VirtCore.Configure.Network
import VirtCore.Configure.Settings
import VirtCore.Configure.Remote
import VirtCore.Configure.Devices

/-!
# VirtCore — the operations as one type

* **`Op`** — an operation of `QiVCA` or `vcaVmConfigure` with its arguments.
* **`Op.prog`** — its program. `startUp` returns nothing; every other operation a `bool`.
* **`Op.looksUp`** — the name under which it looks a machine up with `findMachine`.
-/

namespace VirtCore

open Interact

/-- A call of an operation. -/
inductive Op where
  -- `QiVCA`
  | listVMs (machines : List (COMPtr IMachine))
  | startUp (_vmname ui : String)
  | shutDown (_vmname : String)
  | powerOff (_vmname : String)
  | pause (_vmname : String)
  | resume (_vmname : String)
  | vmSleep (_vmname : String)
  | restart (_vmname : String)
  | makeFloatDisk (disknameorid diskformat basefolder : String) (size : Int)
  | addDiskToVm (vmname diskname diskformat storagecontroller basefolder : String) (slot : Int)
  | destroyFloatDiskWithoutAttach (diskuuid : String)
  | detachDiskFromVm (vmname : String) (slot : Int)
  | getVmInfo (_vmname : String)
  | getVmSnapshotInfo (_vmname : String)
  | takeSnapshot (_vmname basicString : String)
  | restoreSnapshot (_vmname basicString : String)
  | deleteSnapshot (_vmname basicString : String)
  | cloneFullVM (_vmname basefolder target_vmname : String)
      (keepmacs keephwuuids keepdiskname : Bool)
  | cloneLinkVM (_vmname basefolder target_vmname : String)
  | createVMfromSystemdisk (_vmname ostypeid : String) (cpucount memorysize : Int)
      (basefolder diskpath storagebustype : String)
  | createVMfromISO (_vmname ostypeid : String) (cpucount memorysize : Int)
      (basefolder : String) (logicdisk_size : Int) (isopath diskformat storagebustype : String)
      (fix : Bool)
  | deleteVM (_vmname : String) (_type : Int)
  | exportVM (_vmname : String) (keepmac : Bool) (ovafileType exportpath : String)
  | importVM (vmname ovapath : String) (keepmac : Bool) (ostypeid : String)
      (cpucount memory : Int) (netup : Bool) (basefolder : String)
  -- `vcaVmConfigure`
  | setBridge (_vmname : String) (slot : Int) (hostpci : String)
  | addBridge (_vmname : String) (slot : Int) (hostpci : String)
  | setNat (_vmname : String) (slot : Int)
  | addNat (_vmname : String) (slot : Int)
  | setAdaptorMAC (_vmname : String) (slot : Int) (mac : String)
  | disableAdaptor (_vmname : String) (slot : Int)
  | createSharefolder (_vmname foldername externalpath : String) (writeable automount : Bool)
      (internalpath : String)
  | removeSharedFolder (_vmname foldername : String)
  | setSimpleRemoteDisplay (vmname ip : String) (port : Int)
      (allowMultiConnect reuseSingleConnect : Bool)
  | getRdpInfo (vmname : String)
  | disableRDP (_vmname : String)
  | resetCpuCount (_vmname : String) (cpuCount : Int)
  | resetMemSize (_vmname : String) (memorySize : Int)
  | resetGraphics (vmname : String) (ramSize monitorCount : Int) (cardController : String)
      (enable3D : Bool)
  | setRecordingScreenConfig (vmname : String) (screenid : Int) (on : Bool) (basepath : String)
      (width height fps kbps audioquality : Int)
  | switchRecordingScreen (vmname : String) (screenid : Int) (on : Bool)
  | addUSBController (vmname usbctlname usbType : String)
  | delUSBController (vmname usbctlname : String)
  | setAudio (vmname : String) (enabledIn enabledOut : Bool)
  | switchAudio (vmname : String) (enable : Bool)
  | addSerialPort (vmname : String) (slot : Int)
  | delSerialPort (vmname : String) (slot : Int)

/-- The program of an operation; `none` is the return of a `void` function. -/
def Op.prog (J : Jsoncpp) (fuel : Nat) : Op → Vb (Option Bool)
  | .listVMs ms => some <$> QiVCA.listVMs J ms
  | .startUp n ui => do QiVCA.startUp fuel n ui; return none
  | .shutDown n => some <$> QiVCA.shutDown n
  | .powerOff n => some <$> QiVCA.powerOff n
  | .pause n => some <$> QiVCA.pause n
  | .resume n => some <$> QiVCA.resume n
  | .vmSleep n => some <$> QiVCA.vmSleep n
  | .restart n => some <$> QiVCA.restart n
  | .makeFloatDisk n fmt bf size => some <$> QiVCA.makeFloatDisk fuel n fmt bf size
  | .addDiskToVm n d fmt c bf slot => some <$> QiVCA.addDiskToVm fuel n d fmt c bf slot
  | .destroyFloatDiskWithoutAttach u => some <$> QiVCA.destroyFloatDiskWithoutAttach u
  | .detachDiskFromVm n slot => some <$> QiVCA.detachDiskFromVm fuel n slot
  | .getVmInfo n => some <$> QiVCA.getVmInfo J n
  | .getVmSnapshotInfo n => some <$> QiVCA.getVmSnapshotInfo J n
  | .takeSnapshot n s => some <$> QiVCA.takeSnapshot n s
  | .restoreSnapshot n s => some <$> QiVCA.restoreSnapshot fuel n s
  | .deleteSnapshot n s => some <$> QiVCA.deleteSnapshot n s
  | .cloneFullVM n bf t macs uuids disks => some <$> QiVCA.cloneFullVM fuel n bf t macs uuids disks
  | .cloneLinkVM n bf t => some <$> QiVCA.cloneLinkVM fuel n bf t
  | .createVMfromSystemdisk n os cpu mem bf d bus =>
    some <$> QiVCA.createVMfromSystemdisk fuel n os cpu mem bf d bus
  | .createVMfromISO n os cpu mem bf size iso fmt bus fix =>
    some <$> QiVCA.createVMfromISO fuel n os cpu mem bf size iso fmt bus fix
  | .deleteVM n ty => some <$> QiVCA.deleteVM fuel n ty
  | .exportVM n mac ty path => some <$> QiVCA.exportVM fuel n mac ty path
  | .importVM n ova mac os cpu mem net bf =>
    some <$> QiVCA.importVM fuel n ova mac os cpu mem net bf
  | .setBridge n slot pci => some <$> VcaVmConfigure.setBridge fuel n slot pci
  | .addBridge n slot pci => some <$> VcaVmConfigure.addBridge n slot pci
  | .setNat n slot => some <$> VcaVmConfigure.setNat fuel n slot
  | .addNat n slot => some <$> VcaVmConfigure.addNat fuel n slot
  | .setAdaptorMAC n slot mac => some <$> VcaVmConfigure.setAdaptorMAC fuel n slot mac
  | .disableAdaptor n slot => some <$> VcaVmConfigure.disableAdaptor fuel n slot
  | .createSharefolder n f ext w auto int =>
    some <$> VcaVmConfigure.createSharefolder fuel n f ext w auto int
  | .removeSharedFolder n f => some <$> VcaVmConfigure.removeSharedFolder fuel n f
  | .setSimpleRemoteDisplay n ip port multi single =>
    some <$> VcaVmConfigure.setSimpleRemoteDisplay fuel n ip port multi single
  | .getRdpInfo n => some <$> VcaVmConfigure.getRdpInfo J fuel n
  | .disableRDP n => some <$> VcaVmConfigure.disableRDP fuel n
  | .resetCpuCount n cpu => some <$> VcaVmConfigure.resetCpuCount fuel n cpu
  | .resetMemSize n mem => some <$> VcaVmConfigure.resetMemSize fuel n mem
  | .resetGraphics n ram mon card en => some <$> VcaVmConfigure.resetGraphics fuel n ram mon card en
  | .setRecordingScreenConfig n id on base w h fps kbps aq =>
    some <$> VcaVmConfigure.setRecordingScreenConfig fuel n id on base w h fps kbps aq
  | .switchRecordingScreen n id on => some <$> VcaVmConfigure.switchRecordingScreen fuel n id on
  | .addUSBController n c ty => some <$> VcaVmConfigure.addUSBController fuel n c ty
  | .delUSBController n c => some <$> VcaVmConfigure.delUSBController fuel n c
  | .setAudio n i o => some <$> VcaVmConfigure.setAudio fuel n i o
  | .switchAudio n en => some <$> VcaVmConfigure.switchAudio fuel n en
  | .addSerialPort n slot => some <$> VcaVmConfigure.addSerialPort fuel n slot
  | .delSerialPort n slot => some <$> VcaVmConfigure.delSerialPort fuel n slot

/-- The name an operation looks a machine up by. The machine list has its own names, the disk
operations have none, and the create and import operations are given the name of a machine that
is to be made. -/
def Op.looksUp : Op → Option String
  | .listVMs .. | .makeFloatDisk .. | .destroyFloatDiskWithoutAttach .. => none
  | .createVMfromSystemdisk .. | .createVMfromISO .. | .importVM .. => none
  | .startUp n .. | .shutDown n | .powerOff n | .pause n | .resume n | .vmSleep n | .restart n
  | .addDiskToVm n .. | .detachDiskFromVm n .. | .getVmInfo n | .getVmSnapshotInfo n
  | .takeSnapshot n .. | .restoreSnapshot n .. | .deleteSnapshot n .. | .cloneFullVM n ..
  | .cloneLinkVM n .. | .deleteVM n .. | .exportVM n .. | .setBridge n .. | .addBridge n ..
  | .setNat n .. | .addNat n .. | .setAdaptorMAC n .. | .disableAdaptor n ..
  | .createSharefolder n .. | .removeSharedFolder n .. | .setSimpleRemoteDisplay n ..
  | .getRdpInfo n | .disableRDP n | .resetCpuCount n .. | .resetMemSize n ..
  | .resetGraphics n .. | .setRecordingScreenConfig n .. | .switchRecordingScreen n ..
  | .addUSBController n .. | .delUSBController n .. | .setAudio n .. | .switchAudio n ..
  | .addSerialPort n .. | .delSerialPort n .. => some n

/-- One execution of an operation. -/
structure OpRun (J : Jsoncpp) where
  op : Op
  fuel : Nat
  trace : VbTrace
  result : Except Exit (Option Bool)
  runs : Runs (op.prog J fuel) trace result

theorem OpRun.runs_of {J : Jsoncpp} {r : OpRun J} {op : Op} (hop : r.op = op) :
    Runs (op.prog J r.fuel) r.trace r.result :=
  hop ▸ r.runs

/-- The execution against an oracle. -/
def Op.play (J : Jsoncpp) (fuel : Nat) (ω : Oracle vboxSig) (op : Op) : OpRun J where
  op := op
  fuel := fuel
  trace := (exec ω [] (op.prog J fuel)).1
  result := (exec ω [] (op.prog J fuel)).2
  runs := by
    obtain ⟨t, ht, hr⟩ := exec_runs ω (op.prog J fuel) []
    rw [ht]
    exact hr

/-- The execution ended: it returned, threw, or ran off the end of the function. -/
def OpRun.Ended {J : Jsoncpp} (r : OpRun J) : Prop :=
  r.result ≠ .error .nullUse ∧ r.result ≠ .error .spin

/-! ## What an execution writes -/

/-- The message after an answered call. -/
@[simp] def messageNext (message : String) : Act → String
  | .put .callbackdata value => value
  | _ => message

/-- The `data` output of `startUp` after an answered call. -/
@[simp] def dataNext (data : Option Int) : Act → Option Int
  | .putData value => some value
  | _ => data

/-- The message of an execution. -/
def messageAfter (t : VbTrace) : String :=
  t.foldl (fun message e => messageNext message e.1) ""

/-- The `data` of an execution of `startUp`. -/
def dataAfter (t : VbTrace) : Option Int :=
  t.foldl (fun data e => dataNext data e.1) none

end VirtCore
