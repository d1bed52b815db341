import VirtCore.Protocol.Messages

/-!
# VirtCore — `vca_controller`

The handlers of `vca_controller.cpp`. A handler is a program that makes an object, calls one of
its operations and fills in the reply.

* **`ServerCall`** — what a handler calls: constructors, operations, and the Python side.
* **`OpReturn`** — what the call of an operation leaves behind for the handler.
* **`answer` / `answerResult`** — the two shapes of a case: the data of the reply is the message,
  or the result on success and the message on failure.
* **`controller`** — the handler of a call of the service.
-/

namespace VirtCore

open Interact

/-- The operations of `vca_murderHook`. -/
inductive Hook where
  | startTracker
  | stopTracker
  | produceSeed (sourceFilePath sourceSeedPath localHost targetHost targetSeedPath : String)
  | startShare (sourceFilePath sourceSeedPath localHost : String)
  | downloadFile (downloadPath localSeedPath localHost : String)
  | stopShare
  deriving DecidableEq

/-- What the call of an operation leaves behind: the return value (`none` of a `void` function),
its message, the result under whatever name the operation gives it, and the `int` that `startUp`
assigns. -/
structure OpReturn where
  ret : Option Bool
  callbackdata : String
  result : String
  data : Option Int

/-- What a handler calls. -/
inductive ServerCall where
  | newQiVCA
  | newVmConfigure
  | newMurderHook
  | newMonitor
  | op (op : Op)
  | hook (hook : Hook)
  | getHostInfo
  | getProcessPidByName (name : String)
  /-- The value of an `int` that is declared without one. -/
  | indeterminate

/-- A constructor or an operation that uses VirtualBox may be left without a return. An `assert`
that fails in one of the Python objects ends the process, and the execution with it. -/
@[reducible] def ServerCall.Ans : ServerCall → Type
  | .newQiVCA | .newVmConfigure => Except Exit (List (COMPtr IMachine))
  | .newMurderHook | .newMonitor => Unit
  | .op _ => Except Exit OpReturn
  | .hook _ => Bool
  | .getHostInfo => Bool × String × String
  | .getProcessPidByName _ | .indeterminate => Int

/-- The signature of the handlers. -/
abbrev serverSig : Sig := ⟨ServerCall, ServerCall.Ans⟩

/-- The programs of the handlers. -/
abbrev Server (α : Type) : Type := Prog serverSig Exit α

/-- What a handler called, and the answers. -/
abbrev ServerTrace : Type := Trace serverSig

namespace VcaController

variable {α : Type}

/-- A call whose answer is used as it is. -/
def ask (c : ServerCall) : Server c.Ans := Prog.call c Prog.ret

/-- Go on with what a call returned, or leave as it was left. -/
def returned (x : Except Exit α) : Server α :=
  match x with
  | .ok a => .ret a
  | .error e => .exit e

/-- `new QiVCA()`, whose constructor may throw. -/
def newQiVCA : Server (List (COMPtr IMachine)) := Prog.call .newQiVCA fun x => returned x

/-- `new vcaVmConfigure()`, which may throw as well. -/
def newVmConfigure : Server (List (COMPtr IMachine)) :=
  Prog.call .newVmConfigure fun x => returned x

/-- An operation, which may throw. -/
def call (op : Op) : Server OpReturn := Prog.call (.op op) fun x => returned x

/-- The conversion of a `bool` to the `int` of `set_code`. -/
def code (ret : Bool) : Int := if ret then 1 else 0

/-- `ret = op(…)`, for an operation that returns a `bool`. -/
def OpReturn.ok (r : OpReturn) : Bool := r.ret == some true

/-- The case of an operation whose message is the data of the reply. -/
def answer (vcamethod : String) (op : Op) : Server VcaReply := do
  let r ← call op
  return { vcamethod, data := r.callbackdata, code := code (OpReturn.ok r) }

/-- The case of an operation with a result. -/
def answerResult (vcamethod : String) (op : Op) : Server VcaReply := do
  let r ← call op
  return {
    vcamethod
    data := if OpReturn.ok r then r.result else r.callbackdata
    code := code (OpReturn.ok r) }

/-- The case of an operation of `vca_murderHook`, which has no message. -/
def answerHook (vcamethod : String) (hook : Hook) : Server VcaReply := do
  let ret ← ask (.hook hook)
  return { vcamethod, data := "", code := code ret }

/-- The reply to an unknown method, where a handler has a `default`. -/
def unknownMethod : VcaReply := { vcamethod := "null", data := "null", code := 0 }

/-- The process ids that are compared are -1 where there is no such process. -/
def Test : Server VcaReply := do
  let xpcom_process_pid ← ask (.getProcessPidByName "VBoxXPCOMIPCD")
  let svc_process_pid ← ask (.getProcessPidByName "VBoxSVC")
  return {
    vcamethod := "Test"
    code := if xpcom_process_pid ≠ 0 ∧ svc_process_pid ≠ 0 then 1 else 0
    data := "VirtualizationCoreAPI Version 1.0.0" }

/-- The information on success, and the message of the collector otherwise. -/
def HostInfo : Server VcaReply := do
  ask .newMonitor
  let (ret, info, data) ← ask .getHostInfo
  return { vcamethod := "getHostInfo", code := code ret, data := if ret then info else data }

/-- The case of `startUp`: its `int data` is read whether or not it has been assigned. -/
def startUp (vmname : String) : Server VcaReply := do
  let data ← ask .indeterminate
  let r ← call (.startUp vmname "headless")
  let data := r.data.getD data
  if data = 1 then
    return { vcamethod := "startUp", code := code true }
  else
    return { vcamethod := "startUp", data := r.callbackdata, code := code false }

/-- The operations on a whole machine. A deletion always uses cleanup mode 4. -/
def VmCommon (request : RequestSimple) : Server VcaReply := do
  let machines ← newQiVCA
  match Method.ofId request.vcamethod with
  | some .startUp => startUp request.vmname
  | some .shutDown => answer "shutDown" (.shutDown request.vmname)
  | some .powerOff => answer "powerOff" (.powerOff request.vmname)
  | some .pauses => answer "pause" (.pause request.vmname)
  | some .resume => answer "resume" (.resume request.vmname)
  | some .vmSleep => answer "vmSleep" (.vmSleep request.vmname)
  | some .restart => answer "restart" (.restart request.vmname)
  | some .getVmInfo => answerResult "getVmInfo" (.getVmInfo request.vmname)
  | some .listVMs => answerResult "listVMs" (.listVMs machines)
  | some .deleteVM => answer "deleteVM" (.deleteVM request.vmname 4)
  | _ => return unknownMethod

/-- Creating a machine, from an image or from a disk. -/
def VmInstall (request : RequestInstall) : Server VcaReply := do
  let _ ← newQiVCA
  match Method.ofId request.vcamethod with
  | some .createVMfromISO =>
    answerResult "createVMfromISO"
      (.createVMfromISO request.vmname request.ostypeid request.cpucount request.memorysize
        request.basefolder request.logicdisksize request.sourcepath request.diskformat
        request.storagebustype request.fix)
  | some .createVMfromSystemdisk =>
    answer "createVMfromSystemdisk"
      (.createVMfromSystemdisk request.vmname request.ostypeid request.cpucount request.memorysize
        request.basefolder request.sourcepath request.storagebustype)
  | _ => return unknownMethod

/-- The snapshot operations. There is no default case: for another id nothing is filled in, here
and in the handlers below. -/
def VmOperateSnapshot (request : RequestSnapshot) : Server VcaReply := do
  let _ ← newQiVCA
  match Method.ofId request.vcamethod with
  | some .getVmSnapshotInfo =>
    answerResult "getVmSnapshotInfo" (.getVmSnapshotInfo request.vmname)
  | some .takeSnapshot =>
    answer "takeSnapshot" (.takeSnapshot request.vmname request.snapshotname)
  | some .restoreSnapshot =>
    answer "restoreSnapshot" (.restoreSnapshot request.vmname request.snapshotname)
  | some .deleteSnapshot =>
    answer "deleteSnapshot" (.deleteSnapshot request.vmname request.snapshotname)
  | _ => return {}

/-- Full and linked clones. -/
def VmClone (request : RequestClone) : Server VcaReply := do
  let _ ← newQiVCA
  match Method.ofId request.vcamethod with
  | some .cloneFullVM =>
    answer "cloneFullVM"
      (.cloneFullVM request.vmname request.basefolder request.targetvmname request.keepmacs
        request.keephwuuids request.keepdiskname)
  | some .cloneLinkVM =>
    answer "cloneLinkVM"
      (.cloneLinkVM request.vmname request.basefolder request.targetvmname)
  | _ => return {}

/-- Export always asks for format `ovf-2.0`. -/
def VmImpAndExp (request : RequestImpAndexportVM) : Server VcaReply := do
  let _ ← newQiVCA
  match Method.ofId request.vcamethod with
  | some .exportVM =>
    answerResult "exportVM" (.exportVM request.vmname request.keepmac "ovf-2.0" request.exportpath)
  | some .importVM =>
    answer "importVM"
      (.importVM request.vmname request.ovapath request.keepmac request.ostypeid request.cpucount
        request.memory request.netup request.basefolder)
  | _ => return {}

/-- The six operations on network adapters. -/
def VmNetwork (request : RequestNetwork) : Server VcaReply := do
  let _ ← newVmConfigure
  match Method.ofId request.vcamethod with
  | some .setBridge =>
    answer "setBridge" (.setBridge request.vmname request.slot request.hostpciname)
  | some .addBridge =>
    answer "addBridge" (.addBridge request.vmname request.slot request.hostpciname)
  | some .setNat => answer "setNat" (.setNat request.vmname request.slot)
  | some .addNat => answer "addNat" (.addNat request.vmname request.slot)
  | some .setAdaptorMAC =>
    answer "setAdaptorMAC" (.setAdaptorMAC request.vmname request.slot request.mac)
  | some .disableAdaptor => answer "disableAdaptor" (.disableAdaptor request.vmname request.slot)
  | _ => return {}

/-- The three operations on the remote display. -/
def VmRdp (request : RequestRdp) : Server VcaReply := do
  let _ ← newVmConfigure
  match Method.ofId request.vcamethod with
  | some .setSimpleRemoteDisplay =>
    answer "setSimpleRemoteDisplay"
      (.setSimpleRemoteDisplay request.vmname request.listenaddress request.listenport
        request.allowmulticonnect request.reusesingleconnect)
  | some .getRdpInfo => answerResult "getRdpInfo" (.getRdpInfo request.vmname)
  | some .disableRDP => answer "disableRDP" (.disableRDP request.vmname)
  | _ => return {}

/-- `audioquality` is always 2. -/
def VmRecord (request : RequestRecord) : Server VcaReply := do
  let _ ← newVmConfigure
  match Method.ofId request.vcamethod with
  | some .setRecordingScreenConfig =>
    answerResult "setRecordingScreenConfig"
      (.setRecordingScreenConfig request.vmname request.screenid request.on request.basefolder
        request.width request.height request.fps request.kbps 2)
  | some .switchRecordingScreen =>
    answer "switchRecordingScreen"
      (.switchRecordingScreen request.vmname request.screenid request.on)
  | _ => return {}

/-- Shared folders are mounted automatically. -/
def VmSharefolder (request : RequestSharefolder) : Server VcaReply := do
  let _ ← newVmConfigure
  match Method.ofId request.vcamethod with
  | some .createSharefolder =>
    answer "createSharefolder"
      (.createSharefolder request.vmname request.sharefoldername request.serverpath
        request.writeable true request.internalpath)
  | some .removeSharedFolder =>
    answer "removeSharedFolder"
      (.removeSharedFolder request.vmname request.sharefoldername)
  | _ => return {}

/-- Processors, memory and graphics; the controller is always `VBoxSVGA`. -/
def VmConfig (request : RequestConfig) : Server VcaReply := do
  let _ ← newVmConfigure
  match Method.ofId request.vcamethod with
  | some .resetCpuCount => answer "resetCpuCount" (.resetCpuCount request.vmname request.cpucount)
  | some .resetMemSize => answer "resetMemSize" (.resetMemSize request.vmname request.memorysize)
  | some .resetGraphics =>
    answer "resetGraphics"
      (.resetGraphics request.vmname request.ramsize request.monitorcount "VBoxSVGA"
        request.enable3d)
  | _ => return {}

/-- Adding and deleting a USB controller. -/
def VmUSB (request : RequestUSB) : Server VcaReply := do
  let _ ← newVmConfigure
  match Method.ofId request.vcamethod with
  | some .addUSBController =>
    answer "addUSBController"
      (.addUSBController request.vmname request.usbname request.usbtype)
  | some .delUSBController =>
    answer "delUSBController"
      (.delUSBController request.vmname request.usbname)
  | _ => return {}

/-- Audio by direction, and as a whole. -/
def VmAudio (request : RequestAudio) : Server VcaReply := do
  let _ ← newVmConfigure
  match Method.ofId request.vcamethod with
  | some .setAudio => answer "setAudio" (.setAudio request.vmname request.audioin request.audioout)
  | some .switchAudio => answer "switchAudio" (.switchAudio request.vmname request.audioswitch)
  | _ => return {}

/-- The two serial port operations. -/
def VmSerial (request : RequestSerial) : Server VcaReply := do
  let _ ← newVmConfigure
  match Method.ofId request.vcamethod with
  | some .addSerialPort => answer "addSerialPort" (.addSerialPort request.vmname request.slot)
  | some .delSerialPort => answer "delSerialPort" (.delSerialPort request.vmname request.slot)
  | _ => return {}

/-- The six methods of the hook, each with the fields that it needs. -/
def P2P (request : RequestP2P) : Server VcaReply := do
  ask .newMurderHook
  match Method.ofId request.vcamethod with
  | some .startTracker => answerHook "startTracker" .startTracker
  | some .stopTracker => answerHook "stopTracker" .stopTracker
  | some .produceSeed =>
    answerHook "produceSeed"
      (.produceSeed request.sharefilepath request.shareseedpath request.shareip request.downloadip
        request.downloadseedpath)
  | some .startShare =>
    answerHook "startShare"
      (.startShare request.sharefilepath request.shareseedpath request.shareip)
  | some .downloadFile =>
    answerHook "downloadFile"
      (.downloadFile request.downloadfilepath request.downloadseedpath request.downloadip)
  | some .stopShare => answerHook "stopShare" .stopShare
  | _ => return {}

/-- Extension disks: making, attaching, detaching, destroying. -/
def VmExtends (request : RequestVmExtends) : Server VcaReply := do
  let _ ← newQiVCA
  match Method.ofId request.vcamethod with
  | some .makeFloatDisk =>
    answer "makeFloatDisk"
      (.makeFloatDisk request.diskname request.diskformattype request.basefolder request.size)
  | some .addDiskToVm =>
    answer "addDiskToVm"
      (.addDiskToVm request.vmname request.diskname request.diskformattype
        request.storagecontroller request.basefolder request.slot)
  | some .detachDiskFromVm =>
    answer "detachDiskFromVm" (.detachDiskFromVm request.vmname request.slot)
  | some .destroyFloatDiskWithoutAttach =>
    answer "destroyFloatDiskWithoutAttach"
      (.destroyFloatDiskWithoutAttach request.diskuuid)
  | _ => return {}

/-- The handler of a call. -/
def controller : (rpc : Rpc) → rpc.Request → Server VcaReply
  | .Test, _ => Test
  | .HostInfo, _ => HostInfo
  | .VmCommon, q => VmCommon q
  | .VmInstall, q => VmInstall q
  | .VmOperateSnapshot, q => VmOperateSnapshot q
  | .VmClone, q => VmClone q
  | .VmImpAndExp, q => VmImpAndExp q
  | .VmNetwork, q => VmNetwork q
  | .VmRdp, q => VmRdp q
  | .VmRecord, q => VmRecord q
  | .VmSharefolder, q => VmSharefolder q
  | .VmConfig, q => VmConfig q
  | .VmUSB, q => VmUSB q
  | .VmAudio, q => VmAudio q
  | .VmSerial, q => VmSerial q
  | .P2P, q => P2P q
  | .VmExtends, q => VmExtends q

end VcaController

end VirtCore
