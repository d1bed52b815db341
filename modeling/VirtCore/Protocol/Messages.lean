import VirtCore.Operation

/-!
# VirtCore — the messages of the service

The request and reply messages of `qigrpc.proto` and the method ids of `vca_enummethod.h`.

* **`Rpc`** — the calls of the service `Server`, each with its request message.
* **`Method`** — the enumerators of all the enumerations of `vca_enummethod.h`; none of them is
  scoped, so they share one space of ids. **`Method.ofId`** reads an id.
-/

namespace VirtCore

/-! ## Requests and replies

One message type of `qigrpc.proto` each, with its fields in their order; `requestNull` has none
and is `Unit`. A field that the client leaves out has its default value, so that every request has
them all. -/

/-- For operations that need the machine's name only. -/
structure RequestSimple where
  vcamethod : Int
  vmname : String

/-- For the snapshot operations. -/
structure RequestSnapshot where
  vcamethod : Int
  vmname : String
  snapshotname : String

/-- `cloneLinkVM` reads the names and the folder only. -/
structure RequestClone where
  vcamethod : Int
  vmname : String
  targetvmname : String
  basefolder : String
  keepmacs : Bool
  keephwuuids : Bool
  keepdiskname : Bool

/-- For both ways of creating a machine; `sourcepath` is the image, or the disk. -/
structure RequestInstall where
  vcamethod : Int
  vmname : String
  ostypeid : String
  cpucount : Int
  memorysize : Int
  basefolder : String
  sourcepath : String
  storagebustype : String
  logicdisksize : Int
  diskformat : String
  fix : Bool

/-- For both directions: `exportpath` is where an appliance is written, `ovapath` where one is
read. -/
structure RequestImpAndexportVM where
  vcamethod : Int
  vmname : String
  ovapath : String
  exportpath : String
  keepmac : Bool
  ostypeid : String
  cpucount : Int
  memory : Int
  netup : Bool
  basefolder : String

/-- For the network adapters, of which `slot` names one. -/
structure RequestNetwork where
  vcamethod : Int
  vmname : String
  slot : Int
  hostpciname : String
  mac : String

/-- For the remote display. -/
structure RequestRdp where
  vcamethod : Int
  vmname : String
  listenaddress : String
  listenport : Int
  allowmulticonnect : Bool
  reusesingleconnect : Bool

/-- For recording; the switch reads `screenid` and `on` only. -/
structure RequestRecord where
  vcamethod : Int
  vmname : String
  on : Bool
  screenid : Int
  basefolder : String
  width : Int
  height : Int
  fps : Int
  kbps : Int

/-- For shared folders. -/
structure RequestSharefolder where
  vcamethod : Int
  vmname : String
  sharefoldername : String
  serverpath : String
  writeable : Bool
  internalpath : String

/-- For processors, memory and graphics. -/
structure RequestConfig where
  vcamethod : Int
  vmname : String
  cpucount : Int
  memorysize : Int
  ramsize : Int
  monitorcount : Int
  enable3d : Bool

/-- For USB controllers; the type is a text. -/
structure RequestUSB where
  vcamethod : Int
  vmname : String
  usbname : String
  usbtype : String

/-- For audio, switched as a whole or by direction. -/
structure RequestAudio where
  vcamethod : Int
  vmname : String
  audioswitch : Bool
  audioin : Bool
  audioout : Bool

/-- For serial ports. -/
structure RequestSerial where
  vcamethod : Int
  vmname : String
  slot : Int

/-- For sharing files; which fields are read depends on the method. -/
structure RequestP2P where
  vcamethod : Int
  sharefilepath : String
  shareseedpath : String
  shareip : String
  downloadip : String
  downloadseedpath : String
  downloadfilepath : String

/-- For extension disks. -/
structure RequestVmExtends where
  vcamethod : Int
  vmname : String
  diskname : String
  diskuuid : String
  diskformattype : String
  basefolder : String
  size : Int
  storagecontroller : String
  slot : Int

/-- `vcaReply`; a new message has the default values of its fields. -/
structure VcaReply where
  vcamethod : String := ""
  data : String := ""
  code : Int := 0
  deriving DecidableEq

/-! ## The calls of the service

A call is identified by its place in the service, its request by the type of the message. The
handlers look at the method id that the request carries, which the calls without a request message
lack. -/

/-- The calls, in the order of the service's `type_` numbers. -/
inductive Rpc where
  | Test | HostInfo | VmCommon | VmInstall | VmOperateSnapshot | VmClone | VmImpAndExp | VmNetwork
  | VmRdp | VmRecord | VmSharefolder | VmConfig | VmUSB | VmAudio | VmSerial | P2P | VmExtends
  deriving DecidableEq, Repr

namespace Rpc

/-- The request message of a call; `requestNull` has no field. -/
@[reducible] def Request : Rpc → Type
  | .Test | .HostInfo => Unit
  | .VmCommon => RequestSimple
  | .VmInstall => RequestInstall
  | .VmOperateSnapshot => RequestSnapshot
  | .VmClone => RequestClone
  | .VmImpAndExp => RequestImpAndexportVM
  | .VmNetwork => RequestNetwork
  | .VmRdp => RequestRdp
  | .VmRecord => RequestRecord
  | .VmSharefolder => RequestSharefolder
  | .VmConfig => RequestConfig
  | .VmUSB => RequestUSB
  | .VmAudio => RequestAudio
  | .VmSerial => RequestSerial
  | .P2P => RequestP2P
  | .VmExtends => RequestVmExtends

/-- The method id that a request carries. -/
def vcamethod : (rpc : Rpc) → rpc.Request → Option Int
  | .Test, _ | .HostInfo, _ => none
  | .VmCommon, q => some (RequestSimple.vcamethod q)
  | .VmInstall, q => some (RequestInstall.vcamethod q)
  | .VmOperateSnapshot, q => some (RequestSnapshot.vcamethod q)
  | .VmClone, q => some (RequestClone.vcamethod q)
  | .VmImpAndExp, q => some (RequestImpAndexportVM.vcamethod q)
  | .VmNetwork, q => some (RequestNetwork.vcamethod q)
  | .VmRdp, q => some (RequestRdp.vcamethod q)
  | .VmRecord, q => some (RequestRecord.vcamethod q)
  | .VmSharefolder, q => some (RequestSharefolder.vcamethod q)
  | .VmConfig, q => some (RequestConfig.vcamethod q)
  | .VmUSB, q => some (RequestUSB.vcamethod q)
  | .VmAudio, q => some (RequestAudio.vcamethod q)
  | .VmSerial, q => some (RequestSerial.vcamethod q)
  | .P2P, q => some (RequestP2P.vcamethod q)
  | .VmExtends, q => some (RequestVmExtends.vcamethod q)

end Rpc

/-! ## Method ids

The enumerators are numbered through the enumerations, so that an id names a method without saying
of which call. A handler compares it with the methods it knows. -/

/-- The methods, enumeration by enumeration. -/
inductive Method where
  -- `vmcommon`
  | startUp | shutDown | powerOff | pauses | resume | vmSleep | restart | getVmInfo | listVMs
  | deleteVM
  -- `vmoperatesnap`
  | getVmSnapshotInfo | takeSnapshot | restoreSnapshot | deleteSnapshot
  -- `vmclone`
  | cloneFullVM | cloneLinkVM
  -- `vmexpAndimp`
  | exportVM | importVM
  -- `vminstall`
  | createVMfromSystemdisk | createVMfromISO
  -- `vmnetwork`
  | setBridge | addBridge | setNat | addNat | setAdaptorMAC | disableAdaptor
  -- `vmrdp`
  | setSimpleRemoteDisplay | getRdpInfo | disableRDP
  -- `vmrecordscreen`
  | setRecordingScreenConfig | switchRecordingScreen
  -- `vmsharefolder`
  | createSharefolder | removeSharedFolder
  -- `vmconfig`
  | resetCpuCount | resetMemSize | resetGraphics
  -- `vmusb`
  | addUSBController | delUSBController
  -- `vmaudio`
  | setAudio | switchAudio
  -- `vmserial`
  | addSerialPort | delSerialPort
  -- `p2p`
  | startTracker | stopTracker | produceSeed | startShare | downloadFile | stopShare
  -- `extends`
  | makeFloatDisk | addDiskToVm | detachDiskFromVm | destroyFloatDiskWithoutAttach
  deriving DecidableEq, Repr

namespace Method

/-- The value of an enumerator: 0 to 47 in order, and `extends` from 101. -/
def id : Method → Int
  | .makeFloatDisk => 101
  | .addDiskToVm => 102
  | .detachDiskFromVm => 103
  | .destroyFloatDiskWithoutAttach => 104
  | m => m.ctorIdx

/-- The enumerator with a value. -/
def ofId (id : Int) : Option Method :=
  [Method.startUp, shutDown, powerOff, pauses, resume, vmSleep, restart, getVmInfo, listVMs,
    deleteVM, getVmSnapshotInfo, takeSnapshot, restoreSnapshot, deleteSnapshot, cloneFullVM,
    cloneLinkVM, exportVM, importVM, createVMfromSystemdisk, createVMfromISO, setBridge, addBridge,
    setNat, addNat, setAdaptorMAC, disableAdaptor, setSimpleRemoteDisplay, getRdpInfo, disableRDP,
    setRecordingScreenConfig, switchRecordingScreen, createSharefolder, removeSharedFolder,
    resetCpuCount, resetMemSize, resetGraphics, addUSBController, delUSBController, setAudio,
    switchAudio, addSerialPort, delSerialPort, startTracker, stopTracker, produceSeed, startShare,
    downloadFile, stopShare, makeFloatDisk, addDiskToVm, detachDiskFromVm,
    destroyFloatDiskWithoutAttach].find? fun m => m.id == id

/-- The ids are pairwise different. -/
@[simp] theorem ofId_id (m : Method) : ofId m.id = some m := by cases m <;> rfl

/-- Reading an id finds the method that has it, if there is one. -/
theorem ofId_eq_some {id : Int} {m : Method} : ofId id = some m ↔ m.id = id := by
  constructor
  · intro h
    exact eq_of_beq (List.find?_some (p := fun m : Method => m.id == id) h)
  · rintro rfl
    exact ofId_id m

end Method

end VirtCore
