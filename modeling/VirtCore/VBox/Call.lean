import VirtCore.Interact.View
import VirtCore.VBox.Types

/-!
# VirtCore — the libvbox interface as an effect signature

What an operation of the service does is a program over the calls below. A libvbox call is
answered by VirtualBox, which is outside the repository: it may return, or the wrapper
throws `COMError`.

* **`Cmd` / `PtrCall` / `ValCall`** — the libvbox methods without a result, with an interface
  pointer as result, and with any other result.
* **`Act`** — those, and what else an operation does that can be observed: assigning an
  output parameter, printing, `Release()`, reading the clock, `VBox::currentError()`.
* **`Vb`** — the programs over `Act`. They may leave by a thrown `COMError`, by using a null
  interface pointer, by flowing off the end of a function with a result, or not at all (an
  unbounded loop, cut off).
* A method call `p->f(x)` on an interface pointer is `via p fun o => …`: calling a method of
  a null pointer is `nullUse`, whatever the method.
-/

namespace VirtCore

open Interact

/-! ## The calls

The calls are named after the methods of the wrapper, and each has the arguments that the source
passes. What an interface pointer stands for is only a number, or the numbers of what it belongs
to. -/

/-- The libvbox methods that return nothing. -/
inductive Cmd where
  -- `IVirtualBox`, `ISession`, `IConsole`, `IProgress`
  | registerMachine (machine : COMPtr IMachine)
  | unlockMachine (session : ISession)
  | powerButton (console : IConsole)
  | pause (console : IConsole)
  | resume (console : IConsole)
  | reset (console : IConsole)
  | waitForCompletion (progress : IProgress) (timeout : Int)
  -- `IMachine`
  | lockMachine (machine : IMachine) (session : COMPtr ISession) (lockType : LockType)
  | saveSettings (machine : IMachine)
  | attachDevice (machine : IMachine) (name : String) (controllerPort device : Int)
      (type : DeviceType) (medium : COMPtr IMedium)
  | detachDevice (machine : IMachine) (name : String) (controllerPort device : Int)
  | setHotPluggableForDevice (machine : IMachine) (name : String) (controllerPort device : Int)
      (hotPluggable : Bool)
  | mountMedium (machine : IMachine) (name : String) (controllerPort device : Int)
      (medium : COMPtr IMedium) (force : Bool)
  | setBootOrder (machine : IMachine) (position : Nat) (device : DeviceType)
  | setHWVirtExProperty (machine : IMachine) (property : HWVirtExPropertyType) (value : Bool)
  | setCPUCount (machine : IMachine) (value : Nat)
  | setOSTypeId (machine : IMachine) (value : String)
  | setMemorySize (machine : IMachine) (value : Nat)
  | setAccelerate3DEnabled (machine : IMachine) (value : Bool)
  | setAccelerate2DVideoEnabled (machine : IMachine) (value : Bool)
  | setVRAMSize (machine : IMachine) (value : Nat)
  | setMonitorCount (machine : IMachine) (value : Nat)
  | setGraphicsControllerType (machine : IMachine) (value : GraphicsControllerType)
  | createSharedFolder (machine : IMachine) (name hostPath : String) (writable automount : Bool)
      (autoMountPoint : String)
  | removeSharedFolder (machine : IMachine) (name : String)
  | removeUSBController (machine : IMachine) (name : String)
  -- `INetworkAdapter`
  | setBridgedInterface (adapter : INetworkAdapter) (value : String)
  | setAttachmentType (adapter : INetworkAdapter) (value : NetworkAttachmentType)
  | setAdapterEnabled (adapter : INetworkAdapter) (value : Bool)
  | setMACAddress (adapter : INetworkAdapter) (value : String)
  -- `IVRDEServer`
  | setVRDEEnabled (server : IVRDEServer) (value : Bool)
  | setAllowMultiConnection (server : IVRDEServer) (value : Bool)
  | setReuseSingleConnection (server : IVRDEServer) (value : Bool)
  | setAuthTimeout (server : IVRDEServer) (value : Nat)
  | setVRDEProperty (server : IVRDEServer) (key value : String)
  -- `IRecordingSettings`, `IRecordingScreenSettings`
  | setRecordingEnabled (record : IRecordingSettings) (value : Bool)
  | setScreenEnabled (screen : IRecordingScreenSettings) (value : Bool)
  | setDestination (screen : IRecordingScreenSettings) (value : RecordingDestination)
  | setFilename (screen : IRecordingScreenSettings) (value : String)
  | setVideoWidth (screen : IRecordingScreenSettings) (value : Nat)
  | setVideoHeight (screen : IRecordingScreenSettings) (value : Nat)
  | setVideoFPS (screen : IRecordingScreenSettings) (value : Nat)
  | setVideoRate (screen : IRecordingScreenSettings) (value : Nat)
  | setVideoCodec (screen : IRecordingScreenSettings) (value : RecordingVideoCodec)
  | setAudioHz (screen : IRecordingScreenSettings) (value : Nat)
  | setAudioBits (screen : IRecordingScreenSettings) (value : Nat)
  | setAudioChannels (screen : IRecordingScreenSettings) (value : Nat)
  | setAudioCodec (screen : IRecordingScreenSettings) (value : RecordingAudioCodec)
  -- `IAudioAdapter`, `ISerialPort`
  | setAudioController (audio : IAudioAdapter) (value : AudioControllerType)
  | setAudioDriver (audio : IAudioAdapter) (value : AudioDriverType)
  | setAudioEnabledIn (audio : IAudioAdapter) (value : Bool)
  | setAudioEnabledOut (audio : IAudioAdapter) (value : Bool)
  | setAudioEnabled (audio : IAudioAdapter) (value : Bool)
  | setSerialEnabled (serial : ISerialPort) (value : Bool)
  -- `IAppliance`, `IVirtualSystemDescription`
  | interpret (app : IAppliance)
  | setFinalValues (desc : IVirtualSystemDescription) (enabled : List Bool)
      (VBoxValues extraConfigValues : List String)

/-- The libvbox methods that return an interface pointer. -/
inductive PtrCall where
  -- `IVirtualBoxClient`, `IVirtualBox`
  | virtualBoxClient
  | virtualBox
  | session
  | findMachine (nameOrId : String)
  | createMachine (settingsFile name : String) (groups : List String) (osTypeId flags : String)
  | createMedium (format location : String) (accessMode : AccessMode) (deviceType : DeviceType)
  | openMedium (location : String) (deviceType : DeviceType) (accessMode : AccessMode)
      (forceNewUuid : Bool)
  | createAppliance
  -- `ISession`, `IConsole`
  | console (session : ISession)
  | sessionMachine (session : ISession)
  | powerDown (console : IConsole)
  | VRDEServerInfo (console : IConsole)
  -- `IMachine`
  | launchVMProcess (machine : IMachine) (session : COMPtr ISession) (name environment : String)
  | saveState (machine : IMachine)
  | getStorageControllerByName (machine : IMachine) (name : String)
  | addStorageController (machine : IMachine) (name : String) (connectionType : StorageBus)
  | getNetworkAdapter (machine : IMachine) (slot : Nat)
  | currentSnapshot (machine : IMachine)
  | takeSnapshot (machine : IMachine) (name description : String) (pause : Bool)
  | findSnapshot (machine : IMachine) (nameOrId : String)
  | restoreSnapshot (machine : IMachine) (snapshot : COMPtr ISnapshot)
  | deleteSnapshot (machine : IMachine) (id : String)
  | cloneTo (machine : IMachine) (target : COMPtr IMachine) (mode : CloneMode)
      (options : List CloneOptions)
  | deleteConfig (machine : IMachine) (media : List (COMPtr IMedium))
  | exportTo (machine : IMachine) (appliance : COMPtr IAppliance) (location : String)
  | VRDEServer (machine : IMachine)
  | recordingSettings (machine : IMachine)
  | addUSBController (machine : IMachine) (name : String) (type : USBControllerType)
  | audioAdapter (machine : IMachine)
  | getSerialPort (machine : IMachine) (slot : Nat)
  -- `ISnapshot`, `IMedium`, `IMediumAttachment`
  | snapshotParent (snapshot : ISnapshot)
  | snapshotMachine (snapshot : ISnapshot)
  | mediumParent (medium : IMedium)
  | createBaseStorage (medium : IMedium) (logicalSize : Int) (variant : List MediumVariant)
  | deleteStorage (medium : IMedium)
  | attachmentMedium (attach : IMediumAttachment)
  -- `IRecordingSettings`, `IAppliance`
  | getScreenSettings (record : IRecordingSettings) (screenId : Nat)
  | read (app : IAppliance) (file : String)
  | importMachines (app : IAppliance) (options : List ImportOptions)
  | write (app : IAppliance) (format : String) (options : List ExportOptions) (path : String)
  -- `COMErrorInfo`, `IVirtualBoxErrorInfo`
  | queryVirtualBoxErrorInfo (errorInfo : COMErrorInfo)
  | nextError (error : IVirtualBoxErrorInfo)

/-- The interface a `PtrCall` returns a pointer to. -/
@[reducible] def PtrCall.Ifc : PtrCall → Type
  | .virtualBoxClient | .virtualBox => Unit
  | .session => ISession
  | .findMachine .. | .createMachine .. | .sessionMachine .. | .snapshotMachine .. => IMachine
  | .createMedium .. | .openMedium .. | .mediumParent .. | .attachmentMedium .. => IMedium
  | .createAppliance => IAppliance
  | .console .. => IConsole
  | .VRDEServerInfo .. => IVRDEServerInfo
  | .powerDown .. | .launchVMProcess .. | .saveState .. | .takeSnapshot .. | .restoreSnapshot ..
  | .deleteSnapshot .. | .cloneTo .. | .deleteConfig .. | .createBaseStorage ..
  | .deleteStorage .. | .read .. | .importMachines .. | .write .. => IProgress
  | .getStorageControllerByName .. | .addStorageController .. => IStorageController
  | .getNetworkAdapter .. => INetworkAdapter
  | .currentSnapshot .. | .findSnapshot .. | .snapshotParent .. => ISnapshot
  | .exportTo .. => IVirtualSystemDescription
  | .VRDEServer .. => IVRDEServer
  | .recordingSettings .. => IRecordingSettings
  | .addUSBController .. => IUSBController
  | .audioAdapter .. => IAudioAdapter
  | .getSerialPort .. => ISerialPort
  | .getScreenSettings .. => IRecordingScreenSettings
  | .queryVirtualBoxErrorInfo .. | .nextError .. => IVirtualBoxErrorInfo

/-- The libvbox methods with any other result. -/
inductive ValCall where
  -- `IVirtualBox`
  | machines
  | getMachineStates (machines : List (COMPtr IMachine))
  | hardDisks
  | composeMachineFilename (name group createFlags baseFolder : String)
  -- `IMachine`
  | machineName (machine : IMachine)
  | state (machine : IMachine)
  | machineId (machine : IMachine)
  | OSTypeId (machine : IMachine)
  | hardwareUUID (machine : IMachine)
  | CPUCount (machine : IMachine)
  | memorySize (machine : IMachine)
  | VRAMSize (machine : IMachine)
  | monitorCount (machine : IMachine)
  | accelerate3DEnabled (machine : IMachine)
  | snapshotCount (machine : IMachine)
  | snapshotFolder (machine : IMachine)
  | getMediumAttachmentsOfController (machine : IMachine) (name : String)
  | unregister (machine : IMachine) (cleanupMode : CleanupMode)
  -- `IProgress`
  | completed (progress : IProgress)
  | resultCode (progress : IProgress)
  -- `IMedium`, `IMediumAttachment`, `IStorageController`
  | mediumId (medium : IMedium)
  | mediumName (medium : IMedium)
  | mediumFormat (medium : IMedium)
  | logicalSize (medium : IMedium)
  | size (medium : IMedium)
  | refreshState (medium : IMedium)
  | port (attach : IMediumAttachment)
  | hotPluggable (attach : IMediumAttachment)
  | controller (attach : IMediumAttachment)
  | controllerName (controller : IStorageController)
  -- `INetworkAdapter`
  | adapterEnabled (adapter : INetworkAdapter)
  | attachmentType (adapter : INetworkAdapter)
  | bridgedInterface (adapter : INetworkAdapter)
  | MACAddress (adapter : INetworkAdapter)
  -- `ISnapshot`
  | snapshotName (snapshot : ISnapshot)
  | snapshotId (snapshot : ISnapshot)
  -- `IVRDEServerInfo`
  | active (info : IVRDEServerInfo)
  | vrdePort (info : IVRDEServerInfo)
  | clientIP (info : IVRDEServerInfo)
  | user (info : IVRDEServerInfo)
  | domain (info : IVRDEServerInfo)
  | numberOfClients (info : IVRDEServerInfo)
  | clientName (info : IVRDEServerInfo)
  | clientVersion (info : IVRDEServerInfo)
  | encryptionStyle (info : IVRDEServerInfo)
  | beginTime (info : IVRDEServerInfo)
  | endTime (info : IVRDEServerInfo)
  | bytesReceived (info : IVRDEServerInfo)
  | bytesReceivedTotal (info : IVRDEServerInfo)
  | bytesSent (info : IVRDEServerInfo)
  | bytesSentTotal (info : IVRDEServerInfo)
  -- `IAppliance`, `IVirtualBoxErrorInfo`
  | getWarnings (app : IAppliance)
  | virtualSystemDescriptions (app : IAppliance)
  | text (error : IVirtualBoxErrorInfo)

/-- The type of a `ValCall`'s result. -/
@[reducible] def ValCall.Val : ValCall → Type
  | .machines => List (COMPtr IMachine)
  | .getMachineStates .. => List MachineState
  | .hardDisks | .unregister .. => List (COMPtr IMedium)
  | .state .. => MachineState
  | .getMediumAttachmentsOfController .. => List (COMPtr IMediumAttachment)
  | .virtualSystemDescriptions .. => List (COMPtr IVirtualSystemDescription)
  | .getWarnings .. => List String
  | .composeMachineFilename .. | .machineName .. | .machineId .. | .OSTypeId ..
  | .hardwareUUID .. | .snapshotFolder .. | .mediumId .. | .mediumName .. | .mediumFormat ..
  | .controller .. | .controllerName .. | .bridgedInterface .. | .MACAddress ..
  | .snapshotName .. | .snapshotId .. | .clientIP .. | .user .. | .domain .. | .clientName ..
  | .text .. => String
  | .CPUCount .. | .memorySize .. | .VRAMSize .. | .monitorCount .. | .snapshotCount ..
  | .numberOfClients .. | .clientVersion .. | .encryptionStyle .. => Nat
  | .resultCode .. | .logicalSize .. | .size .. | .port .. | .vrdePort .. | .beginTime ..
  | .endTime .. | .bytesReceived .. | .bytesReceivedTotal .. | .bytesSent ..
  | .bytesSentTotal .. => Int
  | .accelerate3DEnabled .. | .completed .. | .hotPluggable .. | .adapterEnabled ..
  | .active .. => Bool
  | .refreshState .. => Unit
  | .attachmentType .. => NetworkAttachmentType

/-- The output parameters of the operations: the message, and the result under whatever name
the operation gives it (`vms`, `vminfo`, `info`, `vmuuid`, `ovapath`, `vdredata`,
`videostoragepath`). -/
inductive OutParam where
  | callbackdata
  | result
  deriving DecidableEq, Repr

/-! ## Programs

An operation is a program over these calls. It ends with a value or with an exit, of which an
exception is one. -/

/-- Everything an operation does that can be observed. -/
inductive Act where
  | cmd (c : Cmd)
  | ptr (c : PtrCall)
  | val (c : ValCall)
  | currentError
  | time
  | put (x : OutParam) (value : String)
  | putData (value : Int)
  | print (s : String)
  | release (o : Released)

/-- What an `Act` is answered with. A libvbox call may throw; `VBox::currentError` may return
null but never throws. -/
@[reducible] def Act.Ans : Act → Type
  | .cmd _ => Except COMError Unit
  | .ptr c => Except COMError (COMPtr c.Ifc)
  | .val c => Except COMError c.Val
  | .currentError => COMPtr COMErrorInfo
  | .time => Int
  | .put .. | .putData .. | .print .. | .release .. => Unit

/-- The signature of the operations' programs. -/
abbrev vboxSig : Sig := ⟨Act, Act.Ans⟩

/-- How a program leaves without returning. -/
inductive Exit where
  /-- A `COMError` escapes. -/
  | threw (err : COMError)
  /-- A method of a null interface pointer is called. -/
  | nullUse
  /-- A function with a result ends without a return statement. -/
  | noReturn
  /-- An unbounded loop has not ended within the rounds allowed. -/
  | spin
  deriving DecidableEq

/-- What an operation does: a program over `Act`. -/
abbrev Vb (α : Type) : Type := Prog vboxSig Exit α

/-- The executions of an operation. -/
abbrev VbTrace : Type := Trace vboxSig

section

variable {α Ifc : Type}

/-- Make a call and continue with its answer. -/
def act (a : Act) (k : a.Ans → Vb α) : Vb α := Prog.call a k

/-- A libvbox method without a result. -/
def cmd (c : Cmd) : Vb Unit :=
  act (.cmd c) fun
    | .ok a => .ret a
    | .error err => .exit (.threw err)

/-- A libvbox method whose result is an interface pointer, null or not. -/
def ptr (c : PtrCall) : Vb (COMPtr c.Ifc) :=
  act (.ptr c) fun
    | .ok a => .ret a
    | .error err => .exit (.threw err)

/-- A libvbox method with any other result. -/
def val (c : ValCall) : Vb c.Val :=
  act (.val c) fun
    | .ok a => .ret a
    | .error err => .exit (.threw err)

/-- Use a pointer as a receiver. -/
def via (p : COMPtr Ifc) (f : Ifc → Vb α) : Vb α :=
  match p with
  | none => .exit .nullUse
  | some o => f o

/-- `machine->Release()`. -/
def releaseMachine (machine : COMPtr IMachine) : Vb Unit :=
  via machine fun m => act (.release (.machine m)) fun _ => .ret ()

/-- `disk->Release()`. -/
def releaseMedium (disk : COMPtr IMedium) : Vb Unit :=
  via disk fun d => act (.release (.medium d)) fun _ => .ret ()

/-- `VBox::currentError()`, which may be null. -/
def currentError : Vb (COMPtr COMErrorInfo) :=
  act .currentError fun a => .ret a

/-- `time(NULL)`. -/
def time : Vb Int := act .time fun a => .ret a

/-- Assigning to an output parameter. -/
def put (x : OutParam) (value : String) : Vb Unit :=
  act (.put x value) fun _ => .ret ()

/-- `callbackdata = value`. -/
def callbackdata (value : String) : Vb Unit := put .callbackdata value

/-- `data = value`, the `int` output of `startUp`. -/
def putData (value : Int) : Vb Unit := act (.putData value) fun _ => .ret ()

/-- Printing to the console. -/
def print (s : String) : Vb Unit := act (.print s) fun _ => .ret ()

/-- The end of a function body that has a result but no return statement there. -/
def flowOff : Vb α := .exit .noReturn

/-- `try { body } catch (const VBox::COMError &err) { handler }`. -/
def catchCOM (body : Vb α) (handler : COMError → Vb α) : Vb α :=
  body.handle fun
    | .threw err => handler err
    | e => .exit e

end

/-- `while (vboxError) { … vboxError = vboxError->next(); }`: the texts of the error chain. -/
def printErrors (fuel : Nat) (vboxError : COMPtr IVirtualBoxErrorInfo) : Vb Unit :=
  Prog.iterate .spin (fun vboxError : COMPtr IVirtualBoxErrorInfo =>
    match vboxError with
    | none => .ret (.inr ())
    | some error => do
      print (← val (.text error))
      return .inl (← ptr (.nextError error))) fuel vboxError

/-- The catch block that every operation with a `try` shares; its result is whether there was
a `vboxError`. The error-info pointer is used without a null check. -/
def reportError (fuel : Nat) (err : COMError) : Vb Bool := do
  let errorInfo ← currentError
  let vboxError ← via errorInfo fun info => ptr (.queryVirtualBoxErrorInfo info)
  if vboxError.isSome then
    print ("err :" ++ err.what)
    printErrors fuel vboxError
  return vboxError.isSome

/-- A `bool` function whose whole body is in a `try`: the catch block reports the error and
the function ends there, without a return statement. -/
def tryReport (fuel : Nat) (body : Vb Bool) : Vb Bool :=
  catchCOM body fun err => do
    let _ ← reportError fuel err
    flowOff

/-- `while (!progress->completed()) continue;` -/
def pollCompleted (fuel : Nat) (progress : COMPtr IProgress) : Vb Unit :=
  via progress fun p => Prog.iterate .spin (fun _ : Unit => do
    if (← val (.completed p)) then
      return .inr ()
    else
      return .inl ()) fuel ()

end VirtCore
