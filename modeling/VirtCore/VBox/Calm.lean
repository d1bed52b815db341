import VirtCore.VBox.Call

/-!
# VirtCore — an environment in which everything succeeds

`calm st` answers every libvbox call with an object, every machine being in state `st`. Concrete
executions are taken against it or against a variation that fails at one call.
-/

namespace VirtCore

open Interact

/-- An object for every call that returns a pointer; all objects belong to machine 0. -/
def PtrCall.sample : (c : PtrCall) → c.Ifc
  | .virtualBoxClient | .virtualBox => ()
  | .session => ⟨0⟩
  | .findMachine .. | .createMachine .. => ⟨0, .host⟩
  | .sessionMachine s => ⟨0, .mutable s⟩
  | .snapshotMachine s => ⟨s.vm, .snapshot s.ref⟩
  | .createMedium .. | .openMedium .. | .mediumParent .. | .attachmentMedium .. => ⟨0⟩
  | .createAppliance => ⟨0⟩
  | .console s => ⟨s⟩
  | .VRDEServerInfo c => ⟨c⟩
  | .powerDown .. | .launchVMProcess .. | .saveState .. | .takeSnapshot .. | .restoreSnapshot ..
  | .deleteSnapshot .. | .cloneTo .. | .deleteConfig .. | .createBaseStorage ..
  | .deleteStorage .. | .read .. | .importMachines .. | .write .. => ⟨0⟩
  | .getStorageControllerByName m _ | .addStorageController m .. => ⟨m, 0⟩
  | .getNetworkAdapter m slot => ⟨m, slot⟩
  | .currentSnapshot m | .findSnapshot m _ => ⟨m.vm, 0⟩
  | .snapshotParent s => ⟨s.vm, 0⟩
  | .exportTo .. => ⟨0⟩
  | .VRDEServer m => ⟨m⟩
  | .recordingSettings m => ⟨m⟩
  | .addUSBController .. => ⟨0⟩
  | .audioAdapter m => ⟨m⟩
  | .getSerialPort m slot => ⟨m, slot⟩
  | .getScreenSettings r id => ⟨r.machine, id⟩
  | .queryVirtualBoxErrorInfo .. | .nextError .. => ⟨0⟩

/-- A result for every call that returns a value. -/
def ValCall.sample (st : MachineState) : (c : ValCall) → c.Val
  | .machines | .getMachineStates .. | .hardDisks | .unregister ..
  | .getMediumAttachmentsOfController .. | .virtualSystemDescriptions .. | .getWarnings .. => []
  | .state .. => st
  | .composeMachineFilename .. | .machineName .. | .machineId .. | .OSTypeId ..
  | .hardwareUUID .. | .snapshotFolder .. | .mediumId .. | .mediumName .. | .mediumFormat ..
  | .controller .. | .controllerName .. | .bridgedInterface .. | .MACAddress ..
  | .snapshotName .. | .snapshotId .. | .clientIP .. | .user .. | .domain .. | .clientName ..
  | .text .. => ""
  | .CPUCount .. | .memorySize .. | .VRAMSize .. | .monitorCount .. | .snapshotCount ..
  | .numberOfClients .. | .clientVersion .. | .encryptionStyle .. => (0 : Nat)
  | .resultCode .. | .logicalSize .. | .size .. | .port .. | .vrdePort .. | .beginTime ..
  | .endTime .. | .bytesReceived .. | .bytesReceivedTotal .. | .bytesSent ..
  | .bytesSentTotal .. => (0 : Int)
  | .accelerate3DEnabled .. | .completed .. | .hotPluggable .. | .adapterEnabled ..
  | .active .. => true
  | .refreshState .. => ()
  | .attachmentType .. => .Null

/-- Writers of the empty text. -/
def Jsoncpp.mute : Jsoncpp := ⟨fun _ => "", fun _ => ""⟩

/-- Every call succeeds, and every machine is in state `st`. -/
def calm (st : MachineState) : Oracle vboxSig := fun _ a =>
  match a with
  | .cmd _ => .ok ()
  | .ptr c => .ok (some c.sample)
  | .val c => .ok (c.sample st)
  | .currentError => some ⟨0⟩
  | .time => (0 : Int)
  | .put .. | .putData .. | .print .. | .release .. => ()

end VirtCore
