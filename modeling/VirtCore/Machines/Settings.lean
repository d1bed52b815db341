import VirtCore.VBox.Call

/-!
# VirtCore — the settings of a machine

* **`Field`** / **`Value`** — what a machine's settings file says, field by field.
* **`Cmd.setting`** — the field that a libvbox setter writes, of which machine object, and what.
-/

namespace VirtCore

open Interact

/-- The settings of a network adapter. -/
inductive AdapterField where
  | bridgedInterface | attachmentType | enabled | MACAddress
  deriving DecidableEq

/-- The settings of the remote display. -/
inductive VRDEField where
  | enabled | allowMultiConnection | reuseSingleConnection | authTimeout
  | property (key : String)
  deriving DecidableEq

/-- The recording settings of a screen. -/
inductive ScreenField where
  | enabled | destination | filename | videoWidth | videoHeight | videoFPS | videoRate
  | videoCodec | audioHz | audioBits | audioChannels | audioCodec
  deriving DecidableEq

/-- The settings of the audio adapter. -/
inductive AudioField where
  | controller | driver | enabledIn | enabledOut | enabled
  deriving DecidableEq

/-- Every setting that an operation writes; the four with their own fields have the slot or the
screen as well. -/
inductive Field where
  | name | OSTypeId | CPUCount | memorySize | VRAMSize | monitorCount | accelerate3DEnabled
  | accelerate2DVideoEnabled | graphicsControllerType
  | HWVirtEx (property : HWVirtExPropertyType)
  | bootOrder (position : Nat)
  | storageController (name : String)
  | attachment (name : String) (port device : Int)
  | hotPluggable (name : String) (port device : Int)
  | sharedFolder (name : String)
  | USBController (name : String)
  | adapter (slot : Nat) (field : AdapterField)
  | VRDE (field : VRDEField)
  | recordingEnabled
  | screen (id : Nat) (field : ScreenField)
  | audio (field : AudioField)
  | serialEnabled (slot : Nat)
  deriving DecidableEq

/-- The types of settings; pointers are not among them. -/
inductive Value where
  | absent
  | nat (n : Nat)
  | flag (b : Bool)
  | text (s : String)
  | bus (connectionType : StorageBus)
  | device (type : DeviceType)
  | medium (type : DeviceType) (medium : COMPtr IMedium)
  | folder (hostPath : String) (writable automount : Bool) (autoMountPoint : String)
  | usb (type : USBControllerType)
  | attachmentType (type : NetworkAttachmentType)
  | graphics (type : GraphicsControllerType)
  | destination (value : RecordingDestination)
  | videoCodec (value : RecordingVideoCodec)
  | audioCodec (value : RecordingAudioCodec)
  | audioController (value : AudioControllerType)
  | audioDriver (value : AudioDriverType)
  deriving DecidableEq

/-- The settings of one machine. -/
abbrev Config : Type := Field → Value

/-- The field that a setter writes, and its new value. A medium is mounted in a drive for
removable media. -/
def Cmd.setting : Cmd → Option (IMachine × Field × Value)
  | .attachDevice m name port device type medium =>
    some (m, .attachment name port device, .medium type medium)
  | .detachDevice m name port device => some (m, .attachment name port device, .absent)
  | .mountMedium m name port device medium _ =>
    some (m, .attachment name port device, .medium .DVD medium)
  | .setHotPluggableForDevice m name port device b =>
    some (m, .hotPluggable name port device, .flag b)
  | .setBootOrder m position device => some (m, .bootOrder position, .device device)
  | .setHWVirtExProperty m property value => some (m, .HWVirtEx property, .flag value)
  | .setCPUCount m value => some (m, .CPUCount, .nat value)
  | .setOSTypeId m value => some (m, .OSTypeId, .text value)
  | .setMemorySize m value => some (m, .memorySize, .nat value)
  | .setAccelerate3DEnabled m value => some (m, .accelerate3DEnabled, .flag value)
  | .setAccelerate2DVideoEnabled m value => some (m, .accelerate2DVideoEnabled, .flag value)
  | .setVRAMSize m value => some (m, .VRAMSize, .nat value)
  | .setMonitorCount m value => some (m, .monitorCount, .nat value)
  | .setGraphicsControllerType m value => some (m, .graphicsControllerType, .graphics value)
  | .createSharedFolder m name hostPath writable automount autoMountPoint =>
    some (m, .sharedFolder name, .folder hostPath writable automount autoMountPoint)
  | .removeSharedFolder m name => some (m, .sharedFolder name, .absent)
  | .removeUSBController m name => some (m, .USBController name, .absent)
  | .setBridgedInterface a value => some (a.machine, .adapter a.slot .bridgedInterface, .text value)
  | .setAttachmentType a value =>
    some (a.machine, .adapter a.slot .attachmentType, .attachmentType value)
  | .setAdapterEnabled a value => some (a.machine, .adapter a.slot .enabled, .flag value)
  | .setMACAddress a value => some (a.machine, .adapter a.slot .MACAddress, .text value)
  | .setVRDEEnabled v value => some (v.machine, .VRDE .enabled, .flag value)
  | .setAllowMultiConnection v value => some (v.machine, .VRDE .allowMultiConnection, .flag value)
  | .setReuseSingleConnection v value =>
    some (v.machine, .VRDE .reuseSingleConnection, .flag value)
  | .setAuthTimeout v value => some (v.machine, .VRDE .authTimeout, .nat value)
  | .setVRDEProperty v key value => some (v.machine, .VRDE (.property key), .text value)
  | .setRecordingEnabled r value => some (r.machine, .recordingEnabled, .flag value)
  | .setScreenEnabled s value => some (s.machine, .screen s.screen .enabled, .flag value)
  | .setDestination s value => some (s.machine, .screen s.screen .destination, .destination value)
  | .setFilename s value => some (s.machine, .screen s.screen .filename, .text value)
  | .setVideoWidth s value => some (s.machine, .screen s.screen .videoWidth, .nat value)
  | .setVideoHeight s value => some (s.machine, .screen s.screen .videoHeight, .nat value)
  | .setVideoFPS s value => some (s.machine, .screen s.screen .videoFPS, .nat value)
  | .setVideoRate s value => some (s.machine, .screen s.screen .videoRate, .nat value)
  | .setVideoCodec s value => some (s.machine, .screen s.screen .videoCodec, .videoCodec value)
  | .setAudioHz s value => some (s.machine, .screen s.screen .audioHz, .nat value)
  | .setAudioBits s value => some (s.machine, .screen s.screen .audioBits, .nat value)
  | .setAudioChannels s value => some (s.machine, .screen s.screen .audioChannels, .nat value)
  | .setAudioCodec s value => some (s.machine, .screen s.screen .audioCodec, .audioCodec value)
  | .setAudioController a value => some (a.machine, .audio .controller, .audioController value)
  | .setAudioDriver a value => some (a.machine, .audio .driver, .audioDriver value)
  | .setAudioEnabledIn a value => some (a.machine, .audio .enabledIn, .flag value)
  | .setAudioEnabledOut a value => some (a.machine, .audio .enabledOut, .flag value)
  | .setAudioEnabled a value => some (a.machine, .audio .enabled, .flag value)
  | .setSerialEnabled s value => some (s.machine, .serialEnabled s.slot, .flag value)
  | _ => none

/-- The setting that a call with a pointer as result makes: it adds a device. -/
def PtrCall.setting : PtrCall → Option (IMachine × Field × Value)
  | .addStorageController m name connectionType =>
    some (m, .storageController name, .bus connectionType)
  | .addUSBController m name type => some (m, .USBController name, .usb type)
  | _ => none

end VirtCore
