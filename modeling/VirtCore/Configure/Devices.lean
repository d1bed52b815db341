import VirtCore.VBox.Call

/-!
# VirtCore — `vcaVmConfigure`: shared folders, USB, audio and serial ports

`createSharefolder`, `removeSharedFolder`, `addUSBController`, `delUSBController`, `setAudio`,
`switchAudio`, `addSerialPort` and `delSerialPort` of `vca_vmConfigure.cpp`. None of them asks
for a machine state, and all eight use the mutable machine unchecked.

* **`withMutable`** — the frame they share: find, lock, change, save, unlock, release.
* **`withDevice`** — the change of the four that get a device of the machine first.
-/

namespace VirtCore.VcaVmConfigure

open Interact

/-- `change` runs on the mutable machine: `none` goes on to `saveSettings`, `some message` is an
early return with that message and the session unlocked. -/
def withMutable (notExist : String) (change : COMPtr IMachine → Vb (Option String))
    (vmname : String) : Vb Bool := do
  let machine ← ptr (.findMachine vmname)
  if machine.isSome then
    let session ← ptr .session
    via machine fun m => cmd (.lockMachine m session .Shared)
    let mutabmachine : COMPtr IMachine ← via session fun s => ptr (.sessionMachine s)
    match ← change mutabmachine with
    | some message =>
      callbackdata message
      via session fun s => cmd (.unlockMachine s)
      releaseMachine machine
      return false
    | none =>
      via mutabmachine fun m => cmd (.saveSettings m)
      via session fun s => cmd (.unlockMachine s)
      releaseMachine machine
      return true
  else
    callbackdata notExist
    releaseMachine machine
    return false

/-- Get a device of the mutable machine and change it, or leave with `noDevice`. -/
def withDevice {Ifc : Type} (get : IMachine → Vb (COMPtr Ifc)) (noDevice : String)
    (change : Ifc → Vb Unit) (mutabmachine : COMPtr IMachine) : Vb (Option String) := do
  let device ← via mutabmachine get
  if device.isSome then
    via device change
    return none
  else
    return some noDevice

/-! ## Shared folders

The parameters that the source leaves unused are named with an underscore, here and in the
operations below. -/

/-- All five values are passed through as they are. -/
def createSharefolder (fuel : Nat) (_vmname foldername externalpath : String)
    (writeable automount : Bool) (internalpath : String) : Vb Bool :=
  tryReport fuel (withMutable " Virtual machine does not exist!" (fun mutabmachine => do
    via mutabmachine fun m => cmd (.createSharedFolder m foldername externalpath writeable
      automount internalpath)
    return none) _vmname)

/-- Removing one by its name, whether or not it is there. -/
def removeSharedFolder (fuel : Nat) (_vmname foldername : String) : Vb Bool :=
  tryReport fuel (withMutable " Virtual machine does not exist!" (fun mutabmachine => do
    via mutabmachine fun m => cmd (.removeSharedFolder m foldername)
    return none) _vmname)

/-! ## USB

The type of a controller arrives as text. Of the three that are compared with it, one is refused
as the default that is there anyway. -/

/-- The controller types are compared only after the machine is locked. -/
def addUSB (usbctlname usbType : String) (mutabmachine : COMPtr IMachine) :
    Vb (Option String) := do
  if strcmpEq usbType "XHCI" then
    let _ctrl : COMPtr IUSBController ←
      via mutabmachine fun m => ptr (.addUSBController m usbctlname .XHCI)
    return none
  else if strcmpEq usbType "EHCI" then
    let _ctrl : COMPtr IUSBController ←
      via mutabmachine fun m => ptr (.addUSBController m usbctlname .EHCI)
    return none
  else if strcmpEq usbType "OHCI" then
    return some "usb 1.0 is default!"
  else
    return some " USB type error !"

/-- A type that is refused leaves the machine unlocked and unsaved. -/
def addUSBController (fuel : Nat) (vmname usbctlname usbType : String) : Vb Bool :=
  tryReport fuel (withMutable " Virtual machine does not exist !"
    (addUSB usbctlname usbType) vmname)

/-- Removing one by its name. -/
def delUSBController (fuel : Nat) (vmname usbctlname : String) : Vb Bool :=
  tryReport fuel (withMutable " Virtual machine does not exist !" (fun mutabmachine => do
    via mutabmachine fun m => cmd (.removeUSBController m usbctlname)
    return none) vmname)

/-! ## Audio

The audio adapter of a machine is one device with two directions. -/

/-- Each direction is switched by itself; controller and driver are always written too. -/
def setAudio (fuel : Nat) (vmname : String) (enabledIn enabledOut : Bool) : Vb Bool :=
  tryReport fuel (withMutable " Virtual machine does not exist !"
    (withDevice (fun m => ptr (.audioAdapter m)) " No sound card adapter  !" fun audio => do
      cmd (.setAudioController audio .AC97)
      cmd (.setAudioDriver audio .ALSA)
      cmd (.setAudioEnabledIn audio enabledIn)
      cmd (.setAudioEnabledOut audio enabledOut)) vmname)

/-- Or the adapter as a whole. -/
def switchAudio (fuel : Nat) (vmname : String) (enable : Bool) : Vb Bool :=
  tryReport fuel (withMutable " Virtual machine does not exist !"
    (withDevice (fun m => ptr (.audioAdapter m)) " No sound card adapter !" fun audio =>
      cmd (.setAudioEnabled audio enable)) vmname)

/-! ## Serial ports

Slots 0 to 4 pass the check, though a machine has four ports. -/

/-- `addSerialPort` and `delSerialPort`. The guard lets slot 4 through. -/
def switchSerialPort (fuel : Nat) (vmname : String) (slot : Int) (enabled : Bool) : Vb Bool :=
  tryReport fuel do
    if slot < 0 ∨ slot > 4 then
      callbackdata "serial port: 0 ~ 3 !"
      return false
    withMutable " Virtual machine does not exist !"
      (withDevice (fun m => ptr (.getSerialPort m (uint32 slot))) "No such serial port !"
        fun serial => cmd (.setSerialEnabled serial enabled)) vmname

/-- Switching the port on. -/
def addSerialPort (fuel : Nat) (vmname : String) (slot : Int) : Vb Bool :=
  switchSerialPort fuel vmname slot true

/-- Switching it off. -/
def delSerialPort (fuel : Nat) (vmname : String) (slot : Int) : Vb Bool :=
  switchSerialPort fuel vmname slot false

end VirtCore.VcaVmConfigure
