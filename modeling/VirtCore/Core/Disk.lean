import VirtCore.VBox.Call

/-!
# VirtCore — `QiVCA`: the disk operations

`makeFloatDisk`, `addDiskToVm`, `destroyFloatDiskWithoutAttach` and `detachDiskFromVm` of
`vca_core.cpp`.
-/

namespace VirtCore.QiVCA

open Interact

/-- The controllers by name, `storageBus` of `vca_core.h`. -/
def storageBus : List String := ["IDE", "SATA", "SCSI", "Floppy", "SAS", "USB", "PCIe"]

/-- `logicdisk_storagepath` of `makeFloatDisk`; `none` for a format it does not know. -/
def makeFloatDiskPath (disknameorid diskformat basefolder : String) : Option String :=
  if strcmpEq diskformat "VDI" then
    some (basefolder ++ "/" ++ disknameorid ++ "/" ++ disknameorid ++ ".vdi")
  else if strcmpEq diskformat "VHD" then
    some (basefolder ++ "/" ++ disknameorid ++ "/" ++ disknameorid ++ ".vhd")
  else if strcmpEq diskformat "VMDK" then
    some (basefolder ++ "/" ++ disknameorid ++ "/" ++ disknameorid ++ ".vmdk")
  else
    none

def makeFloatDisk (fuel : Nat) (disknameorid diskformat basefolder : String) (size : Int) :
    Vb Bool := do
  match makeFloatDiskPath disknameorid diskformat basefolder with
  | none =>
    callbackdata "Virtual disk format is incorrect !"
    return false
  | some logicdisk_storagepath =>
    let disk ← ptr (.createMedium diskformat logicdisk_storagepath .ReadWrite .HardDisk)
    if disk.isSome then
      let progress ← via disk fun d => ptr (.createBaseStorage d size [.Standard, .Fixed])
      pollCompleted fuel progress
      callbackdata (← via disk fun d => val (.mediumId d))
    else
      callbackdata "Disk already exists ！"
      return false
    return true

/-- `diskfullpath` of `addDiskToVm`; `none` for a format it does not know. -/
def addDiskToVmPath (diskname diskformat basefolder : String) : Option String :=
  if strcmpEq diskformat "VDI" then
    some (basefolder ++ "/" ++ diskname ++ "/" ++ diskname ++ ".vdi")
  else if strcmpEq diskformat "VHD" then
    some (basefolder ++ "/" ++ diskname ++ "/" ++ diskname ++ ".vhd")
  else if strcmpEq diskformat "VMDK" then
    some (basefolder ++ "/" ++ diskname ++ "/" ++ diskname ++ ".vmdk")
  else
    none

/-- The `try` inside `addDiskToVm`: `some false` where it returns from the operation. An error
without a `vboxError` is swallowed. -/
def attachDisk (fuel : Nat) (mutableMachine : COMPtr IMachine)
    (controller : COMPtr IStorageController) (slot : Int) (disk : COMPtr IMedium)
    (diskfullpath : String) : Vb (Option Bool) :=
  catchCOM (do
    let name ← via controller fun c => val (.controllerName c)
    via mutableMachine fun m => cmd (.attachDevice m name slot 0 .HardDisk disk)
    let name ← via controller fun c => val (.controllerName c)
    via mutableMachine fun m => cmd (.setHotPluggableForDevice m name slot 0 true)
    callbackdata diskfullpath
    return none) fun err => do
    if (← reportError fuel err) then
      callbackdata err.what
      return some false
    else
      return none

/-- The controller is looked up under the name the request gives; the lookup is written out
seven times in the source, once for each of `storageBus`. -/
def addDiskToVm (fuel : Nat) (vmname diskname diskformat storagecontroller basefolder : String)
    (slot : Int) : Vb Bool := do
  if ¬(slot > 0 ∧ slot < 5) then
    callbackdata "slot should be :1, 2, 3, 4 !"
    return false
  match addDiskToVmPath diskname diskformat basefolder with
  | none =>
    callbackdata "Virtual disk format is incorrect !"
    return false
  | some diskfullpath =>
    let machine ← ptr (.findMachine vmname)
    if machine.isSome then
      let session ← ptr .session
      via machine fun m => cmd (.lockMachine m session .Write)
      let mutableMachine ← via session fun s => ptr (.sessionMachine s)
      let disk ← ptr (.openMedium diskfullpath .HardDisk .ReadWrite true)
      if disk.isSome then
        if storagecontroller ∈ storageBus then
          let controller ← via mutableMachine fun m =>
            ptr (.getStorageControllerByName m storagecontroller)
          match ← attachDisk fuel mutableMachine controller slot disk diskfullpath with
          | some b => return b
          | none =>
            via mutableMachine fun m => cmd (.saveSettings m)
            via session fun s => cmd (.unlockMachine s)
            releaseMachine machine
            return true
        else
          callbackdata " Wrong type of disk controller !"
          releaseMachine machine
          return false
      else
        callbackdata " Disk read error  !"
        releaseMachine machine
        return false
    else
      callbackdata "Virtual machine does not exist !"
      releaseMachine machine
      return false

/-- The first disk whose id or name is `diskuuid` is deleted; without one nothing happens. The
progress object of `deleteStorage` is dropped. -/
def destroyFloatDiskWithoutAttach (diskuuid : String) : Vb Bool := do
  let disks ← val .hardDisks
  let _ ← Prog.forEach (fun disk : COMPtr IMedium => do
    let id ← via disk fun d => val (.mediumId d)
    -- `||`: the name is asked for only where the id is a different one
    let hit ← if id = diskuuid then pure true else do
      let name ← via disk fun d => val (.mediumName d)
      pure (name == diskuuid)
    if hit then
      let _progress : COMPtr IProgress ← via disk fun d => ptr (.deleteStorage d)
      callbackdata (← via disk fun d => val (.mediumName d))
      return some ()
    else
      return none) disks
  return true

/-- The `try` inside `detachDiskFromVm`: `some false` where it returns from the operation. -/
def detachDisk (fuel : Nat) (mutableMachine : COMPtr IMachine)
    (controller : COMPtr IStorageController) (slot : Int) : Vb (Option Bool) :=
  catchCOM (do
    let name ← via controller fun c => val (.controllerName c)
    via mutableMachine fun m => cmd (.detachDevice m name slot 0)
    return none) fun err => do
    let _ ← reportError fuel err
    callbackdata err.what
    return some false

/-- The controller is always `SATA`. Without a machine there is no return statement. -/
def detachDiskFromVm (fuel : Nat) (vmname : String) (slot : Int) : Vb Bool := do
  if ¬(slot > 0 ∧ slot < 5) then
    callbackdata "slot should be :1, 2, 3, 4 !"
    return false
  let machine ← ptr (.findMachine vmname)
  if machine.isSome then
    print "find machine!"
    let session ← ptr .session
    via machine fun m => cmd (.lockMachine m session .Shared)
    let mutableMachine ← via session fun s => ptr (.sessionMachine s)
    let controller ← via mutableMachine fun m => ptr (.getStorageControllerByName m "SATA")
    match ← detachDisk fuel mutableMachine controller slot with
    | some b => return b
    | none =>
      via mutableMachine fun m => cmd (.saveSettings m)
      via session fun s => cmd (.unlockMachine s)
      releaseMachine machine
      return true
  else
    flowOff

end VirtCore.QiVCA
