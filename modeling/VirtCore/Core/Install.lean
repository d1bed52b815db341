import VirtCore.Core.Disk

/-!
# VirtCore — `QiVCA`: creating and deleting machines

`createVMfromSystemdisk`, `createVMfromISO` and `deleteVM` of `vca_core.cpp`. The two create
operations walk the tables of `vca_core.h` and do their work in the round that matches.
-/

namespace VirtCore.QiVCA

open Interact

/-- `mediaType` of `vca_core.h`. -/
def mediaType : List String := ["VDI", "VHD", "VMDK"]

/-- `osType` of `vca_core.h`. -/
def osType : List String :=
  ["Windows31", "Windows95", "Windows98", "WindowsMe", "WindowsNT3x", "WindowsNT4",
    "Windows2000", "WindowsXP", "WindowsXP_64", "Windows2003", "Windows2003_64",
    "WindowsVista", "WindowsVista_64", "Windows2008", "Windows2008_64",
    "Windows7", "Windows7_64", "Windows8", "Windows8_64", "Windows81", "Windows81_64",
    "Windows2012_64", "Windows10", "Windows10_64", "Windows2016_64",
    "Windows2019_64", "WindowsNT", "WindowsNT_64",
    "Linux22", "Linux24", "Linux24_64", "Linux26", "Linux26_64",
    "ArchLinux", "ArchLinux_64", "Debian", "Debian_64", "Fedora", "Fedora_64",
    "Gentoo", "Gentoo_64", "Mandriva", "Mandriva_64", "Oracle", "Oracle_64",
    "RedHat", "RedHat_64", "OpenSUSE", "OpenSUSE_64", "Turbolinux", "Turbolinux_64",
    "Ubuntu", "Ubuntu_64", "Xandros", "Xandros_64", "Linux", "Linux_64",
    "Solaris", "Solaris_64", "OpenSolaris", "OpenSolaris_64", "Solaris11_64",
    "FreeBSD", "FreeBSD_64", "OpenBSD", "OpenBSD_64", "NetBSD", "NetBSD_64",
    "OS2Warp3", "OS2Warp4", "OS2Warp45", "OS2eCS", "OS21x", "OS2",
    "MacOS", "MacOS_64", "MacOS106", "MacOS106_64", "MacOS107_64", "MacOS108_64",
    "MacOS109_64", "MacOS1010_64", "MacOS1011_64", "MacOS1012_64", "MacOS1013_64",
    "DOS", "Netware", "L4", "QNX", "JRockitVE", "VBoxBS_64"]

/-- The bus a create operation adds for `storagebustype`; `none` where no branch matches. -/
def storageBusOf : String → Option StorageBus
  | "IDE" => some .IDE
  | "SATA" => some .SATA
  | "SCSI" => some .SCSI
  | "Floppy" => some .Floppy
  | "SAS" => some .SAS
  | "USB" => some .USB
  | "PCIe" => some .PCIe
  | _ => none

/-- The seven-way choice of the disk controller in both create operations. Without a matching
name the controller stays null. -/
def addBusController (mutableMachine : COMPtr IMachine) (storagebustype : String) :
    Vb (COMPtr IStorageController) :=
  match storageBusOf storagebustype with
  | some bus => via mutableMachine fun m => ptr (.addStorageController m storagebustype bus)
  | none => .ret none

/-- The round of `createVMfromSystemdisk` whose OS type is the one asked for. -/
def installSystemdisk (_vmname ostypeid : String) (cpucount memorysize : Int)
    (basefolder diskpath storagebustype : String) : Vb (Option Bool) := do
  let _p ← val (.composeMachineFilename _vmname "" "" basefolder)
  let machine ← ptr (.createMachine _p _vmname [] ostypeid "")
  if machine.isSome then
    callbackdata (← via machine fun m => val (.machineId m))
    via machine fun m => cmd (.setCPUCount m (uint32 cpucount))
    via machine fun m => cmd (.setOSTypeId m ostypeid)
    via machine fun m => cmd (.setMemorySize m (uint32 memorysize))
    let session ← ptr .session
    cmd (.registerMachine machine)
    via machine fun m => cmd (.lockMachine m session .Write)
    let mutableMachine ← via session fun s => ptr (.sessionMachine s)
    via mutableMachine fun m => cmd (.setHWVirtExProperty m .NestedPaging true)
    let disk ← ptr (.openMedium diskpath .HardDisk .ReadWrite true)
    if disk.isSome then
      via disk fun d => val (.refreshState d)
      let controller ← addBusController mutableMachine storagebustype
      let name ← via controller fun c => val (.controllerName c)
      via mutableMachine fun m => cmd (.attachDevice m name 0 0 .HardDisk disk)
      via mutableMachine fun m => cmd (.setBootOrder m 1 .HardDisk)
      via mutableMachine fun m => cmd (.saveSettings m)
      via session fun s => cmd (.unlockMachine s)
      releaseMachine machine
    else
      callbackdata " Virtual machine disk open failed !"
      via session fun s => cmd (.unlockMachine s)
      releaseMedium disk
      releaseMachine machine
      return some false
  else
    callbackdata "Virtual machine creation failed!"
    releaseMachine machine
    return some false
  return none

def createVMfromSystemdisk (fuel : Nat) (_vmname ostypeid : String) (cpucount memorysize : Int)
    (basefolder diskpath storagebustype : String) : Vb Bool :=
  tryReport fuel do
    let r ← Prog.forEach (fun iter => if strcmpEq ostypeid iter then
        installSystemdisk _vmname ostypeid cpucount memorysize basefolder diskpath
          storagebustype
      else .ret none) osType
    return r.getD true

/-- `logicdisk_storagepath` of `createVMfromISO`; `none` for a format it does not know. -/
def createVMfromISOPath (_vmname diskformat basefolder : String) : Option String :=
  if strcmpEq diskformat "VDI" then
    some (basefolder ++ "/" ++ _vmname ++ "/" ++ _vmname ++ ".vdi")
  else if strcmpEq diskformat "VHD" then
    some (basefolder ++ "/" ++ _vmname ++ "/" ++ _vmname ++ ".vhd")
  else if strcmpEq diskformat "VMDK" then
    some (basefolder ++ "/" ++ _vmname ++ "/" ++ _vmname ++ ".vmdk")
  else
    none

/-- A format of `mediaType` has a path: the branch of `installISO` without one, which would leave
with the lock, is not reached. -/
theorem createVMfromISOPath_isSome {n fmt bf iter_l : String} (hl : iter_l ∈ mediaType)
    (hfmt : strcmpEq fmt iter_l) : (createVMfromISOPath n fmt bf).isSome := by
  simp only [mediaType, List.mem_cons, List.not_mem_nil, or_false] at hl
  rcases hl with rfl | rfl | rfl <;> simp only [createVMfromISOPath, hfmt, if_true]
  · rfl
  · split <;> rfl
  · split <;> (try split) <;> rfl

/-- The second half of an installation from an ISO: the controllers, the DVD and the two
attachments, once the disk exists. -/
def installISODevices (session : COMPtr ISession) (mutableMachine : COMPtr IMachine)
    (disk : COMPtr IMedium) (isopath storagebustype : String) : Vb (Option Bool) := do
  let diskcontroller ← addBusController mutableMachine storagebustype
  let dvdcontroller ← via mutableMachine fun m => ptr (.addStorageController m "IDE" .IDE)
  let dvd ← ptr (.openMedium isopath .DVD .ReadOnly true)
  if dvd.isSome then
    let name ← via dvdcontroller fun c => val (.controllerName c)
    via mutableMachine fun m => cmd (.attachDevice m name 0 0 .DVD dvd)
    let name ← via diskcontroller fun c => val (.controllerName c)
    via mutableMachine fun m => cmd (.attachDevice m name 0 0 .HardDisk disk)
    let name ← via dvdcontroller fun c => val (.controllerName c)
    via mutableMachine fun m => cmd (.mountMedium m name 0 0 dvd true)
    via mutableMachine fun m => cmd (.setBootOrder m 1 .DVD)
    via mutableMachine fun m => cmd (.setBootOrder m 2 .HardDisk)
    via mutableMachine fun m => cmd (.saveSettings m)
    via session fun s => cmd (.unlockMachine s)
    return none
  else
    callbackdata " DVD device open failed !"
    return some false

/-- The round of `createVMfromISO` whose OS type and disk format are the ones asked for. -/
def installISO (_vmname ostypeid : String) (cpucount memorysize : Int) (basefolder : String)
    (logicdisk_size : Int) (isopath diskformat storagebustype : String) (fix : Bool) :
    Vb (Option Bool) := do
  let _p ← val (.composeMachineFilename _vmname "" "" basefolder)
  let machine ← ptr (.createMachine _p _vmname [] ostypeid "")
  if machine.isSome then
    put .result (← via machine fun m => val (.machineId m))
    via machine fun m => cmd (.setCPUCount m (uint32 cpucount))
    via machine fun m => cmd (.setOSTypeId m ostypeid)
    via machine fun m => cmd (.setMemorySize m (uint32 memorysize))
    let session ← ptr .session
    cmd (.registerMachine machine)
    via machine fun m => cmd (.lockMachine m session .Write)
    let mutableMachine ← via session fun s => ptr (.sessionMachine s)
    via mutableMachine fun m => cmd (.setHWVirtExProperty m .NestedPaging true)
    match createVMfromISOPath _vmname diskformat basefolder with
    | none =>
      callbackdata "Virtual disk format is incorrect !"
      return some false
    | some logicdisk_storagepath =>
      let disk ← ptr (.createMedium diskformat logicdisk_storagepath .ReadWrite .HardDisk)
      if disk.isSome then
        let variant := MediumVariant.Standard :: if fix then [.Fixed] else []
        let progress ← via disk fun d => ptr (.createBaseStorage d logicdisk_size variant)
        via progress fun p => cmd (.waitForCompletion p (-1))
        let code ← via progress fun p => val (.resultCode p)
        if code ≠ 0 then
          callbackdata "Virtual machine disk creation failed!"
          via session fun s => cmd (.unlockMachine s)
          releaseMachine machine
          return some false
        installISODevices session mutableMachine disk isopath storagebustype
      else
        callbackdata "Virtual machine disk creation failed!"
        via session fun s => cmd (.unlockMachine s)
        releaseMedium disk
        releaseMachine machine
        return some false
  else
    callbackdata "Virtual machine creation failed!"
    releaseMachine machine
    return some false

def createVMfromISO (fuel : Nat) (_vmname ostypeid : String) (cpucount memorysize : Int)
    (basefolder : String) (logicdisk_size : Int) (isopath diskformat storagebustype : String)
    (fix : Bool) : Vb Bool :=
  tryReport fuel do
    let r ← Prog.forEach (fun iter => if strcmpEq ostypeid iter then
        Prog.forEach (fun iter_l => if strcmpEq diskformat iter_l then
            installISO _vmname ostypeid cpucount memorysize basefolder logicdisk_size isopath
              diskformat storagebustype fix
          else .ret none) mediaType
      else .ret none) osType
    return r.getD true

/-- The clean-up mode of a `_type`; `none` for a type `deleteVM` does not know. -/
def cleanupMode (_type : Int) : Option CleanupMode :=
  if 4 = _type then some .Full
  else if 3 = _type then some .DetachAllReturnHardDisksOnly
  else if 2 = _type then some .DetachAllReturnNone
  else if 1 = _type then some .UnregisterOnly
  else none

/-- An unknown `_type` writes its message and falls through to `return true`. -/
def deleteVM (fuel : Nat) (_vmname : String) (_type : Int) : Vb Bool :=
  tryReport fuel do
    let machine ← ptr (.findMachine _vmname)
    if machine.isSome then
      let state ← via machine fun m => val (.state m)
      if state ∈ [MachineState.PoweredOff] then
        match cleanupMode _type with
        | some mode =>
          let mediums ← via machine fun m => val (.unregister m mode)
          let progress ← via machine fun m => ptr (.deleteConfig m mediums)
          via progress fun p => cmd (.waitForCompletion p (-1))
        | none => callbackdata "delete type is err!"
        releaseMachine machine
      else
        callbackdata "VM should be poweroff!"
        return false
    else
      callbackdata "Virtual machine does not exist!"
      releaseMachine machine
      return false
    return true

end VirtCore.QiVCA
