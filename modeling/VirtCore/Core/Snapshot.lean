import VirtCore.Core.Power

/-!
# VirtCore — `QiVCA`: snapshots and clones

`takeSnapshot`, `restoreSnapshot`, `deleteSnapshot`, `cloneFullVM` and `cloneLinkVM` of
`vca_core.cpp`.
-/

namespace VirtCore.QiVCA

open Interact

/-- The session is created before the state is known. -/
def takeSnapshot (_vmname basicString : String) : Vb Bool := do
  let machine ← ptr (.findMachine _vmname)
  if machine.isSome then
    let session ← ptr .session
    let state ← via machine fun m => val (.state m)
    if state ∈ [MachineState.Running] then
      via machine fun m => cmd (.lockMachine m session .Shared)
      let mutabmachine : COMPtr IMachine ← via session fun s => ptr (.sessionMachine s)
      if mutabmachine.isSome then
        let _id ← via mutabmachine fun m => val (.machineId m)
        let progress ← via mutabmachine fun m =>
          ptr (.takeSnapshot m basicString "vca core!" false)
        via progress fun p => cmd (.waitForCompletion p (-1))
      else
        callbackdata " Failed to get virtual machine variable object !"
        via session fun s => cmd (.unlockMachine s)
        releaseMachine machine
        return false
      via session fun s => cmd (.unlockMachine s)
      releaseMachine machine
    else
      releaseMachine machine
      callbackdata " Virtual state should be running!"
      return false
  else
    callbackdata " Virtual machine does not exist !"
    releaseMachine machine
    return false
  return true

/-- The states in which `restoreSnapshot` puts the machine to sleep. -/
def restoreSleeps : List MachineState := [.Starting, .Stopping, .Paused, .Saving, .Running]

/-- A machine in one of `restoreSleeps` is put to sleep and nothing is restored. -/
def restoreSnapshot (fuel : Nat) (_vmname basicString : String) : Vb Bool :=
  tryReport fuel do
    let machine ← ptr (.findMachine _vmname)
    if machine.isSome then
      let state ← via machine fun m => val (.state m)
      if state ∈ restoreSleeps then
        match ← vmSleepWith (fun _ => pure ()) _vmname with
        | some data =>
          callbackdata data
          return false
        | none => pure ()
      else if state ∈ [MachineState.PoweredOff, .Saved] then
        let session ← ptr .session
        via machine fun m => cmd (.lockMachine m session .Shared)
        let mutabmachine : COMPtr IMachine ← via session fun s => ptr (.sessionMachine s)
        if mutabmachine.isSome then
          let snap : COMPtr ISnapshot ←
            via mutabmachine fun m => ptr (.findSnapshot m basicString)
          if snap.isSome then
            let progress ← via mutabmachine fun m => ptr (.restoreSnapshot m snap)
            via progress fun p => cmd (.waitForCompletion p (-1))
          else
            callbackdata "Virtual machine snapshot does not exist !"
            via session fun s => cmd (.unlockMachine s)
            releaseMachine machine
            return false
        else
          callbackdata " Failed to get virtual machine variable object !"
          via session fun s => cmd (.unlockMachine s)
          releaseMachine machine
          return false
        via session fun s => cmd (.unlockMachine s)
        releaseMachine machine
      else
        releaseMachine machine
        callbackdata "Virtual machine state is not PoweredOff or saved, and powerOff failed!"
        return false
    else
      callbackdata "Virtual machine does not exist !"
      releaseMachine machine
      return false
    return true

def deleteSnapshot (_vmname basicString : String) : Vb Bool := do
  let machine ← ptr (.findMachine _vmname)
  if machine.isSome then
    let state ← via machine fun m => val (.state m)
    if state ∈ [MachineState.PoweredOff, .Running, .Saved] then
      let session ← ptr .session
      via machine fun m => cmd (.lockMachine m session .Shared)
      let mutabmachine : COMPtr IMachine ← via session fun s => ptr (.sessionMachine s)
      if mutabmachine.isSome then
        let snap : COMPtr ISnapshot ←
          via mutabmachine fun m => ptr (.findSnapshot m basicString)
        if snap.isSome then
          let id ← via snap fun s => val (.snapshotId s)
          let progress ← via mutabmachine fun m => ptr (.deleteSnapshot m id)
          via progress fun p => cmd (.waitForCompletion p (-1))
          via session fun s => cmd (.unlockMachine s)
          releaseMachine machine
        else
          callbackdata "Virtual machine snapshot does not exist !"
          via session fun s => cmd (.unlockMachine s)
          releaseMachine machine
          return false
      else
        callbackdata " Failed to get virtual machine variable object !"
        via session fun s => cmd (.unlockMachine s)
        releaseMachine machine
        return false
    else
      releaseMachine machine
      callbackdata "Virtual machine state is not PoweredOff or saved or running!"
      return false
  else
    callbackdata "Virtual machine does not exist !"
    releaseMachine machine
    return false
  return true

/-! ## Clones -/

/-- The options of `cloneFullVM`, in the order in which they are pushed. -/
def cloneOptions (keepmacs keephwuuids keepdiskname : Bool) : List CloneOptions :=
  (if keepmacs then [.KeepAllMACs] else []) ++ (if keephwuuids then [.KeepHwUUIDs] else []) ++
    if keepdiskname then [.KeepDiskNames] else []

/-- The target is registered whatever the clone task ended with; the result code is read last,
from a progress object that only the accepted states set. -/
def cloneFullVM (fuel : Nat) (_vmname basefolder target_vmname : String)
    (keepmacs keephwuuids keepdiskname : Bool) : Vb Bool := do
  let machine ← ptr (.findMachine _vmname)
  if machine.isSome then
    callbackdata (← via machine fun m => val (.machineId m))
    let state ← via machine fun m => val (.state m)
    if state ∈ [MachineState.PoweredOff, .Saved] then
      let _p ← val (.composeMachineFilename target_vmname "" "" basefolder)
      let os_type ← via machine fun m => val (.OSTypeId m)
      let targetmachine ← ptr (.createMachine _p target_vmname [] os_type "")
      if targetmachine.isSome then
        via targetmachine fun m => cmd (.saveSettings m)
      else
        callbackdata "Virtual machine creation failed !"
        releaseMachine machine
        return false
      let progress ← via machine fun m =>
        ptr (.cloneTo m targetmachine .AllStates
          (cloneOptions keepmacs keephwuuids keepdiskname))
      pollCompleted fuel progress
      cmd (.registerMachine targetmachine)
      releaseMachine machine
      let code ← via progress fun p => val (.resultCode p)
      return code == 0
    else
      callbackdata " Virtual machine state does not allow cloning !"
      releaseMachine machine
      return false
  else
    callbackdata " Virtual machine not exists !"
    releaseMachine machine
    return false

/-- The snapshot a linked clone is based on; every call takes one under this name. -/
def cloneLinkSnapshot : String := "vca_clone_link_2019_12_18"

/-- Where there is no target machine the clone's progress object is still null at the end. -/
def cloneLinkVM (fuel : Nat) (_vmname basefolder target_vmname : String) : Vb Bool :=
  tryReport fuel do
    let machine ← ptr (.findMachine _vmname)
    if machine.isSome then
      callbackdata (← via machine fun m => val (.machineId m))
      let state ← via machine fun m => val (.state m)
      if state ∈ [MachineState.PoweredOff, .Saved] then
        let session ← ptr .session
        via machine fun m => cmd (.lockMachine m session .Shared)
        let mutabmachine : COMPtr IMachine ← via session fun s => ptr (.sessionMachine s)
        if mutabmachine.isSome then
          let _id ← via mutabmachine fun m => val (.machineId m)
          let progress ← via mutabmachine fun m =>
            ptr (.takeSnapshot m cloneLinkSnapshot "vca clone link!" false)
          via progress fun p => cmd (.waitForCompletion p (-1))
          via mutabmachine fun m => cmd (.setHWVirtExProperty m .NestedPaging true)
        via session fun s => cmd (.unlockMachine s)
        let _p ← val (.composeMachineFilename target_vmname "" "" basefolder)
        let os_type ← via machine fun m => val (.OSTypeId m)
        let targetmachine ← ptr (.createMachine _p target_vmname [] os_type "")
        let cloneprogress ← if targetmachine.isSome then do
            via targetmachine fun m => cmd (.saveSettings m)
            let snap ← via machine fun m => ptr (.findSnapshot m cloneLinkSnapshot)
            let snapmachine ← via snap fun s => ptr (.snapshotMachine s)
            let cloneprogress ← via snapmachine fun m =>
              ptr (.cloneTo m targetmachine .MachineState [.Link])
            pollCompleted fuel cloneprogress
            cmd (.registerMachine targetmachine)
            releaseMachine machine
            pure cloneprogress
          else
            pure none
        let code ← via cloneprogress fun p => val (.resultCode p)
        return code == 0
      else
        callbackdata " Virtual machine state does not allow cloning !"
        releaseMachine machine
        return false
    else
      callbackdata "Virtual machine not exists !"
      releaseMachine machine
      return false

end VirtCore.QiVCA
