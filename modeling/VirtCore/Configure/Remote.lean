import VirtCore.VBox.Call

/-!
# VirtCore — `vcaVmConfigure`: the remote display

`setSimpleRemoteDisplay`, `getRdpInfo` and `disableRDP` of `vca_vmConfigure.cpp`.
-/

namespace VirtCore.VcaVmConfigure

open Interact

/-- The writes of `setSimpleRemoteDisplay`. -/
def configureVRDE (ip : String) (port : Int) (allowMultiConnect reuseSingleConnect : Bool)
    (rdpserver : IVRDEServer) : Vb Unit := do
  cmd (.setVRDEEnabled rdpserver true)
  cmd (.setAllowMultiConnection rdpserver allowMultiConnect)
  cmd (.setReuseSingleConnection rdpserver reuseSingleConnect)
  cmd (.setAuthTimeout rdpserver 6000)
  cmd (.setVRDEProperty rdpserver "TCP/Ports" (toString port))
  cmd (.setVRDEProperty rdpserver "TCP/Address" ip)

/-- A machine in another state than powered off is not released. -/
def setSimpleRemoteDisplay (fuel : Nat) (vmname ip : String) (port : Int)
    (allowMultiConnect reuseSingleConnect : Bool) : Vb Bool :=
  tryReport fuel do
    let machine ← ptr (.findMachine vmname)
    if machine.isSome then
      let state ← via machine fun m => val (.state m)
      if state ∈ [MachineState.PoweredOff] then
        let session ← ptr .session
        via machine fun m => cmd (.lockMachine m session .Shared)
        let mutabmachine : COMPtr IMachine ← via session fun s => ptr (.sessionMachine s)
        if mutabmachine.isSome then
          let rdpserver : COMPtr IVRDEServer ← via mutabmachine fun m => ptr (.VRDEServer m)
          via rdpserver (configureVRDE ip port allowMultiConnect reuseSingleConnect)
          via mutabmachine fun m => cmd (.saveSettings m)
          via session fun s => cmd (.unlockMachine s)
          releaseMachine machine
        else
          callbackdata " Failed to get mutable machine object !"
          via session fun s => cmd (.unlockMachine s)
          releaseMachine machine
          return false
      else
        callbackdata " Virtual machine should be poweroff !"
        return false
    else
      callbackdata " Virtual machine does not exist !"
      releaseMachine machine
      return false
    return true

/-- A text entry of `vrde`: the empty string is written as `"0"`. -/
def orZero (value : String) : String := if value ≠ "" then value else "0"

/-- The entries of an active connection, its data read in the order of the source. -/
def readVRDE (info : COMPtr IVRDEServerInfo) : Vb (List (String × String)) := do
  let port ← via info fun i => val (.vrdePort i)
  let client_ip ← via info fun i => val (.clientIP i)
  let user ← via info fun i => val (.user i)
  let domain ← via info fun i => val (.domain i)
  let client_count ← via info fun i => val (.numberOfClients i)
  let client_name ← via info fun i => val (.clientName i)
  let version ← via info fun i => val (.clientVersion i)
  let encryption ← via info fun i => val (.encryptionStyle i)
  let beginTime ← via info fun i => val (.beginTime i)
  let endTime ← via info fun i => val (.endTime i)
  let bytesReceived ← via info fun i => val (.bytesReceived i)
  let bytesReceivedTotal ← via info fun i => val (.bytesReceivedTotal i)
  let bytesSent ← via info fun i => val (.bytesSent i)
  let bytesSentTotal ← via info fun i => val (.bytesSentTotal i)
  return [("vdeState", "1"), ("clientIP", orZero client_ip), ("port", toString port),
    ("user", orZero user), ("domain", orZero domain), ("connectCount", toString client_count),
    ("clientName", orZero client_name), ("clientVersion", toString version),
    ("encryptionType", toString encryption), ("beginTime", toString beginTime),
    ("endTime", toString endTime), ("bytesReceived", toString bytesReceived),
    ("bytesReceivedTotal", toString bytesReceivedTotal), ("bytesSent", toString bytesSent),
    ("bytesSentTotal", toString bytesSentTotal)]

/-- An inactive connection is an early return with the session locked; a machine that does not
run is reported in the message, and the operation goes on to `return true`. -/
def getRdpInfo (J : Jsoncpp) (fuel : Nat) (vmname : String) : Vb Bool :=
  tryReport fuel do
    let machine ← ptr (.findMachine vmname)
    if machine.isSome then
      let state ← via machine fun m => val (.state m)
      if state ∈ [MachineState.Running] then
        let session ← ptr .session
        via machine fun m => cmd (.lockMachine m session .Shared)
        let console : COMPtr IConsole ← via session fun s => ptr (.console s)
        let vdeserverInfo ← via console fun c => ptr (.VRDEServerInfo c)
        if ¬(← via vdeserverInfo fun i => val (.active i)) then
          return false
        let vrde ← readVRDE vdeserverInfo
        put .result (J.write (Json.null.append (.string (J.mapTojsonstr Json.string vrde))))
        via session fun s => cmd (.unlockMachine s)
        releaseMachine machine
      else
        callbackdata " Virtual machine should be running!"
        releaseMachine machine
    else
      callbackdata " Virtual machine does not exist !"
      releaseMachine machine
      return false
    return true

/-- Only the switch is written; the other settings stay. -/
def disableRDP (fuel : Nat) (_vmname : String) : Vb Bool :=
  tryReport fuel do
    let machine ← ptr (.findMachine _vmname)
    if machine.isSome then
      let session ← ptr .session
      via machine fun m => cmd (.lockMachine m session .Shared)
      let mutabmachine : COMPtr IMachine ← via session fun s => ptr (.sessionMachine s)
      if mutabmachine.isSome then
        let rdpserver : COMPtr IVRDEServer ← via mutabmachine fun m => ptr (.VRDEServer m)
        via rdpserver fun r => cmd (.setVRDEEnabled r false)
        via mutabmachine fun m => cmd (.saveSettings m)
        via session fun s => cmd (.unlockMachine s)
        releaseMachine machine
      else
        callbackdata " Failed to get mutable machine object !"
        via session fun s => cmd (.unlockMachine s)
        releaseMachine machine
        return false
    else
      callbackdata " Virtual machine does not exist !"
      releaseMachine machine
      return false
    return true

end VirtCore.VcaVmConfigure
