import VirtCore.VBox.Call

/-!
# VirtCore — `QiVCA`: the machine list and the power operations

`listVMs`, `startUp`, `shutDown`, `powerOff`, `pause`, `resume`, `vmSleep` and `restart` of
`vca_core.cpp`. An operation is a program over libvbox calls; its strings are the request's
and its output parameters are written with `put`.

Four of the operations only tell a console to do something in certain states; they are
`consoleAction` at their own states, action and messages.
-/

namespace VirtCore.QiVCA

open Interact

/-- The constructor's calls, and the list of machines it keeps. -/
def QiVCA : Vb (List (COMPtr IMachine)) := do
  let vboxClient ← ptr .virtualBoxClient
  let vbox ← via vboxClient fun _ => ptr .virtualBox
  via vbox fun _ => val .machines

/-- The destructor's calls. -/
def destructor : Vb Unit := do
  act (.release .virtualBox) fun _ => .ret ()
  act (.release .virtualBoxClient) fun _ => .ret ()

variable (J : Jsoncpp)

/-- Every name is looked up again for the state; the states that `getMachineStates` returns
are not used. -/
def listVMs (machines : List (COMPtr IMachine)) : Vb Bool := do
  let _states ← val (.getMachineStates machines)
  let vm_vector ← Prog.fold (fun names machine => do
    return names ++ [← via machine fun m => val (.machineName m)]) [] machines
  let map ← Prog.fold (fun map vmdata => do
    if vmdata ≠ "" then
      let machine ← ptr (.findMachine vmdata)
      let state ← via machine fun m => val (.state m)
      return mapInsert map vmdata state.toInt
    else
      return map) ([] : List (String × Int)) vm_vector
  if map.isEmpty then
    callbackdata "Virtual machine does not exist!"
    return false
  let jsonarray := Json.null.append (.string (J.mapTojsonstr Json.int map))
  put .result (J.write jsonarray)
  return true

/-- `void startUp(…, int &data, string &message)`: the catch block reports the error and the
function returns without assigning `data`. -/
def startUp (fuel : Nat) (_vmname ui : String) : Vb Unit :=
  catchCOM (do
    let machine ← ptr (.findMachine _vmname)
    if machine.isSome then
      let state ← via machine fun m => val (.state m)
      if state ∈ [MachineState.PoweredOff, .Aborted, .Saved] then
        let session ← ptr .session
        let progress ← via machine fun m => ptr (.launchVMProcess m session ui "")
        via progress fun p => cmd (.waitForCompletion p (-1))
        via session fun s => cmd (.unlockMachine s)
        releaseMachine machine
        putData 1
      else
        putData 0
        callbackdata "Virtual machine state is not poweroff or saved or aborted!"
        releaseMachine machine
    else
      releaseMachine machine
      putData 0
      callbackdata "Virtual machine does not exist!") fun err => do
    let _ ← reportError fuel err

/-- Lock the machine, let its console act, unlock: what `shutDown`, `pause`, `resume` and
`restart` do in the states they accept. They differ in how they leave when there is no
machine. -/
def consoleAction (states : List MachineState) (action : IConsole → Cmd) (wrongState : String)
    (notFound : COMPtr IMachine → Vb Unit) (_vmname : String) : Vb Bool := do
  let machine ← ptr (.findMachine _vmname)
  if machine.isSome then
    let state ← via machine fun m => val (.state m)
    if state ∈ states then
      let session ← ptr .session
      via machine fun m => cmd (.lockMachine m session .Shared)
      let console ← via session fun s => ptr (.console s)
      via console fun c => cmd (action c)
      via session fun s => cmd (.unlockMachine s)
      releaseMachine machine
    else
      releaseMachine machine
      callbackdata wrongState
      return false
  else
    notFound machine
    return false
  return true

def shutDown (_vmname : String) : Vb Bool :=
  consoleAction [.Running] .powerButton "Virtual machine state is not running!"
    (fun machine => do
      callbackdata "Virtual machine does not exist!"
      releaseMachine machine) _vmname

/-- The states in which `powerOff` only writes its message. -/
def powerOffRefuses : List MachineState :=
  [.Saving, .Restoring, .Saved, .Aborted, .PoweredOff, .Snapshotting, .RestoringSnapshot,
    .DeletingSnapshot]

/-- The other way round than its siblings: the listed states are refused, by a `break` that
leads past the last return statement, and the progress object of `powerDown` is dropped. -/
def powerOff (_vmname : String) : Vb Bool := do
  let machine ← ptr (.findMachine _vmname)
  if machine.isSome then
    let state ← via machine fun m => val (.state m)
    if state ∈ powerOffRefuses then
      callbackdata "Virtual machine state is saved of poweroff!"
      releaseMachine machine
    else
      let session ← ptr .session
      via machine fun m => cmd (.lockMachine m session .Shared)
      let console ← via session fun s => ptr (.console s)
      let _progress : COMPtr IProgress ← via console fun c => ptr (.powerDown c)
      via session fun s => cmd (.unlockMachine s)
      releaseMachine machine
      return true
  else
    callbackdata "Virtual machine does not exist!"
    releaseMachine machine
    return false
  flowOff

def pause (_vmname : String) : Vb Bool :=
  consoleAction [.Running, .Starting, .Stopping] .pause
    "Virtual machine state is not running or starting or stoping!"
    (fun machine => do
      callbackdata "Virtual machine does not exist!"
      releaseMachine machine) _vmname

def resume (_vmname : String) : Vb Bool :=
  consoleAction [.Paused] .resume "Virtual machine state is not Paused!"
    (fun machine => do
      callbackdata "Virtual machine does not exist!"
      releaseMachine machine) _vmname

/-- The body of `vmSleep`, which `restoreSnapshot` calls with a message variable of its own:
`assign` is the assignment to the caller's message, and the result is `none` for `true` and
the message for `false`. -/
def vmSleepWith (assign : String → Vb Unit) (_vmname : String) : Vb (Option String) := do
  let machine ← ptr (.findMachine _vmname)
  if machine.isSome then
    let state ← via machine fun m => val (.state m)
    if state ∈ [MachineState.Running, .Paused] then
      let session ← ptr .session
      via machine fun m => cmd (.lockMachine m session .Shared)
      let mutablemachine ← via session fun s => ptr (.sessionMachine s)
      if mutablemachine.isSome then
        let progress ← via mutablemachine fun m => ptr (.saveState m)
        via progress fun p => cmd (.waitForCompletion p (-1))
      via session fun s => cmd (.unlockMachine s)
      releaseMachine machine
    else
      releaseMachine machine
      assign "Virtual machine state is not Paused or running!"
      return some "Virtual machine state is not Paused or running!"
  else
    assign "Virtual machine does not exist!"
    releaseMachine machine
    return some "Virtual machine does not exist!"
  return none

def vmSleep (_vmname : String) : Vb Bool := do
  return (← vmSleepWith callbackdata _vmname).isNone

def restart (_vmname : String) : Vb Bool :=
  consoleAction [.Running] .reset "Virtual machine state is not running!"
    (fun machine => do
      releaseMachine machine
      callbackdata "Virtual machine does not exist!"
      print "machine can not fond") _vmname

end VirtCore.QiVCA
