import VirtCore.VBox.Call

/-!
# VirtCore — `vcaVmConfigure`: network adapters

`setBridge`, `addBridge`, `setNat`, `addNat`, `setAdaptorMAC` and `disableAdaptor` of
`vca_vmConfigure.cpp`. All six lock the machine, get the adapter of a slot from the session's
mutable machine, write some of its settings and save.

* **`changeAdapter`** — that common part, with the writes as a parameter.
* **`anyState` / `poweredOff`** — the two guards: `setBridge` and `setNat` ask for no state.
* `addBridge` is the only one without a `try`.
-/

namespace VirtCore.VcaVmConfigure

open Interact

/-- The constructor's calls. -/
def vcaVmConfigure : Vb (List (COMPtr IMachine)) := do
  let vboxClient_c ← ptr .virtualBoxClient
  let vbox_c ← via vboxClient_c fun _ => ptr .virtualBox
  via vbox_c fun _ => val .machines

/-- `(slot >= 0) && (slot <= 3)`. -/
abbrev slotOk (slot : Int) : Prop := 0 ≤ slot ∧ slot ≤ 3

/-- The part after the guards: change the adapter of the session's machine and save. Without
an adapter the session stays locked. -/
def changeAdapter (machine : COMPtr IMachine) (slot : Int)
    (change : INetworkAdapter → Vb Unit) : Vb Bool := do
  let session ← ptr .session
  via machine fun m => cmd (.lockMachine m session .Shared)
  let mutabmachine ← via session fun s => ptr (.sessionMachine s)
  let adapter : COMPtr INetworkAdapter ←
    via mutabmachine fun m => ptr (.getNetworkAdapter m (uint32 slot))
  if adapter.isSome then
    via adapter change
    via mutabmachine fun m => cmd (.saveSettings m)
    via session fun s => cmd (.unlockMachine s)
    releaseMachine machine
  else
    callbackdata " Virtual machine adapter does not exist!"
    releaseMachine machine
    return false
  return true

/-- The operations that ask for no machine state. -/
def anyState (change : INetworkAdapter → Vb Unit) (_vmname : String) (slot : Int) :
    Vb Bool := do
  if ¬slotOk slot then
    callbackdata "slot should between 0~3"
    return false
  let machine ← ptr (.findMachine _vmname)
  if machine.isSome then
    changeAdapter machine slot change
  else
    callbackdata " Virtual machine does not exist!"
    releaseMachine machine
    return false

/-- The operations that ask for a powered-off machine. -/
def poweredOff (change : INetworkAdapter → Vb Unit) (_vmname : String) (slot : Int) :
    Vb Bool := do
  if ¬slotOk slot then
    callbackdata "slot should between 0~3"
    return false
  let machine ← ptr (.findMachine _vmname)
  if machine.isSome then
    let state ← via machine fun m => val (.state m)
    if state ∈ [MachineState.PoweredOff] then
      changeAdapter machine slot change
    else
      callbackdata " Virtual machine must be poweroff!"
      releaseMachine machine
      return false
  else
    callbackdata " Virtual machine does not exist!"
    releaseMachine machine
    return false

/-- The writes of `setBridge` and `addBridge`. -/
def bridge (hostpci : String) (adapter : INetworkAdapter) : Vb Unit := do
  cmd (.setBridgedInterface adapter hostpci)
  cmd (.setAttachmentType adapter .Bridged)
  cmd (.setAdapterEnabled adapter true)

/-- The writes of `setNat` and `addNat`. -/
def nat (adapter : INetworkAdapter) : Vb Unit := do
  cmd (.setAttachmentType adapter .NAT)
  cmd (.setAdapterEnabled adapter true)

/-- The writes of `setAdaptorMAC`. -/
def setMAC (mac : String) (adapter : INetworkAdapter) : Vb Unit := do
  cmd (.setAdapterEnabled adapter true)
  cmd (.setMACAddress adapter mac)

/-- The write of `disableAdaptor`. -/
def disable (adapter : INetworkAdapter) : Vb Unit :=
  cmd (.setAdapterEnabled adapter false)

/-- Attaching an adapter to a bridge, in any state. -/
def setBridge (fuel : Nat) (_vmname : String) (slot : Int) (hostpci : String) : Vb Bool :=
  tryReport fuel (anyState (bridge hostpci) _vmname slot)

/-- The same for a powered-off machine, without a `try`. -/
def addBridge (_vmname : String) (slot : Int) (hostpci : String) : Vb Bool :=
  poweredOff (bridge hostpci) _vmname slot

/-- Attaching to NAT, in any state. -/
def setNat (fuel : Nat) (_vmname : String) (slot : Int) : Vb Bool :=
  tryReport fuel (anyState nat _vmname slot)

/-- The same for a powered-off machine. -/
def addNat (fuel : Nat) (_vmname : String) (slot : Int) : Vb Bool :=
  tryReport fuel (poweredOff nat _vmname slot)

/-- Setting the hardware address, for a powered-off machine. -/
def setAdaptorMAC (fuel : Nat) (_vmname : String) (slot : Int) (mac : String) : Vb Bool :=
  tryReport fuel (poweredOff (setMAC mac) _vmname slot)

/-- Switching the adapter off, for a powered-off machine. -/
def disableAdaptor (fuel : Nat) (_vmname : String) (slot : Int) : Vb Bool :=
  tryReport fuel (poweredOff disable _vmname slot)

end VirtCore.VcaVmConfigure
