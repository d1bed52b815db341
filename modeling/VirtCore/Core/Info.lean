import VirtCore.VBox.Call

/-!
# VirtCore — `QiVCA`: the queries about one machine

`getVmInfo` and `getVmSnapshotInfo` of `vca_core.cpp`. A `map<const string, const string>` is
the list of its entries; `mapTojsonstr` writes it.
-/

namespace VirtCore.QiVCA

open Interact

variable (J : Jsoncpp)

/-- One round of the disk loop of `getVmInfo`: the `diskmap` of one attachment. The medium is
fetched anew for each entry, and so is its parent after the null check. -/
def diskEntry (attach : COMPtr IMediumAttachment) : Vb (List (String × String)) := do
  let medium := via attach fun a => ptr (.attachmentMedium a)
  let name ← via (← medium) fun d => val (.mediumName d)
  let uuid ← via (← medium) fun d => val (.mediumId d)
  let port ← via attach fun a => val (.port a)
  let hotplug ← via attach fun a => val (.hotPluggable a)
  let controller ← via attach fun a => val (.controller a)
  let format ← via (← medium) fun d => val (.mediumFormat d)
  let logical_size ← via (← medium) fun d => val (.logicalSize d)
  let physics_size ← via (← medium) fun d => val (.size d)
  let diskmap := [("name", name), ("uuid", uuid), ("port", toString port),
    ("hotplug", if hotplug then "1" else "0"), ("controller", controller), ("format", format),
    ("logical_size", toString logical_size), ("physics_size", toString physics_size)]
  let parent : COMPtr IMedium ← via (← medium) fun d => ptr (.mediumParent d)
  if parent.isNone then
    return mapInsert diskmap "parent_name" "0"
  else
    let parent : COMPtr IMedium ← via (← medium) fun d => ptr (.mediumParent d)
    let parent_name ← via parent fun d => val (.mediumName d)
    let parent : COMPtr IMedium ← via (← medium) fun d => ptr (.mediumParent d)
    let parent_id ← via parent fun d => val (.mediumId d)
    return mapInsert (mapInsert diskmap "parent_name" parent_name) "parent_id" parent_id

/-- The `netmap` of one adapter of `getVmInfo`, appended to the array where the adapter is
enabled. The source has it four times, once for each slot. -/
def netEntry (jsonarraynetwork : Json) (adapter : COMPtr INetworkAdapter) : Vb Json := do
  if (← via adapter fun a => val (.adapterEnabled a)) then
    let type ← via adapter fun a => val (.attachmentType a)
    let netmap := if type = .Bridged then [("nettype", "Bridged")] else []
    let type ← via adapter fun a => val (.attachmentType a)
    let netmap := if type = .NAT then mapInsert netmap "nettype" "NAT" else netmap
    let netmap := mapInsert netmap "VIF" (← via adapter fun a => val (.bridgedInterface a))
    let netmap := mapInsert netmap "MAC" (← via adapter fun a => val (.MACAddress a))
    return jsonarraynetwork.append (.string (J.mapTojsonstr Json.string netmap))
  else
    return jsonarraynetwork

/-- The attachments of the SATA controller, as `jsonarraydisk`. -/
def diskInfo (machine : COMPtr IMachine) : Vb Json := do
  let medium ← via machine fun m => val (.getMediumAttachmentsOfController m "SATA")
  Prog.fold (fun (disks : Json) attach => do
    return disks.append (.string (J.mapTojsonstr Json.string (← diskEntry attach))))
    .null medium

/-- The four adapters, as `jsonarraynetwork`. -/
def networkInfo (machine : COMPtr IMachine) : Vb Json := do
  let adapter_0 ← via machine fun m => ptr (.getNetworkAdapter m 0)
  let adapter_1 ← via machine fun m => ptr (.getNetworkAdapter m 1)
  let adapter_2 ← via machine fun m => ptr (.getNetworkAdapter m 2)
  let adapter_3 ← via machine fun m => ptr (.getNetworkAdapter m 3)
  Prog.fold (netEntry J) .null [adapter_0, adapter_1, adapter_2, adapter_3]

/-- The display settings, as `jsonarraygraphics`. -/
def graphicsInfo (machine : COMPtr IMachine) : Vb Json := do
  let ramsize ← via machine fun m => val (.VRAMSize m)
  let monitor_count ← via machine fun m => val (.monitorCount m)
  let enable3d ← via machine fun m => val (.accelerate3DEnabled m)
  return Json.null.append (.string (J.mapTojsonstr Json.string
    [("ramsize", toString ramsize), ("monitor_count", toString monitor_count),
      ("enable3d", if enable3d then "1" else "0")]))

/-- The machine pointer is used long before it is checked. -/
def getVmInfo (_vmname : String) : Vb Bool := do
  let machine ← ptr (.findMachine _vmname)
  let jsonarraydisk ← diskInfo J machine
  let jsonarraynetwork ← networkInfo J machine
  let jsonarraygraphics ← graphicsInfo J machine
  if machine.isSome then
    let state ← via machine fun m => val (.state m)
    let cpucount ← via machine fun m => val (.CPUCount m)
    let memory ← via machine fun m => val (.memorySize m)
    let os ← via machine fun m => val (.OSTypeId m)
    let vmuuid ← via machine fun m => val (.hardwareUUID m)
    let vmmap := [("state", toString state.toInt), ("cpucount", toString (int32 cpucount)),
      ("memory", toString (int32 memory)), ("os", os), ("vmuuid", vmuuid),
      ("disk", J.toStyledString jsonarraydisk), ("network", J.toStyledString jsonarraynetwork),
      ("graphics", J.toStyledString jsonarraygraphics)]
    put .result (J.write (Json.null.append (.string (J.mapTojsonstr Json.string vmmap))))
    releaseMachine machine
  else
    callbackdata "Virtual machine does not exist!"
    releaseMachine machine
    return false
  return true

def getVmSnapshotInfo (_vmname : String) : Vb Bool := do
  let machine ← ptr (.findMachine _vmname)
  if machine.isSome then
    let count ← via machine fun m => val (.snapshotCount m)
    let snap_count := int32 count
    let snap_path ← via machine fun m => val (.snapshotFolder m)
    if snap_count ≥ 1 then
      let current_snap ← via machine fun m => ptr (.currentSnapshot m)
      let snap_current_name ← via current_snap fun s => val (.snapshotName s)
      let snap_parent_name ←
        if snap_count ≥ 2 then do
          let parent ← via current_snap fun s => ptr (.snapshotParent s)
          via parent fun s => val (.snapshotName s)
        else
          pure "0"
      if snap_parent_name ≠ "" then
        let vmsnap := [("count", toString snap_count), ("path", snap_path),
          ("current", snap_current_name), ("parent", snap_parent_name)]
        put .result (J.write (Json.null.append (.string (J.mapTojsonstr Json.string vmsnap))))
        releaseMachine machine
      else
        releaseMachine machine
        callbackdata " Failure during virtual machine snapshot data collection !"
        return false
    else
      callbackdata "Virtual machine has no snapshot !"
      releaseMachine machine
      return false
  else
    callbackdata " Virtual machine does not exist !"
    releaseMachine machine
    return false
  return true

end VirtCore.QiVCA
