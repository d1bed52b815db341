import VirtCore.VBox.Call

/-!
# VirtCore — `QiVCA`: export and import

`exportVM` and `importVM` of `vca_core.cpp`.
-/

namespace VirtCore.QiVCA

open Interact

/-- The options of `exportVM`, in the order in which they are pushed. -/
def exportOptions (keepmac : Bool) : List ExportOptions :=
  (if keepmac then [] else [.StripAllMACs]) ++ [.ExportDVDImages, .CreateManifest]

def exportVM (fuel : Nat) (_vmname : String) (keepmac : Bool) (ovafileType exportpath : String) :
    Vb Bool :=
  tryReport fuel do
    let machine ← ptr (.findMachine _vmname)
    if machine.isSome then
      let app ← ptr .createAppliance
      let _desc : COMPtr IVirtualSystemDescription ←
        via machine fun m => ptr (.exportTo m app _vmname)
      let progress ← via app fun a => ptr (.write a ovafileType (exportOptions keepmac)
        (exportpath ++ "/" ++ _vmname ++ ".ova"))
      pollCompleted fuel progress
      let code ← via progress fun p => val (.resultCode p)
      if 0 = code then
        put .result (exportpath ++ "/" ++ _vmname ++ ".ova")
        return true
      else
        put .result ""
        callbackdata " Write error during export!"
        return false
    else
      callbackdata "Virtual machine does not exist!"
      releaseMachine machine
      return false

/-- `const u16string disk_name = vm_name.append(u".vmdk")`: `vm_name` itself is changed. -/
def importName (vmname : String) : String := vmname ++ ".vmdk"

/-- The values every system description of an import adds to `VBoxValues`. -/
def importValues (vmname ostypeid : String) (cpucount memory : Int) (basefolder : String) :
    List String :=
  [ostypeid, importName vmname, "/", basefolder ++ "/" ++ vmname ++ "/" ++ vmname ++ ".vbox",
    basefolder, toString cpucount, toString memory, "0", "", "3", "", "PIIX4", "PIIX4", "AHCI",
    importName vmname]

/-- The values every system description of an import adds to `extraConfigValues`. -/
def importExtra (netup : Bool) : List String :=
  ["", "", "", "", "", "", "", "", "", if netup then "slot=0;type=Bridged" else "", "", "", "",
    "", "controller=13;channel=0"]

/-- The three arrays are never cleared, so each description gets those of the ones before it
too. -/
def setImportValues (vmname ostypeid : String) (cpucount memory : Int) (netup : Bool)
    (basefolder : String) (desc : List (COMPtr IVirtualSystemDescription)) :
    Vb (List Bool × List String × List String) :=
  Prog.fold (fun (enabled, VBoxValues, extraConfigValues) tmp => do
    let enabled := enabled ++ List.replicate 15 true
    let VBoxValues := VBoxValues ++ importValues vmname ostypeid cpucount memory basefolder
    let extraConfigValues := extraConfigValues ++ importExtra netup
    via tmp fun d => cmd (.setFinalValues d enabled VBoxValues extraConfigValues)
    return (enabled, VBoxValues, extraConfigValues)) ([], [], []) desc

/-- `while (iter != warn.end())` without an increment. -/
def printWarnings (fuel : Nat) (warn : List String) : Vb Unit :=
  Prog.iterate .spin (fun iter : List String =>
    match iter with
    | [] => .ret (.inr ())
    | w :: rest => do
      print w
      return .inl (w :: rest)) fuel warn

/-- `machine` is never assigned, and released at both ends. -/
def importVM (fuel : Nat) (vmname ovapath : String) (keepmac : Bool) (ostypeid : String)
    (cpucount memory : Int) (netup : Bool) (basefolder : String) : Vb Bool :=
  tryReport fuel do
    let machine : COMPtr IMachine := none
    let options := ImportOptions.ImportToVDI :: if keepmac then [.KeepAllMACs] else []
    let app ← ptr .createAppliance
    let r_progress ← via app fun a => ptr (.read a ovapath)
    via r_progress fun p => cmd (.waitForCompletion p (-1))
    let code ← via r_progress fun p => val (.resultCode p)
    if code < 0 then
      callbackdata " Error reading ova file during import!"
      releaseMachine machine
      return false
    via app fun a => cmd (.interpret a)
    let warn ← via app fun a => val (.getWarnings a)
    printWarnings fuel warn
    let desc ← via app fun a => val (.virtualSystemDescriptions a)
    let _ ← setImportValues vmname ostypeid cpucount memory netup basefolder desc
    let i_progress ← via app fun a => ptr (.importMachines a options)
    pollCompleted fuel i_progress
    releaseMachine machine
    let code ← via i_progress fun p => val (.resultCode p)
    return decide (code ≥ 0)

end VirtCore.QiVCA
