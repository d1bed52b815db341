import VirtCore.Keyed.Staged
import VirtCore.Machines.Settings
import VirtCore.VBox.Rules
import VirtCore.VBox.Kinds

/-!
# VirtCore — the machines of a VirtualBox host

What VirtualBox keeps, as far as the operations change it: the settings of machines, with the
drafts of the sessions that hold a lock, which machines are registered, and the media.

* **`Hypervisor`** — what VirtualBox decides by itself.
* **`VBoxHost`** — the state. A setter on the mutable machine of a session writes its draft;
  saving the settings saves the draft; unlocking drops it.
* **`hostView`** — what an answered call does to the state, and which answers VirtualBox gives.
-/

namespace VirtCore


open Interact Keyed

/-- What VirtualBox decides by itself: the settings of a new machine, the settings a snapshot has
stored, the machines an import brings, how tasks end, and the names of things. -/
structure Hypervisor where
  defaults : String → Config
  stored : ISnapshot → Config
  imports : IProgress → List (Nat × Config)
  ending : IProgress → Int
  uuid : Nat → String
  controllerName : IStorageController → String
  location : IMedium → String

/-- The settings of a new machine: it has no storage. -/
def Hypervisor.newMachine (V : Hypervisor) (name osTypeId : String) : Config
  | .name => .text name
  | .OSTypeId => .text osTypeId
  | .storageController _ => .absent
  | .attachment .. => .absent
  | f => V.defaults osTypeId f

/-- What is known of the machines, drafts and media. -/
structure VBoxHost where
  store : Staged Nat ISession Field Value
  registered : Nat → Bool
  /-- The settings that the snapshots of a machine have stored. -/
  history : Nat → List Config
  /-- The media that VirtualBox knows, and those with a storage file. -/
  known : IMedium → Bool
  files : IMedium → Bool

namespace VBoxHost

variable (h : VBoxHost)

/-- The settings that a machine object shows, the stored ones of a snapshot apart. -/
def config (m : IMachine) : Option Config :=
  match m.view with
  | .host => h.store.saved m.vm
  | .mutable s => (h.store.draft s).map Prod.snd
  | .snapshot _ => none

/-- Settings can be changed through the mutable machine of a session, and of a machine that is not
registered yet. -/
def Writable (m : IMachine) : Prop :=
  match m.view with
  | .host => h.registered m.vm = false
  | .mutable s => ∃ d, h.store.draft s = some (m.vm, d)
  | .snapshot _ => False

/-- A setter on a mutable machine writes the draft of its session, and one on another machine
object writes the settings at once. -/
def write (m : IMachine) (f : Field) (v : Value) : VBoxHost :=
  match m.view with
  | .host => { h with store := h.store.put m.vm f v }
  | .mutable s => { h with store := h.store.write s f v }
  | .snapshot _ => h

/-- Saving makes the draft of the session the settings of the machine. -/
def saveSettings (m : IMachine) : VBoxHost :=
  match m.view with
  | .mutable s => { h with store := h.store.save s }
  | _ => h

/-- Locking opens a draft, which begins as a copy of the settings. -/
def lock (s : ISession) (vm : Nat) : VBoxHost := { h with store := h.store.openDraft s vm }

/-- Unlocking drops the draft, saved or not. -/
def unlock (s : ISession) : VBoxHost := { h with store := h.store.drop s }

/-- A registered machine is found by its name. -/
def register (vm : Nat) : VBoxHost := { h with registered := Function.update h.registered vm true }

/-- An unregistered one is not. -/
def unregister (vm : Nat) : VBoxHost :=
  { h with registered := Function.update h.registered vm false }

/-- A new machine has no draft, and is not registered yet. -/
def create (vm : Nat) (c : Config) : VBoxHost := { h with store := h.store.create vm c }

/-- The settings of a clone are those of its source under the name it was made with. -/
def clone (source : Option Config) (target : Nat) : VBoxHost :=
  match source with
  | some c => h.create target fun f =>
    if f = .name then ((h.store.saved target).map (· .name)).getD .absent else c f
  | none => h

/-- A snapshot stores the settings of its machine. -/
def snapshot (m : IMachine) : VBoxHost :=
  { h with history := Function.update h.history m.vm ((h.config m).toList ++ h.history m.vm) }

/-- The machines of an appliance, which VirtualBox registers itself. -/
def importMachines (machines : List (Nat × Config)) : VBoxHost :=
  machines.foldl (fun h e => (h.create e.1 e.2).register e.1) h

/-- A medium that VirtualBox knows. -/
def openMedium (d : IMedium) : VBoxHost := { h with known := Function.update h.known d true }

/-- A disk, with its file, once the task that makes it has succeeded. -/
def createStorage (d : IMedium) : VBoxHost :=
  { h with known := Function.update h.known d true, files := Function.update h.files d true }

/-- Deleting a disk makes it unknown and takes its file away. -/
def deleteStorage (d : IMedium) : VBoxHost :=
  { h with known := Function.update h.known d false, files := Function.update h.files d false }

end VBoxHost

/-! ## The view

What a call does depends on its answer: a failed call changes nothing, and a task changes
something only if it ends well, which the host decides in advance by `ending`. -/

/-- Of the methods without a result, locking, saving and registering act on the host, and the
setters on one machine. -/
def Cmd.effect (h : VBoxHost) : Cmd → VBoxHost
  | .registerMachine (some m) => h.register m.vm
  | .unlockMachine s => h.unlock s
  | .lockMachine m (some s) _ => h.lock s m.vm
  | .saveSettings m => h.saveSettings m
  | c => match c.setting with
    | some (m, f, v) => h.write m f v
    | none => h

/-- Calls that make something: machines, disks, tasks. The others only look something up. -/
def PtrCall.effect (V : Hypervisor) (h : VBoxHost) : (c : PtrCall) → c.Ifc → VBoxHost
  | .createMachine _ name _ osTypeId _, m => h.create m.vm (V.newMachine name osTypeId)
  | .launchVMProcess m (some s) _ _, _ => h.lock s m.vm
  | .openMedium .., d => h.openMedium d
  | .createBaseStorage d _ _, p => if V.ending p = 0 then h.createStorage d else h
  | .deleteStorage d, p => if V.ending p = 0 then h.deleteStorage d else h
  | .deleteConfig _ media, p =>
    if V.ending p = 0 then (media.filterMap id).foldl VBoxHost.deleteStorage h else h
  | .takeSnapshot m _ _ _, _ => h.snapshot m
  | .restoreSnapshot m (some s), _ => h.create m.vm (V.stored s)
  | .cloneTo m (some target) _ _, _ =>
    match m.view with
    | .snapshot ref => h.clone (some (V.stored ⟨m.vm, ref⟩)) target.vm
    | _ => h.clone (h.config m) target.vm
  | .importMachines .., p => h.importMachines (V.imports p)
  | c, _ => match c.setting with
    | some (m, f, v) => h.write m f v
    | none => h

/-- A null pointer stands for a call that found nothing, and changes nothing. -/
def hostNext (V : Hypervisor) (h : VBoxHost) : (a : Act) → a.Ans → VBoxHost
  | .cmd c, .ok _ => c.effect h
  | .ptr c, .ok (some o) => c.effect V h o
  | .val (.unregister m _), .ok _ => h.unregister m.vm
  | _, _ => h

/-- What VirtualBox answers to a call that returns a pointer. -/
def PtrCall.answers (V : Hypervisor) (h : VBoxHost) : (c : PtrCall) → c.Ifc → Prop
  | .findMachine nameOrId, m => m.view = .host ∧ h.registered m.vm = true ∧
    ((h.store.saved m.vm).map (· .name) = some (.text nameOrId) ∨ V.uuid m.vm = nameOrId)
  | .createMachine .., m =>
    m.view = .host ∧ h.registered m.vm = false ∧ h.store.saved m.vm = none
  | .sessionMachine s, m => m.view = .mutable s ∧ ∃ d, h.store.draft s = some (m.vm, d)
  | .snapshotMachine s, m => m = ⟨s.vm, .snapshot s.ref⟩
  | .getNetworkAdapter m slot, a => a = ⟨m, slot⟩
  | .VRDEServer m, v => v = ⟨m⟩
  | .recordingSettings m, r => r = ⟨m⟩
  | .getScreenSettings r id, s => s = ⟨r.machine, id⟩
  | .audioAdapter m, a => a = ⟨m⟩
  | .getSerialPort m slot, s => s = ⟨m, slot⟩
  -- a controller name that the machine has already is refused
  | .addStorageController m name _, c => h.Writable m ∧ V.controllerName c = name ∧
    ∀ d, h.config m = some d → d (.storageController name) = .absent
  | .addUSBController m _ _, _ => h.Writable m
  | .createMedium _ location _ _, d => V.location d = location
  | .openMedium location _ _ _, d => V.location d = location
  | .restoreSnapshot m (some s), _ => V.stored s ∈ h.history m.vm
  | .cloneTo m _ _ _, _ =>
    match m.view with
    | .snapshot ref => V.stored ⟨m.vm, ref⟩ ∈ h.history m.vm
    | _ => True
  | _, _ => True

/-- Which answers VirtualBox gives. A setter on a machine that cannot be changed fails. -/
def hostOk (V : Hypervisor) (h : VBoxHost) : (a : Act) → a.Ans → Prop
  | .cmd c, .ok _ => ∀ m f v, c.setting = some (m, f, v) → h.Writable m
  | .ptr c, .ok (some o) => c.answers V h o
  | .val (.resultCode p), .ok code => code = V.ending p
  | .val (.machineId m), .ok id => id = V.uuid m.vm
  | .val (.controllerName c), .ok name => name = V.controllerName c
  | _, _ => True

/-- The host as a view: its state and the answers that it may give. -/
def hostView (V : Hypervisor) : View vboxSig VBoxHost where
  next := hostNext V
  ok := hostOk V

variable {V : Hypervisor} {h : VBoxHost}

/-- The view steps by `hostNext`. -/
@[simp] theorem hostView_next : (hostView V).next = hostNext V := rfl

/-- Its answers are those of `hostOk`. -/
@[simp] theorem hostView_ok : (hostView V).ok = hostOk V := rfl

/-- A call that fails changes nothing. -/
theorem hostNext_fails {a : Act} {x : a.Ans}
    (hx : threwError a x ∨ nullUnless (fun _ => False) a x) : hostNext V h a x = h := by
  cases a with
  | cmd c =>
    cases x with
    | error err => rfl
    | ok x => exact hx.elim False.elim False.elim
  | ptr c =>
    rcases x with err | _ | o
    · rfl
    · rfl
    · exact hx.elim False.elim False.elim
  | val c =>
    cases x with
    | error err => cases c <;> rfl
    | ok x => exact hx.elim False.elim False.elim
  | _ => exact hx.elim False.elim False.elim

/-- The report on an error changes nothing. -/
theorem hostNext_reporting {a : Act} (ha : Reporting a) (x : a.Ans) : hostNext V h a x = h := by
  cases a with
  | cmd c => exact ha.elim
  | ptr c =>
    cases c with
    | queryVirtualBoxErrorInfo | nextError => rcases x with _ | _ | _ <;> rfl
    | _ => exact ha.elim
  | val c =>
    cases c with
    | text => rcases x with _ | _ <;> rfl
    | _ => exact ha.elim
  | currentError | print => rfl
  | time | put | putData | release => exact ha.elim

/-! ## Setters

A setter writes one field of the machine object that it is called on, which `Cmd.setting` names.
Where that machine object belongs to a session, only the draft of the session changes. -/

/-- A setter writes its field and does nothing else. -/
theorem Cmd.effect_of_setting {c : Cmd} {m : IMachine} {f : Field} {v : Value}
    (hc : c.setting = some (m, f, v)) : c.effect h = h.write m f v := by
  cases c <;> simp only [Cmd.setting, Option.some.injEq, Prod.mk.injEq, reduceCtorEq] at hc <;>
    obtain ⟨rfl, rfl, rfl⟩ := hc <;> rfl

/-- A setter on the mutable machine of a session writes its draft. -/
@[simp] theorem VBoxHost.write_mutable {vm : Nat} {s : ISession} {f : Field} {v : Value} :
    h.write ⟨vm, .mutable s⟩ f v = { h with store := h.store.write s f v } := rfl

/-- Saving on the machine of a session saves the draft of the session. -/
@[simp] theorem VBoxHost.saveSettings_mutable {vm : Nat} {s : ISession} :
    h.saveSettings ⟨vm, .mutable s⟩ = { h with store := h.store.save s } := rfl

end VirtCore
