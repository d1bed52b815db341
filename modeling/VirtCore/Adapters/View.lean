import VirtCore.Keyed.Update
import VirtCore.VBox.Rules
import VirtCore.Operation

/-!
# VirtCore — network adapter settings

* **`Settings` / `Hub`** — the four settings of every adapter of every machine, and which machine
  a session has locked.
* **`adapterView`** — a host on which every call succeeds, with its machines by name and the
  states in which they are during an operation.
* **`Op.adapterUpdate`** — what an operation is to do: an update of one adapter, or of none
  where a check does not pass.
-/

namespace VirtCore


open Interact VcaVmConfigure

/-- The four settings of an adapter that the operations write. -/
structure Settings where
  enabled : Bool
  attachmentType : NetworkAttachmentType
  bridgedInterface : String
  MACAddress : String
  deriving DecidableEq

/-- An adapter: machine and slot. -/
abbrev AdapterKey : Type := Nat × Nat

/-- The adapter that an interface pointer stands for. -/
def INetworkAdapter.key (adapter : INetworkAdapter) : AdapterKey :=
  (adapter.machine.vm, adapter.slot)

/-- All adapters, and which machine a session has locked; finding and locking do not change the
first. -/
structure Hub where
  adapters : AdapterKey → Settings
  held : ISession → Option Nat

/-- What an answered call does to the adapters and the locks. -/
def hubNext (h : Hub) : (a : Act) → a.Ans → Hub
  | .cmd (.setBridgedInterface adapter value), .ok _ =>
    { h with adapters := Keyed.modify h.adapters adapter.key fun x =>
        { x with bridgedInterface := value } }
  | .cmd (.setAttachmentType adapter value), .ok _ =>
    { h with adapters := Keyed.modify h.adapters adapter.key fun x =>
        { x with attachmentType := value } }
  | .cmd (.setAdapterEnabled adapter value), .ok _ =>
    { h with adapters := Keyed.modify h.adapters adapter.key fun x => { x with enabled := value } }
  | .cmd (.setMACAddress adapter value), .ok _ =>
    { h with adapters := Keyed.modify h.adapters adapter.key fun x =>
        { x with MACAddress := value } }
  | .cmd (.lockMachine m (some s) _), .ok _ =>
    { h with held := fun s' => if s' = s then some m.vm else h.held s' }
  | _, _ => h

/-- Every call succeeds, and the answers agree with the machines' names and states and with what
is locked. -/
def succeeds (machineOf : String → Nat) (states : Nat → MachineState) (h : Hub) :
    (a : Act) → a.Ans → Prop
  | .cmd _, .error _ => False
  | .ptr _, .error _ => False
  | .val _, .error _ => False
  | .ptr _, .ok none => False
  | .ptr (.findMachine n), .ok (some m) => machineOf n = m.vm
  | .val (.state m), .ok st => st = states m.vm
  | .ptr (.sessionMachine s), .ok (some m) => h.held s = some m.vm
  | .ptr (.getNetworkAdapter m slot), .ok (some adapter) =>
    adapter.machine.vm = m.vm ∧ adapter.slot = slot
  | _, _ => True

/-- The host, as the state and the answers it gives. -/
def adapterView (machineOf : String → Nat) (states : Nat → MachineState) :
    View vboxSig Hub where
  next := hubNext
  ok := succeeds machineOf states

/-! ## What the operations are to do

An update has the adapter that it addresses and what it does to the settings of that adapter. It
is this description, not the operations, of which `Keyed` says that updates of different adapters
do not touch each other. -/

/-- `setBridge` and `addBridge`. -/
def Settings.bridge (hostpci : String) (x : Settings) : Settings :=
  { x with bridgedInterface := hostpci, attachmentType := .Bridged, enabled := true }

/-- `setNat` and `addNat`. -/
def Settings.nat (x : Settings) : Settings := { x with attachmentType := .NAT, enabled := true }

/-- `setAdaptorMAC`. -/
def Settings.setMAC (mac : String) (x : Settings) : Settings :=
  { x with enabled := true, MACAddress := mac }

/-- `disableAdaptor`. -/
def Settings.disable (x : Settings) : Settings := { x with enabled := false }

/-- The update of an adapter, if the checks pass. -/
def onAdapter (vm : Nat) (slot : Int) (guard : Bool) (effect : Settings → Settings) :
    Keyed.Update AdapterKey Settings where
  key := if slotOk slot ∧ guard then some (vm, slot.toNat) else none
  effect := effect

/-- A slot and a state that pass give an update of that adapter. -/
theorem onAdapter_pass {vm : Nat} {slot : Int} {guard : Bool} {effect : Settings → Settings}
    (hslot : slotOk slot) (hguard : guard = true) :
    onAdapter vm slot guard effect = ⟨some (vm, slot.toNat), effect⟩ := by
  rw [onAdapter, if_pos ⟨hslot, hguard⟩]

/-- One that does not pass gives no update at all. -/
theorem onAdapter_fail {vm : Nat} {slot : Int} {guard : Bool} {effect : Settings → Settings}
    (h : ¬(slotOk slot ∧ guard = true)) :
    onAdapter vm slot guard effect = ⟨none, effect⟩ := by
  rw [onAdapter, if_neg h]

/-- The adapter operations as updates. -/
def Op.adapterUpdate (machineOf : String → Nat) (states : Nat → MachineState) :
    Op → Keyed.Update AdapterKey Settings
  | .setBridge n slot pci => onAdapter (machineOf n) slot true (.bridge pci)
  | .addBridge n slot pci =>
    onAdapter (machineOf n) slot (states (machineOf n) = .PoweredOff) (.bridge pci)
  | .setNat n slot => onAdapter (machineOf n) slot true .nat
  | .addNat n slot => onAdapter (machineOf n) slot (states (machineOf n) = .PoweredOff) .nat
  | .setAdaptorMAC n slot mac =>
    onAdapter (machineOf n) slot (states (machineOf n) = .PoweredOff) (.setMAC mac)
  | .disableAdaptor n slot =>
    onAdapter (machineOf n) slot (states (machineOf n) = .PoweredOff) .disable
  | _ => ⟨none, id⟩

/-- The machine and the slot to which an adapter operation is addressed. -/
def Op.adapterAddress (machineOf : String → Nat) : Op → Option (Nat × Int)
  | .setBridge n slot _ | .addBridge n slot _ | .setNat n slot | .addNat n slot
  | .setAdaptorMAC n slot _ | .disableAdaptor n slot => some (machineOf n, slot)
  | _ => none

attribute [simp] hubNext succeeds

variable {machineOf : String → Nat} {states : Nat → MachineState}

@[simp] theorem adapterView_next : (adapterView machineOf states).next = hubNext := rfl

@[simp] theorem adapterView_ok :
    (adapterView machineOf states).ok = succeeds machineOf states := rfl

/-! ## The operations

Each operation carries out its update and succeeds, whatever the update is: on a host that answers
every call, a check that does not pass is the only way to fail. -/

/-- A program that makes one change to an adapter. -/
abbrev Changes (change : INetworkAdapter → Vb Unit) (effect : Settings → Settings) : Prop :=
  ∀ machineOf states h adapter, Triple (adapterView machineOf states) (· = h) (change adapter)
    (fun _ h' => h' = { h with adapters := Keyed.modify h.adapters adapter.key effect })
    fun _ _ => False

/-- Bridging, on an adapter that is there. -/
theorem bridge_changes (pci : String) : Changes (bridge pci) (.bridge pci) := by
  rintro machineOf states h adapter _ rfl
  simp [bridge]
  rfl

/-- Attaching to NAT. -/
theorem nat_changes : Changes nat .nat := by
  rintro machineOf states h adapter _ rfl
  simp [nat]
  rfl

/-- The hardware address. -/
theorem setMAC_changes (mac : String) : Changes (setMAC mac) (.setMAC mac) := by
  rintro machineOf states h adapter _ rfl
  simp [setMAC]
  rfl

/-- Switching off. -/
theorem disable_changes : Changes disable .disable := by
  rintro machineOf states h adapter _ rfl
  simp [disable]
  rfl

/-- The slots in range are no different as unsigned numbers. -/
theorem uint32_slot {slot : Int} (h : slotOk slot) : uint32 slot = slot.toNat := by
  obtain ⟨hlow, hhigh⟩ := h
  unfold uint32
  rw [Int.emod_eq_of_lt hlow (by omega)]

/-- An operation that succeeds exactly where its update concerns an adapter, and applies it. -/
abbrev Applies (machineOf : String → Nat) (states : Nat → MachineState)
    (u : Keyed.Update AdapterKey Settings) (p : Vb Bool) : Prop :=
  ∀ h, Triple (adapterView machineOf states) (· = h) p
    (fun b h' => b = u.key.isSome ∧ h'.adapters = u.apply h.adapters) fun _ _ => False

section

variable {change : INetworkAdapter → Vb Unit} {effect : Settings → Settings}

/-- From the lock on, the operation writes the settings of the adapter that it got, and nothing
else. -/
theorem changeAdapter_applies (hchange : Changes change effect) (m : IMachine) {slot : Int}
    (hslot : slotOk slot) (h : Hub) :
    Triple (adapterView machineOf states) (· = h) (changeAdapter (some m) slot change)
      (fun b h' => b = true ∧ h'.adapters = Keyed.modify h.adapters (m.vm, slot.toNat) effect)
      fun _ _ => False := by
  rintro _ rfl
  simp [changeAdapter]
  intro session mutabmachine hm adapter ha hs
  -- the mutable machine is the one that was locked, and the adapter that of the slot
  refine (hchange _ _ _ adapter).use rfl ?_ fun _ _ hs => hs
  rintro _ _ rfl
  simp [INetworkAdapter.key, ha, hs, ← hm, uint32_slot hslot]

/-- The frame without a guard. -/
theorem anyState_applies (hchange : Changes change effect) (n : String) (slot : Int) :
    Applies machineOf states (onAdapter (machineOf n) slot true effect)
      (anyState change n slot) := by
  rintro h _ rfl
  by_cases hslot : slotOk slot
  · rw [onAdapter_pass hslot rfl]
    simp [anyState, hslot]
    intro m hm
    rw [hm]
    exact changeAdapter_applies hchange m hslot _ _ rfl
  · rw [onAdapter_fail fun hpass => hslot hpass.1]
    simp [anyState, hslot, Keyed.Update.apply]

/-- The guarded frame does nothing where the state is not `PoweredOff`. -/
theorem poweredOff_applies (hchange : Changes change effect) (n : String) (slot : Int) :
    Applies machineOf states
      (onAdapter (machineOf n) slot (states (machineOf n) = .PoweredOff) effect)
      (poweredOff change n slot) := by
  rintro h _ rfl
  by_cases hslot : slotOk slot
  · by_cases hstate : states (machineOf n) = .PoweredOff
    · rw [onAdapter_pass hslot (decide_eq_true hstate)]
      simp [poweredOff, hslot]
      intro m hm
      rw [hm] at hstate ⊢
      exact ⟨fun _ => changeAdapter_applies hchange m hslot _ _ rfl, hstate⟩
    · rw [onAdapter_fail fun hpass => hstate (of_decide_eq_true hpass.2)]
      simp [poweredOff, hslot, Keyed.Update.apply]
      intro m hm hstate'
      rw [hm] at hstate
      exact (hstate hstate').elim
  · rw [onAdapter_fail fun hpass => hslot hpass.1]
    simp [poweredOff, hslot, Keyed.Update.apply]

end

/-- On such a host the handler of a `try` is not reached. -/
theorem applies_tryReport {u : Keyed.Update AdapterKey Settings} {fuel : Nat} {body : Vb Bool}
    (h : Applies machineOf states u body) : Applies machineOf states u (tryReport fuel body) :=
  fun hub => Triple.handle (h hub) fun _ _ h => h.elim

end VirtCore
