import VirtCore.Storage.View
import VirtCore.VBox.Calm

/-!
# VirtCore — the system disk is out of reach of the extension disks

`addDiskToVm` and `detachDiskFromVm` name slots at device 0 of the ports 1 to 4; the create
operations put the system disk and the DVD at port 0. So no sequence of the former touches what
the latter attached.
-/

namespace VirtCore


open Interact QiVCA

variable {J : Jsoncpp}

/-- The slots of extension disks. -/
def Slot.extension (p : Slot) : Prop := p.device = 0 ∧ 1 ≤ p.port ∧ p.port ≤ 4

/-- The slots of the system disk and the DVD. -/
def Slot.system (p : Slot) : Prop := p.device = 0 ∧ p.port = 0

/-- Attaching names the slot it is asked for. -/
theorem attachDisk_stays (fuel : Nat) (m : IMachine) (ctl : COMPtr IStorageController) {slot : Int}
    (hslot : 1 ≤ slot ∧ slot ≤ 4) (disk : COMPtr IMedium) (path : String) :
    Stays Slot.extension (attachDisk fuel (some m) ctl slot disk path) := by
  refine only_catchCOM (only_of ?_) fun err =>
    only_bind (only_reportError reporting_stays fuel err) fun described => only_of ?_
  · cases ctl <;> simp [Slot.extension, hslot]
  · cases described <;> simp

/-- `addDiskToVm` names the slot it is asked for, and no other; slots outside 1 to 4 are refused. -/
theorem addDiskToVm_stays (fuel : Nat) (n d fmt c bf : String) (slot : Int) :
    Stays Slot.extension (addDiskToVm fuel n d fmt c bf slot) := by
  unfold addDiskToVm
  split
  · exact only_of (by simp)
  split
  · exact only_of (by simp)
  · have hslot : 1 ≤ slot ∧ slot ≤ 4 := by omega
    refine only_of ?_
    simp
    refine fun machine session m disk _ => ⟨?_, fun ctl => ?_⟩
    all_goals
      refine (attachDisk_stays fuel m _ hslot _ _).seq (fun r => ?_) (by simp)
      cases r <;> simp

/-- Detaching names its slot as well. -/
theorem detachDisk_stays (fuel : Nat) (m : IMachine) (ctl : COMPtr IStorageController) {slot : Int}
    (hslot : 1 ≤ slot ∧ slot ≤ 4) :
    Stays Slot.extension (detachDisk fuel (some m) ctl slot) := by
  refine only_catchCOM (only_of ?_) fun err =>
    only_bind (only_reportError reporting_stays fuel err) fun _ => only_of ?_
  · cases ctl <;> simp [Slot.extension, hslot]
  · simp

/-- And so does `detachDiskFromVm`. -/
theorem detachDiskFromVm_stays (fuel : Nat) (n : String) (slot : Int) :
    Stays Slot.extension (detachDiskFromVm fuel n slot) := by
  refine only_of ?_
  simp [detachDiskFromVm]
  intro _ _ machine session m
  have hslot : 1 ≤ slot ∧ slot ≤ 4 := by omega
  refine ⟨?_, fun ctl => ?_⟩
  all_goals
    refine (detachDisk_stays fuel m _ hslot).seq (fun r => ?_) (by simp)
    cases r <;> simp

/-! ## The create operations

Both attach at port 0, device 0 of a controller: the system disk, and the DVD at a controller of
its own. -/

/-- `createVMfromSystemdisk`, one round. -/
theorem installSystemdisk_stays (n os : String) (cpu mem : Int) (bf d bus : String) :
    Stays Slot.system (installSystemdisk n os cpu mem bf d bus) := by
  refine only_of ?_
  cases h : storageBusOf bus <;> simp [installSystemdisk, addBusController, h, Slot.system]

/-- `createVMfromSystemdisk`, all rounds. -/
theorem createVMfromSystemdisk_stays (fuel : Nat) (n os : String) (cpu mem : Int)
    (bf d bus : String) :
    Stays Slot.system (createVMfromSystemdisk fuel n os cpu mem bf d bus) := by
  refine only_tryReport reporting_stays (only_bind (only_forEach fun iter _ => ?_) fun _ =>
    only_ret _)
  split
  · exact installSystemdisk_stays n os cpu mem bf d bus
  · exact only_ret _

section

variable {n os : String} {cpu mem : Int} {bf : String} {size : Int} {iso fmt bus : String}
  {fix : Bool}

/-- `createVMfromISO`, its attachments. -/
theorem installISODevices_stays (session : COMPtr ISession) (m : IMachine)
    (disk : COMPtr IMedium) :
    Stays Slot.system (installISODevices session (some m) disk iso bus) := by
  refine only_of ?_
  cases h : storageBusOf bus <;> cases session <;>
    simp [installISODevices, addBusController, h, Slot.system]

/-- `createVMfromISO`, one round. -/
theorem installISO_stays :
    Stays Slot.system (installISO n os cpu mem bf size iso fmt bus fix) := by
  refine only_of ?_
  cases hpath : createVMfromISOPath n fmt bf with
  | none => simp [installISO, hpath]
  | some path =>
    simp [installISO, hpath]
    intro session m disk
    exact installISODevices_stays _ m _ _ trivial

/-- `createVMfromISO`, all rounds. -/
theorem createVMfromISO_stays (fuel : Nat) :
    Stays Slot.system (createVMfromISO fuel n os cpu mem bf size iso fmt bus fix) := by
  refine only_tryReport reporting_stays (only_bind (only_forEach fun iter _ => ?_) fun _ =>
    only_ret _)
  split
  · refine only_forEach fun iter_l _ => ?_
    split
    · exact installISO_stays
    · exact only_ret _
  · exact only_ret _

end

/-! ## Whole runs

A run is a list of operations, each with the trace of calls it made. Every slot that an attachment
of the one kind names is one of the ports 1 to 4, and every slot of the other kind is port 0. -/

/-- The extension-disk operations. -/
def Op.extensionDisk : Op → Prop
  | .addDiskToVm .. => True
  | .detachDiskFromVm .. => True
  | _ => False

/-- The create operations. -/
def Op.creates : Op → Prop
  | .createVMfromSystemdisk .. => True
  | .createVMfromISO .. => True
  | _ => False

/-- What the extension operations name, over a whole run. -/
theorem extensionDisk_slots {r : OpRun J} (h : r.op.extensionDisk) :
    ∀ e ∈ r.trace, ∀ p, touched e.1 = some p → p.extension := by
  obtain ⟨op, fuel, trace, result, runs⟩ := r
  cases op <;> first | exact h.elim | skip
  case addDiskToVm => exact Only.runs (only_map (addDiskToVm_stays _ _ _ _ _ _ _)) runs
  case detachDiskFromVm => exact Only.runs (only_map (detachDiskFromVm_stays _ _ _)) runs

/-- What the create operations name. -/
theorem creates_slots {r : OpRun J} (h : r.op.creates) :
    ∀ e ∈ r.trace, ∀ p, touched e.1 = some p → p.system := by
  obtain ⟨op, fuel, trace, result, runs⟩ := r
  cases op <;> first | exact h.elim | skip
  case createVMfromSystemdisk =>
    exact Only.runs (only_map (createVMfromSystemdisk_stays _ _ _ _ _ _ _ _)) runs
  case createVMfromISO => exact Only.runs (only_map (createVMfromISO_stays _)) runs

/-- **The system disk is out of reach.** Throughout any sequence of extension-disk operations no
call names a slot at port 0, whose content stays what it was; every slot a call names, and so
every slot whose content a call changes, is at device 0 of a port from 1 to 4. What the create
operations attach is at device 0 of port 0. -/
theorem systemDisk_out_of_reach {st : Storage} {rs : List (OpRun J)}
    (disks : ∀ r ∈ rs, r.op.extensionDisk) :
    (∀ before later, rs.flatMap (·.trace) = before ++ later → ∀ p, p.port = 0 →
      storageAfter st before p = st p) ∧
    (∀ before e later, rs.flatMap (·.trace) = before ++ e :: later → ∀ p,
      touched e.1 = some p ∨ storageAfter st (before ++ [e]) p ≠ storageAfter st before p →
        p.device = 0 ∧ 1 ≤ p.port ∧ p.port ≤ 4) ∧
    ∀ r : OpRun J, r.op.creates → ∀ e ∈ r.trace, ∀ p, touched e.1 = some p →
      p.device = 0 ∧ p.port = 0 := by
  -- every slot that a run names is one of those of the extension disks
  have hslots : ∀ e ∈ rs.flatMap (·.trace), ∀ p, touched e.1 = some p → p.extension := by
    intro e he
    obtain ⟨r, hr, her⟩ := List.mem_flatMap.mp he
    exact extensionDisk_slots (disks r hr) e her
  refine ⟨fun before later ht p hp => ?_, fun before e later ht p hp => ?_,
    fun r hr => creates_slots hr⟩
  · refine storageAfter_other fun e he hep => ?_
    have hext : p.extension := hslots e (by rw [ht]; exact List.mem_append_left later he) p hep
    obtain ⟨-, hport, -⟩ := hext
    omega
  · refine hslots e (by rw [ht]; simp) p ?_
    rcases hp with hp | hp
    · exact hp
    · -- a slot that is not named stays as it was
      refine Classical.byContradiction fun hne => hp ?_
      rw [storageAfter_append]
      exact storageNext_other hne

/-- A disk is attached at port 1 and detached again. -/
theorem systemDisk_out_of_reach_pair :
    storageAfter (fun _ => none)
      ((Op.play .mute 0 (calm .PoweredOff) (.addDiskToVm "vm" "disk" "VDI" "SATA" "/vm" 1)).trace ++
        (Op.play .mute 0 (calm .PoweredOff) (.detachDiskFromVm "vm" 1)).trace)
          ⟨0, "SATA", 0, 0⟩ = none := by
  have hruns := @systemDisk_out_of_reach .mute (fun _ => none)
    [Op.play .mute 0 (calm .PoweredOff) (.addDiskToVm "vm" "disk" "VDI" "SATA" "/vm" 1),
      Op.play .mute 0 (calm .PoweredOff) (.detachDiskFromVm "vm" 1)]
    (by simp [Op.play, Op.extensionDisk])
  exact hruns.1 _ [] (by simp) ⟨0, "SATA", 0, 0⟩ rfl

end VirtCore
