import VirtCore.Snapshots.View

/-!
# VirtCore — snapshots across the operations of `QiVCA`

Most operations start no snapshot task. What the others do to the snapshots is stated here for
each.
-/

namespace VirtCore.QiVCA


open Interact

variable (fuel : Nat)

variable {C : Type} {machineOf : String → Nat} {uuid : Nat ↪ String}
  {ending : IProgress → Option Int} {k : Nat} {name : String} {x : Snapshot C}

/-- A snapshot that is taken under `s` does not take the name away from `x`: it is another machine
or another name, or it comes behind a snapshot of the name. -/
def Spares (vm : Nat) (s : String) (k : Nat) (name : String) (h : SnapshotHost C) : Prop :=
  vm = k → s = name → ∃ y ∈ (h.machines k).upToCurrent, y.name = name

/-- A new snapshot that spares this one leaves it where it is. -/
theorem kept_take {h : SnapshotHost C} (hk : Kept k name x h) {vm : Nat} {s : String}
    (hs : Spares vm s k name h) (p : IProgress) :
    Kept k name x (h.task ending p vm fun l => l.take s) := by
  refine kept_task hk fun hvm => ?_
  by_cases hname : s = name
  · obtain ⟨y, hy, hyname⟩ := hs hvm hname
    subst hname
    rw [MachineSnapshots.named_take_behind _ hy hyname]
    exact hk
  · rw [MachineSnapshots.named_take_other _ hname]
    exact hk

/-- Locking changes no snapshot. -/
@[simp] theorem spares_lock (vm : Nat) (s : String) (h : SnapshotHost C) (session : ISession)
    (vm' : Nat) : Spares vm s k name (h.lock session vm') ↔ Spares vm s k name h := Iff.rfl

/-- A call that starts no snapshot task keeps every snapshot. -/
theorem kept_of_leaves {h : SnapshotHost C} {a : Act} {r : a.Ans} (ha : leavesSnapshots a)
    (hk : Kept k name x h) : Kept k name x (snapshotNext uuid ending h a r) := by
  unfold Kept
  rw [snapshotNext_machines ha]
  exact hk

/-- Waiting for a task keeps it. -/
theorem pollCompleted_keeps (p : IProgress) :
    Triple (snapshotView machineOf uuid ending) (Kept k name x) (pollCompleted fuel (some p))
      (fun _ => Kept k name x) fun _ => Kept k name x :=
  triple_pollCompleted (P := fun _ => Kept k name x) fuel (fun _ hk => hk) (fun _ _ hk => hk)
    (fun _ _ hk _ => hk) fun _ _ _ hk _ => hk

/-- The error report in a handler keeps it. -/
theorem tryReport_keeps {P : SnapshotHost C → Prop} {body : Vb Bool}
    (h : Triple (snapshotView machineOf uuid ending) P body (fun _ => Kept k name x)
      fun _ => Kept k name x) :
    Triple (snapshotView machineOf uuid ending) P (tryReport fuel body)
      (fun _ => Kept k name x) fun _ => Kept k name x :=
  triple_catchReport (I := Kept k name x)
    (fun _ a _ ha hk _ => kept_of_leaves (reporting_leavesSnapshots a ha) hk) (fun _ _ hk => hk)
    (fun _ _ hk => hk.elim id id) h fun _ _ => Triple.exit fun _ hk => hk

/-- `takeSnapshot` keeps a snapshot unless the new one comes in front of it under its own name. -/
theorem takeSnapshot_keeps (n s : String) :
    Triple (snapshotView machineOf uuid ending)
      (fun h => Kept k name x h ∧ Spares (machineOf n) s k name h) (takeSnapshot n s)
      (fun _ => Kept k name x) fun _ => Kept k name x := by
  rintro h ⟨hk, hs⟩
  simp [takeSnapshot, hk]
  intro machine hmachine session m hm p
  rw [hmachine, hm] at hs
  -- the task is begun whatever becomes of the machine meanwhile, so that it may take the snapshot
  exact kept_take hk hs p

/-- `vmSleep` starts no snapshot task. -/
theorem vmSleepWith_keeps (n : String) :
    Triple (snapshotView machineOf uuid ending) (Kept k name x)
      (vmSleepWith (fun _ => pure ()) n) (fun _ => Kept k name x) fun _ => Kept k name x := by
  intro h hk
  simp [vmSleepWith, hk]

/-- `restoreSnapshot` changes the settings of the machine, not its snapshots; where the machine is
running, it only puts it to sleep. -/
theorem restoreSnapshot_keeps (n s : String) :
    Triple (snapshotView machineOf uuid ending) (Kept k name x) (restoreSnapshot fuel n s)
      (fun _ => Kept k name x) fun _ => Kept k name x := by
  refine tryReport_keeps fuel fun h hk => ?_
  simp [hk]
  intro machine hmachine st
  refine ⟨fun _ => ?_, fun _ => ?_⟩
  · refine (vmSleepWith_keeps n).use hk ?_ fun _ _ hk => hk
    rintro (_ | data) h hk <;> simp [hk]
  · intro _ session m hm snap y hy href p
    have hrestore : Kept k name x ((h.lock session machine.vm).task ending p m.vm
        fun l => l.restore snap.ref) :=
      kept_task hk fun _ => (MachineSnapshots.named_restore _ _ _).trans hk
    exact hrestore

/-- `deleteSnapshot` of another name keeps this one. -/
theorem deleteSnapshot_keeps {n s : String} (hother : machineOf n = k → s ≠ name) :
    Triple (snapshotView machineOf uuid ending) (Kept k name x) (deleteSnapshot n s)
      (fun _ => Kept k name x) fun _ => Kept k name x := by
  intro h hk
  simp [deleteSnapshot, hk]
  intro machine hmachine session m hm snap y hy href p
  have hdelete : Kept k name x (SnapshotHost.task ending (h.lock session machine.vm) p m.vm
      fun l => l.delete fun z => decide (z.ref = snap.ref)) := by
    refine kept_task hk fun hvm => ?_
    rw [hvm] at hy hm
    exact MachineSnapshots.named_delete _ hk hy (hother (hmachine.trans hm)) (by simp [href])
  exact hdelete

/-- `cloneLinkVM` takes a snapshot under its fixed name. -/
theorem cloneLinkVM_keeps (n bf t : String) :
    Triple (snapshotView machineOf uuid ending)
      (fun h => Kept k name x h ∧ Spares (machineOf n) cloneLinkSnapshot k name h)
      (cloneLinkVM fuel n bf t) (fun _ => Kept k name x) fun _ => Kept k name x := by
  refine tryReport_keeps fuel ?_
  rintro h ⟨hk, hs⟩
  simp [hk]
  intro machine hmachine session
  refine ⟨?_, fun m hm progress => ?_⟩
  · -- there is no mutable machine, and no snapshot is taken
    intro path os target snap y hy href snapmachine p
    refine (pollCompleted_keeps fuel p).use (s := h.lock session machine.vm) hk ?_ fun _ _ hk => hk
    exact fun _ _ hk => hk
  · -- the snapshot that is taken is of the machine that was found
    rw [hmachine, hm] at hs
    have hkept : Kept k name x ((h.lock session machine.vm).task ending progress m.vm
        fun l => l.take cloneLinkSnapshot) := kept_take hk hs progress
    generalize (h.lock session machine.vm).task ending progress m.vm
      (fun l => l.take cloneLinkSnapshot) = h' at hkept ⊢
    simp [hkept]
    intro path os target snap y hy href snapmachine p
    refine (pollCompleted_keeps fuel p).use hkept ?_ fun _ _ hk => hk
    exact fun _ _ hk => hk

/-- **Taking a snapshot**, where the task succeeds. -/
theorem takeSnapshot_takes (n s : String) (h : SnapshotHost C) :
    Triple ((snapshotView machineOf uuid ending).only (tasksEnd ending)) (· = h)
      (takeSnapshot n s)
      (fun b h' => h'.machines =
        if b then Keyed.modify h.machines (machineOf n) fun l => l.take s else h.machines)
      (fun e h' => h'.machines = h.machines ∨ ∃ err, e = .threw err) := by
  rintro _ rfl
  simp [takeSnapshot]
  intro machine hmachine session m hm p hp
  rw [hmachine, hm]
  exact SnapshotHost.task_machines hp m.vm _

/-- **Restoring a snapshot** of a machine that is not put to sleep. -/
theorem restoreSnapshot_restores (n s : String) (h : SnapshotHost C) :
    Triple ((snapshotView machineOf uuid ending).only
        fun a r => tasksEnd ending a r ∧ ¬stateIn restoreSleeps a r) (· = h)
      (restoreSnapshot fuel n s)
      (fun b h' => b = true → ∃ y, (h.machines (machineOf n)).named s = some y ∧
        h'.machines = Keyed.modify h.machines (machineOf n) fun l => l.restore y.ref)
      (fun _ _ => True) := by
  refine triple_catchReport (I := fun _ => True) (D := fun _ _ => True) (fun _ _ _ _ _ _ => trivial)
    (fun _ _ _ => trivial) (fun _ _ _ => trivial) ?_ fun _ _ => Triple.exit fun _ _ => trivial
  rintro _ rfl
  simp
  intro machine hmachine st hst
  simp [hst]
  intro _ session m hm snap y hy href p hp
  rw [hmachine, hm, ← href]
  exact ⟨y, hy, SnapshotHost.task_machines hp m.vm _⟩

/-- Without a thrown call `takeSnapshot` does not throw. -/
theorem takeSnapshot_throws (n s : String) :
    Triple ((onlyView fun _ => True).only fun a r => ¬threwError a r) (fun _ => True)
      (takeSnapshot n s) (fun _ _ => True) (fun e _ => e = .nullUse) := by
  intro _ _
  simp [takeSnapshot]

end VirtCore.QiVCA
