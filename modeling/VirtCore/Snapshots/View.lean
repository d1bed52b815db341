import Mathlib.Data.List.Nodup
import Mathlib.Logic.Embedding.Basic
import VirtCore.Keyed.Update
import VirtCore.Ordered.Forest
import VirtCore.VBox.Kinds
import VirtCore.Calls.Ordinary
import VirtCore.Operation

/-!
# VirtCore — snapshots of a machine

A machine's snapshots form a forest; each has a name, which others may have too, and stores what
the machine contained when it was taken.

* **`MachineSnapshots`** — the forest, the current snapshot, and what the machine contains now.
* **`take` / `restore` / `delete`** — what the three tasks do when they succeed.
* **`snapshotView`** — the view of all machines, for an environment that answers soundly:
  `findSnapshot` with the first snapshot of the name in pre-order.
* **`Kept`** — a name stands for a snapshot.
-/

namespace VirtCore


open Interact Ordered

/-- A snapshot of a machine that contained `stored`. -/
structure Snapshot (C : Type) where
  ref : Nat
  name : String
  stored : C

/-- The snapshots of a machine; `fresh` is the reference the next one will have. -/
structure MachineSnapshots (C : Type) where
  tree : Forest (Snapshot C)
  current : Option Nat
  content : C
  fresh : Nat
  distinct : (tree.preorder.map (·.ref)).Nodup
  known : ∀ x ∈ tree.preorder, x.ref < fresh

namespace MachineSnapshots

variable {C : Type} (l : MachineSnapshots C)

def isCurrent (x : Snapshot C) : Bool := l.current = some x.ref

/-- The snapshot for which a name stands. -/
def named (name : String) : Option (Snapshot C) := l.tree.preorder.find? (·.name = name)

def withRef (ref : Nat) : Option (Snapshot C) := l.tree.preorder.find? (·.ref = ref)

/-- The snapshots up to the end of the current one's subtree: a snapshot that is taken comes right
behind them. -/
def upToCurrent : List (Snapshot C) := l.tree.upTo l.isCurrent

/-- A snapshot is taken: it becomes a child of the current one, and the current one. -/
def take (name : String) : MachineSnapshots C where
  tree := l.tree.graft l.isCurrent ⟨l.fresh, name, l.content⟩
  current := some l.fresh
  content := l.content
  fresh := l.fresh + 1
  distinct := by
    have hrefs := l.distinct
    rw [← Forest.upTo_append_beyond l.isCurrent, List.map_append] at hrefs
    rw [Forest.preorder_graft, List.map_append, List.map_cons, List.nodup_middle,
      List.nodup_cons]
    refine ⟨fun hmem => ?_, hrefs⟩
    rw [← List.map_append, Forest.upTo_append_beyond] at hmem
    obtain ⟨x, hx, hfresh⟩ := List.mem_map.mp hmem
    have hlt : l.fresh < l.fresh := by simpa [hfresh] using l.known x hx
    exact Nat.lt_irrefl _ hlt
  known := by
    intro x hx
    rcases (Forest.mem_graft l.isCurrent).mp hx with rfl | hx
    · exact Nat.lt_succ_self l.fresh
    · exact Nat.lt_succ_of_lt (l.known x hx)

/-- A snapshot is restored: the machine contains again what it stores. -/
def restore (ref : Nat) : MachineSnapshots C :=
  match l.withRef ref with
  | some x => { l with content := x.stored, current := some ref }
  | none => l

/-- Snapshots are deleted; where the current one is among them its parent becomes the current
one. -/
def delete (gone : Snapshot C → Bool) : MachineSnapshots C where
  tree := l.tree.prune gone
  current :=
    match l.tree.preorder.find? l.isCurrent with
    | some x => if gone x then (l.tree.parent l.isCurrent none).map (·.ref) else l.current
    | none => l.current
  content := l.content
  fresh := l.fresh
  distinct := by
    rw [Forest.preorder_prune]
    exact l.distinct.sublist (List.filter_sublist.map _)
  known := by
    intro x hx
    rw [Forest.preorder_prune] at hx
    exact l.known x (List.mem_filter.mp hx).1

/-! ## The snapshot of a name

The first in preorder is the one that a name finds. Taking, restoring and deleting are looked at
for which one that is. -/

theorem mem_of_named {name : String} {x : Snapshot C} (h : l.named name = some x) :
    x ∈ l.tree.preorder ∧ x.name = name :=
  ⟨List.mem_of_find?_eq_some h, by simpa using List.find?_some h⟩

/-- References are unique, so the snapshot with a reference is found by it. -/
theorem withRef_of_mem {x : Snapshot C} (h : x ∈ l.tree.preorder) : l.withRef x.ref = some x := by
  have hfound : (l.withRef x.ref).isSome := List.find?_isSome.mpr ⟨x, h, by simp⟩
  obtain ⟨y, hy⟩ := Option.isSome_iff_exists.mp hfound
  have href : y.ref = x.ref := by simpa using List.find?_some hy
  rw [hy, List.inj_on_of_nodup_map l.distinct (List.mem_of_find?_eq_some hy) h href]

/-- **Taking under a name that is free so far.** -/
theorem named_take {name : String} (h : ∀ x ∈ l.upToCurrent, x.name ≠ name) :
    (l.take name).named name = some ⟨l.fresh, name, l.content⟩ :=
  Forest.find?_graft_new (by simp) fun x hx => by simpa using h x hx

/-- Taking under a name that an earlier snapshot has. -/
theorem named_take_behind {name : String} {x : Snapshot C} (hx : x ∈ l.upToCurrent)
    (hname : x.name = name) : (l.take name).named name = l.named name :=
  Forest.find?_graft_behind _ hx (by simpa using hname)

/-- Taking under another name. -/
theorem named_take_other {name other : String} (h : other ≠ name) :
    (l.take other).named name = l.named name :=
  Forest.find?_graft_other _ (by simpa using h)

theorem named_restore (ref : Nat) (name : String) :
    (l.restore ref).named name = l.named name := by
  unfold restore
  split <;> rfl

/-- **Restoring the snapshot of a name.** -/
theorem restore_named {name : String} {x : Snapshot C} (h : l.named name = some x) :
    (l.restore x.ref).content = x.stored ∧ (l.restore x.ref).current = some x.ref := by
  rw [restore, l.withRef_of_mem (l.mem_of_named h).1]
  exact ⟨rfl, rfl⟩

/-- Deleting the snapshot of another name. -/
theorem named_delete {name other : String} {x y : Snapshot C} (h : l.named name = some x)
    (hother : l.named other = some y) (hne : other ≠ name) {gone : Snapshot C → Bool}
    (hgone : ∀ z, gone z → z.ref = y.ref) : (l.delete gone).named name = some x := by
  refine Forest.find?_prune h (Bool.eq_false_iff.mpr fun hx => hne ?_)
  obtain ⟨hmem, hname⟩ := l.mem_of_named h
  obtain ⟨hmem', hname'⟩ := l.mem_of_named hother
  rw [← hname, ← hname', List.inj_on_of_nodup_map l.distinct hmem hmem' (hgone x hx)]

end MachineSnapshots

/-! ## All machines

Tasks are begun on one machine and change that one. A task that fails changes nothing. -/

variable {C : Type}

/-- The snapshots of all machines, and which machine a session has locked. -/
structure SnapshotHost (C : Type) where
  machines : Nat → MachineSnapshots C
  held : ISession → Option Nat

/-- A task on a machine, if it ends with code 0. -/
def SnapshotHost.task (ending : IProgress → Option Int) (h : SnapshotHost C) (p : IProgress)
    (vm : Nat) (effect : MachineSnapshots C → MachineSnapshots C) : SnapshotHost C where
  machines := if ending p = some 0 then Keyed.modify h.machines vm effect else h.machines
  held := h.held

/-- A session locks a machine. -/
def SnapshotHost.lock (h : SnapshotHost C) (s : ISession) (vm : Nat) : SnapshotHost C where
  machines := h.machines
  held := fun s' => if s' = s then some vm else h.held s'

@[simp] theorem SnapshotHost.lock_machines (h : SnapshotHost C) (s : ISession) (vm : Nat) :
    (h.lock s vm).machines = h.machines := rfl

@[simp] theorem SnapshotHost.lock_held (h : SnapshotHost C) (s : ISession) (vm : Nat) :
    (h.lock s vm).held s = some vm := if_pos rfl

/-- What an answered call does to the snapshots and the locks. Machines that no longer exist keep
their snapshots: no call reaches them. -/
def snapshotNext (uuid : Nat ↪ String) (ending : IProgress → Option Int) (h : SnapshotHost C) :
    (a : Act) → a.Ans → SnapshotHost C
  | .ptr (.takeSnapshot m name _ _), .ok (some p) => h.task ending p m.vm fun l => l.take name
  | .ptr (.restoreSnapshot m (some snap)), .ok (some p) =>
    h.task ending p m.vm fun l => l.restore snap.ref
  | .ptr (.deleteSnapshot m id), .ok (some p) =>
    h.task ending p m.vm fun l => l.delete fun x => uuid x.ref = id
  | .cmd (.lockMachine m (some s) _), .ok _ => h.lock s m.vm
  | _, _ => h

/-- The answers agree with the machines' names, the locks and the snapshots. -/
def snapshotSound (machineOf : String → Nat) (uuid : Nat ↪ String) (h : SnapshotHost C) :
    (a : Act) → a.Ans → Prop
  | .ptr (.findMachine n), .ok (some m) => machineOf n = m.vm
  | .ptr (.sessionMachine s), .ok (some m) => h.held s = some m.vm
  | .ptr (.findSnapshot m name), .ok (some snap) =>
    ∃ x, (h.machines m.vm).named name = some x ∧ x.ref = snap.ref
  | .val (.snapshotId snap), .ok id => id = uuid snap.ref
  | _, _ => True

/-- The host as it answers, where `ending` is the result code of each task. -/
def snapshotView (machineOf : String → Nat) (uuid : Nat ↪ String)
    (ending : IProgress → Option Int) : View vboxSig (SnapshotHost C) where
  next := snapshotNext uuid ending
  ok := snapshotSound machineOf uuid

attribute [simp] snapshotNext snapshotSound

variable {machineOf : String → Nat} {uuid : Nat ↪ String} {ending : IProgress → Option Int}

@[simp] theorem snapshotView_next :
    (snapshotView machineOf uuid ending : View vboxSig (SnapshotHost C)).next =
      snapshotNext uuid ending := rfl

@[simp] theorem snapshotView_ok :
    (snapshotView machineOf uuid ending : View vboxSig (SnapshotHost C)).ok =
      snapshotSound machineOf uuid := rfl

/-- Taking or restoring a snapshot is a task that ends with code 0. -/
def tasksEnd (ending : IProgress → Option Int) : (a : Act) → a.Ans → Prop
  | .ptr (.takeSnapshot ..), .ok (some p) => ending p = some 0
  | .ptr (.restoreSnapshot ..), .ok (some p) => ending p = some 0
  | _, _ => True

attribute [simp] tasksEnd

theorem SnapshotHost.task_machines {h : SnapshotHost C} {p : IProgress} (hp : ending p = some 0)
    (vm : Nat) (effect : MachineSnapshots C → MachineSnapshots C) :
    (h.task ending p vm effect).machines = Keyed.modify h.machines vm effect :=
  if_pos hp

theorem SnapshotHost.task_fails {h : SnapshotHost C} {p : IProgress} (hp : ¬ending p = some 0)
    (vm : Nat) (effect : MachineSnapshots C → MachineSnapshots C) :
    (h.task ending p vm effect).machines = h.machines :=
  if_neg hp

/-! ## Calls that leave the snapshots alone

Most operations start no such task, and so they keep all snapshots. -/

/-- A call that starts no snapshot task. -/
def leavesSnapshots : Act → Prop
  | .ptr (.takeSnapshot ..) => False
  | .ptr (.restoreSnapshot ..) => False
  | .ptr (.deleteSnapshot ..) => False
  | _ => True

attribute [simp] leavesSnapshots

/-- A program that starts no snapshot task. -/
abbrev NoTask {α : Type} (p : Vb α) : Prop := Only leavesSnapshots p

theorem leavesSnapshots_of_ordinary (a : Act) (ha : ordinary a) : leavesSnapshots a := by
  cases a <;> first | trivial | skip
  case ptr c => cases c <;> first | exact ha.elim | trivial

theorem reporting_leavesSnapshots (a : Act) (ha : Reporting a) : leavesSnapshots a :=
  leavesSnapshots_of_ordinary a (reporting_ordinary a ha)

theorem snapshotNext_machines {h : SnapshotHost C} {a : Act} {x : a.Ans}
    (ha : leavesSnapshots a) : (snapshotNext uuid ending h a x).machines = h.machines := by
  fun_cases snapshotNext uuid ending h a x with
  | case1 => exact ha.elim
  | case2 => exact ha.elim
  | case3 => exact ha.elim
  | case4 => rfl
  | case5 => rfl

theorem after_machines {h : SnapshotHost C} {t : VbTrace} (ht : ∀ e ∈ t, leavesSnapshots e.1) :
    ((snapshotView machineOf uuid ending).after h t).machines = h.machines := by
  induction t generalizing h with
  | nil => rfl
  | cons e t ih =>
    rw [View.after_cons, ih fun e' he' => ht e' (List.mem_cons_of_mem e he')]
    exact snapshotNext_machines (ht e List.mem_cons_self)

/-! ## The snapshot a name stands for -/

/-- On machine `k` the name stands for `x`. -/
def Kept (k : Nat) (name : String) (x : Snapshot C) (h : SnapshotHost C) : Prop :=
  (h.machines k).named name = some x

variable {k : Nat} {name : String} {x : Snapshot C}

@[simp] theorem kept_lock (h : SnapshotHost C) (s : ISession) (vm : Nat) :
    Kept k name x (h.lock s vm) ↔ Kept k name x h := Iff.rfl

/-- What a task may do to keep it. -/
theorem kept_task {h : SnapshotHost C} {p : IProgress} {vm : Nat}
    {effect : MachineSnapshots C → MachineSnapshots C} (hk : Kept k name x h)
    (heffect : vm = k → (effect (h.machines k)).named name = some x) :
    Kept k name x (h.task ending p vm effect) := by
  unfold Kept SnapshotHost.task
  dsimp only
  split
  · by_cases hvm : k = vm
    · subst hvm
      rw [Keyed.modify_self]
      exact heffect rfl
    · rw [Keyed.modify_other _ _ hvm]
      exact hk
  · exact hk

end VirtCore
