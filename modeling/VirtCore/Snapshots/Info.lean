import VirtCore.Queries.Report
import VirtCore.Snapshots.View
import VirtCore.VBox.Calm

/-!
# VirtCore — the report on the snapshots of a machine

`getVmSnapshotInfo` decides from the number of snapshots whether the current one has a parent.

* **`describes`** — the answers of a host in which the machine has given snapshots, and no call
  fails.
* **`reportOf`** — the report: the count, the name of the current snapshot and that of its parent.
* **`getVmSnapshotInfo_iff`** — when it does.
-/

namespace VirtCore


open Interact Ordered

variable {C : Type}

namespace MachineSnapshots

variable (l : MachineSnapshots C)

/-- The parent of the snapshot with a reference. -/
def parentOf (ref : Nat) : Option (Snapshot C) := l.tree.parent (fun x => x.ref = ref) none

/-- The name that a report gives for the parent of a snapshot. -/
def parentName (ref : Nat) : String := ((l.parentOf ref).map (·.name)).getD "0"

/-- A single snapshot has no parent. -/
theorem parentOf_single {ref : Nat} (h : l.tree.preorder.length = 1) : l.parentOf ref = none := by
  unfold parentOf
  cases htree : l.tree with
  | nil => rfl
  | node a children rest =>
    rw [htree, Forest.preorder_node, List.length_cons, List.length_append] at h
    have hchildren : children.preorder = [] := List.length_eq_zero_iff.mp (by omega)
    have hrest : rest = .nil := by
      cases rest with
      | nil => rfl
      | node b c r => simp only [Forest.preorder_node, List.length_cons] at h; omega
    subst hrest
    simp [Forest.parent, hchildren]

end MachineSnapshots

/-- What a host answers in which each machine found has the snapshots `l` and no call fails. The
number of snapshots is answered as a `uint32_t`. -/
def describes (l : MachineSnapshots C) (path : String) : (a : Act) → a.Ans → Prop
  | .ptr (.findMachine _), x => ∃ m, x = .ok (some m)
  | .val (.snapshotCount _), x =>
    x = .ok l.tree.preorder.length ∧ l.tree.preorder.length < 4294967296
  | .val (.snapshotFolder _), x => x = .ok path
  | .ptr (.currentSnapshot m), x => x = .ok (l.current.map fun ref => ⟨m.vm, ref⟩)
  | .val (.snapshotName s), x => ∃ y, l.withRef s.ref = some y ∧ x = .ok y.name
  | .ptr (.snapshotParent s), x => x = .ok ((l.parentOf s.ref).map fun y => ⟨s.vm, y.ref⟩)
  | _, _ => True

attribute [simp] describes

/-- The report on snapshots of which there are `count`. -/
def snapshotReport (J : Jsoncpp) (count : Nat) (path current parent : String) : String :=
  J.write (Json.null.append (.string (J.mapTojsonstr Json.string
    [("count", toString (count : Int)), ("path", path), ("current", current), ("parent", parent)])))

variable {l : MachineSnapshots C} {path : String} {J : Jsoncpp} {x : Snapshot C}

/-- What a report on a machine with the snapshots `l`, of which `x` is the current one, is. -/
def reportOf (J : Jsoncpp) (l : MachineSnapshots C) (path : String) (x : Snapshot C) : String :=
  snapshotReport J l.tree.preorder.length path x.name (l.parentName x.ref)

/-- When the report is right. -/
def Reportable (l : MachineSnapshots C) (x : Snapshot C) : Prop :=
  l.tree.preorder.length < 2147483648 ∧
    (l.tree.preorder.length = 1 ∨ (l.parentOf x.ref).isSome)

theorem getVmSnapshotInfo_reports (hcurrent : l.current = some x.ref)
    (hmem : x ∈ l.tree.preorder) (hnames : ∀ y ∈ l.tree.preorder, y.name ≠ "")
    (n : String) : Triple (reportView (describes l path)) (fun st => ∀ text, ¬st text)
    (QiVCA.getVmSnapshotInfo J n)
      (fun b st => (b = true ∧ ∀ text, st text ↔ text = reportOf J l path x) ↔
        Reportable l x)
      fun _ _ => ¬Reportable l x := by
  intro st hst
  have hpos : 0 < l.tree.preorder.length := List.length_pos_of_mem hmem
  simp [QiVCA.getVmSnapshotInfo, hcurrent, l.withRef_of_mem hmem, hst]
  intro machine hfits
  have hsmall (h : 1 ≤ int32 l.tree.preorder.length) : l.tree.preorder.length < 2147483648 ∧
      int32 l.tree.preorder.length = l.tree.preorder.length := by
    unfold int32 at h ⊢
    split at h <;> omega
  refine ⟨fun hcount => ?_, fun hcount hright => ?_⟩
  · obtain ⟨hlt, hint⟩ := hsmall hcount
    rw [hint]
    refine ⟨fun htwo => ⟨fun hroot hright => ?_, fun parent hparent name y hy hname => ?_⟩,
      fun hone => ?_⟩
    · -- the current snapshot is the root, and not the only one
      rcases hright.2 with h | h
      · omega
      · rw [hroot] at h
        exact absurd h nofun
    · have hpmem := (Forest.mem_of_parent hparent).resolve_right nofun
      rw [l.withRef_of_mem hpmem] at hy
      obtain rfl := Option.some.inj hy
      subst hname
      refine ⟨fun hempty => (hnames _ hpmem hempty).elim, fun _ => ?_⟩
      refine iff_of_true (fun text => ?_) ⟨hlt, .inr (by rw [hparent]; rfl)⟩
      simp [reportOf, snapshotReport, MachineSnapshots.parentName, hparent, eq_comm]
    · have hsingle : l.tree.preorder.length = 1 := by omega
      refine iff_of_true (fun text => ?_) ⟨hlt, .inl hsingle⟩
      simp [reportOf, snapshotReport, MachineSnapshots.parentName,
        l.parentOf_single hsingle, eq_comm]
  · have hlt := hright.1
    unfold int32 at hcount
    split at hcount <;> omega

/-- **When the snapshot information is right.** Of a machine with a current snapshot,
`getVmSnapshotInfo` returns `true` and reports the count, the name of the current snapshot and that
of its parent exactly where the count is an `int` and the current snapshot is the only one or has a
parent. -/
theorem getVmSnapshotInfo_iff {r : OpRun J} {n : String} (path : String)
    (hop : r.op = .getVmSnapshotInfo n)
    (hhost : ∀ e ∈ r.trace, describes l path e.1 e.2) (hcurrent : l.current = some x.ref)
    (hmem : x ∈ l.tree.preorder) (hnames : ∀ y ∈ l.tree.preorder, y.name ≠ "") :
    r.Reports (reportOf J l path x) ↔ Reportable l x :=
  reports_iff (by rw [hop]; rfl) hhost (getVmSnapshotInfo_reports hcurrent hmem hnames n)

/-- A machine without snapshots. -/
def MachineSnapshots.none : MachineSnapshots Unit where
  tree := .nil
  current := Option.none
  content := ()
  fresh := 0
  distinct := List.nodup_nil
  known := nofun

/-- Two snapshots, taken one after the other. -/
def twoSnapshots : MachineSnapshots Unit := (MachineSnapshots.none.take "one").take "two"

/-- The answers of a host in which machine 0 has the snapshots `l`. -/
def describing (l : MachineSnapshots C) : Oracle vboxSig := fun h a =>
  match a with
  | .val (.snapshotCount _) => .ok l.tree.preorder.length
  | .ptr (.currentSnapshot m) => .ok (l.current.map fun ref => ⟨m.vm, ref⟩)
  | .val (.snapshotName s) => .ok (((l.withRef s.ref).map (·.name)).getD "")
  | .ptr (.snapshotParent s) => .ok ((l.parentOf s.ref).map fun y => ⟨s.vm, y.ref⟩)
  | a => calm .Running h a

theorem twoSnapshots_preorder :
    twoSnapshots.tree.preorder = [⟨0, "one", ()⟩, ⟨1, "two", ()⟩] := rfl

/-- The root of two snapshots is restored: its parent is null, and used. -/
theorem root_parent_used : ¬∀ (J : Jsoncpp) (l : MachineSnapshots Unit) (path : String)
    (x : Snapshot Unit) (r : OpRun J) (n : String), r.op = .getVmSnapshotInfo n →
    (∀ e ∈ r.trace, describes l path e.1 e.2) → l.current = some x.ref →
    x ∈ l.tree.preorder → (∀ y ∈ l.tree.preorder, y.name ≠ "") →
    r.result = .ok (some true) := by
  intro h
  -- the first of two snapshots is the current one, and it has no parent
  have hpreorder : (twoSnapshots.restore 0).tree.preorder =
      [⟨0, "one", ()⟩, ⟨1, "two", ()⟩] := rfl
  have hresult := h .mute (twoSnapshots.restore 0) "" ⟨0, "one", ()⟩
    (Op.play .mute 0 (describing (twoSnapshots.restore 0)) (.getVmSnapshotInfo "vm")) "vm" rfl ?_
    rfl (by simp [hpreorder]) (by simp [hpreorder])
  · exact absurd hresult nofun
  · have htrace : (Op.play .mute 0 (describing (twoSnapshots.restore 0))
        (.getVmSnapshotInfo "vm")).trace =
        [⟨.ptr (.findMachine "vm"), .ok (some ⟨0, .host⟩)⟩,
          ⟨.val (.snapshotCount ⟨0, .host⟩), .ok (2 : Nat)⟩,
          ⟨.val (.snapshotFolder ⟨0, .host⟩), .ok ""⟩,
          ⟨.ptr (.currentSnapshot ⟨0, .host⟩), .ok (some ⟨0, 0⟩)⟩,
          ⟨.val (.snapshotName ⟨0, 0⟩), .ok "one"⟩,
          ⟨.ptr (.snapshotParent ⟨0, 0⟩), .ok Option.none⟩] := rfl
    have hcurrent : (twoSnapshots.restore 0).current = some 0 := rfl
    have hroot : (twoSnapshots.restore 0).parentOf 0 = Option.none := rfl
    have hname : (twoSnapshots.restore 0).withRef 0 = some ⟨0, "one", ()⟩ := rfl
    rw [htrace]
    simp [hpreorder, hcurrent, hroot, hname]

/-- After two snapshots are taken the report is right. -/
theorem getVmSnapshotInfo_iff_taken :
    (Op.play .mute 0 (describing twoSnapshots) (.getVmSnapshotInfo "vm")).result =
      .ok (some true) := by
  refine
    ((getVmSnapshotInfo_iff (l := twoSnapshots) (x := ⟨1, "two", ()⟩) "" rfl ?_ rfl ?_ ?_).mpr
    ⟨by decide, .inr rfl⟩).1
  · have htrace : (Op.play .mute 0 (describing twoSnapshots) (.getVmSnapshotInfo "vm")).trace =
        [⟨.ptr (.findMachine "vm"), .ok (some ⟨0, .host⟩)⟩,
          ⟨.val (.snapshotCount ⟨0, .host⟩), .ok (2 : Nat)⟩,
          ⟨.val (.snapshotFolder ⟨0, .host⟩), .ok ""⟩,
          ⟨.ptr (.currentSnapshot ⟨0, .host⟩), .ok (some ⟨0, 1⟩)⟩,
          ⟨.val (.snapshotName ⟨0, 1⟩), .ok "two"⟩,
          ⟨.ptr (.snapshotParent ⟨0, 1⟩), .ok (some ⟨0, 0⟩)⟩,
          ⟨.val (.snapshotName ⟨0, 0⟩), .ok "one"⟩,
          ⟨.put .result (reportOf .mute twoSnapshots "" ⟨1, "two", ()⟩), ()⟩,
          ⟨.release (.machine ⟨0, .host⟩), ()⟩] := rfl
    have hcurrent : twoSnapshots.current = some 1 := rfl
    have hparent : twoSnapshots.parentOf 1 = some ⟨0, "one", ()⟩ := rfl
    have hnames : twoSnapshots.withRef 0 = some ⟨0, "one", ()⟩ ∧
        twoSnapshots.withRef 1 = some ⟨1, "two", ()⟩ := ⟨rfl, rfl⟩
    rw [htrace]
    simp [twoSnapshots_preorder, hcurrent, hparent, hnames.1, hnames.2]
  · simp [twoSnapshots_preorder]
  · simp [twoSnapshots_preorder]

end VirtCore
