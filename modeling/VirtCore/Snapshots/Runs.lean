import VirtCore.Calls.Op
import VirtCore.Snapshots.Core
import VirtCore.VBox.Calm

/-!
# VirtCore — a snapshot that is taken is restored

Between taking a snapshot and restoring it any operations may run on any machines, and what the
machines contain may change in any way.

* **`SnapshotStep`** — an execution of an operation, or a change of what the machines contain.
* **`op_keeps`** — one operation leaves a name with its snapshot, unless it is to take it away.
* **`Prudent`** — no step at which restoring goes wrong.
* **`restore_undoes`** — whole runs.
-/

namespace VirtCore


open Interact QiVCA VcaVmConfigure

variable {J : Jsoncpp} {C : Type} {machineOf : String → Nat} {uuid : Nat ↪ String}

/-- The operations that start a snapshot task. -/
def Op.snapshots : Op → Prop
  | .takeSnapshot .. => True
  | .restoreSnapshot .. => True
  | .deleteSnapshot .. => True
  | .cloneLinkVM .. => True
  | _ => False

theorem op_noTask (fuel : Nat) {op : Op} (hop : ¬op.snapshots) : NoTask (op.prog J fuel) := by
  have hpermits : op.Permits leavesSnapshots := by
    cases op <;> first | exact (hop trivial).elim | trivial | simp [Op.Permits]
  refine (op_also fuel hpermits).mono fun a ha => ?_
  exact ha.elim (leavesSnapshots_of_ordinary a) id

/-! ## One operation

A step of a run is an execution, or a drift of the contents while the machines run. -/

/-- A run: executions of operations, each with the result codes of its tasks, and what becomes of
the contents of the machines between them. -/
inductive SnapshotStep (J : Jsoncpp) (C : Type) where
  | drift (content : Nat → C)
  | run (r : OpRun J) (ending : IProgress → Option Int)

namespace SnapshotStep

/-- The host after a step. -/
def after (machineOf : String → Nat) (uuid : Nat ↪ String) (h : SnapshotHost C) :
    SnapshotStep J C → SnapshotHost C
  | .drift content => { h with machines := fun k => { h.machines k with content := content k } }
  | .run r ending => (snapshotView machineOf uuid ending).after h r.trace

/-- The answers of an execution are sound. -/
def Sound (machineOf : String → Nat) (uuid : Nat ↪ String) (h : SnapshotHost C) :
    SnapshotStep J C → Prop
  | .drift _ => True
  | .run r ending => (snapshotView machineOf uuid ending).Admits h r.trace

/-- Restoring goes right: taking a snapshot and restoring one are tasks that end with code 0; the
machine is not in a state in which `restoreSnapshot` puts it to sleep; a new snapshot is the first
of its name, unless it is the one of a linked clone, which is not to come before one it already
has; and where a call throws after which nobody knows whether the snapshot was taken, its name is
free. -/
def Prudent (machineOf : String → Nat) (h : SnapshotHost C) : SnapshotStep J C → Prop
  | .drift _ => True
  | .run r ending =>
    match r.op with
    | .takeSnapshot n s =>
      (∀ e ∈ r.trace, tasksEnd ending e.1 e.2) ∧
      (∀ x ∈ (h.machines (machineOf n)).upToCurrent, x.name ≠ s) ∧
      ((∀ e ∈ r.trace, ¬threwError e.1 e.2) ∨
        ∀ x ∈ (h.machines (machineOf n)).tree.preorder, x.name ≠ s)
    | .restoreSnapshot .. =>
      ∀ e ∈ r.trace, tasksEnd ending e.1 e.2 ∧ ¬stateIn restoreSleeps e.1 e.2
    | .cloneLinkVM n .. =>
      (∃ x ∈ (h.machines (machineOf n)).tree.preorder, x.name = cloneLinkSnapshot) →
        ∃ x ∈ (h.machines (machineOf n)).upToCurrent, x.name = cloneLinkSnapshot
    | _ => True

/-- `deleteSnapshot` of the name on machine `k`. -/
def Deletes (machineOf : String → Nat) (k : Nat) (name : String) : SnapshotStep J C → Prop
  | .run r _ => ∃ n, r.op = .deleteSnapshot n name ∧ machineOf n = k
  | .drift _ => False

/-- `takeSnapshot` under the name on machine `k` has returned true. -/
def Takes (machineOf : String → Nat) (k : Nat) (name : String) : SnapshotStep J C → Prop
  | .run r _ => ∃ n, r.op = .takeSnapshot n name ∧ machineOf n = k ∧
      r.result = .ok (some true)
  | .drift _ => False

end SnapshotStep

/-- What holds in every execution of a program that keeps the name with its snapshot. -/
theorem kept_runs {α : Type} {ending : IProgress → Option Int} {k : Nat} {name : String}
    {x : Snapshot C} {P : SnapshotHost C → Prop} {p : Vb α}
    (h : Triple (snapshotView machineOf uuid ending) P p (fun _ => Kept k name x)
      fun _ => Kept k name x) {host : SnapshotHost C} (hP : P host) {t : VbTrace}
    {o : Except Exit α} (hr : Runs p t o)
    (ht : (snapshotView machineOf uuid ending).Admits host t) :
    Kept k name x ((snapshotView machineOf uuid ending).after host t) := by
  have hout := h.runs hP hr ht
  cases o <;> exact hout

/-- An execution of `takeSnapshot` under the name that has not returned true has taken nothing. -/
theorem takeSnapshot_fails {ending : IProgress → Option Int} {n s : String} {h : SnapshotHost C}
    {t : VbTrace} {o : Except Exit (Option Bool)} {fuel : Nat}
    (hr : Runs ((Op.takeSnapshot n s).prog J fuel) t o)
    (ht : (snapshotView machineOf uuid ending).Admits h t)
    (hends : ∀ e ∈ t, tasksEnd ending e.1 e.2) (hthrow : ∀ e ∈ t, ¬threwError e.1 e.2)
    (ho : o ≠ .ok (some true)) :
    ((snapshotView machineOf uuid ending).after h t).machines = h.machines := by
  have htakes := (triple_some (takeSnapshot_takes n s h)).runs rfl hr (View.only_admits ht hends)
  have hnull := (triple_some (takeSnapshot_throws n s)).runs trivial hr
    (View.only_admits (onlyView_admits (P := fun _ => True) True t) hthrow)
  rw [View.only_after] at htakes
  revert htakes hnull ho
  rcases o with e | b
  · rintro - (hnothing | ⟨err, rfl⟩) hnull
    · exact hnothing
    · cases hnull
  · rintro ho ⟨b, rfl, htakes⟩ -
    cases b with
    -- a failure that nobody threw has not begun a task, or its task has failed
    | true => exact (ho rfl).elim
    | false => exact htakes

/-- **One step.** -/
theorem SnapshotStep.kept {k : Nat} {name : String} {x : Snapshot C} {h : SnapshotHost C}
    (hk : Kept k name x h) {s : SnapshotStep J C} (sound : s.Sound machineOf uuid h)
    (prudent : s.Prudent machineOf h) (hdelete : ¬s.Deletes machineOf k name)
    (htake : ¬s.Takes machineOf k name) : Kept k name x (s.after machineOf uuid h) := by
  cases s with
  | drift content => exact hk
  | run r ending =>
    obtain ⟨op, fuel, trace, result, runs⟩ := r
    by_cases hop : op.snapshots
    · cases op <;> first | exact hop.elim | skip
      case takeSnapshot n s =>
        -- a snapshot of the same name has failed, or would come in front of this one
        by_cases hname : machineOf n = k ∧ s = name
        · obtain ⟨rfl, rfl⟩ := hname
          obtain ⟨hends, -, hthrow | hfree⟩ := prudent
          · have hfails : result ≠ .ok (some true) := fun hr => htake ⟨n, rfl, rfl, hr⟩
            show (((snapshotView machineOf uuid ending).after h trace).machines _).named s = some x
            rw [takeSnapshot_fails runs sound hends hthrow hfails]
            exact hk
          · obtain ⟨hmem, hsame⟩ := MachineSnapshots.mem_of_named _ hk
            exact (hfree x hmem hsame).elim
        · have hspares : Spares (machineOf n) s k name h := fun hn hs => (hname ⟨hn, hs⟩).elim
          exact kept_runs (Triple.map (takeSnapshot_keeps n s)) ⟨hk, hspares⟩ runs sound
      case restoreSnapshot n s =>
        exact kept_runs (Triple.map (restoreSnapshot_keeps fuel n s)) hk runs sound
      case deleteSnapshot n s =>
        have hother : machineOf n = k → s ≠ name := by
          rintro hn rfl
          exact hdelete ⟨n, rfl, hn⟩
        exact kept_runs (Triple.map (deleteSnapshot_keeps hother)) hk runs sound
      case cloneLinkVM n bf t =>
        have hspares : Spares (machineOf n) cloneLinkSnapshot k name h := by
          rintro rfl rfl
          obtain ⟨hmem, hname⟩ := MachineSnapshots.mem_of_named _ hk
          exact prudent ⟨x, hmem, hname⟩
        exact kept_runs (Triple.map (cloneLinkVM_keeps fuel n bf t)) ⟨hk, hspares⟩ runs sound
    · -- the other operations start no snapshot task
      have hleaves := Only.runs (op_noTask fuel hop) runs
      show ((((snapshotView machineOf uuid ending).after h trace).machines k).named name = some x)
      rw [after_machines hleaves]
      exact hk

/-! ## Whole runs

The snapshot that a name stands for is kept from its taking to its restoring, as long as nobody
deletes or takes it anew. -/

/-- The host after a run. -/
def hostAfter (machineOf : String → Nat) (uuid : Nat ↪ String) (h : SnapshotHost C)
    (steps : List (SnapshotStep J C)) : SnapshotHost C :=
  steps.foldl (fun h s => s.after machineOf uuid h) h

/-- Every step of a run satisfies `P` of the host before it. -/
def Throughout (machineOf : String → Nat) (uuid : Nat ↪ String)
    (P : SnapshotHost C → SnapshotStep J C → Prop) : SnapshotHost C →
    List (SnapshotStep J C) → Prop
  | _, [] => True
  | h, s :: steps => P h s ∧ Throughout machineOf uuid P (s.after machineOf uuid h) steps

theorem throughout_append {P : SnapshotHost C → SnapshotStep J C → Prop} {h : SnapshotHost C}
    {first rest : List (SnapshotStep J C)} :
    Throughout machineOf uuid P h (first ++ rest) ↔
      Throughout machineOf uuid P h first ∧
        Throughout machineOf uuid P (hostAfter machineOf uuid h first) rest := by
  induction first generalizing h with
  | nil => exact (true_and _).symm ▸ Iff.rfl
  | cons s first ih =>
    show _ ∧ Throughout machineOf uuid P _ (first ++ rest) ↔ (_ ∧ _) ∧ _
    rw [ih, and_assoc]
    rfl

/-- **A run between.** Induction on the run. -/
theorem kept_run {k : Nat} {name : String} {x : Snapshot C} {h : SnapshotHost C}
    (hk : Kept k name x h) {steps : List (SnapshotStep J C)}
    (sound : Throughout machineOf uuid (SnapshotStep.Sound machineOf uuid) h steps)
    (prudent : Throughout machineOf uuid (SnapshotStep.Prudent machineOf) h steps)
    (hdelete : ∀ s ∈ steps, ¬s.Deletes machineOf k name)
    (htake : ∀ s ∈ steps, ¬s.Takes machineOf k name) :
    Kept k name x (hostAfter machineOf uuid h steps) := by
  induction steps generalizing h with
  | nil => exact hk
  | cons s steps ih =>
    have hstep : Kept k name x (s.after machineOf uuid h) :=
      SnapshotStep.kept hk sound.1 prudent.1 (hdelete s List.mem_cons_self)
        (htake s List.mem_cons_self)
    exact ih hstep sound.2 prudent.2 (fun s' hs' => hdelete s' (List.mem_cons_of_mem s hs'))
      fun s' hs' => htake s' (List.mem_cons_of_mem s hs')

/-- After a prudent `takeSnapshot` that returned true the name stands for its snapshot. -/
theorem kept_taken {h : SnapshotHost C} {t : OpRun J} {ending : IProgress → Option Int}
    {n name : String} (hop : t.op = .takeSnapshot n name) (hres : t.result = .ok (some true))
    (sound : (SnapshotStep.run t ending).Sound machineOf uuid h)
    (prudent : (SnapshotStep.run t ending).Prudent machineOf h) :
    Kept (machineOf n) name
      ⟨(h.machines (machineOf n)).fresh, name, (h.machines (machineOf n)).content⟩
      ((SnapshotStep.run t ending).after machineOf uuid h) := by
  obtain ⟨op, fuel, trace, result, runs⟩ := t
  subst hop hres
  obtain ⟨hends, hfree, -⟩ := prudent
  have hout := (triple_some (takeSnapshot_takes n name h)).runs rfl runs
    (View.only_admits sound hends)
  rw [View.only_after] at hout
  obtain ⟨b, hb, hmachines⟩ := hout
  cases hb
  show (((snapshotView machineOf uuid ending).after h trace).machines _).named name = _
  rw [hmachines, if_pos rfl, Keyed.modify_self]
  exact MachineSnapshots.named_take _ hfree

/-- A prudent `restoreSnapshot` that returns true restores the snapshot of the name. -/
theorem restored_kept {h : SnapshotHost C} {r : OpRun J} {ending : IProgress → Option Int}
    {n name : String} {x : Snapshot C} (hop : r.op = .restoreSnapshot n name)
    (hres : r.result = .ok (some true)) (hk : Kept (machineOf n) name x h)
    (sound : (SnapshotStep.run r ending).Sound machineOf uuid h)
    (prudent : (SnapshotStep.run r ending).Prudent machineOf h) :
    ((SnapshotStep.run r ending).after machineOf uuid h).machines (machineOf n) =
      (h.machines (machineOf n)).restore x.ref := by
  obtain ⟨op, fuel, trace, result, runs⟩ := r
  subst hop hres
  have hout := (triple_some (restoreSnapshot_restores fuel n name h)).runs rfl runs
    (View.only_admits sound prudent)
  rw [View.only_after] at hout
  obtain ⟨b, hb, hrestored⟩ := hout
  cases hb
  obtain ⟨y, hy, hmachines⟩ := hrestored rfl
  obtain rfl : x = y := Option.some.inj (hk.symm.trans hy)
  show ((snapshotView machineOf uuid ending).after h trace).machines _ = _
  rw [hmachines, Keyed.modify_self]

/-- **Restoring undoes.** In a prudent run, `takeSnapshot` returned true under a name, and after it
no `takeSnapshot` under that name did and no `deleteSnapshot` of it came on that machine. When a
`restoreSnapshot` of the name then returns true, the machine contains what it did when the snapshot
was taken, and that snapshot is the current one. -/
theorem restore_undoes {h : SnapshotHost C} {t r : OpRun J} {between : List (SnapshotStep J C)}
    {tending rending : IProgress → Option Int} {n n' name : String}
    (taken : t.op = .takeSnapshot n name ∧ t.result = .ok (some true))
    (restored : r.op = .restoreSnapshot n' name ∧ r.result = .ok (some true))
    (same : machineOf n' = machineOf n)
    (hdelete : ∀ s ∈ between, ¬s.Deletes machineOf (machineOf n) name)
    (htake : ∀ s ∈ between, ¬s.Takes machineOf (machineOf n) name)
    (sound : Throughout machineOf uuid (SnapshotStep.Sound machineOf uuid) h
      (.run t tending :: between ++ [.run r rending]))
    (prudent : Throughout machineOf uuid (SnapshotStep.Prudent machineOf) h
      (.run t tending :: between ++ [.run r rending])) :
    let last :=
      (hostAfter machineOf uuid h (.run t tending :: between ++ [.run r rending])).machines
      (machineOf n)
    last.content = (h.machines (machineOf n)).content ∧
      last.current = some (h.machines (machineOf n)).fresh ∧
      ∃ x ∈ last.tree.preorder, x.ref = (h.machines (machineOf n)).fresh ∧ x.name = name ∧
        x.stored = (h.machines (machineOf n)).content := by
  obtain ⟨soundt, soundr⟩ := sound
  obtain ⟨prudentt, prudentr⟩ := prudent
  obtain ⟨soundb, soundr, -⟩ := throughout_append.mp soundr
  obtain ⟨prudentb, prudentr, -⟩ := throughout_append.mp prudentr
  -- what was taken is still the first of its name when it is restored
  have hkept := kept_run (kept_taken taken.1 taken.2 soundt prudentt) soundb prudentb hdelete htake
  -- the last step of the run is the restoring one
  have hlast : hostAfter machineOf uuid h (.run t tending :: between ++ [.run r rending]) =
      (SnapshotStep.run r rending).after machineOf uuid
        (hostAfter machineOf uuid ((SnapshotStep.run t tending).after machineOf uuid h)
          between) := by
    show hostAfter machineOf uuid _ (between ++ [_]) = _
    rw [hostAfter, List.foldl_append]
    rfl
  have hkept' := hkept
  rw [← same] at hkept'
  have hrestored := restored_kept restored.1 restored.2 hkept' soundr prudentr
  rw [same] at hrestored
  obtain ⟨hcontent, hcurrent⟩ := MachineSnapshots.restore_named _ hkept
  obtain ⟨hmem, -⟩ := MachineSnapshots.mem_of_named _
    ((MachineSnapshots.named_restore _ (h.machines (machineOf n)).fresh _).trans hkept)
  intro last
  have hmachine : last = MachineSnapshots.restore _ _ :=
    (congrArg (SnapshotHost.machines · (machineOf n)) hlast).trans hrestored
  rw [hmachine]
  exact ⟨hcontent, hcurrent, _, hmem, rfl, rfl, rfl⟩

/-! ## Concrete runs -/

/-- Ids of snapshots. -/
def plainIds : Nat ↪ String where
  toFun n := String.ofList (List.replicate n 'x')
  inj' a b h := by simpa using congrArg String.length h

/-- A host without snapshots, whose machines contain 0. -/
def blankHost : SnapshotHost Nat where
  machines _ :=
    { tree := .nil, current := none, content := 0, fresh := 0, distinct := List.nodup_nil,
      known := nofun }
  held _ := none

/-- A snapshot is taken of a running machine. -/
def takenRun : OpRun .mute := Op.play .mute 0 (calm .Running) (.takeSnapshot "vm" "s")

/-- It is restored to the machine in state `st`. -/
def restoredRun (st : MachineState) : OpRun .mute :=
  Op.play .mute 0 (calm st) (.restoreSnapshot "vm" "s")

/-- The machine contains 1 in between. -/
def takeAndRestore (st : MachineState) : List (SnapshotStep .mute Nat) :=
  .run takenRun (fun _ => some 0) :: [.drift fun _ => 1] ++
    [.run (restoredRun st) fun _ => some 0]

theorem takenRun_trace : takenRun.trace =
    [⟨.ptr (.findMachine "vm"), .ok (some ⟨0, .host⟩)⟩,
      ⟨.ptr .session, .ok (some ⟨0⟩)⟩,
      ⟨.val (.state ⟨0, .host⟩), .ok .Running⟩,
      ⟨.cmd (.lockMachine ⟨0, .host⟩ (some ⟨0⟩) .Shared), .ok ()⟩,
      ⟨.ptr (.sessionMachine ⟨0⟩), .ok (some ⟨0, .mutable ⟨0⟩⟩)⟩,
      ⟨.val (.machineId ⟨0, .mutable ⟨0⟩⟩), .ok ""⟩,
      ⟨.ptr (.takeSnapshot ⟨0, .mutable ⟨0⟩⟩ "s" "vca core!" false),
        .ok (some ⟨0⟩)⟩,
      ⟨.cmd (.waitForCompletion ⟨0⟩ (-1)), .ok ()⟩,
      ⟨.cmd (.unlockMachine ⟨0⟩), .ok ()⟩,
      ⟨.release (.machine ⟨0, .host⟩), ()⟩] := rfl

theorem restoredRun_trace : (restoredRun .PoweredOff).trace =
    [⟨.ptr (.findMachine "vm"), .ok (some ⟨0, .host⟩)⟩,
      ⟨.val (.state ⟨0, .host⟩), .ok .PoweredOff⟩, ⟨.ptr .session, .ok (some ⟨0⟩)⟩,
      ⟨.cmd (.lockMachine ⟨0, .host⟩ (some ⟨0⟩) .Shared), .ok ()⟩,
      ⟨.ptr (.sessionMachine ⟨0⟩), .ok (some ⟨0, .mutable ⟨0⟩⟩)⟩,
      ⟨.ptr (.findSnapshot ⟨0, .mutable ⟨0⟩⟩ "s"), .ok (some ⟨0, 0⟩)⟩,
      ⟨.ptr (.restoreSnapshot ⟨0, .mutable ⟨0⟩⟩ (some ⟨0, 0⟩)), .ok (some ⟨0⟩)⟩,
      ⟨.cmd (.waitForCompletion ⟨0⟩ (-1)), .ok ()⟩,
      ⟨.cmd (.unlockMachine ⟨0⟩), .ok ()⟩,
      ⟨.release (.machine ⟨0, .host⟩), ()⟩] := rfl

/-- The machine is powered off when the snapshot is restored. -/
theorem restore_undoes_poweredOff :
    ((hostAfter (fun _ => 0) plainIds blankHost (takeAndRestore .PoweredOff)).machines 0).content =
      0 := by
  have hsound : Throughout (fun _ => 0) plainIds (SnapshotStep.Sound (fun _ => 0) plainIds)
    blankHost
      (takeAndRestore .PoweredOff) := by
    simp [takeAndRestore, Throughout, SnapshotStep.Sound, SnapshotStep.after, takenRun_trace,
      restoredRun_trace]
    exact ⟨⟨0, "s", 0⟩, rfl, rfl⟩
  have hprudent : Throughout (fun _ => 0) plainIds (SnapshotStep.Prudent fun _ => 0) blankHost
      (takeAndRestore .PoweredOff) := by
    refine ⟨⟨?_, ?_, ?_⟩, trivial, ?_, trivial⟩
    · rw [takenRun_trace]
      simp
    · exact fun x hx => (List.not_mem_nil hx).elim
    · exact .inr fun x hx => (List.not_mem_nil hx).elim
    · show ∀ e ∈ (restoredRun _).trace, _
      rw [restoredRun_trace]
      simp [restoreSleeps]
  have hrun := restore_undoes (J := .mute) (C := Nat) (t := takenRun) (r := restoredRun .PoweredOff)
    (n := "vm") ⟨rfl, rfl⟩ ⟨rfl, rfl⟩ rfl ?_ ?_ hsound hprudent
  · exact hrun.1
  · simp [SnapshotStep.Deletes]
  · simp [SnapshotStep.Takes]

/-- **The restore that only sleeps.** The machine is running when the snapshot is to be restored:
`restoreSnapshot` puts it to sleep, returns true, and it still contains 1. -/
theorem restore_sleeps_instead :
    ¬∀ (h : SnapshotHost Nat) (t r : OpRun .mute) (between : List (SnapshotStep .mute Nat))
      (n name : String), t.op = .takeSnapshot n name → t.result = .ok (some true) →
      r.op = .restoreSnapshot n name → r.result = .ok (some true) →
      (∀ s ∈ between, ¬s.Deletes (fun _ => 0) 0 name) →
      (∀ s ∈ between, ¬s.Takes (fun _ => 0) 0 name) →
      Throughout (fun _ => 0) plainIds (SnapshotStep.Sound (fun _ => 0) plainIds) h
        (.run t (fun _ => some 0) :: between ++ [.run r fun _ => some 0]) →
      ((hostAfter (fun _ => 0) plainIds h
        (.run t (fun _ => some 0) :: between ++ [.run r fun _ => some 0])).machines 0).content =
          (h.machines 0).content := by
  intro hclaim
  have htrace : (restoredRun .Running).trace =
      [⟨.ptr (.findMachine "vm"), .ok (some ⟨0, .host⟩)⟩,
        ⟨.val (.state ⟨0, .host⟩), .ok .Running⟩,
        ⟨.ptr (.findMachine "vm"), .ok (some ⟨0, .host⟩)⟩,
        ⟨.val (.state ⟨0, .host⟩), .ok .Running⟩, ⟨.ptr .session, .ok (some ⟨0⟩)⟩,
        ⟨.cmd (.lockMachine ⟨0, .host⟩ (some ⟨0⟩) .Shared), .ok ()⟩,
        ⟨.ptr (.sessionMachine ⟨0⟩), .ok (some ⟨0, .mutable ⟨0⟩⟩)⟩,
        ⟨.ptr (.saveState ⟨0, .mutable ⟨0⟩⟩), .ok (some ⟨0⟩)⟩,
        ⟨.cmd (.waitForCompletion ⟨0⟩ (-1)), .ok ()⟩,
        ⟨.cmd (.unlockMachine ⟨0⟩), .ok ()⟩,
        ⟨.release (.machine ⟨0, .host⟩), ()⟩] := rfl
  have hsound : Throughout (fun _ => 0) plainIds (SnapshotStep.Sound (fun _ => 0) plainIds)
    blankHost
      (takeAndRestore .Running) := by
    simp [takeAndRestore, Throughout, SnapshotStep.Sound, SnapshotStep.after,
      takenRun_trace, htrace]
  have hcontent := hclaim blankHost takenRun (restoredRun .Running) [.drift fun _ => 1] "vm" "s" rfl
    rfl rfl rfl (by simp [SnapshotStep.Deletes]) (by simp [SnapshotStep.Takes]) hsound
  exact absurd hcontent (by decide)

end VirtCore
