import VirtCore.Snapshots.Runs

/-!
# VirtCore — the base of a linked clone

`cloneLinkVM` takes a snapshot under a fixed name and then asks for the snapshot of that name.

* **`linkView`** — the snapshots, and which machines were cloned and registered.
* **`OwnBase`** — the clone is based on the snapshot that is the next to be taken.
* **`linkedClone_iff`** — when it is, at any point of a run.
-/

namespace VirtCore


open Interact QiVCA

variable {J : Jsoncpp} {C : Type} {machineOf : String → Nat} {uuid : Nat ↪ String}
  {ending : IProgress → Option Int}

/-- The machine that was cloned, as a linked clone, and the target. -/
def linkCloned : (a : Act) → a.Ans → Option (IMachine × COMPtr IMachine)
  | .ptr (.cloneTo m t .MachineState [.Link]), .ok (some _) => some (m, t)
  | _, _ => none

/-- The machine that was registered. -/
def machineRegistered : (a : Act) → a.Ans → Option (COMPtr IMachine)
  | .cmd (.registerMachine t), .ok _ => some t
  | _, _ => none

/-- A machine was registered whose base is the snapshot `ref` of machine `k`. -/
def OwnBase (k ref : Nat) (t : VbTrace) : Prop :=
  ∃ target, (⟨k, .snapshot ref⟩, target) ∈ t.filterMap (fun e => linkCloned e.1 e.2) ∧
    target ∈ t.filterMap fun e => machineRegistered e.1 e.2

/-- The objects of a snapshot belong to its machine. -/
def snapshotOwned : (a : Act) → a.Ans → Prop
  | .ptr (.findSnapshot m _), .ok (some snap) => snap.vm = m.vm
  | .ptr (.snapshotMachine snap), .ok (some m) => m = ⟨snap.vm, .snapshot snap.ref⟩
  | _, _ => True

/-- The snapshots, the machines cloned and registered so far, and whether some snapshot that was to
be taken was not. -/
structure LinkHost (C : Type) where
  host : SnapshotHost C
  links : List (IMachine × COMPtr IMachine)
  registered : List (COMPtr IMachine)
  missed : Prop

/-- A snapshot that was to be taken is not. -/
def missesSnapshot (ending : IProgress → Option Int) (a : Act) (x : a.Ans) : Prop :=
  noMutable a x ∨ ¬tasksEnd ending a x

attribute [simp] linkCloned machineRegistered snapshotOwned missesSnapshot

def linkView (machineOf : String → Nat) (uuid : Nat ↪ String)
    (ending : IProgress → Option Int) : View vboxSig (LinkHost C) where
  next l a x :=
    { host := snapshotNext uuid ending l.host a x
      links := l.links ++ (linkCloned a x).toList
      registered := l.registered ++ (machineRegistered a x).toList
      missed := l.missed ∨ missesSnapshot ending a x }
  ok l a x := snapshotSound machineOf uuid l.host a x ∧ snapshotOwned a x

@[simp] theorem linkView_next (l : LinkHost C) (a : Act) (x : a.Ans) :
    (linkView machineOf uuid ending).next l a x =
      { host := snapshotNext uuid ending l.host a x
        links := l.links ++ (linkCloned a x).toList
        registered := l.registered ++ (machineRegistered a x).toList
        missed := l.missed ∨ missesSnapshot ending a x } := rfl

@[simp] theorem linkView_ok (l : LinkHost C) (a : Act) (x : a.Ans) :
    (linkView machineOf uuid ending).ok l a x =
      (snapshotSound machineOf uuid l.host a x ∧ snapshotOwned a x) := rfl

/-- Waiting for a task changes nothing. -/
theorem pollCompleted_links (fuel : Nat) (p : IProgress) (l : LinkHost C) :
    Triple (linkView machineOf uuid ending) (· = l) (pollCompleted fuel (some p))
      (fun _ l' => l' = l) fun _ _ => True := by
  refine triple_pollCompleted (P := fun _ => (· = l)) fuel (fun _ _ => trivial) ?_ ?_
    fun _ _ _ _ _ => trivial
  · rintro _ _ rfl
    simp
  · rintro _ _ rfl _
    simp

/-- What an execution that returned true has cloned and registered, and whether it took its
snapshot. -/
structure Linked (h : SnapshotHost C) (k : Nat) (l : LinkHost C) : Prop where
  links : ∃ target y, l.links = [(⟨k, .snapshot y.ref⟩, some target)] ∧
    l.registered = [some target] ∧ (l.host.machines k).named cloneLinkSnapshot = some y
  taken : ¬l.missed → l.host.machines =
    Keyed.modify h.machines k fun l => l.take cloneLinkSnapshot
  missed : l.missed → l.host.machines = h.machines

theorem cloneLinkVM_links (fuel : Nat) (n bf t : String) (h : SnapshotHost C) :
    Triple (linkView machineOf uuid ending) (· = ⟨h, [], [], False⟩) (cloneLinkVM fuel n bf t)
      (fun b l => b = true → Linked h (machineOf n) l) fun _ _ => True := by
  refine triple_catchReport (I := fun _ => True) (D := fun _ _ => True) (fun _ _ _ _ _ _ => trivial)
    (fun _ _ _ => trivial) (fun _ _ _ => trivial) ?_ fun _ _ => Triple.exit fun _ _ => trivial
  rintro _ rfl
  simp
  intro machine hmachine session
  refine ⟨?_, fun m hm progress => ?_⟩
  · -- no snapshot was asked for, so that the first one of the name was there before
    intro path os target snap y hy href hvm p
    refine (pollCompleted_links fuel p _).use rfl ?_ fun _ _ _ => trivial
    -- waiting changes none of this
    rintro _ _ rfl
    refine ⟨⟨target, y, ?_, rfl, ?_⟩, fun htaken => (htaken trivial).elim, fun _ => rfl⟩
    · rw [hmachine, ← hvm, href]
    · rw [hmachine]
      exact hy
  · intro path os target snap y hy href hvm p
    refine (pollCompleted_links fuel p _).use rfl ?_ fun _ _ _ => trivial
    rintro _ _ rfl
    refine ⟨⟨target, y, ?_, rfl, ?_⟩, fun htaken => ?_, fun hmissed => ?_⟩
    · rw [hmachine, ← hvm, href]
    · rw [hmachine]
      exact hy
    · rw [hmachine, hm]
      exact SnapshotHost.task_machines (Classical.not_not.mp htaken) m.vm _
    · exact SnapshotHost.task_fails hmissed m.vm _

/-! ## Executions

What the view has seen at the end of an execution, and what it says of the clone. -/

theorem linkView_after (l : LinkHost C) (t : VbTrace) :
    (linkView machineOf uuid ending).after l t =
      { host := (snapshotView machineOf uuid ending).after l.host t
        links := l.links ++ t.filterMap fun e => linkCloned e.1 e.2
        registered := l.registered ++ t.filterMap fun e => machineRegistered e.1 e.2
        missed := l.missed ∨ ∃ e ∈ t, missesSnapshot ending e.1 e.2 } := by
  induction t generalizing l with
  | nil => simp
  | cons e t ih =>
    rw [View.after_cons, ih]
    have hmissed (P Q : Prop) : ((l.missed ∨ P) ∨ Q) = (l.missed ∨ P ∨ Q) :=
      propext or_assoc
    have happend {A : Type} (f : (a : Act) → a.Ans → Option A) :
        List.filterMap (fun e => f e.1 e.2) (e :: t) =
          (f e.1 e.2).toList ++ List.filterMap (fun e => f e.1 e.2) t := by
      cases h : f e.1 e.2 <;> simp [h]
    simp only [linkView_next, happend, List.append_assoc, List.mem_cons, exists_eq_or_imp, hmissed]
    rfl

theorem linkView_admits {l : LinkHost C} {t : VbTrace}
    (sound : (snapshotView machineOf uuid ending).Admits l.host t)
    (owned : ∀ e ∈ t, snapshotOwned e.1 e.2) : (linkView machineOf uuid ending).Admits l t := by
  induction t generalizing l with
  | nil => trivial
  | cons e t ih =>
    exact ⟨⟨sound.1, owned e List.mem_cons_self⟩,
      ih sound.2 fun e' he' => owned e' (List.mem_cons_of_mem e he')⟩

/-- The execution, from the host `h`, has registered a machine based on the next snapshot of machine
`k`, and that snapshot stores what `k` contained at the start. -/
def CapturesMoment (machineOf : String → Nat) (uuid : Nat ↪ String) (h : SnapshotHost C)
    (r : OpRun J) (ending : IProgress → Option Int) (k : Nat) : Prop :=
  OwnBase k (h.machines k).fresh r.trace ∧
    ∃ y ∈ (((SnapshotStep.run r ending).after machineOf uuid h).machines k).tree.preorder,
      y.ref = (h.machines k).fresh ∧ y.stored = (h.machines k).content

/-- **One linked clone.** -/
theorem capturesMoment_iff {h : SnapshotHost C} {r : OpRun J} {n bf t : String}
    (hop : r.op = .cloneLinkVM n bf t) (hres : r.result = .ok (some true))
    (sound : (SnapshotStep.run r ending).Sound machineOf uuid h)
    (owned : ∀ e ∈ r.trace, snapshotOwned e.1 e.2) :
    CapturesMoment machineOf uuid h r ending (machineOf n) ↔
      (∀ e ∈ r.trace, ¬missesSnapshot ending e.1 e.2) ∧
        ∀ x ∈ (h.machines (machineOf n)).upToCurrent, x.name ≠ cloneLinkSnapshot := by
  obtain ⟨op, fuel, trace, result, runs⟩ := r
  subst hop hres
  have hout := (triple_some (cloneLinkVM_links fuel n bf t h)).runs rfl runs
    (linkView_admits sound owned)
  obtain ⟨b, hb, hlinked⟩ := hout
  cases hb
  have hlinked := hlinked rfl
  rw [linkView_after] at hlinked
  obtain ⟨⟨target, y, hlinks, hregistered, hnamed⟩, htaken, hmissed⟩ := hlinked
  have hbase : OwnBase (machineOf n) (h.machines (machineOf n)).fresh trace ↔
      y.ref = (h.machines (machineOf n)).fresh := by
    have hlinks' : trace.filterMap (fun e => linkCloned e.1 e.2) =
        [(⟨machineOf n, .snapshot y.ref⟩, some target)] := hlinks
    have hregistered' : trace.filterMap (fun e => machineRegistered e.1 e.2) = [some target] :=
      hregistered
    rw [OwnBase, hlinks', hregistered']
    simp [eq_comm]
  -- A snapshot the machine had before is not the next one.
  have hold (hy : (h.machines (machineOf n)).named cloneLinkSnapshot = some y) :
      y.ref ≠ (h.machines (machineOf n)).fresh := by
    have hlt := (h.machines (machineOf n)).known y (MachineSnapshots.mem_of_named _ hy).1
    omega
  by_cases hmiss : ∃ e ∈ trace, missesSnapshot ending e.1 e.2
  · have hsame := hmissed (.inr hmiss)
    rw [hsame] at hnamed
    refine ⟨fun hown => (hold hnamed (hbase.mp hown.1)).elim, fun ⟨hnone, _⟩ => ?_⟩
    obtain ⟨e, he, hmiss⟩ := hmiss
    exact (hnone e he hmiss).elim
  · have htake := htaken fun hor => hor.elim id hmiss
    have hmachine := congrFun htake (machineOf n)
    rw [Keyed.modify_self] at hmachine
    rw [hmachine] at hnamed
    have hnone : ∀ e ∈ trace, ¬missesSnapshot ending e.1 e.2 :=
      fun e he hbad => hmiss ⟨e, he, hbad⟩
    by_cases hfree : ∀ x ∈ (h.machines (machineOf n)).upToCurrent, x.name ≠ cloneLinkSnapshot
    · have hnew := MachineSnapshots.named_take _ hfree
      obtain rfl := Option.some.inj (hnew.symm.trans hnamed)
      refine ⟨fun _ => ⟨hnone, hfree⟩, fun _ => ⟨hbase.mpr rfl,
        ⟨_, cloneLinkSnapshot, (h.machines (machineOf n)).content⟩, ?_, rfl, rfl⟩⟩
      show _ ∈ (((snapshotView machineOf uuid ending).after h trace).machines _).tree.preorder
      rw [hmachine]
      exact (MachineSnapshots.mem_of_named _ hnew).1
    · obtain ⟨x, hx⟩ := Classical.not_forall.mp hfree
      obtain ⟨hmem, hname⟩ := Classical.not_imp.mp hx
      rw [MachineSnapshots.named_take_behind _ hmem (Classical.not_not.mp hname)] at hnamed
      exact ⟨fun hown => (hold hnamed (hbase.mp hown.1)).elim,
        fun hright => (hfree hright.2).elim⟩

/-! ## Runs -/

/-- **The base of a linked clone.** At every point of every run, a `cloneLinkVM` that returns true
has captured the moment if and only if its snapshot was taken and no snapshot up to the end of the
current one's subtree had the fixed name. -/
theorem linkedClone_iff {h : SnapshotHost C} {steps before later : List (SnapshotStep J C)}
    {r : OpRun J} {n bf t : String}
    (sound : Throughout machineOf uuid (SnapshotStep.Sound machineOf uuid) h steps)
    (split : steps = before ++ .run r ending :: later)
    (owned : ∀ e ∈ r.trace, snapshotOwned e.1 e.2)
    (hop : r.op = .cloneLinkVM n bf t) (hres : r.result = .ok (some true)) :
    CapturesMoment machineOf uuid (hostAfter machineOf uuid h before) r ending (machineOf n) ↔
      (∀ e ∈ r.trace, ¬missesSnapshot ending e.1 e.2) ∧
        ∀ x ∈ ((hostAfter machineOf uuid h before).machines (machineOf n)).upToCurrent,
          x.name ≠ cloneLinkSnapshot := by
  subst split
  exact capturesMoment_iff hop hres (throughout_append.mp sound).2.1 owned

/-- Powered-off machines; a new machine has number 1. -/
def cloningHost : Oracle vboxSig := fun h a =>
  match a with
  | .ptr (.createMachine ..) => .ok (some ⟨1, .host⟩)
  | a => calm .PoweredOff h a

/-- Machine 0 is cloned. -/
def clonedRun : OpRun .mute := Op.play .mute 1 cloningHost (.cloneLinkVM "vm" "/vm" "clone")

theorem clonedRun_trace : clonedRun.trace =
    [⟨.ptr (.findMachine "vm"), .ok (some ⟨0, .host⟩)⟩,
      ⟨.val (.machineId ⟨0, .host⟩), .ok ""⟩,
      ⟨.put .callbackdata "", ()⟩, ⟨.val (.state ⟨0, .host⟩), .ok .PoweredOff⟩,
      ⟨.ptr .session, .ok (some ⟨0⟩)⟩,
      ⟨.cmd (.lockMachine ⟨0, .host⟩ (some ⟨0⟩) .Shared), .ok ()⟩,
      ⟨.ptr (.sessionMachine ⟨0⟩), .ok (some ⟨0, .mutable ⟨0⟩⟩)⟩,
      ⟨.val (.machineId ⟨0, .mutable ⟨0⟩⟩), .ok ""⟩,
      ⟨.ptr (.takeSnapshot ⟨0, .mutable ⟨0⟩⟩ cloneLinkSnapshot "vca clone link!" false),
        .ok (some ⟨0⟩)⟩,
      ⟨.cmd (.waitForCompletion ⟨0⟩ (-1)), .ok ()⟩,
      ⟨.cmd (.setHWVirtExProperty ⟨0, .mutable ⟨0⟩⟩ .NestedPaging true), .ok ()⟩,
      ⟨.cmd (.unlockMachine ⟨0⟩), .ok ()⟩,
      ⟨.val (.composeMachineFilename "clone" "" "" "/vm"), .ok ""⟩,
      ⟨.val (.OSTypeId ⟨0, .host⟩), .ok ""⟩,
      ⟨.ptr (.createMachine "" "clone" [] "" ""), .ok (some ⟨1, .host⟩)⟩,
      ⟨.cmd (.saveSettings ⟨1, .host⟩), .ok ()⟩,
      ⟨.ptr (.findSnapshot ⟨0, .host⟩ cloneLinkSnapshot), .ok (some ⟨0, 0⟩)⟩,
      ⟨.ptr (.snapshotMachine ⟨0, 0⟩), .ok (some ⟨0, .snapshot 0⟩)⟩,
      ⟨.ptr (.cloneTo ⟨0, .snapshot 0⟩ (some ⟨1, .host⟩) .MachineState [.Link]),
        .ok (some ⟨0⟩)⟩,
      ⟨.val (.completed ⟨0⟩), .ok true⟩,
      ⟨.cmd (.registerMachine (some ⟨1, .host⟩)), .ok ()⟩,
      ⟨.release (.machine ⟨0, .host⟩), ()⟩,
      ⟨.val (.resultCode ⟨0⟩), .ok (0 : Int)⟩] := by
  rfl

theorem clonedRun_owned : ∀ e ∈ clonedRun.trace, snapshotOwned e.1 e.2 := by
  rw [clonedRun_trace]
  simp

/-- The first clone of a machine is based on its own snapshot. -/
theorem linkedClone_iff_first : OwnBase 0 0 clonedRun.trace := by
  have hsound : Throughout (fun _ => 0) plainIds (SnapshotStep.Sound (fun _ => 0) plainIds)
    blankHost
      [.run clonedRun fun _ => some 0] := by
    simp [Throughout, SnapshotStep.Sound, clonedRun_trace]
    exact ⟨⟨0, cloneLinkSnapshot, 0⟩, rfl, rfl⟩
  have hmissed : ∀ e ∈ clonedRun.trace, ¬missesSnapshot (fun _ => some 0) e.1 e.2 := by
    rw [clonedRun_trace]
    simp
  have hfree : ∀ x ∈ (blankHost.machines 0).upToCurrent, x.name ≠ cloneLinkSnapshot :=
    fun x hx => (List.not_mem_nil hx).elim
  have hclone := linkedClone_iff hsound (List.nil_append _).symm clonedRun_owned rfl rfl
  exact (hclone.mpr ⟨hmissed, hfree⟩).1

/-- **The second clone.** The machine contains something else by then; `cloneLinkVM` returns true,
and the new machine is based on the first clone's snapshot. -/
theorem second_clone_takes_first_base :
    ¬∀ (h : SnapshotHost Nat) (before : List (SnapshotStep .mute Nat)) (r : OpRun .mute)
      (n bf t : String),
      Throughout (fun _ => 0) plainIds (SnapshotStep.Sound (fun _ => 0) plainIds) h
        (before ++ [.run r fun _ => some 0]) →
      (∀ e ∈ r.trace, snapshotOwned e.1 e.2) → r.op = .cloneLinkVM n bf t →
      r.result = .ok (some true) →
      CapturesMoment (fun _ => 0) plainIds (hostAfter (fun _ => 0) plainIds h before) r
        (fun _ => some 0) 0 := by
  intro hclaim
  have hsound : Throughout (fun _ => 0) plainIds (SnapshotStep.Sound (fun _ => 0) plainIds)
    blankHost
      ([.run clonedRun fun _ => some 0, .drift fun _ => 1] ++
        [.run clonedRun fun _ => some 0]) := by
    simp [Throughout, SnapshotStep.Sound, SnapshotStep.after, clonedRun_trace]
    exact ⟨⟨⟨0, cloneLinkSnapshot, 0⟩, rfl, rfl⟩, ⟨0, cloneLinkSnapshot, 0⟩,
      rfl, rfl⟩
  obtain ⟨⟨target, hbase, -⟩, -⟩ :=
    hclaim blankHost _ clonedRun "vm" "/vm" "clone" hsound clonedRun_owned rfl rfl
  rw [clonedRun_trace] at hbase
  simp [hostAfter] at hbase
  exact Nat.succ_ne_zero 0 hbase.1

end VirtCore
