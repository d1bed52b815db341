import VirtCore.Storage.View
import VirtCore.VBox.Calm

/-!
# VirtCore — attaching and detaching an extension disk

`addDiskToVm` is told the controller, `detachDiskFromVm` assumes `SATA`. The view follows the
attachments, and which machine a session has locked; the environment is a VirtualBox host that
knows its machines and their controllers.

* **`sound`** — the answers that agree with the host and the attachments. Any call may fail.
* **`works`** — moreover, a call fails only where there is nothing to find or to detach.
* **`addDiskToVm_bays` / `detachDiskFromVm_bays`** — what each operation does to the attachments.
* **`detach_undoes_iff`** — when the second undoes the first.
-/

namespace VirtCore


open Interact QiVCA

variable {J : Jsoncpp}

/-- What a host knows: its machines by name, their controllers, the controllers' names. -/
structure Host where
  machineOf : String → Option Nat
  controllers : Nat → String → Prop
  nameOf : IStorageController → String

structure Bays where
  storage : Storage
  held : ISession → Option Nat
  attached : Prop

/-- A disk is attached. -/
def attaches : (a : Act) → a.Ans → Prop
  | .cmd (.attachDevice ..), .ok _ => True
  | _, _ => False

/-- The machines that sessions have locked, after an answered call. -/
def heldNext (held : ISession → Option Nat) : (a : Act) → a.Ans → ISession → Option Nat
  | .cmd (.lockMachine m (some s) _), .ok _ => fun s' => if s' = s then some m.vm else held s'
  | _, _ => held

/-- The answers that agree with the host and the attachments. -/
def sound (H : Host) (b : Bays) : (a : Act) → a.Ans → Prop
  | .ptr (.findMachine n), .ok (some m) => H.machineOf n = some m.vm
  | .ptr (.sessionMachine s), .ok (some m) => b.held s = some m.vm
  | .ptr (.getStorageControllerByName m name), .ok (some ctl) =>
    H.controllers m.vm name ∧ H.nameOf ctl = name
  | .val (.controllerName ctl), .ok name => name = H.nameOf ctl
  | .cmd (.attachDevice m name port device _ _), .ok _ =>
    b.storage ⟨m.vm, name, port, device⟩ = none
  | .cmd (.detachDevice m name port device), .ok _ =>
    (b.storage ⟨m.vm, name, port, device⟩).isSome
  | _, _ => True

/-- The answers of a host on which nothing fails that could succeed. -/
def works (H : Host) (b : Bays) (a : Act) (x : a.Ans) : Prop :=
  sound H b a x ∧ match a, x with
    | .cmd (.detachDevice m name port device), .error _ =>
      b.storage ⟨m.vm, name, port, device⟩ = none
    | .ptr (.findMachine n), .error _ => H.machineOf n = none
    | .ptr (.getStorageControllerByName m name), .error _ => ¬H.controllers m.vm name
    | .ptr (.queryVirtualBoxErrorInfo _), .ok none => True
    | .ptr (.nextError _), .ok none => True
    | .ptr _, .ok none => False
    | .cmd _, .error _ => False
    | .ptr _, .error _ => False
    | .val _, .error _ => False
    | _, _ => True

def bayView (ok : Bays → (a : Act) → a.Ans → Prop) : View vboxSig Bays where
  next b a x :=
    { storage := storageNext b.storage a x
      held := heldNext b.held a x
      attached := b.attached ∨ attaches a x }
  ok := ok

attribute [simp] storageNext attaches heldNext sound works

variable {α : Type} {H : Host} {ok : Bays → (a : Act) → a.Ans → Prop}

@[simp] theorem bayView_next (b : Bays) (a : Act) (x : a.Ans) :
    (bayView ok).next b a x =
      { storage := storageNext b.storage a x
        held := heldNext b.held a x
        attached := b.attached ∨ attaches a x } := rfl

@[simp] theorem bayView_ok (b : Bays) (a : Act) (x : a.Ans) : (bayView ok).ok b a x = ok b a x :=
  rfl

/-- Describing an error attaches nothing. -/
theorem reportError_bays (b : Bays) (fuel : Nat) (err : COMError) :
    Triple (bayView ok) (· = b) (reportError fuel err) (fun _ b' => b' = b) fun _ b' =>
      b' = b := by
  refine Triple.of_calls (fun b' a x ha hb _ => ?_) (reportError_calls fuel err)
  subst hb
  cases a with
  | cmd => exact ha.elim
  | ptr c => cases c <;> first | exact ha.elim | simp
  | val c => cases c <;> first | exact ha.elim | simp
  | _ => simp

/-- Where the `try` of `addDiskToVm` falls through, the disk is in a slot that was free, or
nothing has changed. -/
theorem attachDisk_bays (fuel : Nat) (b : Bays) (hb : ¬b.attached) (m : IMachine)
    (ctl : IStorageController) (slot : Int) (disk : COMPtr IMedium) (path : String) :
    Triple (bayView (sound H)) (· = b) (attachDisk fuel (some m) (some ctl) slot disk path)
      (fun r b' => r ≠ some true ∧ (r = none →
        (b'.attached ∧ b.storage ⟨m.vm, H.nameOf ctl, slot, 0⟩ = none ∧
          b'.storage = b.storage.set ⟨m.vm, H.nameOf ctl, slot, 0⟩ (some disk)) ∨
        (¬b'.attached ∧ b'.storage = b.storage))) fun _ _ => True := by
  obtain ⟨storage, held, attached⟩ := b
  obtain rfl : attached = False := eq_false hb
  rintro _ rfl
  simp [attachDisk, wp_catchCOM]
  refine ⟨fun hfree => ⟨hfree, fun err => ?_⟩, fun err => ?_⟩
  · refine (reportError_bays _ fuel err).use rfl ?_ fun _ _ _ => trivial
    rintro described _ rfl _
    exact .inl ⟨trivial, hfree, rfl⟩
  · refine (reportError_bays _ fuel err).use rfl ?_ fun _ _ _ => trivial
    rintro described _ rfl _
    exact .inr ⟨id, rfl⟩

/-- A disk was attached to a free slot of the controller, or nothing has changed. -/
def Host.Added (H : Host) (st : Storage) (n c : String) (slot : Int) (b : Bays) : Prop :=
  ∃ vm, H.machineOf n = some vm ∧ 0 < slot ∧ slot < 5 ∧
    ((b.attached ∧ H.controllers vm c ∧ st ⟨vm, c, slot, 0⟩ = none ∧
        ∃ disk, b.storage = st.set ⟨vm, c, slot, 0⟩ (some disk)) ∨
      (¬b.attached ∧ b.storage = st))

/-- **Attaching.** Where `addDiskToVm` succeeds, it attached a disk to the slot of the controller it
was told, or nothing. -/
theorem addDiskToVm_bays (fuel : Nat) (n d fmt c bf : String) (slot : Int) (b : Bays)
    (hb : ¬b.attached) : Triple (bayView (sound H)) (· = b) (addDiskToVm fuel n d fmt c bf slot)
      (fun r b' => r = true → H.Added b.storage n c slot b') fun _ _ => True := by
  obtain ⟨storage, held, attached⟩ := b
  obtain rfl : attached = False := eq_false hb
  rintro _ rfl
  unfold addDiskToVm
  split
  · simp
  split
  · simp
  · simp [Host.Added]
    refine fun machine hmachine session m hm disk _ => ⟨by simp [attachDisk, wp_catchCOM], ?_⟩
    intro ctl hctl hname
    refine (attachDisk_bays fuel ⟨storage, _, False⟩ id m ctl slot _ _).use rfl ?_
      fun _ _ _ => trivial
    rintro (_ | b) ⟨storage', held', attached'⟩ ⟨hr, hbays⟩
    · have hbays := hbays rfl
      rw [hname, ← hm] at hbays
      simp
      refine ⟨machine.vm, hmachine, by omega, by omega, ?_⟩
      -- the disk was attached to a free slot, or the mutable machine was null
      rcases hbays with ⟨ha, hfree, hset⟩ | hnothing
      · exact .inl ⟨ha, by rw [hm]; exact hctl, hfree, _, hset⟩
      · exact .inr hnothing
    · cases b with
      | true => exact (hr rfl).elim
      | false => simp

/-- Everything `detachDiskFromVm` needs is there. -/
def Host.Detachable (H : Host) (st : Storage) (n : String) (slot : Int) : Prop :=
  0 < slot ∧ slot < 5 ∧ ∃ vm, H.machineOf n = some vm ∧ H.controllers vm "SATA" ∧
    (st ⟨vm, "SATA", slot, 0⟩).isSome

/-- **Detaching.** On a host where nothing fails that could succeed, `detachDiskFromVm` empties the
slot of the SATA controller, and succeeds exactly where there is one to empty. -/
theorem detachDiskFromVm_bays (fuel : Nat) (n : String) (slot : Int) (b : Bays) :
    Triple (bayView (works H)) (· = b) (detachDiskFromVm fuel n slot)
      (fun r b' => if r then H.Detachable b.storage n slot ∧ ∃ vm, H.machineOf n = some vm ∧
          b'.storage = b.storage.set ⟨vm, "SATA", slot, 0⟩ none
        else ¬H.Detachable b.storage n slot)
      fun _ _ => ¬H.Detachable b.storage n slot := by
  obtain ⟨storage, held, attached⟩ := b
  rintro _ rfl
  -- what there is to detach is at the controller `SATA`
  have hat {vm : Nat} (hvm : H.machineOf n = some vm) (h : H.Detachable storage n slot) :
      H.controllers vm "SATA" ∧ (storage ⟨vm, "SATA", slot, 0⟩).isSome := by
    obtain ⟨-, -, vm', hvm', hrest⟩ := h
    rw [hvm] at hvm'
    cases hvm'
    exact hrest
  simp [detachDiskFromVm, detachDisk, wp_catchCOM]
  refine ⟨fun hslot h => ?_,
    fun hpos hlt => ⟨fun machine hmachine session m hm => ⟨?_, ?_⟩, ?_⟩⟩
  · have hlow := h.1
    have hhigh := h.2.1
    omega
  · intro ctl hctl hname
    rw [hname, ← hm]
    refine ⟨fun hfull => ⟨⟨hpos, hlt, machine.vm, hmachine, by rw [hm]; exact hctl, hfull⟩,
      machine.vm, hmachine, rfl⟩, fun err hfree => ?_⟩
    -- an empty slot is an error, which is reported
    have hnot : ¬H.Detachable storage n slot := fun h => by
      have hfull := (hat hmachine h).2
      rw [hfree] at hfull
      cases hfull
    exact (reportError_bays _ fuel err).use rfl (fun _ _ _ => hnot) fun _ _ _ => hnot
  · intro hctl h
    rw [← hm] at hctl
    exact hctl (hat hmachine h).1
  · rintro hnone ⟨-, -, vm, hvm, -⟩
    rw [hnone] at hvm
    cases hvm

/-! ## The pair

One execution of each, and what the second detaches is compared with what the first attached. -/

theorem bayView_after (b : Bays) (t : VbTrace) :
    ((bayView ok).after b t).storage = storageAfter b.storage t ∧
      (((bayView ok).after b t).attached ↔ b.attached ∨ ∃ e ∈ t, attaches e.1 e.2) := by
  induction t generalizing b with
  | nil => simp [storageAfter]
  | cons e t ih =>
    rw [View.after_cons]
    refine ⟨(ih _).1, (ih _).2.trans ?_⟩
    simp [or_assoc]

/-- **Detaching undoes attaching** exactly where the controller is `SATA` and the disk was attached.
The first operation succeeded on a host that answers soundly, failing where it likes; the second
one runs on a host where nothing fails that could succeed. -/
theorem detach_undoes_iff {st : Storage} {held : ISession → Option Nat} {n d fmt c bf : String}
    {slot : Int} {r₁ r₂ : OpRun J} (hop₁ : r₁.op = .addDiskToVm n d fmt c bf slot)
    (hop₂ : r₂.op = .detachDiskFromVm n slot)
    (host₁ : (bayView (sound H)).Admits ⟨st, held, False⟩ r₁.trace)
    (host₂ : (bayView (works H)).Admits
      ((bayView (sound H)).after ⟨st, held, False⟩ r₁.trace) r₂.trace)
    (success : r₁.result = .ok (some true)) :
    (r₂.result = .ok (some true) ∧ storageAfter st (r₁.trace ++ r₂.trace) = st) ↔
      c = "SATA" ∧ ∃ e ∈ r₁.trace, attaches e.1 e.2 := by
  have hruns₁ := r₁.runs
  have hruns₂ := r₂.runs
  rw [hop₁, success] at hruns₁
  rw [hop₂] at hruns₂
  have hadd : Triple (bayView (sound H)) (· = ⟨st, held, False⟩)
      (Op.prog J r₁.fuel (.addDiskToVm n d fmt c bf slot))
      (fun r b' => r = some true → H.Added st n c slot b') fun _ _ => True :=
    Triple.map ((addDiskToVm_bays _ n d fmt c bf slot ⟨st, held, False⟩ id).conseq
      (fun _ h => h) (fun _ _ h hr => h (Option.some.inj hr)) fun _ _ h => h)
  obtain ⟨vm, hvm, hpos, hlt, hadded⟩ := hadd.runs rfl hruns₁ host₁ rfl
  obtain ⟨hst₁, hattached⟩ := @bayView_after (sound H) ⟨st, held, False⟩ r₁.trace
  generalize (bayView (sound H)).after ⟨st, held, False⟩ r₁.trace = b₁ at *
  have hdetach : Triple (bayView (works H)) (· = b₁)
      (Op.prog J r₂.fuel (.detachDiskFromVm n slot))
      (fun r b' => (r = some true ∧ H.Detachable b₁.storage n slot ∧
          ∃ vm, H.machineOf n = some vm ∧ b'.storage =
            b₁.storage.set ⟨vm, "SATA", slot, 0⟩ none) ∨
        (r = some false ∧ ¬H.Detachable b₁.storage n slot))
      fun _ _ => ¬H.Detachable b₁.storage n slot := by
    refine Triple.map ((detachDiskFromVm_bays _ n slot b₁).conseq (fun _ h => h)
      (fun r b' h => ?_)
      fun _ _ h => h)
    cases r <;> simpa using h
  have hout := hdetach.runs rfl hruns₂ host₂
  have hst₂ : ((bayView (works H)).after b₁ r₂.trace).storage =
      storageAfter st (r₁.trace ++ r₂.trace) := by
    rw [(bayView_after b₁ r₂.trace).1, hst₁, storageAfter_append]
  have hattached : b₁.attached ↔ ∃ e ∈ r₁.trace, attaches e.1 e.2 :=
    by simpa using hattached
  rw [← hattached]
  constructor
  · rintro ⟨hres, hsame⟩
    rw [hres] at hout
    obtain ⟨-, ⟨-, -, vm', hvm', -, hfull⟩, vm'', hvm'', hempty⟩ | ⟨hfalse, -⟩ := hout
    · obtain rfl : vm = vm' := Option.some.inj (hvm.symm.trans hvm')
      obtain rfl : vm = vm'' := Option.some.inj (hvm.symm.trans hvm'')
      -- afterwards the slot is empty, so that it was before
      have hfree : st ⟨vm, "SATA", slot, 0⟩ = none := by
        rw [← hsame, ← hst₂, hempty, Storage.set_self]
      obtain ⟨ha, -, -, disk, hset⟩ | ⟨-, hset⟩ := hadded
      · refine ⟨Classical.byContradiction fun hc => ?_, ha⟩
        rw [hset, Storage.set_other _ _ (by simp [Ne.symm hc]), hfree] at hfull
        cases hfull
      · rw [hset, hfree] at hfull
        cases hfull
    · cases hfalse
  · rintro ⟨rfl, ha⟩
    obtain ⟨-, hctl, hfree, disk, hset⟩ | ⟨hnot, -⟩ := hadded
    · -- the disk is where the second operation looks for it
      have hready : H.Detachable b₁.storage n slot :=
        ⟨hpos, hlt, vm, hvm, hctl, by rw [hset, Storage.set_self]; rfl⟩
      revert hout
      rcases r₂.result with e | r
      · exact fun hout => (hout hready).elim
      · rintro (⟨rfl, -, vm', hvm', hempty⟩ | ⟨-, hnot⟩)
        · obtain rfl : vm = vm' := Option.some.inj (hvm.symm.trans hvm')
          exact ⟨rfl, by rw [← hst₂, hempty, hset, Storage.set_set_free hfree]⟩
        · exact (hnot hready).elim
    · exact (hnot ha).elim

/-! ## A machine with two controllers -/

/-- One machine, with an IDE and a SATA controller. -/
def twoControllers : Host where
  machineOf n := if n = "vm" then some 0 else none
  controllers _ c := c = "IDE" ∨ c = "SATA"
  nameOf ctl := if ctl.ref = 0 then "IDE" else "SATA"

/-- Its host; every call succeeds. -/
def twoControllersCalm : Oracle vboxSig := fun h a =>
  match a with
  | .ptr (.getStorageControllerByName m c) => .ok (some ⟨m, if c = "SATA" then 1 else 0⟩)
  | .val (.controllerName ctl) => .ok (twoControllers.nameOf ctl)
  | a => calm .PoweredOff h a

/-- A disk is added at slot 1 of a controller. -/
abbrev addRun (c : String) : OpRun .mute :=
  Op.play .mute 0 twoControllersCalm (.addDiskToVm "vm" "disk" "VDI" c "/vm" 1)

/-- The disk at slot 1 is detached. -/
abbrev detachRun : OpRun .mute := Op.play .mute 0 twoControllersCalm (.detachDiskFromVm "vm" 1)

/-- The trace of `addRun` for a controller with the reference `ref`. -/
def addTrace (c : String) (ref : Nat) : VbTrace :=
  [⟨.ptr (.findMachine "vm"), .ok (some ⟨0, .host⟩)⟩,
    ⟨.ptr .session, .ok (some ⟨0⟩)⟩,
    ⟨.cmd (.lockMachine ⟨0, .host⟩ (some ⟨0⟩) .Write), .ok ()⟩,
    ⟨.ptr (.sessionMachine ⟨0⟩), .ok (some ⟨0, .mutable ⟨0⟩⟩)⟩,
    ⟨.ptr (.openMedium "/vm/disk/disk.vdi" .HardDisk .ReadWrite true), .ok (some ⟨0⟩)⟩,
    ⟨.ptr (.getStorageControllerByName ⟨0, .mutable ⟨0⟩⟩ c),
      .ok (some ⟨⟨0, .mutable ⟨0⟩⟩, ref⟩)⟩,
    ⟨.val (.controllerName ⟨⟨0, .mutable ⟨0⟩⟩, ref⟩), .ok c⟩,
    ⟨.cmd (.attachDevice ⟨0, .mutable ⟨0⟩⟩ c 1 0 .HardDisk (some ⟨0⟩)), .ok ()⟩,
    ⟨.val (.controllerName ⟨⟨0, .mutable ⟨0⟩⟩, ref⟩), .ok c⟩,
    ⟨.cmd (.setHotPluggableForDevice ⟨0, .mutable ⟨0⟩⟩ c 1 0 true), .ok ()⟩,
    ⟨.put .callbackdata "/vm/disk/disk.vdi", ()⟩,
    ⟨.cmd (.saveSettings ⟨0, .mutable ⟨0⟩⟩), .ok ()⟩,
    ⟨.cmd (.unlockMachine ⟨0⟩), .ok ()⟩,
    ⟨.release (.machine ⟨0, .host⟩), ()⟩]

theorem addRun_ide : (addRun "IDE").trace = addTrace "IDE" 0 := by rfl

theorem addRun_sata : (addRun "SATA").trace = addTrace "SATA" 1 := by rfl

theorem detachRun_trace : detachRun.trace =
    [⟨.ptr (.findMachine "vm"), .ok (some ⟨0, .host⟩)⟩,
      ⟨.print "find machine!", ()⟩,
      ⟨.ptr .session, .ok (some ⟨0⟩)⟩,
      ⟨.cmd (.lockMachine ⟨0, .host⟩ (some ⟨0⟩) .Shared), .ok ()⟩,
      ⟨.ptr (.sessionMachine ⟨0⟩), .ok (some ⟨0, .mutable ⟨0⟩⟩)⟩,
      ⟨.ptr (.getStorageControllerByName ⟨0, .mutable ⟨0⟩⟩ "SATA"),
        .ok (some ⟨⟨0, .mutable ⟨0⟩⟩, 1⟩)⟩,
      ⟨.val (.controllerName ⟨⟨0, .mutable ⟨0⟩⟩, 1⟩), .ok "SATA"⟩,
      ⟨.cmd (.detachDevice ⟨0, .mutable ⟨0⟩⟩ "SATA" 1 0), .ok ()⟩,
      ⟨.cmd (.saveSettings ⟨0, .mutable ⟨0⟩⟩), .ok ()⟩,
      ⟨.cmd (.unlockMachine ⟨0⟩), .ok ()⟩,
      ⟨.release (.machine ⟨0, .host⟩), ()⟩] := by rfl

/-- Slot 1 of the SATA controller has another disk. -/
def otherDisk : Storage := Storage.set (fun _ => none) ⟨0, "SATA", 1, 0⟩ (some (some ⟨7⟩))

/-- A disk is added to the SATA controller of a machine without disks, and detached. -/
theorem detach_undoes_iff_sata :
    (detachRun.result = .ok (some true) ∧
        storageAfter (fun _ => none) ((addRun "SATA").trace ++ detachRun.trace) = fun _ => none) ↔
      "SATA" = "SATA" ∧ ∃ e ∈ (addRun "SATA").trace, attaches e.1 e.2 := by
  refine @detach_undoes_iff .mute twoControllers _ (fun _ => none) "vm" "disk" "VDI" "SATA" "/vm" 1
    (addRun "SATA") detachRun rfl rfl ?_ ?_ rfl
  · rw [addRun_sata]
    simp [addTrace, twoControllers]
  · rw [addRun_sata, detachRun_trace]
    simp [addTrace, twoControllers]

/-- **The wrong disk.** A disk is added to slot 1 of the IDE controller; detaching slot 1 succeeds,
and takes the other disk from slot 1 of the SATA controller. -/
theorem detach_takes_other_disk :
    ¬∀ (H : Host) (st : Storage) (held : ISession → Option Nat) (n d fmt c bf : String)
      (slot : Int) (r₁ r₂ : OpRun .mute), c ∈ storageBus →
      r₁.op = .addDiskToVm n d fmt c bf slot →
      r₂.op = .detachDiskFromVm n slot →
      (bayView (sound H)).Admits ⟨st, held, False⟩ r₁.trace →
      (bayView (works H)).Admits ((bayView (sound H)).after ⟨st, held, False⟩ r₁.trace)
        r₂.trace →
      r₁.result = .ok (some true) →
      r₂.result = .ok (some true) ∧ storageAfter st (r₁.trace ++ r₂.trace) = st := by
  intro h
  have hlaw := h twoControllers otherDisk (fun _ => none) "vm" "disk" "VDI" "IDE" "/vm" 1
    (addRun "IDE") detachRun (by decide) rfl rfl ?_ ?_ rfl
  · have hslot := congrFun hlaw.2 ⟨0, "SATA", 1, 0⟩
    rw [addRun_ide, detachRun_trace] at hslot
    simp [addTrace, storageAfter, otherDisk] at hslot
  · rw [addRun_ide]
    simp [addTrace, twoControllers, otherDisk, Storage.set]
  · rw [addRun_ide, detachRun_trace]
    simp [addTrace, twoControllers, otherDisk, Storage.set]

end VirtCore
