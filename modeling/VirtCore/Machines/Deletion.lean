import VirtCore.Machines.Calm
import VirtCore.Machines.Creation

/-!
# VirtCore — deleting a machine

`deleteVM` unregisters a powered-off machine and deletes its configuration with a task, in one of
four clean-up modes. It waits for the task and does not ask how it ended.

* **`Steps`** — what of this an execution has done.
* **`Decisive`** — the result says whether all of it was done, and `false` that nothing was.
* **`deletion_decisive_iff`** — exactly when.
-/

namespace VirtCore.Machines


open Interact Keyed QiVCA

variable {J : Jsoncpp} {V : Hypervisor} {h₀ : VBoxHost}

/-! ## The steps of a deletion

The operation calls `unregister` and `deleteConfig` and then waits. The log keeps which of these
have succeeded. -/

/-- The machine was powered off. -/
def seenOff : (a : Act) → a.Ans → Prop
  | .val (.state _), .ok st => st = .PoweredOff
  | _, _ => False

/-- The machine has been unregistered. -/
def unregisters : (a : Act) → a.Ans → Prop
  | .val (.unregister ..), .ok _ => True
  | _, _ => False

/-- Its configuration is deleted, by a task that ends with code 0. -/
def deletesConfig (V : Hypervisor) : (a : Act) → a.Ans → Prop
  | .ptr (.deleteConfig ..), .ok (some p) => V.ending p = 0
  | _, _ => False

/-- The task has been waited for. -/
def waitsFor : (a : Act) → a.Ans → Prop
  | .cmd (.waitForCompletion ..), .ok _ => True
  | _, _ => False

structure Steps where
  off : Prop
  unregistered : Prop
  deleted : Prop
  waited : Prop

def Steps.start : Steps := ⟨False, False, False, False⟩

def stepsNext (V : Hypervisor) (l : Steps) (a : Act) (x : a.Ans) : Steps where
  off := l.off ∨ seenOff a x
  unregistered := l.unregistered ∨ unregisters a x
  deleted := l.deleted ∨ deletesConfig V a x
  waited := l.waited ∨ waitsFor a x

def stepsView (V : Hypervisor) : View vboxSig Steps where
  next := stepsNext V
  ok _ _ _ := True

@[simp] theorem stepsView_next : (stepsView V).next = stepsNext V := rfl

@[simp] theorem stepsView_ok (l : Steps) (a : Act) (x : a.Ans) :
    (stepsView V).ok l a x = True := rfl

theorem stepsView_admits (l : Steps) (t : VbTrace) : (stepsView V).Admits l t := by
  induction t generalizing l with
  | nil => trivial
  | cons e t ih => exact ⟨trivial, ih _⟩

theorem steps_after (V : Hypervisor) (t : VbTrace) :
    (((stepsView V).after .start t).off ↔ ∃ e ∈ t, seenOff e.1 e.2) ∧
      (((stepsView V).after .start t).unregistered ↔ ∃ e ∈ t, unregisters e.1 e.2) ∧
      (((stepsView V).after .start t).deleted ↔ ∃ e ∈ t, deletesConfig V e.1 e.2) ∧
      (((stepsView V).after .start t).waited ↔ ∃ e ∈ t, waitsFor e.1 e.2) := by
  have hoff := View.after_remembers (v := stepsView V) (F := Steps.off)
    (fun _ _ _ => Iff.rfl) .start t
  have hunregistered := View.after_remembers (v := stepsView V) (F := Steps.unregistered)
    (fun _ _ _ => Iff.rfl) .start t
  have hdeleted := View.after_remembers (v := stepsView V) (F := Steps.deleted)
    (fun _ _ _ => Iff.rfl) .start t
  have hwaited := View.after_remembers (v := stepsView V) (F := Steps.waited)
    (fun _ _ _ => Iff.rfl) .start t
  simp only [Steps.start, false_or] at hoff hunregistered hdeleted hwaited
  exact ⟨hoff, hunregistered, hdeleted, hwaited⟩

attribute [simp] stepsNext seenOff unregisters deletesConfig waitsFor

/-- The result is `true` if and only if the machine was powered off, the clean-up mode is known,
and the machine has been unregistered and its configuration deleted; where it is `false` nothing
has changed. -/
structure Decisive (V : Hypervisor) (h₀ : VBoxHost) (_type : Int) (r : OpRun J) : Prop where
  success : r.result = .ok (some true) ↔ (∃ e ∈ r.trace, seenOff e.1 e.2) ∧
    (1 ≤ _type ∧ _type ≤ 4) ∧ (∃ e ∈ r.trace, unregisters e.1 e.2) ∧
      ∃ e ∈ r.trace, deletesConfig V e.1 e.2
  failure : r.result = .ok (some false) → (hostView V).after h₀ r.trace = h₀

theorem cleanupMode_isSome (_type : Int) :
    (cleanupMode _type).isSome ↔ 1 ≤ _type ∧ _type ≤ 4 := by
  unfold cleanupMode
  repeat' split
  all_goals
    simp
    omega

/-- A deletion that ends with an exit: the task has not been waited for. -/
structure Broken (known : Prop) (l : Steps) : Prop where
  known : l.off → known
  deleted : l.deleted → l.off ∧ l.unregistered
  waited : ¬l.waited

/-- How an execution of `deleteVM` returns. -/
inductive Returned (known : Prop) : Bool → Steps → Prop where
  /-- The machine is not powered off. -/
  | refused {off : Prop} (hoff : ¬off) : Returned known false ⟨off, False, False, False⟩
  /-- The clean-up mode is not known. -/
  | unknown {off : Prop} (hoff : off) (hno : ¬known) :
    Returned known true ⟨off, False, False, False⟩
  /-- The task has been waited for. -/
  | waited {off deleted : Prop} (hoff : off) (hk : known) :
    Returned known true ⟨off, True, deleted, True⟩

theorem stepsNext_reporting {a : Act} (ha : Reporting a) (l : Steps) (x : a.Ans) :
    stepsNext V l a x = l := by
  cases a with
  | cmd c => exact ha.elim
  | ptr c => cases c <;> first | exact ha.elim | (rcases x with _ | _ | _ <;> simp)
  | val c => cases c <;> first | exact ha.elim | (rcases x with _ | _ <;> simp)
  | _ => simp

theorem deleteVM_returns (fuel : Nat) (n : String) (_type : Int) :
    Triple (stepsView V) (· = .start) (deleteVM fuel n _type)
      (Returned (cleanupMode _type).isSome) fun _ => Broken (cleanupMode _type).isSome := by
  refine triple_catchReport (I := Broken (cleanupMode _type).isSome)
    (D := fun _ => Broken (cleanupMode _type).isSome) (fun l a x ha hl _ => ?_)
    (fun _ _ h => h) (fun _ _ h => h.elim id id) ?_ fun _ _ => Triple.exit fun _ h => h
  · rw [stepsView_next, stepsNext_reporting ha]
    exact hl
  · rintro _ rfl
    have hstart (known : Prop) : Broken known ⟨False, False, False, False⟩ :=
      ⟨False.elim, False.elim, id⟩
    cases hmode : cleanupMode _type with
    | none =>
      simp [Steps.start]
      -- an unknown type falls through to the end of the operation
      exact ⟨hstart _, fun m => ⟨fun st => ⟨fun hoff => .unknown hoff id, .refused⟩,
        hstart _⟩, hstart _⟩
    | some mode =>
      -- a known type goes as far as the answers do
      have hbroken {off unregistered deleted : Prop} (h : deleted → off ∧ unregistered) :
          Broken True ⟨off, unregistered, deleted, False⟩ := ⟨fun _ => trivial, h, id⟩
      simp [Steps.start]
      refine ⟨hstart _, fun m =>
        ⟨fun st => ⟨fun hoff => ⟨fun media => ?_, ?_⟩, .refused⟩, ?_⟩, ?_⟩
      · refine ⟨hbroken False.elim, fun p => ⟨.waited hoff trivial, ?_⟩, ?_⟩
        · exact hbroken fun _ => ⟨hoff, trivial⟩
        · exact hbroken False.elim
      · exact hbroken False.elim
      · exact hstart _
      · exact hstart _

/-- Where `deleteVM` returns `false` it has changed nothing. -/
theorem deleteVM_false (fuel : Nat) (n : String) (_type : Int) :
    Triple (hostView V) (· = h₀) (deleteVM fuel n _type) (fun b h => b = false → h = h₀)
      fun _ _ => True := by
  refine triple_catchReport (I := fun _ => True) (D := fun _ _ => True)
    (fun _ _ _ _ _ _ => trivial) (fun _ _ _ => trivial) (fun _ _ _ => trivial) ?_
    fun _ _ => Triple.exit fun _ _ => trivial
  rintro _ rfl
  cases hmode : cleanupMode _type <;> simp [hostNext, PtrCall.effect, PtrCall.setting]

/-- **Exactly when a deletion is decisive.** -/
theorem deletion_decisive_iff {r : OpRun J} {n : String} {_type : Int}
    (hop : r.op = .deleteVM n _type) (hadmits : (hostView V).Admits h₀ r.trace) :
    Decisive V h₀ _type r ↔
      ((∃ e ∈ r.trace, seenOff e.1 e.2) → 1 ≤ _type ∧ _type ≤ 4) ∧
        ((∃ e ∈ r.trace, deletesConfig V e.1 e.2) ↔ ∃ e ∈ r.trace, waitsFor e.1 e.2) := by
  -- a failure leaves everything as it was, so that only success is left to compare
  have hfailure : r.result = .ok (some false) → (hostView V).after h₀ r.trace = h₀ := by
    intro hfalse
    have hout := (triple_some (deleteVM_false r.fuel n _type)).runs rfl (r.runs_of hop) hadmits
    rw [hfalse] at hout
    obtain ⟨b, hb, hsame⟩ := hout
    exact hsame (Option.some.inj hb).symm
  obtain ⟨hoff, hunregistered, hdeleted, hwaited⟩ := steps_after V r.trace
  have hout := (triple_some (deleteVM_returns (V := V) r.fuel n _type)).runs rfl (r.runs_of hop)
    (stepsView_admits _ _)
  have hdecisive : Decisive V h₀ _type r ↔ (r.result = .ok (some true) ↔
      (∃ e ∈ r.trace, seenOff e.1 e.2) ∧ (1 ≤ _type ∧ _type ≤ 4) ∧
        (∃ e ∈ r.trace, unregisters e.1 e.2) ∧ ∃ e ∈ r.trace, deletesConfig V e.1 e.2) :=
    ⟨fun h => h.success, fun h => ⟨h, hfailure⟩⟩
  rw [hdecisive, ← hoff, ← hunregistered, ← hdeleted, ← hwaited, ← cleanupMode_isSome]
  generalize (stepsView V).after .start r.trace = l at hout
  generalize r.result = result at hout
  rcases result with e | b
  · -- an abnormal end is no success, and is none of what success asks for
    have hbroken : Broken (cleanupMode _type).isSome l := hout
    refine ⟨fun h => ⟨hbroken.known, fun hd => ?_, fun hw => absurd hw hbroken.waited⟩,
      fun h => ?_⟩
    · obtain ⟨ho, hu⟩ := hbroken.deleted hd
      exact absurd (h.mpr ⟨ho, hbroken.known ho, hu, hd⟩) nofun
    · exact ⟨nofun, fun hall => absurd (h.2.mp hall.2.2.2) hbroken.waited⟩
  · obtain ⟨b, rfl, hreturned⟩ := hout
    -- the three ways to return: refused in its state, an unknown type, and after waiting
    cases hreturned with
    | refused hno => simp [hno]
    | unknown hoff hno => simp [hoff, hno]
    | waited hoff hk => simp [hoff, hk]

/-- Machine 0 is powered off, and every call on it succeeds. -/
abbrev deleteRun (_type : Int) : OpRun .mute :=
  (Op.deleteVM "vm" _type).play .mute 1 (calm .PoweredOff)

theorem deleteRun_full : (deleteRun 4).trace =
    [⟨.ptr (.findMachine "vm"), .ok (some ⟨0, .host⟩)⟩,
      ⟨.val (.state ⟨0, .host⟩), .ok .PoweredOff⟩,
      ⟨.val (.unregister ⟨0, .host⟩ .Full), .ok []⟩,
      ⟨.ptr (.deleteConfig ⟨0, .host⟩ []), .ok (some ⟨0⟩)⟩,
      ⟨.cmd (.waitForCompletion ⟨0⟩ (-1)), .ok ()⟩,
      ⟨.release (.machine ⟨0, .host⟩), ()⟩] := rfl

theorem deleteRun_admits (V : Hypervisor) : (hostView V).Admits oneMachine (deleteRun 4).trace := by
  rw [deleteRun_full]
  simp [hostOk, PtrCall.answers, Cmd.setting, oneMachine]

theorem deletion_decisive_iff_full : Decisive plain oneMachine 4 (deleteRun 4) := by
  refine (deletion_decisive_iff rfl (deleteRun_admits plain)).mpr ⟨fun _ => by decide, ?_⟩
  rw [deleteRun_full]
  simp [plain]

/-- The task ends with `E_FAIL`, or the clean-up mode is not known: the operation returns `true`. -/
theorem deletion_indecisive :
    (deleteRun 4).result = .ok (some true) ∧ (deleteRun 9).result = .ok (some true) ∧
    (hostView { plain with ending := fun _ => -2147467259 }).Admits oneMachine
      (deleteRun 4).trace ∧
    (hostView plain).Admits oneMachine (deleteRun 9).trace ∧
    ¬Decisive { plain with ending := fun _ => -2147467259 } oneMachine 4 (deleteRun 4) ∧
    ¬Decisive plain oneMachine 9 (deleteRun 9) := by
  have hunknown : (deleteRun 9).trace =
      [⟨.ptr (.findMachine "vm"), .ok (some ⟨0, .host⟩)⟩,
        ⟨.val (.state ⟨0, .host⟩), .ok .PoweredOff⟩,
        ⟨.put .callbackdata "delete type is err!", ()⟩,
        ⟨.release (.machine ⟨0, .host⟩), ()⟩] := rfl
  refine ⟨rfl, rfl, deleteRun_admits _, ?_, fun h => ?_, fun h => ?_⟩
  · rw [hunknown]
    simp [hostOk, PtrCall.answers, oneMachine]
  · obtain ⟨-, -, -, hdeleted⟩ := h.success.mp rfl
    rw [deleteRun_full] at hdeleted
    simp at hdeleted
  · obtain ⟨-, hknown, -⟩ := h.success.mp rfl
    exact absurd hknown (by decide)

end VirtCore.Machines
