import VirtCore.Interact.Guard
import VirtCore.Machines.Settings
import VirtCore.VBox.Only

/-!
# VirtCore — an operation looks at the state before it acts

* **`stateOf`** — the probe: `state()` of the machine `vm` tells its state, and a machine that is
  looked up is that machine.
* **`Acting`** — the calls that the operations make depend on the state.
* **`switch`** — the guard of an operation whose `switch` acts in the given states only.
* **`heeds_find`**, **`heeds_switch`**, **`heeds_bind`** — the rules by which the operations are
  walked through: nothing is done before the state is read, the branch of the `switch` that acts
  does not look again, and the other one does not act.
-/

namespace VirtCore


open Interact

/-- The state a `state()` call told of the machine `vm`. -/
def stateRead (vm : Nat) : (a : Act) → a.Ans → Option MachineState
  | .val (.state m), .ok st => if m.vm = vm then some st else none
  | _, _ => none

/-- A machine that is looked up is `vm`. -/
def findsOnly (vm : Nat) : (a : Act) → a.Ans → Prop
  | .ptr (.findMachine _), .ok (some m) => m.vm = vm
  | _, _ => True

/-- What the answers tell of the machine `vm`. -/
def stateOf (vm : Nat) : Probe vboxSig MachineState where
  reads := stateRead vm
  kind := findsOnly vm
  answers a := by
    cases a with
    | cmd c => exact ⟨.ok (), trivial⟩
    | ptr c => exact ⟨.ok none, by cases c <;> trivial⟩
    | val c => exact ⟨.error ⟨0⟩, trivial⟩
    | currentError => exact ⟨none, trivial⟩
    | time => exact ⟨0, trivial⟩
    | put x value => exact ⟨(), trivial⟩
    | putData value => exact ⟨(), trivial⟩
    | print s => exact ⟨(), trivial⟩
    | release o => exact ⟨(), trivial⟩

/-- The calls that are made to depend on the state: what is done to a running machine, its
snapshots, its clones, its removal, and every setter. -/
def Acting : Act → Prop
  | .cmd (.powerButton _) | .cmd (.pause _) | .cmd (.resume _) | .cmd (.reset _) => True
  | .cmd c => c.setting.isSome
  | .ptr (.launchVMProcess ..) | .ptr (.powerDown _) | .ptr (.saveState _) => True
  | .ptr (.takeSnapshot ..) | .ptr (.restoreSnapshot ..) | .ptr (.deleteSnapshot ..) => True
  | .ptr (.cloneTo ..) | .ptr (.deleteConfig ..) => True
  | .val (.unregister ..) => True
  | _ => False

/-- The calls that read a state. -/
def Looks : Act → Prop
  | .val (.state _) => True
  | _ => False

attribute [simp] Acting Looks

/-- An error report does not act. -/
theorem reporting_not_acting (a : Act) (ha : Reporting a) : ¬Acting a := by
  unfold Reporting at ha
  split at ha <;> first | exact ha.elim | exact id

/-- The guard of an operation that acts in the given states. -/
def switch (states : List MachineState) : Guard vboxSig MachineState where
  acts := Acting
  admits _ st := st ∈ states

/-- The guard of an operation that asks for no state. -/
def noSwitch : Guard vboxSig MachineState where
  acts _ := False
  admits _ _ := True

variable {α β : Type} {vm : Nat} {G : Guard vboxSig MachineState}

/-- A program that makes none of the calls that depend on the state. -/
theorem heeds_of_only (hG : ∀ a, G.acts a → Acting a) {p : Vb α}
    (h : Only (fun a => ¬Acting a) p) : Heeds (stateOf vm) G p :=
  heeds_of_quiet fun _ _ hr e he ha => h.runs hr e he (hG e.1 ha)

/-- A program of an operation that asks for no state. -/
theorem heeds_noSwitch (p : Vb α) : Heeds (stateOf vm) noSwitch p :=
  heeds_of_quiet fun _ _ _ _ _ => id

/-- Only `state()` tells a state. -/
theorem stateRead_none {a : Act} (h : ¬Looks a) (x : a.Ans) : stateRead vm a x = none := by
  unfold stateRead
  split
  · exact absurd trivial h
  · rfl

/-- A program that does not look again, and whose acting calls the state it was told admits. -/
theorem told_of_only (hG : ∀ a, G.acts a → Acting a) {st : MachineState} {p : Vb α}
    (h : Only (fun a => ¬Looks a ∧ (Acting a → G.admits a st)) p) :
    HeedsTold (stateOf vm) G st p := by
  refine heeds_of_admitted fun _ _ hr e he => ?_
  obtain ⟨hlook, hadmits⟩ := h.runs hr e he
  exact ⟨stateRead_none hlook e.2, fun ha => hadmits (hG e.1 ha)⟩

/-! ## Rules for the operations

An operation asks for its machine, then for the state, and then acts, mostly under a `try`. There
is a rule for each of these. -/

section

variable (hG : ∀ a, G.acts a → Acting a)

include hG

/-- What comes before the state is read does not act. -/
theorem heeds_bind {p : Vb α} {f : α → Vb β} (hp : Only (fun a => ¬Acting a) p)
    (hf : ∀ x, Heeds (stateOf vm) G (f x)) : Heeds (stateOf vm) G (p >>= f) :=
  (heeds_of_only hG hp).bind hf

/-- The machine that is looked up is `vm`. -/
theorem heeds_find {n : String} {k : COMPtr IMachine → Vb α}
    (hnone : Only (fun a => ¬Acting a) (k none))
    (hsome : ∀ m, m.vm = vm → Heeds (stateOf vm) G (k (some m))) :
    Heeds (stateOf vm) G (ptr (.findMachine n) >>= k) := by
  intro s hs
  rw [wp_bind, wp_ptr]
  refine ⟨fun _ => heeds_of_only hG hnone _ ⟨hs, ?_⟩, fun m hm => hsome m hm _ ⟨hs, ?_⟩,
    fun err _ => ⟨hs, ?_⟩⟩
  all_goals exact fun ha => (hG _ ha).elim

/-- The state of the machine is read. -/
theorem heeds_state {m : IMachine} (hm : m.vm = vm) {k : MachineState → Vb α}
    (hk : ∀ st, HeedsTold (stateOf vm) G st (k st)) :
    Heeds (stateOf vm) G (val (.state m) >>= k) := by
  intro s hs
  rw [wp_bind, wp_val]
  have hnot : ¬G.acts (.val (.state m)) := fun ha => hG _ ha
  refine ⟨fun st _ => hk st _ ⟨?_, hs, fun ha => absurd ha hnot⟩,
    fun err _ => ⟨hs, fun ha => absurd ha hnot⟩⟩
  show (stateRead vm (.val (.state m)) (.ok st)).or _ = _
  simp [stateRead, hm]

/-- A `try` around the whole body of an operation. -/
theorem heeds_tryReport {fuel : Nat} {body : Vb Bool} (h : Heeds (stateOf vm) G body) :
    Heeds (stateOf vm) G (tryReport fuel body) := by
  have hquiet (a : Act) (ha : Reporting a) : ¬G.acts a :=
    fun hacts => reporting_not_acting a ha (hG a hacts)
  refine triple_catchReport (v := checkView (stateOf vm) G) (I := fun s => s.2)
    (fun s a x ha hs _ => ?_) (fun _ _ hs => hs) (fun _ _ hs => hs.elim id id) h
    fun _ _ => Triple.exit fun _ hs => hs
  exact ⟨hs, fun hacts => absurd hacts (hquiet a ha)⟩

end

/-- The machine is asked for its state, and the operation acts in the states listed only. -/
theorem heeds_switch {states : List MachineState} {m : IMachine} (hm : m.vm = vm)
    {acts refuses : Vb α}
    (hacts : Only (fun a => ¬Looks a) acts) (hrefuses : Only (fun a => ¬Acting a) refuses) :
    Heeds (stateOf vm) (switch states)
      (val (.state m) >>= fun st => if st ∈ states then acts else refuses) := by
  refine heeds_state (fun _ => id) hm fun st => ?_
  split
  · exact told_of_only (fun _ => id)
      (hacts.mono fun _ ha => ⟨ha, fun _ => ‹st ∈ states›⟩)
  · exact (heeds_of_only (fun _ => id) hrefuses).told st

end VirtCore
