import VirtCore.Guards.Configure
import VirtCore.Guards.Core
import VirtCore.Operation
import VirtCore.VBox.Calm

/-!
# VirtCore — the states in which requests act

* **`Op.guard`** — the states that the `switch` of each operation admits.
* **`op_heeds`** — every operation acts only on the state it read last.
* **`requests`** — any number of requests for the machine `vm`, side by side: each call is one
  step, and nothing orders the steps of two requests.
* **`guards_hold`** — in every run in which no step takes the machine out of the states that the
  pending actions need, every action is taken in a state that its `switch` admits.
* **`setCPUCount_running`** — it is not so in every run: a machine that is started between the
  check of `resetCpuCount` and its setter is running when its processors are set.
-/

namespace VirtCore


open Interact Transition

/-- The guard of an operation: the states that its `switch` acts in. -/
def Op.guard : Op → Guard vboxSig MachineState
  | .startUp .. => switch [.PoweredOff, .Aborted, .Saved]
  | .shutDown _ | .restart _ | .takeSnapshot .. | .getRdpInfo _ => switch [.Running]
  | .powerOff _ => QiVCA.powerOffGuard
  | .pause _ => switch [.Running, .Starting, .Stopping]
  | .resume _ => switch [.Paused]
  | .vmSleep _ => switch [.Running, .Paused]
  | .restoreSnapshot .. => QiVCA.restoreGuard
  | .deleteSnapshot .. => switch [.PoweredOff, .Running, .Saved]
  | .cloneFullVM .. | .cloneLinkVM .. => switch [.PoweredOff, .Saved]
  | .deleteVM .. | .addBridge .. | .addNat .. | .setAdaptorMAC .. | .disableAdaptor ..
  | .setSimpleRemoteDisplay .. | .resetCpuCount .. | .resetMemSize .. | .resetGraphics ..
  | .setRecordingScreenConfig .. => switch [.PoweredOff]
  | .switchRecordingScreen .. => switch VcaVmConfigure.switchRecordingStates
  | _ => noSwitch

theorem op_heeds (J : Jsoncpp) (vm fuel : Nat) (op : Op) :
    Heeds (stateOf vm) op.guard (op.prog J fuel) := by
  have hsome {G : Guard vboxSig MachineState} {p : Vb Bool} (h : Heeds (stateOf vm) G p) :
      Heeds (stateOf vm) G (some <$> p) :=
    Triple.map h
  cases op
  case startUp n ui =>
    exact (QiVCA.startUp_heeds fuel n ui).bind fun _ => Triple.ret fun _ hs => hs
  case shutDown n => exact hsome (QiVCA.shutDown_heeds n)
  case powerOff n => exact hsome (QiVCA.powerOff_heeds n)
  case pause n => exact hsome (QiVCA.pause_heeds n)
  case resume n => exact hsome (QiVCA.resume_heeds n)
  case vmSleep n => exact hsome (QiVCA.vmSleep_heeds n)
  case restart n => exact hsome (QiVCA.restart_heeds n)
  case takeSnapshot => exact hsome (QiVCA.takeSnapshot_heeds _ _)
  case restoreSnapshot => exact hsome (QiVCA.restoreSnapshot_heeds _ _ _)
  case deleteSnapshot => exact hsome (QiVCA.deleteSnapshot_heeds _ _)
  case cloneFullVM => exact hsome (QiVCA.cloneFullVM_heeds _ _ _ _ _ _ _)
  case cloneLinkVM => exact hsome (QiVCA.cloneLinkVM_heeds _ _ _ _)
  case deleteVM => exact hsome (QiVCA.deleteVM_heeds _ _ _)
  case addBridge => exact hsome (VcaVmConfigure.addBridge_heeds _ _ _)
  case addNat => exact hsome (VcaVmConfigure.addNat_heeds _ _ _)
  case setAdaptorMAC => exact hsome (VcaVmConfigure.setAdaptorMAC_heeds _ _ _ _)
  case disableAdaptor => exact hsome (VcaVmConfigure.disableAdaptor_heeds _ _ _)
  case setSimpleRemoteDisplay =>
    exact hsome (VcaVmConfigure.setSimpleRemoteDisplay_heeds _ _ _ _ _ _)
  case getRdpInfo n => exact hsome (VcaVmConfigure.getRdpInfo_heeds J fuel n)
  case resetCpuCount => exact hsome (VcaVmConfigure.resetLimit_heeds _ _ _ _ _)
  case resetMemSize => exact hsome (VcaVmConfigure.resetLimit_heeds _ _ _ _ _)
  case resetGraphics => exact hsome (VcaVmConfigure.resetGraphics_heeds _ _ _ _ _ _)
  case setRecordingScreenConfig =>
    exact hsome (VcaVmConfigure.setRecordingScreenConfig_heeds _ _ _ _ _ _ _ _ _ _)
  case switchRecordingScreen =>
    exact hsome (VcaVmConfigure.switchRecordingScreen_heeds _ _ _ _)
  -- the others have no guard
  all_goals exact heeds_noSwitch _

section

variable {ι : Type}

/-- The state of the machine, and what is left of each request. -/
abbrev Requests (ι : Type) : Type := Room vboxSig Exit (Option Bool) MachineState ι

/-- Requests for the machine `vm`, executed side by side. -/
def requests (J : Jsoncpp) (vm : Nat) (op : ι → Op) (fuel : ι → Nat) :
    System (Requests ι) (ι × Requests ι) :=
  room (stateOf vm) fun i => (op i).prog J (fuel i)

/-- A step that leaves the machine in its state, or in one that suits every action that some
request has checked for and not yet taken. -/
def Undisturbed (vm : Nat) (op : ι → Op) : Requests ι → ι × Requests ι → Prop :=
  Suits (stateOf vm) fun i => (op i).guard

/-- **Actions are taken in states that admit them**, where no step disturbs a pending one. -/
theorem guards_hold (J : Jsoncpp) (vm : Nat) (op : ι → Op) (fuel : ι → Nat) {s : Requests ι}
    (hs : Reachable ((requests J vm op fuel).restrict (Undisturbed vm op)) s) {i : ι} {a : Act}
    {k : a.Ans → Vb (Option Bool)} (hrest : s.rest i = .call a k) (hacts : (op i).guard.acts a) :
    (op i).guard.admits a s.state :=
  room_heeds (fun i => op_heeds J vm (fuel i) (op i)) hs hrest hacts

end

/-! ## A machine that is started in between

Two requests at once: one has asked for the state and goes on to write after the other has started
the machine. -/

/-- One request sets the number of processors, the other starts the machine. -/
def setAndStart : Bool → Op
  | false => .resetCpuCount "vm" 2
  | true => .startUp "vm" "headless"

/-- Both, before their first call, on a powered-off machine. -/
def bothReceived : Requests Bool :=
  ⟨.PoweredOff, fun i => (setAndStart i).prog .mute 0⟩

theorem calm_finds (st : MachineState) (a : Act) : findsOnly 0 a (calm st [] a) := by
  cases a with
  | ptr c => cases c <;> first | rfl | trivial
  | _ => trivial

theorem calm_tells (st : MachineState) (a : Act) {st' : MachineState}
    (h : stateRead 0 a (calm st [] a) = some st') : st' = st := by
  unfold stateRead at h
  split at h
  · next m st'' hanswer =>
    obtain rfl : st = st'' := by simpa [calm, ValCall.sample] using hanswer
    split at h
    · exact (Option.some.inj h).symm
    · cases h
  · cases h

/-- The next call of a request succeeds. -/
theorem calm_call {C : Requests Bool → Bool × Requests Bool → Prop} {s : Requests Bool}
    (hs : Reachable ((requests .mute 0 setAndStart fun _ => 0).restrict C) s) (i : Bool)
    {a : Act} {k : a.Ans → Vb (Option Bool)} (before : s.rest i = .call a k)
    (state' : MachineState)
    (hC : C s (i, ⟨state', fun j => if j = i then k (calm s.state [] a) else s.rest j⟩)) :
    Reachable ((requests .mute 0 setAndStart fun _ => 0).restrict C)
      ⟨state', fun j => if j = i then k (calm s.state [] a) else s.rest j⟩ :=
  room_call hs before (calm s.state [] a) state' (calm_finds _ a) (fun _ => calm_tells _ a) hC

/-- **The check is out of date.** The machine is started after its state was read and before the
session is opened; the number of processors is set of a running machine. -/
theorem setCPUCount_running :
    ¬∀ (op : Bool → Op) (s : Requests Bool), Reachable (requests .mute 0 op fun _ => 0) s →
      ∀ i a k, s.rest i = .call a k → (op i).guard.acts a →
        (op i).guard.admits a s.state := by
  intro hclaim
  have h₀ : Reachable ((requests .mute 0 setAndStart fun _ => 0).restrict fun _ _ => True)
      bothReceived := .start rfl
  have h₁ := calm_call h₀ false rfl .PoweredOff trivial
  have h₂ := calm_call h₁ false rfl .PoweredOff trivial
  have h₃ := calm_call h₂ true rfl .PoweredOff trivial
  have h₄ := calm_call h₃ true rfl .PoweredOff trivial
  have h₅ := calm_call h₄ true rfl .PoweredOff trivial
  have h₆ := calm_call h₅ true rfl .Running trivial
  have h₇ := calm_call h₆ false rfl .Running trivial
  have h₈ := calm_call h₇ false rfl .Running trivial
  have h₉ := calm_call h₈ false rfl .Running trivial
  have hadmits : MachineState.Running ∈ [MachineState.PoweredOff] :=
    hclaim setAndStart _ h₉.of_restrict false (.cmd (.setCPUCount ⟨0, .mutable ⟨0⟩⟩ 2))
      _ rfl rfl
  exact absurd hadmits (by decide)

/-- A request that nothing disturbs sets the number of processors of a powered-off machine. -/
theorem guards_hold_alone : ∃ s : Requests Bool,
    (∃ k, s.rest false = .call (.cmd (.setCPUCount ⟨0, .mutable ⟨0⟩⟩ 2)) k) ∧
      s.state ∈ [MachineState.PoweredOff] := by
  have h₀ : Reachable ((requests .mute 0 setAndStart fun _ => 0).restrict
      (Undisturbed 0 setAndStart)) bothReceived := .start rfl
  have h₁ := calm_call h₀ false rfl .PoweredOff (.inl rfl)
  have h₂ := calm_call h₁ false rfl .PoweredOff (.inl rfl)
  have h₃ := calm_call h₂ false rfl .PoweredOff (.inl rfl)
  have h₄ := calm_call h₃ false rfl .PoweredOff (.inl rfl)
  have h₅ := calm_call h₄ false rfl .PoweredOff (.inl rfl)
  exact ⟨_, ⟨_, rfl⟩, guards_hold .mute 0 setAndStart (fun _ => 0) h₅
    (i := false) rfl rfl⟩

end VirtCore
