import VirtCore.Guards.View
import VirtCore.Configure.Network
import VirtCore.Configure.Remote
import VirtCore.Configure.Settings

/-!
# VirtCore — the guards of the operations of `vcaVmConfigure`
-/

namespace VirtCore.VcaVmConfigure


open Interact

variable {vm : Nat}

/-! ## Network adapters

Four of the six operations ask for a powered-off machine. `setBridge` and `setNat` ask for no
state, so that there is no guard to be heeded. -/

/-- The frame: whatever is written, it is written behind the guard, and nothing looks at a state
again. -/
theorem poweredOff_heeds {change : INetworkAdapter → Vb Unit}
    (hchange : ∀ adapter, Only (fun a => ¬Looks a) (change adapter)) (n : String) (slot : Int) :
    Heeds (stateOf vm) (switch [.PoweredOff]) (poweredOff change n slot) := by
  unfold poweredOff
  split
  · exact heeds_of_only (fun _ => id) (only_of (by simp))
  refine heeds_find (fun _ => id) (only_of (by simp)) fun m hm => ?_
  refine heeds_switch hm (only_of ?_) (only_of (by simp))
  simp [changeAdapter]
  exact fun _ _ adapter => (hchange adapter).seq (by simp) (by simp)

/-- `addBridge` asks for a powered-off machine. -/
theorem addBridge_heeds (n : String) (slot : Int) (pci : String) :
    Heeds (stateOf vm) (switch [.PoweredOff]) (addBridge n slot pci) :=
  poweredOff_heeds (fun _ => only_of (by simp [bridge])) n slot

/-- `addNat` does. -/
theorem addNat_heeds (fuel : Nat) (n : String) (slot : Int) :
    Heeds (stateOf vm) (switch [.PoweredOff]) (addNat fuel n slot) :=
  heeds_tryReport (fun _ => id) (poweredOff_heeds (fun _ => only_of (by simp [nat])) n slot)

/-- `setAdaptorMAC` does. -/
theorem setAdaptorMAC_heeds (fuel : Nat) (n : String) (slot : Int) (mac : String) :
    Heeds (stateOf vm) (switch [.PoweredOff]) (setAdaptorMAC fuel n slot mac) :=
  heeds_tryReport (fun _ => id) (poweredOff_heeds (fun _ => only_of (by simp [setMAC])) n slot)

/-- `disableAdaptor` does. -/
theorem disableAdaptor_heeds (fuel : Nat) (n : String) (slot : Int) :
    Heeds (stateOf vm) (switch [.PoweredOff]) (disableAdaptor fuel n slot) :=
  heeds_tryReport (fun _ => id) (poweredOff_heeds (fun _ => only_of (by simp [disable])) n slot)

/-! ## Remote display -/

/-- `setSimpleRemoteDisplay` asks for a powered-off machine. -/
theorem setSimpleRemoteDisplay_heeds (fuel : Nat) (n ip : String) (port : Int)
    (multi single : Bool) :
    Heeds (stateOf vm) (switch [.PoweredOff])
      (setSimpleRemoteDisplay fuel n ip port multi single) := by
  refine heeds_tryReport (fun _ => id) ?_
  refine heeds_find (fun _ => id) (only_of (by simp)) fun m hm => ?_
  exact heeds_switch hm (only_of (by simp [configureVRDE])) (only_of (by simp))

/-- `getRdpInfo` asks for a running one, and locks no other. -/
theorem getRdpInfo_heeds (J : Jsoncpp) (fuel : Nat) (n : String) :
    Heeds (stateOf vm) (switch [.Running]) (getRdpInfo J fuel n) := by
  refine heeds_tryReport (fun _ => id) ?_
  refine heeds_find (fun _ => id) (only_of (by simp)) fun m hm => ?_
  exact heeds_switch hm (only_of (by simp [readVRDE])) (only_of (by simp))

/-! ## Processors, memory, graphics and recording

These look at their arguments first, which acts on nothing, and then at the machine. -/

/-- `resetCpuCount` and `resetMemSize` ask for a powered-off machine. -/
theorem resetLimit_heeds (fuel : Nat) (inRange : Bool) (outOfRange : String)
    (set : IMachine → Cmd) (n : String) :
    Heeds (stateOf vm) (switch [.PoweredOff]) (resetLimit fuel inRange outOfRange set n) := by
  refine heeds_tryReport (fun _ => id) ?_
  split
  · exact heeds_of_only (fun _ => id) (only_of (by simp))
  refine heeds_find (fun _ => id) (only_of (by simp)) fun m hm => ?_
  exact heeds_switch hm (only_of (by simp)) (only_of (by simp))

/-- `resetGraphics` does. -/
theorem resetGraphics_heeds (fuel : Nat) (n : String) (ram mon : Int) (card : String)
    (en : Bool) :
    Heeds (stateOf vm) (switch [.PoweredOff]) (resetGraphics fuel n ram mon card en) := by
  refine heeds_tryReport (fun _ => id) ?_
  split
  · exact heeds_of_only (fun _ => id) (only_of (by simp))
  dsimp only
  split
  · exact heeds_of_only (fun _ => id) (only_of (by simp))
  refine heeds_find (fun _ => id) (only_of (by simp)) fun m hm => ?_
  refine heeds_switch hm (only_of ?_) (only_of (by simp))
  have hwrites (m : IMachine) : Only (fun a => ¬Looks a) (setGraphics ram mon card en m) :=
    triple_setGraphics card en (only_of (by simp)) (only_of (by simp)) (only_of (by simp))
      (fun _ => only_of (by simp)) (only_of (by simp))
  simp
  exact fun _ m => (hwrites m).seq (by simp) (by simp)

/-- Writing the settings of a screen looks at no state. -/
theorem configureScreen_quiet (record : COMPtr IRecordingSettings)
    (screen : COMPtr IRecordingScreenSettings) (on : Bool) (path : String)
    (w h fps kbps aq : Int) :
    Only (fun a => ¬Looks a) (configureScreen record screen on path w h fps kbps aq) := by
  refine only_of ?_
  cases record <;> cases screen <;> cases haq : audioSetting aq <;> simp [configureScreen, haq]

/-- `setRecordingScreenConfig` asks for a powered-off machine. -/
theorem setRecordingScreenConfig_heeds (fuel : Nat) (n : String) (screenid : Int) (on : Bool)
    (base : String) (w h fps kbps aq : Int) :
    Heeds (stateOf vm) (switch [.PoweredOff])
      (setRecordingScreenConfig fuel n screenid on base w h fps kbps aq) := by
  refine heeds_tryReport (fun _ => id) ?_
  dsimp only
  split
  · exact heeds_of_only (fun _ => id) (only_of (by simp))
  refine heeds_find (fun _ => id) (only_of (by simp)) fun m hm => ?_
  refine heeds_switch hm (only_of ?_) (only_of (by simp))
  simp
  refine fun now s m record => ⟨?_, fun screen => ?_⟩
  all_goals exact (configureScreen_quiet _ _ _ _ _ _ _ _ _).seq (by simp) (by simp)

/-- `switchRecordingScreen` acts in the eight states of its list. -/
theorem switchRecordingScreen_heeds (fuel : Nat) (n : String) (screenid : Int) (on : Bool) :
    Heeds (stateOf vm) (switch switchRecordingStates)
      (switchRecordingScreen fuel n screenid on) := by
  refine heeds_tryReport (fun _ => id) ?_
  split
  · exact heeds_of_only (fun _ => id) (only_of (by simp))
  refine heeds_find (fun _ => id) (only_of (by simp)) fun m hm => ?_
  exact heeds_switch hm (only_of (by simp)) (only_of (by simp))

end VirtCore.VcaVmConfigure
