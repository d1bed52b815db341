import Mathlib.Tactic.SplitIfs
import VirtCore.Calls.Ordinary
import VirtCore.Configure.Network
import VirtCore.Configure.Settings
import VirtCore.Configure.Remote
import VirtCore.Configure.Devices

/-!
# VirtCore — what the operations of `vcaVmConfigure` call
-/

namespace VirtCore.VcaVmConfigure


open Interact

variable (J : Jsoncpp) (fuel : Nat)

/-! ## Network adapters

A slot that is not refused is one of the four that an adapter may have, so that fetching it is
ordinary. What is written to the adapter is ordinary in each of the six operations. -/

section

variable {change : INetworkAdapter → Vb Unit}

/-- The frame from the lock on, for a slot that is not refused. -/
theorem changeAdapter_ordinary (hchange : ∀ adapter, Ordinary (change adapter))
    (m : COMPtr IMachine)
    {slot : Int} (hslot : slotOk slot) : Ordinary (changeAdapter m slot change) := by
  have hle : uint32 slot ≤ 3 := uint32_le hslot (by omega)
  refine only_of ?_
  cases m with
  | none => simp [changeAdapter]
  | some m =>
    simp [changeAdapter, hle]
    exact fun _ _ adapter => (hchange adapter).seq (by simp) (by simp)

/-- The frame for a machine in any state; it refuses the other slots. -/
theorem anyState_ordinary (hchange : ∀ adapter, Ordinary (change adapter)) (n : String)
    (slot : Int) : Ordinary (anyState change n slot) := by
  refine only_of ?_
  simp [anyState]
  exact fun h₀ h₃ m => changeAdapter_ordinary hchange (some m) ⟨h₀, h₃⟩ _ trivial

/-- The frame for a machine that is powered off. -/
theorem poweredOff_ordinary (hchange : ∀ adapter, Ordinary (change adapter)) (n : String)
    (slot : Int) : Ordinary (poweredOff change n slot) := by
  refine only_of ?_
  simp [poweredOff]
  exact fun h₀ h₃ m => changeAdapter_ordinary hchange (some m) ⟨h₀, h₃⟩ _ trivial

/-- The writes of a bridge. -/
theorem bridge_ordinary (pci : String) (adapter : INetworkAdapter) :
    Ordinary (bridge pci adapter) :=
  only_of (by simp [bridge])

/-- The writes of NAT. -/
theorem nat_ordinary (adapter : INetworkAdapter) : Ordinary (nat adapter) := only_of (by simp [nat])

/-- The writes of a hardware address. -/
theorem setMAC_ordinary (mac : String) (adapter : INetworkAdapter) :
    Ordinary (setMAC mac adapter) :=
  only_of (by simp [setMAC])

/-- The write that disables. -/
theorem disable_ordinary (adapter : INetworkAdapter) : Ordinary (disable adapter) :=
  only_of (by simp [disable])

end

/-! ## Processors, memory, graphics and recording

Each of these operations looks at its arguments before it makes a call, and a value that it sets
is one that has passed. What remains to be allowed is therefore asked for under the check. -/

section

variable {E : Act → Prop}

/-- `resetCpuCount` and `resetMemSize` call their setter within the range only. -/
theorem resetLimit_also {set : IMachine → Cmd} {inRange : Bool}
    (hset : inRange → ∀ m, E (.cmd (set m))) (outOfRange n : String) :
    Only (also E) (resetLimit fuel inRange outOfRange set n) := by
  refine only_tryReport reporting_also (only_of ?_)
  cases inRange with
  | false => simp
  | true => simp [hset rfl]

/-- `resetGraphics` sets a size and a number of screens that have passed. -/
theorem resetGraphics_also {ram mon : Int}
    (hset : 0 ≤ ram ∧ ram ≤ 128 → 1 ≤ mon ∧ mon ≤ 8 → ∀ m,
      E (.cmd (.setVRAMSize m (uint32 ram))) ∧ E (.cmd (.setMonitorCount m (uint32 mon))))
    (n card : String) (en : Bool) : Only (also E) (resetGraphics fuel n ram mon card en) := by
  refine only_tryReport reporting_also ?_
  -- the size first, then the number of screens
  split
  · exact only_of (by simp)
  split
  · exact only_of (by simp)
  rename_i hram hmon
  have hset := hset (Decidable.not_not.mp hram) (Decidable.not_not.mp hmon)
  have hwrites (m : IMachine) : Only (also E) (setGraphics ram mon card en m) :=
    triple_setGraphics card en (only_of (by simp)) (only_of (by simp [hset]))
      (only_of (by simp [hset])) (fun _ => only_of (by simp)) (only_of (by simp))
  refine only_of ?_
  simp
  exact fun _ m => (hwrites m).seq (by simp) (by simp)

end

/-- The ranges of a recording that is not refused. -/
theorem recordingRangeError_none {id w h fps kbps aq : Int}
    (hnone : recordingRangeError id w h fps kbps aq = none) :
    uint32 id ≤ 7 ∧ uint32 w ≤ 2880 ∧ uint32 h ≤ 1800 ∧ uint32 fps ≤ 30 ∧
      uint32 kbps ≤ 1024 := by
  unfold recordingRangeError at hnone
  split_ifs at hnone
  exact ⟨uint32_le (by omega) (by omega), uint32_le (by omega) (by omega),
    uint32_le (by omega) (by omega), uint32_le (by omega) (by omega),
    uint32_le (by omega) (by omega)⟩

/-- The values of a screen are ordinary where `recordingRangeError` has found nothing. -/
theorem configureScreen_ordinary {id w h fps kbps aq : Int}
    (hnone : recordingRangeError id w h fps kbps aq = none) (record : COMPtr IRecordingSettings)
    (screen : COMPtr IRecordingScreenSettings) (on : Bool) (path : String) :
    Ordinary (configureScreen record screen on path w h fps kbps aq) := by
  obtain ⟨-, hw, hh, hfps, hkbps⟩ := recordingRangeError_none hnone
  refine only_of ?_
  cases record <;> cases screen <;> cases haq : audioSetting aq <;>
    simp [configureScreen, haq, hw, hh, hfps, hkbps]

/-- `setRecordingScreenConfig` goes on only there. -/
theorem setRecordingScreenConfig_ordinary (n : String) (id : Int) (on : Bool) (base : String)
    (w h fps kbps aq : Int) :
    Ordinary (setRecordingScreenConfig fuel n id on base w h fps kbps aq) := by
  refine only_tryReport reporting_ordinary (only_of ?_)
  cases hnone : recordingRangeError id w h fps kbps aq with
  | some message => simp
  | none =>
    obtain ⟨hid, -⟩ := recordingRangeError_none hnone
    simp [hid]
    refine fun now s m record => ⟨?_, fun screen => ?_⟩
    all_goals exact (configureScreen_ordinary hnone _ _ _ _).seq (by simp) (by simp)

/-- `switchRecordingScreen` fetches a screen whose number has passed. -/
theorem switchRecordingScreen_ordinary (n : String) (id : Int) (on : Bool) :
    Ordinary (switchRecordingScreen fuel n id on) := by
  refine only_tryReport reporting_ordinary ?_
  split
  · exact only_of (by simp)
  · have hid : uint32 id ≤ 7 := uint32_le (by omega) (by omega)
    exact only_of (by simp [hid])

/-! ## The remote display -/

/-- `setSimpleRemoteDisplay` writes to the display server, with any port. -/
theorem setSimpleRemoteDisplay_ordinary (n ip : String) (port : Int) (multi single : Bool) :
    Ordinary (setSimpleRemoteDisplay fuel n ip port multi single) :=
  only_tryReport reporting_ordinary (only_of (by simp [configureVRDE]))

/-- `getRdpInfo` reads from the display server. -/
theorem getRdpInfo_ordinary (n : String) : Ordinary (getRdpInfo J fuel n) :=
  only_tryReport reporting_ordinary (only_of (by simp [readVRDE]))

/-- `disableRDP` switches it off. -/
theorem disableRDP_ordinary (n : String) : Ordinary (disableRDP fuel n) :=
  only_tryReport reporting_ordinary (only_of (by simp))

/-! ## Shared folders, USB, audio and serial ports

All but the serial ports are ordinary. The check of a serial port lets one slot too many through,
and what may be called is said with that slot. -/

/-- A shared folder is added. -/
theorem createSharefolder_ordinary (n f ext : String) (w auto : Bool) (int : String) :
    Ordinary (createSharefolder fuel n f ext w auto int) :=
  only_tryReport reporting_ordinary (only_of (by simp [withMutable]))

/-- A shared folder is removed. -/
theorem removeSharedFolder_ordinary (n f : String) : Ordinary (removeSharedFolder fuel n f) :=
  only_tryReport reporting_ordinary (only_of (by simp [withMutable]))

/-- A USB controller of a type that is known is added. -/
theorem addUSBController_ordinary (n c ty : String) : Ordinary (addUSBController fuel n c ty) :=
  only_tryReport reporting_ordinary (only_of (by simp [withMutable, addUSB]))

/-- A USB controller is removed. -/
theorem delUSBController_ordinary (n c : String) : Ordinary (delUSBController fuel n c) :=
  only_tryReport reporting_ordinary (only_of (by simp [withMutable]))

/-- The audio adapter is set up. -/
theorem setAudio_ordinary (n : String) (i o : Bool) : Ordinary (setAudio fuel n i o) :=
  only_tryReport reporting_ordinary (only_of (by simp [withMutable, withDevice]))

/-- The audio adapter is switched. -/
theorem switchAudio_ordinary (n : String) (en : Bool) : Ordinary (switchAudio fuel n en) :=
  only_tryReport reporting_ordinary (only_of (by simp [withMutable, withDevice]))

/-- A serial port of one of the slots 0 to 4 is switched. -/
theorem switchSerialPort_also {E : Act → Prop} {slot : Int}
    (hport : 0 ≤ slot ∧ slot ≤ 4 → ∀ m, E (.ptr (.getSerialPort m (uint32 slot))))
    (n : String) (en : Bool) : Only (also E) (switchSerialPort fuel n slot en) := by
  refine only_tryReport reporting_also ?_
  split
  · exact only_of (by simp)
  · have hport := hport (by omega)
    exact only_of (by simp [withMutable, withDevice, hport])

end VirtCore.VcaVmConfigure
