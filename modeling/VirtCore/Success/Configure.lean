import VirtCore.Success.View

/-!
# VirtCore — truthful success of the operations of `vcaVmConfigure`
-/

namespace VirtCore.VcaVmConfigure


open Interact

variable (J : Jsoncpp) (fuel : Nat) {ending : IProgress → Option Int}

/-! ## Network adapters

The six operations overlook nothing, since they check their adapter and use the other pointers. -/

section

variable {change : INetworkAdapter → Vb Unit}

/-- The frame from the lock on, for writes that are clean. -/
theorem changeAdapter_honest (hchange : ∀ adapter, Clean ending .full (change adapter))
    (m : IMachine) (slot : Int) :
    Honest ending .full (changeAdapter (some m) slot change) := by
  refine unaware_of fun slept data => ?_
  simp [changeAdapter]
  intro session mutabmachine adapter
  refine (hchange adapter).use ⟨id, id⟩ (fun _ s hs => ?_) fun _ _ hs => hs
  simp [hs.2]

/-- The frame for a machine in any state. -/
theorem anyState_honest (hchange : ∀ adapter, Clean ending .full (change adapter))
    (n : String) (slot : Int) : Honest ending .full (anyState change n slot) := by
  refine unaware_of fun slept data => ?_
  simp [anyState]
  intro _ _ m
  exact changeAdapter_honest hchange m slot _ ⟨id, id⟩

/-- The frame for a machine that is powered off. -/
theorem poweredOff_honest (hchange : ∀ adapter, Clean ending .full (change adapter))
    (n : String) (slot : Int) : Honest ending .full (poweredOff change n slot) := by
  refine unaware_of fun slept data => ?_
  simp [poweredOff]
  intro _ _ m
  exact changeAdapter_honest hchange m slot _ ⟨id, id⟩

/-- The writes of a bridge. -/
theorem bridge_clean (pci : String) (adapter : INetworkAdapter) :
    Clean ending .full (bridge pci adapter) := by
  refine unaware_of fun slept data => ?_
  simp [bridge, Unaware]

/-- The writes of NAT. -/
theorem nat_clean (adapter : INetworkAdapter) : Clean ending .full (nat adapter) := by
  refine unaware_of fun slept data => ?_
  simp [nat, Unaware]

/-- The writes of a hardware address. -/
theorem setMAC_clean (mac : String) (adapter : INetworkAdapter) :
    Clean ending .full (setMAC mac adapter) := by
  refine unaware_of fun slept data => ?_
  simp [setMAC, Unaware]

/-- The write that disables. -/
theorem disable_clean (adapter : INetworkAdapter) : Clean ending .full (disable adapter) := by
  refine unaware_of fun slept data => ?_
  simp [disable, Unaware]

end

/-! ## Processors, memory, graphics and recording

Without a mutable machine these operations set nothing and answer `true`, which is the one thing
they overlook. -/

/-- `resetCpuCount` and `resetMemSize`. -/
theorem resetLimit_honest (inRange : Bool) (outOfRange : String) (set : IMachine → Cmd)
    (n : String) :
    Honest ending (.only (fun _ => False) mutableNull)
      (resetLimit fuel inRange outOfRange set n) := by
  refine noticed_tryReport (unaware_of fun slept data => ?_)
  simp

/-- The writes of the graphics. -/
theorem setGraphics_clean (ram mon : Int) (card : String) (en : Bool) (m : IMachine) :
    Clean ending (.only (fun _ => False) mutableNull) (setGraphics ram mon card en m) := by
  have hcmd (c : Cmd) : Clean ending (.only (fun _ => False) mutableNull) (cmd c) :=
    unaware_of fun slept data => by simp [Unaware]
  exact triple_setGraphics card en (hcmd _) (hcmd _) (hcmd _) (fun _ => hcmd _) (hcmd _)

/-- `resetGraphics`. -/
theorem resetGraphics_honest (n : String) (ram mon : Int) (card : String) (en : Bool) :
    Honest ending (.only (fun _ => False) mutableNull)
      (resetGraphics fuel n ram mon card en) := by
  refine noticed_tryReport (unaware_of fun slept data => ?_)
  simp
  intros
  refine (setGraphics_clean ram mon card en _).use ⟨id, id⟩ (fun _ s hs => ?_) fun _ _ hs => hs
  simp [hs.2]

/-- The writes of a screen. -/
theorem configureScreen_clean (record : IRecordingSettings) (screen : IRecordingScreenSettings)
    (on : Bool) (path : String) (w h fps kbps aq : Int) :
    Clean ending (.only (fun _ => False) mutableNull)
      (configureScreen (some record) (some screen) on path w h fps kbps aq) := by
  refine unaware_of fun slept data => ?_
  cases haq : audioSetting aq <;> simp [configureScreen, haq, Unaware]

/-- `setRecordingScreenConfig`. -/
theorem setRecordingScreenConfig_honest (n : String) (id : Int) (on : Bool) (base : String)
    (w h fps kbps aq : Int) :
    Honest ending (.only (fun _ => False) mutableNull)
      (setRecordingScreenConfig fuel n id on base w h fps kbps aq) := by
  refine noticed_tryReport ?_
  cases recordingRangeError id w h fps kbps aq with
  | some text =>
    refine unaware_of fun slept data => ?_
    simp
  | none =>
    refine unaware_of fun slept data => ?_
    simp
    refine fun _ now session m record => ⟨by simp [configureScreen], fun screen => ?_⟩
    refine (configureScreen_clean record screen on _ w h fps kbps aq).use
      ⟨fun h => h, fun h => h⟩
      (fun _ s hs => ?_) fun _ _ hs => hs
    simp [hs.2]

/-- `switchRecordingScreen` overlooks that there is no such screen. -/
theorem switchRecordingScreen_honest (n : String) (id : Int) (on : Bool) :
    Honest ending (.only (fun _ => False) screenNull) (switchRecordingScreen fuel n id on) := by
  refine noticed_tryReport (unaware_of fun slept data => ?_)
  simp

/-! ## The remote display -/

/-- `setSimpleRemoteDisplay` answers `false` without a mutable machine. -/
theorem setSimpleRemoteDisplay_honest (n ip : String) (port : Int) (multi single : Bool) :
    Honest ending .full (setSimpleRemoteDisplay fuel n ip port multi single) := by
  refine noticed_tryReport (unaware_of fun slept data => ?_)
  simp [configureVRDE]

/-- `getRdpInfo` overlooks nothing, also where it answers `true` about a machine that does not
run. -/
theorem getRdpInfo_honest (n : String) : Honest ending .full (getRdpInfo J fuel n) := by
  refine noticed_tryReport (unaware_of fun slept data => ?_)
  simp [readVRDE]

/-- `disableRDP` answers `false` without a mutable machine. -/
theorem disableRDP_honest (n : String) : Honest ending .full (disableRDP fuel n) := by
  refine noticed_tryReport (unaware_of fun slept data => ?_)
  simp

/-! ## Shared folders, USB, audio and serial ports -/

/-- `createSharefolder` overlooks nothing. -/
theorem createSharefolder_honest (n f ext : String) (w auto : Bool) (int : String) :
    Honest ending .full (createSharefolder fuel n f ext w auto int) := by
  refine noticed_tryReport (unaware_of fun slept data => ?_)
  simp [withMutable]

/-- Nor does `removeSharedFolder`. -/
theorem removeSharedFolder_honest (n f : String) :
    Honest ending .full (removeSharedFolder fuel n f) := by
  refine noticed_tryReport (unaware_of fun slept data => ?_)
  simp [withMutable]

/-- `addUSBController` drops the controller, and overlooks that it was not added. -/
theorem addUSBController_honest (n c ty : String) :
    Honest ending (.only (fun _ => False) addUSBNull) (addUSBController fuel n c ty) := by
  refine noticed_tryReport (unaware_of fun slept data => ?_)
  simp [withMutable, addUSB]

/-- `delUSBController` overlooks nothing. -/
theorem delUSBController_honest (n c : String) :
    Honest ending .full (delUSBController fuel n c) := by
  refine noticed_tryReport (unaware_of fun slept data => ?_)
  simp [withMutable]

/-- `setAudio` overlooks nothing. -/
theorem setAudio_honest (n : String) (i o : Bool) :
    Honest ending .full (setAudio fuel n i o) := by
  refine noticed_tryReport (unaware_of fun slept data => ?_)
  simp [withMutable, withDevice]

/-- Nor does `switchAudio`. -/
theorem switchAudio_honest (n : String) (en : Bool) :
    Honest ending .full (switchAudio fuel n en) := by
  refine noticed_tryReport (unaware_of fun slept data => ?_)
  simp [withMutable, withDevice]

/-- Nor do the two operations of a serial port. -/
theorem switchSerialPort_honest (n : String) (slot : Int) (en : Bool) :
    Honest ending .full (switchSerialPort fuel n slot en) := by
  refine noticed_tryReport (unaware_of fun slept data => ?_)
  simp [withMutable, withDevice]

end VirtCore.VcaVmConfigure
