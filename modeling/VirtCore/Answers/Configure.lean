import VirtCore.Answers.View

/-!
# VirtCore — definite answers of the operations of `vcaVmConfigure`
-/

namespace VirtCore.VcaVmConfigure


open Interact

variable (J : Jsoncpp) (fuel : Nat)

/-! ## Network adapters

Six operations change one adapter of a machine. They share their frame, in two forms: for a
machine in any state, and for one that is powered off. -/

section

variable {change : INetworkAdapter → Vb Unit}

/-- The frame from the lock on: a change that copes leaves an operation that copes, and a null
adapter is checked. -/
theorem changeAdapter_copes
    (hchange : ∀ adapter, Copes (.plain (fatalUnless adapterFine)) fuel (change adapter))
    (m : IMachine) (slot : Int) :
    Copes (.plain (fatalUnless adapterFine)) fuel (changeAdapter (some m) slot change) := by
  refine copes_of fun armed waits message data => ?_
  simp [changeAdapter]
  intro session mutabmachine adapter
  refine (hchange adapter).use trivial (fun _ s hs => ?_) fun _ _ hs => hs
  simp [hs]

/-- The frame for a machine in any state. -/
theorem anyState_copes
    (hchange : ∀ adapter, Copes (.plain (fatalUnless adapterFine)) fuel (change adapter))
    (n : String) (slot : Int) :
    Copes (.plain (fatalUnless adapterFine)) fuel (anyState change n slot) := by
  refine copes_of fun armed waits message data => ?_
  simp [anyState]
  intro _ _ m
  exact (changeAdapter_copes fuel hchange m slot) _ trivial

/-- The frame for a machine that is powered off; another state is answered with `false`. -/
theorem poweredOff_copes
    (hchange : ∀ adapter, Copes (.plain (fatalUnless adapterFine)) fuel (change adapter))
    (n : String) (slot : Int) :
    Copes (.plain (fatalUnless adapterFine)) fuel (poweredOff change n slot) := by
  refine copes_of fun armed waits message data => ?_
  simp [poweredOff]
  intro _ _ m
  exact (changeAdapter_copes fuel hchange m slot) _ trivial

/-- Attaching to a bridge. -/
theorem bridge_copes (pci : String) (adapter : INetworkAdapter) :
    Copes (.plain (fatalUnless adapterFine)) fuel (bridge pci adapter) := by
  refine copes_of fun armed waits message data => ?_
  simp [bridge]

/-- Attaching to NAT. -/
theorem nat_copes (adapter : INetworkAdapter) :
    Copes (.plain (fatalUnless adapterFine)) fuel (nat adapter) := by
  refine copes_of fun armed waits message data => ?_
  simp [nat]

/-- Setting the hardware address. -/
theorem setMAC_copes (mac : String) (adapter : INetworkAdapter) :
    Copes (.plain (fatalUnless adapterFine)) fuel (setMAC mac adapter) := by
  refine copes_of fun armed waits message data => ?_
  simp [setMAC]

/-- Switching the adapter off. -/
theorem disable_copes (adapter : INetworkAdapter) :
    Copes (.plain (fatalUnless adapterFine)) fuel (disable adapter) := by
  refine copes_of fun armed waits message data => ?_
  simp [disable]

/-- `setBridge` bridges in any state. -/
theorem setBridge_copes (n : String) (slot : Int) (pci : String) :
    Copes (.plain (fatalUnless adapterFine)) fuel (setBridge fuel n slot pci) :=
  copes_tryReport (anyState_copes fuel (bridge_copes fuel pci) n slot)

/-- `addBridge` does so on a powered-off machine, without a `try`. -/
theorem addBridge_copes (n : String) (slot : Int) (pci : String) :
    Copes (.plain (fatalUnless adapterFine)) fuel (addBridge n slot pci) :=
  poweredOff_copes fuel (bridge_copes fuel pci) n slot

/-- `setNat` attaches to NAT in any state. -/
theorem setNat_copes (n : String) (slot : Int) :
    Copes (.plain (fatalUnless adapterFine)) fuel (setNat fuel n slot) :=
  copes_tryReport (anyState_copes fuel (nat_copes fuel) n slot)

/-- `addNat` does so on a powered-off machine. -/
theorem addNat_copes (n : String) (slot : Int) :
    Copes (.plain (fatalUnless adapterFine)) fuel (addNat fuel n slot) :=
  copes_tryReport (poweredOff_copes fuel (nat_copes fuel) n slot)

/-- `setAdaptorMAC` needs a powered-off machine. -/
theorem setAdaptorMAC_copes (n : String) (slot : Int) (mac : String) :
    Copes (.plain (fatalUnless adapterFine)) fuel (setAdaptorMAC fuel n slot mac) :=
  copes_tryReport (poweredOff_copes fuel (setMAC_copes fuel mac) n slot)

/-- And so does `disableAdaptor`. -/
theorem disableAdaptor_copes (n : String) (slot : Int) :
    Copes (.plain (fatalUnless adapterFine)) fuel (disableAdaptor fuel n slot) :=
  copes_tryReport (poweredOff_copes fuel (disable_copes fuel) n slot)

end

/-! ## Processors, memory, graphics and recording

These operations check the mutable machine, so that a null one is not fatal to them; most of them
then leave as if nothing were wrong. -/

/-- `resetCpuCount` and `resetMemSize` are one operation, up to the limit and the setter. -/
theorem resetLimit_copes (inRange : Bool) (outOfRange : String) (set : IMachine → Cmd)
    (n : String) :
    Copes (.plain (fatalUnless mutableFine)) fuel (resetLimit fuel inRange outOfRange set n) := by
  refine copes_tryReport (copes_of fun armed waits message data => ?_)
  simp

/-- The setters of the graphics, on a machine that is there. -/
theorem setGraphics_copes (ram mon : Int) (card : String) (en : Bool) (m : IMachine) :
    Copes (.plain (fatalUnless mutableFine)) fuel (setGraphics ram mon card en m) := by
  have hcmd (c : Cmd) : Copes (.plain (fatalUnless mutableFine)) fuel (cmd c) :=
    copes_of fun armed waits message data => by simp
  exact triple_setGraphics card en (hcmd _) (hcmd _) (hcmd _) (fun _ => hcmd _) (hcmd _)

/-- `resetGraphics` checks its arguments before it makes a call. -/
theorem resetGraphics_copes (n : String) (ram mon : Int) (card : String) (en : Bool) :
    Copes (.plain (fatalUnless mutableFine)) fuel (resetGraphics fuel n ram mon card en) := by
  refine copes_tryReport (copes_of fun armed waits message data => ?_)
  simp
  intros
  refine (setGraphics_copes fuel ram mon card en _).use trivial (fun _ s hs => ?_)
    fun _ _ hs => hs
  simp [hs]

/-- The setters of one screen, where the recording settings and the screen are there. -/
theorem configureScreen_copes (record : IRecordingSettings) (screen : IRecordingScreenSettings)
    (on : Bool) (path : String) (w h fps kbps aq : Int) :
    Copes (.plain (fatalUnless mutableFine)) fuel
      (configureScreen (some record) (some screen) on path w h fps kbps aq) := by
  refine copes_of fun armed waits message data => ?_
  cases haq : audioSetting aq <;> simp [configureScreen, haq]

/-- `setRecordingScreenConfig` uses the settings and the screen without a check. -/
theorem setRecordingScreenConfig_copes (n : String) (id : Int) (on : Bool) (base : String)
    (w h fps kbps aq : Int) :
    Copes (.plain (fatalUnless mutableFine)) fuel
      (setRecordingScreenConfig fuel n id on base w h fps kbps aq) := by
  refine copes_tryReport ?_
  cases recordingRangeError id w h fps kbps aq with
  | some text =>
    refine copes_of fun armed waits message data => ?_
    simp
  | none =>
    refine copes_of fun armed waits message data => ?_
    simp
    refine fun now session m record => ⟨by simp [configureScreen], fun screen => ?_⟩
    refine (configureScreen_copes fuel record screen on _ w h fps kbps aq).use trivial
      (fun _ s hs => ?_) fun _ _ hs => hs
    simp [hs]

/-- `switchRecordingScreen` fetches a screen that it does not use. -/
theorem switchRecordingScreen_copes (n : String) (id : Int) (on : Bool) :
    Copes (.plain (fatalUnless switchRecordingFine)) fuel
      (switchRecordingScreen fuel n id on) := by
  refine copes_tryReport (copes_of fun armed waits message data => ?_)
  simp

/-! ## The remote display -/

/-- `setSimpleRemoteDisplay` uses the display server without a check. -/
theorem setSimpleRemoteDisplay_copes (n ip : String) (port : Int) (multi single : Bool) :
    Copes (.plain (fatalUnless mutableFine)) fuel
      (setSimpleRemoteDisplay fuel n ip port multi single) := by
  refine copes_tryReport (copes_of fun armed waits message data => ?_)
  simp [configureVRDE]

/-- `getRdpInfo` uses every pointer on its way to the server info. -/
theorem getRdpInfo_copes (n : String) :
    Copes (.plain (fatalUnless noneFine)) fuel (getRdpInfo J fuel n) := by
  refine copes_tryReport (copes_of fun armed waits message data => ?_)
  simp [readVRDE]

/-- `disableRDP` checks the mutable machine. -/
theorem disableRDP_copes (n : String) :
    Copes (.plain (fatalUnless mutableFine)) fuel (disableRDP fuel n) := by
  refine copes_tryReport (copes_of fun armed waits message data => ?_)
  simp

/-! ## Shared folders, USB, audio and serial ports -/

/-- `createSharefolder` uses the mutable machine without a check. -/
theorem createSharefolder_copes (n f ext : String) (w auto : Bool) (int : String) :
    Copes (.plain (fatalUnless noneFine)) fuel (createSharefolder fuel n f ext w auto int) := by
  refine copes_tryReport (copes_of fun armed waits message data => ?_)
  simp [withMutable]

/-- And so does `removeSharedFolder`. -/
theorem removeSharedFolder_copes (n f : String) :
    Copes (.plain (fatalUnless noneFine)) fuel (removeSharedFolder fuel n f) := by
  refine copes_tryReport (copes_of fun armed waits message data => ?_)
  simp [withMutable]

/-- `addUSBController` adds the two types that it knows, and needs the mutable machine only for
these. -/
theorem addUSBController_copes (n c ty : String) :
    Copes (.plain (fatalUnless (addUSBFine ty))) fuel (addUSBController fuel n c ty) := by
  refine copes_tryReport (copes_of fun armed waits message data => ?_)
  by_cases hx : strcmpEq ty "XHCI" <;> by_cases he : strcmpEq ty "EHCI" <;>
    simp [withMutable, addUSB, hx, he]

/-- `delUSBController` needs it always. -/
theorem delUSBController_copes (n c : String) :
    Copes (.plain (fatalUnless noneFine)) fuel (delUSBController fuel n c) := by
  refine copes_tryReport (copes_of fun armed waits message data => ?_)
  simp [withMutable]

/-- `setAudio` checks the audio adapter. -/
theorem setAudio_copes (n : String) (i o : Bool) :
    Copes (.plain (fatalUnless deviceFine)) fuel (setAudio fuel n i o) := by
  refine copes_tryReport (copes_of fun armed waits message data => ?_)
  simp [withMutable, withDevice]

/-- `switchAudio` checks it as well. -/
theorem switchAudio_copes (n : String) (en : Bool) :
    Copes (.plain (fatalUnless deviceFine)) fuel (switchAudio fuel n en) := by
  refine copes_tryReport (copes_of fun armed waits message data => ?_)
  simp [withMutable, withDevice]

/-- `addSerialPort` and `delSerialPort` are one operation, which checks the port. -/
theorem switchSerialPort_copes (n : String) (slot : Int) (en : Bool) :
    Copes (.plain (fatalUnless deviceFine)) fuel (switchSerialPort fuel n slot en) := by
  refine copes_tryReport (copes_of fun armed waits message data => ?_)
  simp [withMutable, withDevice]

end VirtCore.VcaVmConfigure
