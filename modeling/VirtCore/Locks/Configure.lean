import VirtCore.Locks.View

/-!
# VirtCore — session locks across the operations of `vcaVmConfigure`
-/

namespace VirtCore.VcaVmConfigure


open Interact

variable (J : Jsoncpp) (fuel : Nat)

/-! ## Network adapters

All six operations write between a lock and its unlock. A missing adapter sends them out without
the unlock, and so does every error. -/

section

variable {change : INetworkAdapter → Vb Unit}

/-- The writes to an adapter keep the lock. -/
abbrev KeepsLock (change : INetworkAdapter → Vb Unit) : Prop :=
  ∀ s adapter, Triple (lockView adapterStrands) (· = Balance.free.acquire s) (change adapter)
    (fun _ b => b = Balance.free.acquire s) (fun _ _ => False)

/-- The frame from the lock on. -/
theorem changeAdapter_settles (hchange : KeepsLock change) (m : IMachine) (slot : Int) :
    Settles adapterStrands (changeAdapter (some m) slot change) := by
  rintro _ rfl
  simp [changeAdapter]
  intro s mutabmachine adapter
  refine (hchange s adapter).use rfl ?_ fun _ _ h => h.elim
  rintro _ _ rfl
  simp

/-- The frame for a machine in any state. -/
theorem anyState_settles (hchange : KeepsLock change) (n : String) (slot : Int) :
    Settles adapterStrands (anyState change n slot) := by
  rintro _ rfl
  simp [anyState]
  exact fun _ _ m => changeAdapter_settles hchange m slot _ rfl

/-- The frame for a machine that is powered off. -/
theorem poweredOff_settles (hchange : KeepsLock change) (n : String) (slot : Int) :
    Settles adapterStrands (poweredOff change n slot) := by
  rintro _ rfl
  simp [poweredOff]
  exact fun _ _ m => changeAdapter_settles hchange m slot _ rfl

/-- The writes of a bridge. -/
theorem bridge_keepsLock (pci : String) : KeepsLock (bridge pci) := by
  rintro s adapter _ rfl
  simp [bridge]

/-- The writes of NAT. -/
theorem nat_keepsLock : KeepsLock nat := by
  rintro s adapter _ rfl
  simp [nat]

/-- The writes of a hardware address. -/
theorem setMAC_keepsLock (mac : String) : KeepsLock (setMAC mac) := by
  rintro s adapter _ rfl
  simp [setMAC]

/-- The write that disables. -/
theorem disable_keepsLock : KeepsLock disable := by
  rintro s adapter _ rfl
  simp [disable]

/-- `setBridge`. -/
theorem setBridge_settles (n : String) (slot : Int) (pci : String) :
    Settles adapterStrands (setBridge fuel n slot pci) :=
  settles_tryReport (anyState_settles (bridge_keepsLock pci) n slot) fuel

/-- `addBridge`, without a `try`. -/
theorem addBridge_settles (n : String) (slot : Int) (pci : String) :
    Settles adapterStrands (addBridge n slot pci) :=
  poweredOff_settles (bridge_keepsLock pci) n slot

/-- `setNat`. -/
theorem setNat_settles (n : String) (slot : Int) :
    Settles adapterStrands (setNat fuel n slot) :=
  settles_tryReport (anyState_settles nat_keepsLock n slot) fuel

/-- `addNat`. -/
theorem addNat_settles (n : String) (slot : Int) :
    Settles adapterStrands (addNat fuel n slot) :=
  settles_tryReport (poweredOff_settles nat_keepsLock n slot) fuel

/-- `setAdaptorMAC`. -/
theorem setAdaptorMAC_settles (n : String) (slot : Int) (mac : String) :
    Settles adapterStrands (setAdaptorMAC fuel n slot mac) :=
  settles_tryReport (poweredOff_settles (setMAC_keepsLock mac) n slot) fuel

/-- `disableAdaptor`. -/
theorem disableAdaptor_settles (n : String) (slot : Int) :
    Settles adapterStrands (disableAdaptor fuel n slot) :=
  settles_tryReport (poweredOff_settles disable_keepsLock n slot) fuel

end

/-! ## Processors, memory, graphics and recording

What these write they write under one lock. Some of them return without the unlock where there is
no mutable machine. -/

/-- A setter of one value of the mutable machine touches no lock. -/
theorem resetLimit_settles {set : IMachine → Cmd}
    (hset : ∀ b m x, lockNext b (.cmd (set m)) x = b) (inRange : Bool) (outOfRange n : String) :
    Settles threwError (resetLimit fuel inRange outOfRange set n) := by
  refine settles_tryReport ?_ fuel
  rintro _ rfl
  simp
  intro _ s m
  show (lockNext (Balance.free.acquire s) (.cmd (set m)) (.ok ())).release s = .free
  rw [hset, Balance.release_acquire]

/-- The writes of the graphics keep the lock. -/
theorem setGraphics_keepsLock (ram mon : Int) (card : String) (en : Bool) (s : ISession)
    (m : IMachine) : Triple (lockView mutableStrands) (· = Balance.free.acquire s)
      (setGraphics ram mon card en m) (fun _ b => b = Balance.free.acquire s) Settled := by
  refine triple_setGraphics card en ?_ ?_ ?_ (fun g => ?_) ?_
  all_goals
    rintro _ rfl
    simp

/-- `resetGraphics` unlocks only where it has written. -/
theorem resetGraphics_settles (n : String) (ram mon : Int) (card : String) (en : Bool) :
    Settles mutableStrands (resetGraphics fuel n ram mon card en) := by
  refine settles_tryReport ?_ fuel
  rintro _ rfl
  simp
  intro _ _ _ _ s m
  refine (setGraphics_keepsLock ram mon card en s m).use rfl ?_ fun _ _ h => h
  rintro _ _ rfl
  simp

/-- The writes of a screen keep the lock. -/
theorem configureScreen_keepsLock (record : COMPtr IRecordingSettings)
    (screen : COMPtr IRecordingScreenSettings) (on : Bool) (path : String)
    (w h fps kbps aq : Int) (s : ISession) :
    Triple (lockView mutableStrands) (· = Balance.free.acquire s)
      (configureScreen record screen on path w h fps kbps aq)
      (fun _ b => b = Balance.free.acquire s) Settled := by
  rintro _ rfl
  cases record <;> cases screen <;> cases haq : audioSetting aq <;>
    simp [configureScreen, haq]

/-- `setRecordingScreenConfig` unlocks only where it has written. -/
theorem setRecordingScreenConfig_settles (n : String) (id : Int) (on : Bool) (base : String)
    (w h fps kbps aq : Int) :
    Settles mutableStrands (setRecordingScreenConfig fuel n id on base w h fps kbps aq) := by
  refine settles_tryReport ?_ fuel
  cases recordingRangeError id w h fps kbps aq with
  | some message =>
    rintro _ rfl
    simp
  | none =>
    rintro _ rfl
    simp
    refine fun now s m record => ⟨?_, fun screen => ?_⟩
    all_goals
      refine (configureScreen_keepsLock _ _ on _ w h fps kbps aq s).use rfl ?_ fun _ _ h => h
      rintro _ _ rfl
      simp

/-- `switchRecordingScreen` does not unlock where there is no mutable machine. -/
theorem switchRecordingScreen_settles (n : String) (id : Int) (on : Bool) :
    Settles mutableStrands (switchRecordingScreen fuel n id on) := by
  refine settles_tryReport ?_ fuel
  rintro _ rfl
  simp

/-! ## The remote display -/

/-- `setSimpleRemoteDisplay` unlocks on both paths. -/
theorem setSimpleRemoteDisplay_settles (n ip : String) (port : Int) (multi single : Bool) :
    Settles threwError (setSimpleRemoteDisplay fuel n ip port multi single) := by
  refine settles_tryReport ?_ fuel
  rintro _ rfl
  simp [configureVRDE]

/-- `getRdpInfo` keeps the lock where the connection is not active. -/
theorem getRdpInfo_settles (n : String) : Settles rdpStrands (getRdpInfo J fuel n) := by
  refine settles_tryReport ?_ fuel
  rintro _ rfl
  simp [readVRDE]

/-- `disableRDP` unlocks on both paths. -/
theorem disableRDP_settles (n : String) : Settles threwError (disableRDP fuel n) := by
  refine settles_tryReport ?_ fuel
  rintro _ rfl
  simp

/-! ## Shared folders, USB, audio and serial ports

These share a frame that unlocks on every path by which it returns. -/

/-- `createSharefolder`. -/
theorem createSharefolder_settles (n f ext : String) (w auto : Bool) (int : String) :
    Settles threwError (createSharefolder fuel n f ext w auto int) := by
  refine settles_tryReport ?_ fuel
  rintro _ rfl
  simp [withMutable]

/-- `removeSharedFolder`. -/
theorem removeSharedFolder_settles (n f : String) :
    Settles threwError (removeSharedFolder fuel n f) := by
  refine settles_tryReport ?_ fuel
  rintro _ rfl
  simp [withMutable]

/-- `addUSBController`, also where it refuses the type under the lock. -/
theorem addUSBController_settles (n c ty : String) :
    Settles threwError (addUSBController fuel n c ty) := by
  refine settles_tryReport ?_ fuel
  rintro _ rfl
  simp [withMutable, addUSB]

/-- `delUSBController`. -/
theorem delUSBController_settles (n c : String) :
    Settles threwError (delUSBController fuel n c) := by
  refine settles_tryReport ?_ fuel
  rintro _ rfl
  simp [withMutable]

/-- `setAudio`, also where there is no adapter. -/
theorem setAudio_settles (n : String) (i o : Bool) :
    Settles threwError (setAudio fuel n i o) := by
  refine settles_tryReport ?_ fuel
  rintro _ rfl
  simp [withMutable, withDevice]

/-- `switchAudio`, also where there is none. -/
theorem switchAudio_settles (n : String) (en : Bool) :
    Settles threwError (switchAudio fuel n en) := by
  refine settles_tryReport ?_ fuel
  rintro _ rfl
  simp [withMutable, withDevice]

/-- `addSerialPort` and `delSerialPort`, also where there is no such port. -/
theorem switchSerialPort_settles (n : String) (slot : Int) (en : Bool) :
    Settles threwError (switchSerialPort fuel n slot en) := by
  refine settles_tryReport ?_ fuel
  rintro _ rfl
  simp [withMutable, withDevice]

end VirtCore.VcaVmConfigure
