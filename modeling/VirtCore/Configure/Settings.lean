import VirtCore.VBox.Rules

/-!
# VirtCore — `vcaVmConfigure`: processors, memory, graphics and recording

`resetCpuCount`, `resetMemSize`, `resetGraphics`, `setRecordingScreenConfig` and
`switchRecordingScreen` of `vca_vmConfigure.cpp`.
-/

namespace VirtCore.VcaVmConfigure

open Interact

/-! ## Processors and memory

Both operations write one limit of a powered-off machine, and differ in the limit and in its
range. -/

/-- `resetCpuCount` and `resetMemSize`: a range check, then one setter on the mutable machine.
Where there is no mutable machine nothing is set, and the operation goes on. -/
def resetLimit (fuel : Nat) (inRange : Bool) (outOfRange : String) (set : IMachine → Cmd)
    (_vmname : String) : Vb Bool :=
  tryReport fuel do
    if ¬inRange then
      callbackdata outOfRange
      return false
    let machine ← ptr (.findMachine _vmname)
    if machine.isSome then
      let state ← via machine fun m => val (.state m)
      if state ∈ [MachineState.PoweredOff] then
        let session ← ptr .session
        via machine fun m => cmd (.lockMachine m session .Shared)
        let mutabmachine : COMPtr IMachine ← via session fun s => ptr (.sessionMachine s)
        if mutabmachine.isSome then
          via mutabmachine fun m => cmd (set m)
          via mutabmachine fun m => cmd (.saveSettings m)
        via session fun s => cmd (.unlockMachine s)
        releaseMachine machine
      else
        callbackdata " Virtual machine should be poweroff !"
        releaseMachine machine
        return false
    else
      callbackdata " Virtual machine does not exist !"
      releaseMachine machine
      return false
    return true

/-- At most four processors. -/
def resetCpuCount (fuel : Nat) (_vmname : String) (cpuCount : Int) : Vb Bool :=
  resetLimit fuel (cpuCount ≥ 1 ∧ cpuCount ≤ 4) "cpucount : 1 ~ 4 !"
    (.setCPUCount · (uint32 cpuCount)) _vmname

/-- At most 8 GiB of memory. -/
def resetMemSize (fuel : Nat) (_vmname : String) (memorySize : Int) : Vb Bool :=
  resetLimit fuel (memorySize ≥ 0 ∧ memorySize ≤ 8192) "memorySize : 0 ~8192MB !"
    (.setMemorySize · (uint32 memorySize)) _vmname

/-! ## Graphics

Five settings are written one after the other. Two of them are checked first; the name of the
controller is compared with those of the list. -/

/-- `graphicsCtrlType` of `vca_vmConfigure.h`. -/
def graphicsCtrlType : List String := ["VBoxVGA", "VMSVGA", "VBoxSVGA"]

/-- The writes of `resetGraphics`. An unknown controller name sets none. -/
def setGraphics (ramSize monitorCount : Int) (cardController : String) (enable3D : Bool)
    (m : IMachine) : Vb Unit := do
  if enable3D then
    cmd (.setAccelerate3DEnabled m true)
  cmd (.setVRAMSize m (uint32 ramSize))
  cmd (.setMonitorCount m (uint32 monitorCount))
  let _ ← Prog.forEach (fun iter_l : String => do
    if strcmpEq cardController iter_l then
      if strcmpEq iter_l "VBoxSVGA" then
        cmd (.setGraphicsControllerType m .VBoxSVGA)
      if strcmpEq iter_l "VBoxVGA" then
        cmd (.setGraphicsControllerType m .VBoxVGA)
      if strcmpEq iter_l "VMSVGA" then
        cmd (.setGraphicsControllerType m .VMSVGA)
    return (none : Option Unit)) graphicsCtrlType
  cmd (.setAccelerate2DVideoEnabled m true)

/-- What each of the setters keeps, `setGraphics` keeps. -/
theorem triple_setGraphics {S : Type} {v : View vboxSig S} {I : S → Prop}
    {E : Exit → S → Prop}
    {m : IMachine} {ramSize monitorCount : Int} (cardController : String) (enable3D : Bool)
    (h3D : Triple v I (cmd (.setAccelerate3DEnabled m true)) (fun _ => I) E)
    (hram : Triple v I (cmd (.setVRAMSize m (uint32 ramSize))) (fun _ => I) E)
    (hmon : Triple v I (cmd (.setMonitorCount m (uint32 monitorCount))) (fun _ => I) E)
    (htype : ∀ g, Triple v I (cmd (.setGraphicsControllerType m g)) (fun _ => I) E)
    (h2D : Triple v I (cmd (.setAccelerate2DVideoEnabled m true)) (fun _ => I) E) :
    Triple v I (setGraphics ramSize monitorCount cardController enable3D m) (fun _ => I) E := by
  dsimp only [setGraphics]
  refine triple_when (fun _ => h3D) ?_
  refine hram.bind fun _ => hmon.bind fun _ => ?_
  -- the loop over the names sets a type for the one that matches, and goes on
  refine Triple.bind (Triple.forEach (R := fun _ => I) I fun iter_l _ => ?_) fun r => ?_
  · split
    · refine triple_when (fun _ => htype _) ?_
      refine triple_when (fun _ => htype _) ?_
      exact triple_when (fun _ => htype _) (Triple.ret fun _ hs => hs)
    · exact Triple.ret fun _ hs => hs
  · cases r with
    | none => exact h2D
    | some _ => exact h2D

/-- The session is unlocked only where there is a mutable machine. -/
def resetGraphics (fuel : Nat) (vmname : String) (ramSize monitorCount : Int)
    (cardController : String) (enable3D : Bool) : Vb Bool :=
  tryReport fuel do
    if ¬(ramSize ≥ 0 ∧ ramSize ≤ 128) then
      callbackdata " ramSize : 0 ~ 128MB !"
      return false
    if ¬(monitorCount ≥ 1 ∧ monitorCount ≤ 8) then
      callbackdata " monitorCount : 1 ~ 8MB !"
      return false
    let machine ← ptr (.findMachine vmname)
    if machine.isSome then
      let state ← via machine fun m => val (.state m)
      if state ∈ [MachineState.PoweredOff] then
        let session ← ptr .session
        via machine fun m => cmd (.lockMachine m session .Shared)
        let mutabmachine : COMPtr IMachine ← via session fun s => ptr (.sessionMachine s)
        if mutabmachine.isSome then
          via mutabmachine (setGraphics ramSize monitorCount cardController enable3D)
          via mutabmachine fun m => cmd (.saveSettings m)
          via session fun s => cmd (.unlockMachine s)
          releaseMachine machine
      else
        callbackdata " Virtual machine should be poweroff !"
        releaseMachine machine
        return false
    else
      callbackdata " Virtual machine does not exist !"
      releaseMachine machine
      return false
    return true

/-! ## Recording

A configuration is of one screen, and its values are checked before anything is written. Recording
itself is switched on for the machine as a whole. -/

/-- The first failing range check of `setRecordingScreenConfig`, in the order of the source. -/
def recordingRangeError (screenid width height fps kbps audioquality : Int) : Option String :=
  if ¬(screenid ≥ 0 ∧ screenid ≤ 7) then some "screenid : 0 ~ 7!"
  else if ¬(width ≥ 320 ∧ width ≤ 2880) then some "width : 320 ~ 2880!"
  else if ¬(height ≥ 200 ∧ height ≤ 1800) then some "height : 200 ~ 1800!"
  else if ¬(fps ≥ 1 ∧ fps ≤ 30) then some "fps : 1 ~ 30!"
  else if ¬(kbps ≥ 102 ∧ kbps ≤ 1024) then some "kbps : 102 ~ 1024!"
  else if ¬(audioquality ≥ 0 ∧ audioquality ≤ 2) then some "audioquality : 0 ~ 2!"
  else none

/-- The sample rate, bits and channels of an `audioquality`. -/
def audioSetting (audioquality : Int) : Option (Nat × Nat × Nat) :=
  if audioquality = 0 then some (500, 8, 1)
  else if audioquality = 1 then some (800, 16, 2)
  else if audioquality = 2 then some (1000, 24, 2)
  else none

/-- The writes of `setRecordingScreenConfig`; the file is named after the machine and the
clock. -/
def configureScreen (record : COMPtr IRecordingSettings)
    (screen : COMPtr IRecordingScreenSettings) (on : Bool) (filepath : String)
    (width height fps kbps audioquality : Int) : Vb Unit := do
  if on then
    via record fun r => cmd (.setRecordingEnabled r true)
    via screen fun s => cmd (.setScreenEnabled s true)
  via screen fun s => cmd (.setDestination s .File)
  put .result filepath
  via screen fun s => cmd (.setFilename s filepath)
  via screen fun s => cmd (.setVideoWidth s (uint32 width))
  via screen fun s => cmd (.setVideoHeight s (uint32 height))
  via screen fun s => cmd (.setVideoFPS s (uint32 fps))
  via screen fun s => cmd (.setVideoRate s (uint32 kbps))
  via screen fun s => cmd (.setVideoCodec s .AV1)
  match audioSetting audioquality with
  | some (hz, bits, channels) =>
    via screen fun s => cmd (.setAudioHz s hz)
    via screen fun s => cmd (.setAudioBits s bits)
    via screen fun s => cmd (.setAudioChannels s channels)
  | none => pure ()
  via screen fun s => cmd (.setAudioCodec s .WavPCM)

/-- The session is unlocked only where there is a mutable machine. -/
def setRecordingScreenConfig (fuel : Nat) (vmname : String) (screenid : Int) (on : Bool)
    (basepath : String) (width height fps kbps audioquality : Int) : Vb Bool :=
  tryReport fuel do
    let vediopath := if basepath ≠ "" then basepath else "/var/lib/vcloud/video"
    match recordingRangeError screenid width height fps kbps audioquality with
    | some message =>
      callbackdata message
      return false
    | none =>
      let machine ← ptr (.findMachine vmname)
      if machine.isSome then
        let state ← via machine fun m => val (.state m)
        if state ∈ [MachineState.PoweredOff] then
          let nowtime ← time
          let session ← ptr .session
          via machine fun m => cmd (.lockMachine m session .Shared)
          let mutabmachine : COMPtr IMachine ← via session fun s => ptr (.sessionMachine s)
          if mutabmachine.isSome then
            let record ← via mutabmachine fun m => ptr (.recordingSettings m)
            let screen ← via record fun r => ptr (.getScreenSettings r (uint32 screenid))
            configureScreen record screen on
              (vediopath ++ "/" ++ vmname ++ "-" ++ toString nowtime ++ ".webm")
              width height fps kbps audioquality
            via mutabmachine fun m => cmd (.saveSettings m)
            via session fun s => cmd (.unlockMachine s)
            releaseMachine machine
        else
          callbackdata " Virtual machine shoud be poweroff!"
          releaseMachine machine
          return false
      else
        callbackdata " Virtual machine does not exist !"
        releaseMachine machine
        return false
      return true

/-- The states in which `switchRecordingScreen` acts. -/
def switchRecordingStates : List MachineState :=
  [.Running, .PoweredOff, .Starting, .Stopping, .Saving, .Restoring, .Saved, .Snapshotting]

/-- The screen is fetched and not used: `on` goes to the recording of the whole machine. -/
def switchRecordingScreen (fuel : Nat) (vmname : String) (screenid : Int) (on : Bool) :
    Vb Bool :=
  tryReport fuel do
    if ¬(screenid ≥ 0 ∧ screenid ≤ 7) then
      callbackdata "screenid : 0 ~ 7!"
      return false
    let machine ← ptr (.findMachine vmname)
    if machine.isSome then
      let state ← via machine fun m => val (.state m)
      if state ∈ switchRecordingStates then
        let session ← ptr .session
        via machine fun m => cmd (.lockMachine m session .Shared)
        let mutabmachine : COMPtr IMachine ← via session fun s => ptr (.sessionMachine s)
        if mutabmachine.isSome then
          let record ← via mutabmachine fun m => ptr (.recordingSettings m)
          let _screen : COMPtr IRecordingScreenSettings ←
            via record fun r => ptr (.getScreenSettings r (uint32 screenid))
          via record fun r => cmd (.setRecordingEnabled r on)
          via mutabmachine fun m => cmd (.saveSettings m)
          via session fun s => cmd (.unlockMachine s)
          releaseMachine machine
        else
          callbackdata " Failed to get mutable machine object !"
          releaseMachine machine
          return false
      else
        callbackdata " Virtual machine should running or starting or poweroff or saved !"
        releaseMachine machine
        return false
    else
      callbackdata " Virtual machine does not exist !"
      releaseMachine machine
      return false
    return true

end VirtCore.VcaVmConfigure
