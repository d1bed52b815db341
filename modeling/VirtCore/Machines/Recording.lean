import VirtCore.Machines.Reconfigure

/-!
# VirtCore — recording, screen by screen

VirtualBox records a screen where the recording settings of the machine and those of the screen are
both enabled. `setRecordingScreenConfig` enables both, and `switchRecordingScreen` sets the flag of
the machine.

* **`Configured`** — a sequence of calls that succeed on a machine.
* **`recordingAfter`** / **`enabledAfter`** — the two flags after such a sequence.
* **`switchRecordingScreen_iff`** — when a switch is one of a single screen.
-/

namespace VirtCore.Machines


open Interact Keyed VcaVmConfigure

variable {n : String} {c d e : Config} {ops : List Op} {op : Op} {screen : Nat}

/-- VirtualBox records the screen. -/
def Records (c : Config) (screen : Nat) : Prop :=
  c .recordingEnabled = .flag true ∧ c (.screen screen .enabled) = .flag true

/-- The calls succeed on the machine named `n`, one after the other, and take its settings from `c`
to `d`. -/
inductive Configured (n : String) : List Op → Config → Config → Prop
  | nil {c : Config} : Configured n [] c c
  | snoc {J : Jsoncpp} {V : Hypervisor} {h : VBoxHost} {r : OpRun J} {ops : List Op}
      {c d e : Config} : Configured n ops c d → Succeeds V h r n d e →
      Configured n (ops ++ [r.op]) c e

/-- The recording operations on the machine named `n`. -/
def recordingOf (n : String) : Op → Prop
  | .setRecordingScreenConfig n' .. => n' = n
  | .switchRecordingScreen n' .. => n' = n
  | _ => False

/-- What a call does to the flag of the machine. -/
def recordingNext (b : Prop) : Op → Prop
  | .setRecordingScreenConfig _ _ on .. => on ∨ b
  | .switchRecordingScreen _ _ on => on
  | _ => b

/-- What a call does to the flag of a screen. -/
def enabledNext (screen : Nat) (b : Prop) : Op → Prop
  | .setRecordingScreenConfig _ screenid on .. => (on ∧ screen = uint32 screenid) ∨ b
  | _ => b

/-- The flag of the machine after a sequence of calls. -/
def recordingAfter (c : Config) (ops : List Op) : Prop :=
  ops.foldl recordingNext (c .recordingEnabled = .flag true)

/-- The flag of a screen after a sequence of calls. -/
def enabledAfter (c : Config) (ops : List Op) (screen : Nat) : Prop :=
  ops.foldl (enabledNext screen) (c (.screen screen .enabled) = .flag true)

/-! ## One call

A switch writes one field, which is of the machine and not of a screen. A configuration writes
that field and the flags of screens, and takes no flag away. -/

theorem Succeeds.switchRecordingScreen {J : Jsoncpp} {V : Hypervisor} {h : VBoxHost} {r : OpRun J}
    {screenid : Int} {on : Bool} (hs : Succeeds V h r n c d)
    (hop : r.op = .switchRecordingScreen n screenid on) :
    d = assign [(.recordingEnabled, .flag on)] c := by
  obtain ⟨ws, rfl, hd⟩ := hs.assigns (by rw [hop]; rfl) tells_any
    (configures_switchRecordingScreen _ _ _)
  exact hd

/-- `setRecordingScreenConfig` writes the flag of the machine only to set it. -/
theorem assign_recordingEnabled {s : Nat} {on : Bool} {filepath : String}
    {width height fps kbps audioquality : Int} :
    assign (recordingSettings s on filepath width height fps kbps audioquality) c
        .recordingEnabled = if on then .flag true else c .recordingEnabled := by
  unfold recordingSettings videoSettings
  rcases audioSetting audioquality with _ | ⟨hz, bits, channels⟩ <;> cases on <;> simp

/-- It writes the flag of its screen only to set it. -/
theorem assign_screenEnabled {s : Nat} {on : Bool} {filepath : String}
    {width height fps kbps audioquality : Int} :
    assign (recordingSettings s on filepath width height fps kbps audioquality) c
        (.screen screen .enabled) =
      if on ∧ screen = s then .flag true else c (.screen screen .enabled) := by
  unfold recordingSettings videoSettings
  rcases audioSetting audioquality with _ | ⟨hz, bits, channels⟩ <;> cases on <;>
    simp [Function.update_apply]

/-- The flags after a recording operation. -/
theorem Succeeds.flags {J : Jsoncpp} {V : Hypervisor} {h : VBoxHost} {r : OpRun J}
    (hs : Succeeds V h r n c d) (hop : recordingOf n r.op) (screen : Nat) :
    (d .recordingEnabled = .flag true ↔
      recordingNext (c .recordingEnabled = .flag true) r.op) ∧
    (d (.screen screen .enabled) = .flag true ↔
      enabledNext screen (c (.screen screen .enabled) = .flag true) r.op) := by
  cases hr : r.op <;> rw [hr] at hop <;> try exact hop.elim
  case setRecordingScreenConfig n' screenid on base w hi fps kbps aq =>
    obtain rfl : n' = n := hop
    obtain ⟨-, now, -, rfl⟩ := hs.setRecordingScreenConfig tells_any hr
    rw [assign_recordingEnabled, assign_screenEnabled]
    constructor
    · cases on <;> simp [recordingNext]
    · -- only the flag of this screen is written, and only where `on` is true
      by_cases hscreen : on ∧ screen = uint32 screenid
      · simp [hscreen, enabledNext]
      · simp [enabledNext, hscreen]
  case switchRecordingScreen n' screenid on =>
    obtain rfl : n' = n := hop
    obtain rfl := hs.switchRecordingScreen hr
    simp [recordingNext, enabledNext]

/-! ## Sequences of calls

The field of the machine is that of the last call; a screen has its flag from the first
configuration on that asks for it. -/

/-- The flags after a sequence of recording operations. -/
theorem Configured.flags (hc : Configured n ops c d) (hops : ∀ op ∈ ops, recordingOf n op)
    (screen : Nat) :
    (d .recordingEnabled = .flag true ↔ recordingAfter c ops) ∧
    (d (.screen screen .enabled) = .flag true ↔ enabledAfter c ops screen) := by
  induction hc with
  | nil => exact ⟨Iff.rfl, Iff.rfl⟩
  | snoc hc hs ih =>
    obtain ⟨hops, hop⟩ := List.forall_mem_append.mp hops
    obtain ⟨hrecording, henabled⟩ := ih hops
    have hstep := hs.flags (hop _ List.mem_cons_self) screen
    unfold recordingAfter enabledAfter
    rw [List.foldl_append, List.foldl_append, hstep.1, hstep.2, hrecording, henabled]
    exact ⟨Iff.rfl, Iff.rfl⟩

/-- **When a switch is one of a single screen.** After any sequence of `setRecordingScreenConfig`
and `switchRecordingScreen`, a `switchRecordingScreen` that succeeds switches its screen, and leaves
every other as it was, exactly where the screen that is switched on was enabled by a configuration
before, and where another screen was, the machine recorded already as it is to record now. -/
theorem switchRecordingScreen_iff {J : Jsoncpp} {V : Hypervisor} {h : VBoxHost} {r : OpRun J}
    {screenid : Int} {on : Bool} {c₀ : Config} (hc : Configured n ops c₀ c)
    (hops : ∀ op ∈ ops, recordingOf n op) (hs : Succeeds V h r n c d)
    (hop : r.op = .switchRecordingScreen n screenid on) :
    ((Records d (uint32 screenid) ↔ on) ∧
      ∀ t : Int, 0 ≤ t → t ≤ 7 → t ≠ screenid →
        (Records d (uint32 t) ↔ Records c (uint32 t))) ↔
    (on → enabledAfter c₀ ops (uint32 screenid)) ∧
      ∀ t : Int, 0 ≤ t → t ≤ 7 → t ≠ screenid → enabledAfter c₀ ops (uint32 t) →
        (recordingAfter c₀ ops ↔ on) := by
  obtain rfl := hs.switchRecordingScreen hop
  -- afterwards a screen records if `on` is true and it has been enabled before
  have hrecords (screen : Nat) :
      Records (assign [(.recordingEnabled, .flag on)] c) screen ↔
        on ∧ enabledAfter c₀ ops screen := by
    rw [← (hc.flags hops screen).2]
    simp [Records]
  -- and beforehand if recording was on and it had been enabled
  have hbefore (screen : Nat) :
      Records c screen ↔ recordingAfter c₀ ops ∧ enabledAfter c₀ ops screen := by
    rw [← (hc.flags hops screen).1, ← (hc.flags hops screen).2]
    rfl
  simp only [hrecords, hbefore]
  refine and_congr and_iff_left_iff_imp ?_
  refine forall_congr' fun t => imp_congr_right fun _ => imp_congr_right fun _ =>
    imp_congr_right fun _ => ?_
  rw [and_congr_left_iff]
  exact imp_congr_right fun _ => Iff.comm

/-- Screen 0 or 1 is configured, with the recording on. -/
def configureRun (screenid : Int) : OpRun .mute :=
  Op.play .mute 0 (calm .PoweredOff)
    (.setRecordingScreenConfig "vm" screenid true "" 640 480 25 512 1)

/-- The recording of screen 0 is switched off. -/
def switchRun : OpRun .mute :=
  Op.play .mute 0 (calm .PoweredOff) (.switchRecordingScreen "vm" 0 false)

theorem configureRun_succeeds {screenid : Int} (hid : screenid = 0 ∨ screenid = 1)
    (hname : c .name = .text "vm") :
    Succeeds plain (hostWith c) (configureRun screenid) "vm" c
      (assign (recordingSettings (uint32 screenid) true (recordingFile "vm" "" 0) 640 480 25 512 1)
        c) := by
  -- every setting is written once, between locking and saving
  have htrace : (configureRun screenid).trace =
      [⟨.ptr (.findMachine "vm"), .ok (some ⟨0, .host⟩)⟩,
        ⟨.val (.state ⟨0, .host⟩), .ok .PoweredOff⟩, ⟨.time, (0 : Int)⟩,
        ⟨.ptr .session, .ok (some ⟨0⟩)⟩,
        ⟨.cmd (.lockMachine ⟨0, .host⟩ (some ⟨0⟩) .Shared), .ok ()⟩,
        ⟨.ptr (.sessionMachine ⟨0⟩), .ok (some ⟨0, .mutable ⟨0⟩⟩)⟩,
        ⟨.ptr (.recordingSettings ⟨0, .mutable ⟨0⟩⟩),
          .ok (some ⟨⟨0, .mutable ⟨0⟩⟩⟩)⟩,
        ⟨.ptr (.getScreenSettings ⟨⟨0, .mutable ⟨0⟩⟩⟩ (uint32 screenid)),
          .ok (some ⟨⟨0, .mutable ⟨0⟩⟩, uint32 screenid⟩)⟩,
        ⟨.cmd (.setRecordingEnabled ⟨⟨0, .mutable ⟨0⟩⟩⟩ true), .ok ()⟩,
        ⟨.cmd (.setScreenEnabled ⟨⟨0, .mutable ⟨0⟩⟩, uint32 screenid⟩ true),
          .ok ()⟩,
        ⟨.cmd (.setDestination ⟨⟨0, .mutable ⟨0⟩⟩, uint32 screenid⟩ .File), .ok ()⟩,
        ⟨.put .result (recordingFile "vm" "" 0), ()⟩,
        ⟨.cmd (.setFilename ⟨⟨0, .mutable ⟨0⟩⟩, uint32 screenid⟩
          (recordingFile "vm" "" 0)),
          .ok ()⟩,
        ⟨.cmd (.setVideoWidth ⟨⟨0, .mutable ⟨0⟩⟩, uint32 screenid⟩ 640), .ok ()⟩,
        ⟨.cmd (.setVideoHeight ⟨⟨0, .mutable ⟨0⟩⟩, uint32 screenid⟩ 480), .ok ()⟩,
        ⟨.cmd (.setVideoFPS ⟨⟨0, .mutable ⟨0⟩⟩, uint32 screenid⟩ 25), .ok ()⟩,
        ⟨.cmd (.setVideoRate ⟨⟨0, .mutable ⟨0⟩⟩, uint32 screenid⟩ 512), .ok ()⟩,
        ⟨.cmd (.setVideoCodec ⟨⟨0, .mutable ⟨0⟩⟩, uint32 screenid⟩ .AV1), .ok ()⟩,
        ⟨.cmd (.setAudioHz ⟨⟨0, .mutable ⟨0⟩⟩, uint32 screenid⟩ 800), .ok ()⟩,
        ⟨.cmd (.setAudioBits ⟨⟨0, .mutable ⟨0⟩⟩, uint32 screenid⟩ 16), .ok ()⟩,
        ⟨.cmd (.setAudioChannels ⟨⟨0, .mutable ⟨0⟩⟩, uint32 screenid⟩ 2), .ok ()⟩,
        ⟨.cmd (.setAudioCodec ⟨⟨0, .mutable ⟨0⟩⟩, uint32 screenid⟩ .WavPCM),
          .ok ()⟩,
        ⟨.cmd (.saveSettings ⟨0, .mutable ⟨0⟩⟩), .ok ()⟩,
        ⟨.cmd (.unlockMachine ⟨0⟩), .ok ()⟩,
        ⟨.release (.machine ⟨0, .host⟩), ()⟩] := by
    rcases hid with rfl | rfl <;> rfl
  refine ⟨?_, by rcases hid with rfl | rfl <;> rfl, ?_, ⟨0, .host⟩, ?_, rfl, ?_⟩
  · rw [htrace]
    simp [hostOk, hostNext, PtrCall.answers, PtrCall.effect, PtrCall.setting, Cmd.setting,
      Cmd.effect, VBoxHost.lock, VBoxHost.Writable, Staged.openDraft, Staged.write, hostWith,
      oneMachine, hname, plain]
  · rw [htrace]
    simp
  · simp [htrace]
  · rw [htrace]
    rfl

theorem switchRun_succeeds (hname : c .name = .text "vm") :
    Succeeds plain (hostWith c) switchRun "vm" c (assign [(.recordingEnabled, .flag false)] c) := by
  have htrace : switchRun.trace =
      [⟨.ptr (.findMachine "vm"), .ok (some ⟨0, .host⟩)⟩,
        ⟨.val (.state ⟨0, .host⟩), .ok .PoweredOff⟩,
        ⟨.ptr .session, .ok (some ⟨0⟩)⟩,
        ⟨.cmd (.lockMachine ⟨0, .host⟩ (some ⟨0⟩) .Shared), .ok ()⟩,
        ⟨.ptr (.sessionMachine ⟨0⟩), .ok (some ⟨0, .mutable ⟨0⟩⟩)⟩,
        ⟨.ptr (.recordingSettings ⟨0, .mutable ⟨0⟩⟩),
          .ok (some ⟨⟨0, .mutable ⟨0⟩⟩⟩)⟩,
        ⟨.ptr (.getScreenSettings ⟨⟨0, .mutable ⟨0⟩⟩⟩ 0),
          .ok (some ⟨⟨0, .mutable ⟨0⟩⟩, 0⟩)⟩,
        ⟨.cmd (.setRecordingEnabled ⟨⟨0, .mutable ⟨0⟩⟩⟩ false), .ok ()⟩,
        ⟨.cmd (.saveSettings ⟨0, .mutable ⟨0⟩⟩), .ok ()⟩,
        ⟨.cmd (.unlockMachine ⟨0⟩), .ok ()⟩,
        ⟨.release (.machine ⟨0, .host⟩), ()⟩] := rfl
  refine ⟨?_, rfl, ?_, ⟨0, .host⟩, ?_, rfl, ?_⟩
  · rw [htrace]
    simp [hostOk, hostNext, PtrCall.answers, PtrCall.effect, PtrCall.setting, Cmd.setting,
      Cmd.effect, VBoxHost.lock, VBoxHost.Writable, Staged.openDraft, hostWith, oneMachine, hname,
      plain]
  · rw [htrace]
    simp
  · simp [htrace]
  · rw [htrace]
    rfl

/-- A switch of screen 0 stops the recording of screen 1, which was switched on before. -/
theorem switch_stops_other : ¬∀ (J : Jsoncpp) (V : Hypervisor) (h : VBoxHost) (r : OpRun J)
    (n : String) (ops : List Op) (c₀ c d : Config) (screenid : Int) (on : Bool),
    Configured n ops c₀ c → (∀ op ∈ ops, recordingOf n op) → Succeeds V h r n c d →
    r.op = .switchRecordingScreen n screenid on →
    (Records d (uint32 screenid) ↔ on) ∧ ∀ t : Int, 0 ≤ t → t ≤ 7 → t ≠ screenid →
      (Records d (uint32 t) ↔ Records c (uint32 t)) := by
  intro hswitch
  have hfirst : Configured "vm" [(configureRun 0).op] (threeD false) _ :=
    Configured.nil.snoc (configureRun_succeeds (.inl rfl) rfl)
  have hsecond := hfirst.snoc (configureRun_succeeds (.inr rfl) rfl)
  have h := (hswitch .mute plain _ switchRun "vm" _ _ _ _ 0 false hsecond
    (by simp [configureRun, Op.play, recordingOf]) (switchRun_succeeds rfl) rfl).2 1
    (by decide) (by decide) (by decide)
  simp [Records, recordingSettings, videoSettings, audioSetting] at h

/-- The settings after screen 0 alone was configured. -/
def configuredOnce : Config :=
  assign (recordingSettings (uint32 0) true (recordingFile "vm" "" 0) 640 480 25 512 1)
    (threeD false)

/-- Where screen 0 alone was configured, it alone is switched. -/
theorem switchRecordingScreen_iff_alone :
    (Records (assign [(.recordingEnabled, .flag false)] configuredOnce) (uint32 0) ↔ false) ∧
    ∀ t : Int, 0 ≤ t → t ≤ 7 → t ≠ 0 →
      (Records (assign [(.recordingEnabled, .flag false)] configuredOnce) (uint32 t) ↔
        Records configuredOnce (uint32 t)) := by
  have hfirst : Configured "vm" [(configureRun 0).op] (threeD false) configuredOnce :=
    Configured.nil.snoc (configureRun_succeeds (.inl rfl) rfl)
  refine (switchRecordingScreen_iff hfirst ?_ (switchRun_succeeds rfl) rfl).mpr
    ⟨nofun, fun t _ _ ht henabled => ?_⟩
  · simp [configureRun, Op.play, recordingOf]
  · have huint : uint32 t ≠ uint32 0 := by unfold uint32; omega
    simp [enabledAfter, enabledNext, configureRun, Op.play, huint, threeD] at henabled

end VirtCore.Machines
