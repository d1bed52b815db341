import VirtCore.Machines.Assign
import VirtCore.Machines.Calm

/-!
# VirtCore — configuring a machine again

`resetGraphics`, `setRecordingScreenConfig` and `switchRecordingScreen` as assignments to the
settings of a machine.

* **`Succeeds`** — an execution that returns `true`, with the settings before and after.
* **`last_configuration_wins`** — when two machines that are configured alike end up alike.
-/

namespace VirtCore.Machines


open Interact Keyed VcaVmConfigure

variable {V : Hypervisor} {σ : Staged Nat ISession Field Value} {n : String} {clock : Int → Prop}
  {s : ISession} {vm : Nat} {c : Config}

/-! ## Graphics

Of the rounds of the loop only that of the given name writes a controller. -/

/-- The controller type that an accepted name asks for. -/
def controllerType (cardController : String) : Option GraphicsControllerType :=
  if strcmpEq cardController "VBoxVGA" then some .VBoxVGA
  else if strcmpEq cardController "VMSVGA" then some .VMSVGA
  else if strcmpEq cardController "VBoxSVGA" then some .VBoxSVGA
  else none

/-- The assignments of `resetGraphics`. -/
def graphicsSettings (ramSize monitorCount : Int) (cardController : String) (enable3D : Bool) :
    List (Field × Value) :=
  (if enable3D then [(.accelerate3DEnabled, .flag true)] else []) ++
    ((.VRAMSize, .nat (uint32 ramSize)) :: (.monitorCount, .nat (uint32 monitorCount)) ::
      (((controllerType cardController).map fun g =>
        (Field.graphicsControllerType, Value.graphics g)).toList ++
      [(.accelerate2DVideoEnabled, .flag true)]))

/-- What the loop of `resetGraphics` assigns in one round. -/
def roundSettings (cardController name : String) : List (Field × Value) :=
  if strcmpEq cardController name then
    (controllerType name).toList.map fun g => (.graphicsControllerType, .graphics g)
  else []

theorem strcmpEq_known {card a b : String} (ha : strcmpEq card a) (hb : strcmpEq card b) :
    strcmpEq a b := by
  unfold strcmpEq at *
  rw [beq_iff_eq] at *
  rw [← ha, hb]

theorem rounds_settings (card : String) :
    graphicsCtrlType.flatMap (roundSettings card) =
      ((controllerType card).map fun g =>
        (Field.graphicsControllerType, Value.graphics g)).toList := by
  have h₁ : ¬(strcmpEq card "VBoxVGA" ∧ strcmpEq card "VMSVGA") :=
    fun h => absurd (strcmpEq_known h.1 h.2) (by decide)
  have h₂ : ¬(strcmpEq card "VBoxVGA" ∧ strcmpEq card "VBoxSVGA") :=
    fun h => absurd (strcmpEq_known h.1 h.2) (by decide)
  have h₃ : ¬(strcmpEq card "VMSVGA" ∧ strcmpEq card "VBoxSVGA") :=
    fun h => absurd (strcmpEq_known h.1 h.2) (by decide)
  have hround (name : String) (g : GraphicsControllerType) (hg : controllerType name = some g) :
      roundSettings card name =
        if strcmpEq card name then [(.graphicsControllerType, .graphics g)] else [] := by
    rw [roundSettings, hg]
    rfl
  simp only [graphicsCtrlType, List.flatMap_cons, List.flatMap_nil,
    hround "VBoxVGA" .VBoxVGA (by decide), hround "VMSVGA" .VMSVGA (by decide),
    hround "VBoxSVGA" .VBoxSVGA (by decide), controllerType]
  -- the name matches one of the three at most
  by_cases a : strcmpEq card "VBoxVGA" <;> by_cases b : strcmpEq card "VMSVGA" <;>
    by_cases d : strcmpEq card "VBoxSVGA" <;> simp_all

theorem sets_round {card name : String} (hname : name ∈ graphicsCtrlType) :
    Sets V n clock σ vm c s (roundSettings card name) none (do
      if strcmpEq card name then
        if strcmpEq name "VBoxSVGA" then
          cmd (.setGraphicsControllerType ⟨vm, .mutable s⟩ .VBoxSVGA)
        if strcmpEq name "VBoxVGA" then
          cmd (.setGraphicsControllerType ⟨vm, .mutable s⟩ .VBoxVGA)
        if strcmpEq name "VMSVGA" then
          cmd (.setGraphicsControllerType ⟨vm, .mutable s⟩ .VMSVGA)
      return (none : Option Unit)) := by
  unfold roundSettings
  simp only [graphicsCtrlType, List.mem_cons, List.not_mem_nil, or_false] at hname
  split
  · rcases hname with rfl | rfl | rfl
    · exact sets_bind (sets_cmd rfl) (sets_ret none)
    · exact sets_bind (sets_cmd rfl) (sets_ret none)
    · exact sets_bind (sets_cmd rfl) (sets_ret none)
  · exact sets_ret none

theorem sets_setGraphics (ramSize monitorCount : Int) (cardController : String)
    (enable3D : Bool) :
    Sets V n clock σ vm c s (graphicsSettings ramSize monitorCount cardController enable3D) ()
      (setGraphics ramSize monitorCount cardController enable3D ⟨vm, .mutable s⟩) := by
  dsimp only [setGraphics]
  refine sets_when (fun _ => sets_cmd rfl) ?_
  refine sets_cmd_bind rfl ?_
  refine sets_cmd_bind rfl ?_
  rw [← rounds_settings]
  exact sets_bind (sets_forEach fun x hx => sets_round hx) (sets_cmd rfl)

theorem configures_resetGraphics (fuel : Nat) (ramSize monitorCount : Int)
    (cardController : String) (enable3D : Bool) :
    Configures V σ n clock (· = graphicsSettings ramSize monitorCount cardController enable3D)
      (resetGraphics fuel n ramSize monitorCount cardController enable3D) := by
  refine configures_tryReport ?_
  split
  · exact (refuses_put _ _).configures
  dsimp only
  split
  · exact (refuses_put _ _).configures
  refine configures_find (refuses_release _) fun m => ?_
  refine configures_val (fun _ _ => rfl) fun st => ?_
  split
  · refine configures_opens fun s c => ?_
    exact draft_sets (sets_setGraphics ramSize monitorCount cardController enable3D)
      (configures_saves rfl)
  · exact (refuses_release _).on

/-! ## Recording

The flags of the screens are only ever set; the other fields get the values of the request. -/

/-- The assignments of `setRecordingScreenConfig` to a screen, after those of `on`. -/
def videoSettings (screen : Nat) (filepath : String) (width height fps kbps audioquality : Int) :
    List (Field × Value) :=
  [(.screen screen .destination, .destination .File), (.screen screen .filename, .text filepath),
    (.screen screen .videoWidth, .nat (uint32 width)),
    (.screen screen .videoHeight, .nat (uint32 height)),
    (.screen screen .videoFPS, .nat (uint32 fps)), (.screen screen .videoRate, .nat (uint32 kbps)),
    (.screen screen .videoCodec, .videoCodec .AV1)] ++
  ((match audioSetting audioquality with
    | some (hz, bits, channels) => [(.screen screen .audioHz, .nat hz),
        (.screen screen .audioBits, .nat bits), (.screen screen .audioChannels, .nat channels)]
    | none => []) ++
  [(.screen screen .audioCodec, .audioCodec .WavPCM)])

/-- The assignments of `setRecordingScreenConfig`. -/
def recordingSettings (screen : Nat) (on : Bool) (filepath : String)
    (width height fps kbps audioquality : Int) : List (Field × Value) :=
  (if on then [(.recordingEnabled, .flag true), (.screen screen .enabled, .flag true)] else []) ++
    videoSettings screen filepath width height fps kbps audioquality

theorem sets_configureScreen (screen : Nat) (on : Bool) (filepath : String)
    (width height fps kbps audioquality : Int) :
    Sets V n clock σ vm c s
      (recordingSettings screen on filepath width height fps kbps audioquality) ()
      (configureScreen (some ⟨⟨vm, .mutable s⟩⟩)
        (some ⟨⟨vm, .mutable s⟩, screen⟩) on
        filepath width height fps kbps audioquality) := by
  have hvideo : Sets V n clock σ vm c s
      (videoSettings screen filepath width height fps kbps audioquality) ()
      (configureScreen (some ⟨⟨vm, .mutable s⟩⟩)
        (some ⟨⟨vm, .mutable s⟩, screen⟩) false
        filepath width height fps kbps audioquality) := by
    unfold videoSettings configureScreen
    generalize audioSetting audioquality = audio
    refine sets_cmd_bind rfl ?_
    refine sets_put_bind ?_
    refine sets_cmd_bind rfl ?_
    refine sets_cmd_bind rfl ?_
    refine sets_cmd_bind rfl ?_
    refine sets_cmd_bind rfl ?_
    refine sets_cmd_bind rfl ?_
    refine sets_cmd_bind rfl ?_
    rcases audio with _ | ⟨hz, bits, channels⟩
    · exact sets_cmd rfl
    · refine sets_cmd_bind rfl ?_
      refine sets_cmd_bind rfl ?_
      exact sets_cmd_bind rfl (sets_cmd rfl)
  cases on with
  | false => exact hvideo
  | true =>
    refine sets_cmd_bind rfl ?_
    exact sets_cmd_bind rfl hvideo

/-- Where there is no such screen, the configuration ends there. -/
theorem exits_noScreen {v : View vboxSig (VBoxHost × (Nat → Prop))} {m : IMachine} (on : Bool)
    (filepath : String) (width height fps kbps audioquality : Int) :
    Triple v (fun _ => True)
      (configureScreen (some ⟨m⟩) none on filepath width height fps kbps audioquality)
      (fun _ _ => False) fun _ _ => True := by
  cases on with
  | false => exact Triple.exit fun _ _ => trivial
  | true =>
    intro st hst
    exact (wp_bind _ _ _ _).mpr ((wp_cmd _ _ _).mpr ⟨fun _ => trivial, fun _ _ => trivial⟩)

/-- The file that `setRecordingScreenConfig` names. -/
def recordingFile (n basepath : String) (now : Int) : String :=
  (if basepath ≠ "" then basepath else "/var/lib/vcloud/video") ++ "/" ++ n ++ "-" ++
    toString now ++ ".webm"

theorem configures_setRecordingScreenConfig (fuel : Nat) (screenid : Int) (on : Bool)
    (basepath : String) (width height fps kbps audioquality : Int) :
    Configures V σ n clock
      (fun ws => ∃ now, clock now ∧ ws = recordingSettings (uint32 screenid) on
        (recordingFile n basepath now) width height fps kbps audioquality)
      (setRecordingScreenConfig fuel n screenid on basepath width height fps kbps
        audioquality) := by
  refine configures_tryReport ?_
  dsimp only
  split
  · exact (refuses_put _ _).configures
  refine configures_find (refuses_release _) fun m => ?_
  refine configures_val (fun _ _ => rfl) fun st => ?_
  split
  · -- the name of the file has the time in it, which the clock tells
    refine configures_time fun now hnow => configures_opens fun s c => ?_
    refine configures_ptr (fun _ _ => rfl) (fun _ _ ho => ho) (fun _ _ => id) ?_ ?_
    · exact Triple.exit fun _ _ => trivial
    refine configures_ptr (fun _ _ => rfl) (fun _ _ ho => ho) (fun _ _ => id) ?_ ?_
    · exact Triple.bind ((exits_noScreen on _ width height fps kbps audioquality).conseq
        (fun _ _ => trivial) (fun _ _ h => h) fun _ _ h => h) fun _ _ h => h.elim
    exact draft_sets (sets_configureScreen _ on _ width height fps kbps audioquality)
      (configures_saves ⟨now, hnow, rfl⟩)
  · exact (refuses_release _).on

theorem configures_switchRecordingScreen (fuel : Nat) (screenid : Int) (on : Bool) :
    Configures V σ n clock (· = [(.recordingEnabled, .flag on)])
      (switchRecordingScreen fuel n screenid on) := by
  refine configures_tryReport ?_
  split
  · exact (refuses_put _ _).configures
  refine configures_find (refuses_release _) fun m => ?_
  refine configures_val (fun _ _ => rfl) fun st => ?_
  split
  · refine configures_opens fun s c => ?_
    refine configures_ptr (fun _ _ => rfl) (fun _ _ ho => ho) (fun _ _ => id) ?_ ?_
    · exact Triple.exit fun _ _ => trivial
    -- the settings of the screen are fetched, and not used
    refine configures_ptr (fun _ _ => rfl) (fun _ _ ho => ho) (fun _ _ => id) ?_ ?_
    · exact draft_sets (sets_cmd rfl) (configures_saves rfl)
    · exact draft_sets (sets_cmd rfl) (configures_saves rfl)
  · exact (refuses_release _).on

/-! ## Two configurations

An operation that succeeds has assigned what its arguments say. So two of them leave what the last
one says, where both assign the same fields. -/

/-- The execution `r` of an operation on the machine named `n` returns `true`, in a host in which
every session that has a lock has a machine: it takes the settings of that machine from `c` to
`d`. -/
structure Succeeds {J : Jsoncpp} (V : Hypervisor) (h : VBoxHost) (r : OpRun J) (n : String)
    (c d : Config) : Prop where
  admits : (hostView V).Admits h r.trace
  returned : r.result = .ok (some true)
  machine : ∀ e ∈ r.trace, ¬noMutable e.1 e.2
  changes : ∃ m, (⟨.ptr (.findMachine n), .ok (some m)⟩ : Event vboxSig) ∈ r.trace ∧
    h.store.saved m.vm = some c ∧ ((hostView V).after h r.trace).store.saved m.vm = some d

/-- An execution of an operation that makes assignments makes them. -/
theorem Succeeds.assigns {J : Jsoncpp} {h : VBoxHost} {r : OpRun J} {d : Config}
    {W : List (Field × Value) → Prop} {p : Vb Bool} (hs : Succeeds V h r n c d)
    (hprog : r.op.prog J r.fuel = some <$> p) (hclock : ∀ e ∈ r.trace, tells clock e.1 e.2)
    (hp : Configures V h.store n clock W p) : ∃ ws, W ws ∧ d = assign ws c := by
  have hadmits : (assignView V n clock).Admits (h, fun _ => False) r.trace :=
    View.only_admits ((View.pair_admits _ _).mpr ⟨hs.admits, View.noting_admits _ _⟩)
      fun e he => ⟨hs.machine e he, hclock e he⟩
  have hrun := (triple_some hp).runs ⟨rfl, fun _ => id⟩ (hprog ▸ r.runs) hadmits
  rw [hs.returned, View.only_after, View.pair_after] at hrun
  obtain ⟨b, hb, hassigned⟩ := hrun
  obtain ⟨m, hm, hc, hd⟩ := hs.changes
  obtain ⟨ws, hws, hassigned⟩ := hassigned (Option.some.inj hb).symm
  have hfound := hassigned m.vm ((View.noting_after _ _ _).mpr (.inr ⟨_, hm, rfl, rfl⟩))
  have hd' := hd.symm.trans hfound
  rw [hc] at hd'
  exact ⟨ws, hws, Option.some.inj hd'⟩

theorem tells_any {t : VbTrace} : ∀ e ∈ t, tells (fun _ => True) e.1 e.2 := by
  rintro ⟨a, x⟩ -
  cases a <;> trivial

/-- It is no execution of a program that returns nothing but `false`. -/
theorem Succeeds.not_refused {J : Jsoncpp} {h : VBoxHost} {r : OpRun J} {d : Config} {p : Vb Bool}
    (hs : Succeeds V h r n c d) (hprog : r.op.prog J r.fuel = some <$> p)
    (hp : Refuses V n (fun _ => True) p) : False := by
  have hadmits : (assignView V n fun _ => True).Admits (h, fun _ => False) r.trace :=
    View.only_admits ((View.pair_admits _ _).mpr ⟨hs.admits, View.noting_admits _ _⟩)
      fun e he => ⟨hs.machine e he, tells_any e he⟩
  have hrun := (triple_some hp).runs trivial (hprog ▸ r.runs) hadmits
  rw [hs.returned] at hrun
  obtain ⟨b, hb, rfl⟩ := hrun
  exact absurd (Option.some.inj hb) nofun

/-- The graphics settings are those asked for; an unknown name asks for no controller type. -/
structure GraphicsSet (ramSize monitorCount : Int) (cardController : String) (enable3D : Bool)
    (d : Config) : Prop where
  accelerate3D : d .accelerate3DEnabled = .flag enable3D
  videoMemory : d .VRAMSize = .nat (uint32 ramSize)
  monitors : d .monitorCount = .nat (uint32 monitorCount)
  controller : ∀ g, controllerType cardController = some g →
    d .graphicsControllerType = .graphics g

/-- `resetGraphics` writes the 3D flag only to switch it on. -/
theorem graphicsSet_assign {ramSize monitorCount : Int} {cardController : String}
    {enable3D : Bool} : GraphicsSet ramSize monitorCount cardController enable3D
      (assign (graphicsSettings ramSize monitorCount cardController enable3D) c) ↔
      enable3D ∨ c .accelerate3DEnabled = .flag false := by
  have hset (h : enable3D ∨ c .accelerate3DEnabled = .flag false) :
      GraphicsSet ramSize monitorCount cardController enable3D
        (assign (graphicsSettings ramSize monitorCount cardController enable3D) c) := by
    unfold graphicsSettings
    cases enable3D <;> rcases hcard : controllerType cardController with _ | g <;> constructor <;>
      simp_all
  refine ⟨fun h => ?_, hset⟩
  cases enable3D with
  | true => exact .inl rfl
  | false =>
    -- without `enable3D` the flag is not written, and has to be right already
    refine .inr (Eq.trans (assign_other fun w hw => ?_).symm h.accelerate3D)
    simp only [graphicsSettings, Bool.false_eq_true, if_false, List.nil_append, List.mem_cons,
      List.mem_append, Option.mem_toList, Option.map_eq_some_iff, List.not_mem_nil,
      or_false] at hw
    rcases hw with rfl | rfl | ⟨g, -, rfl⟩ | rfl <;>
      (intro hsame; cases hsame)

/-- It writes the controller type only where it knows the name. -/
theorem controller_assign {ramSize monitorCount : Int} {cardController : String}
    {enable3D : Bool} {c c' : Config} :
    (assign (graphicsSettings ramSize monitorCount cardController enable3D) c
        .graphicsControllerType =
      assign (graphicsSettings ramSize monitorCount cardController enable3D) c'
        .graphicsControllerType) ↔
      (controllerType cardController).isSome ∨
        c .graphicsControllerType = c' .graphicsControllerType := by
  unfold graphicsSettings
  cases enable3D <;> cases controllerType cardController <;> simp

/-- The recording settings of a screen are the same, and so is whether recording is enabled. -/
def ScreensAlike (screen : Nat) (d d' : Config) : Prop :=
  d .recordingEnabled = d' .recordingEnabled ∧ ∀ f, d (.screen screen f) = d' (.screen screen f)

/-- An accepted `setRecordingScreenConfig` writes all settings of the screen, but the flags that
enable the recording only to switch it on. -/
theorem screensAlike_assign {screen : Nat} {on : Bool} {filepath : String}
    {width height fps kbps audioquality : Int} {c c' : Config}
    (haudio : (audioSetting audioquality).isSome) :
    ScreensAlike screen
        (assign (recordingSettings screen on filepath width height fps kbps audioquality) c)
        (assign (recordingSettings screen on filepath width height fps kbps audioquality) c') ↔
      on ∨ (c .recordingEnabled = c' .recordingEnabled ∧
        c (.screen screen .enabled) = c' (.screen screen .enabled)) := by
  obtain ⟨⟨hz, bits, channels⟩, haudio⟩ := Option.isSome_iff_exists.mp haudio
  unfold recordingSettings videoSettings
  rw [haudio]
  refine ⟨fun ⟨hrecording, hscreen⟩ => ?_, fun h => ⟨?_, fun f => ?_⟩⟩
  · cases on with
    | true => exact .inl rfl
    -- without `on` both flags are what they were
    | false => exact .inr ⟨by simpa [Function.update_apply] using hrecording,
        by simpa [Function.update_apply] using hscreen .enabled⟩
  · rcases h with rfl | ⟨h, -⟩
    · exact assign_congr ⟨_, List.mem_append_left _ List.mem_cons_self, rfl⟩
    · exact assign_eq h
  · -- every other field is written, whatever it was
    by_cases hf : f = .enabled
    · subst hf
      rcases h with rfl | ⟨-, h⟩
      · exact assign_congr ⟨_,
          List.mem_append_left _ (List.mem_cons_of_mem _ List.mem_cons_self), rfl⟩
      · exact assign_eq h
    · refine assign_congr ?_
      cases f <;> first | exact absurd rfl hf | simp

/-- Arguments out of range are refused. -/
theorem refuses_range {fuel : Nat} {screenid width height fps kbps audioquality : Int} {on : Bool}
    {basepath message : String}
    (h : recordingRangeError screenid width height fps kbps audioquality = some message) :
    Refuses V n clock
      (setRecordingScreenConfig fuel n screenid on basepath width height fps kbps
        audioquality) := by
  refine triple_catchReport (I := fun _ => True) (D := fun _ _ => True) (fun _ _ _ _ _ _ => trivial)
    (fun _ _ _ => trivial) (fun _ _ _ => trivial) ?_ fun _ _ => Triple.exit fun _ _ => trivial
  simp only [h]
  exact refuses_put _ _

theorem audioSetting_isSome {screenid width height fps kbps audioquality : Int}
    (h : recordingRangeError screenid width height fps kbps audioquality = none) :
    (audioSetting audioquality).isSome := by
  have haudio : audioquality ≥ 0 ∧ audioquality ≤ 2 := by
    by_contra hout
    unfold recordingRangeError at h
    rw [if_pos hout] at h
    repeat' split at h
    all_goals cases h
  obtain rfl | rfl | rfl : audioquality = 0 ∨ audioquality = 1 ∨ audioquality = 2 := by omega
  · decide
  · decide
  · decide

theorem Succeeds.resetGraphics {J : Jsoncpp} {h : VBoxHost} {r : OpRun J} {d : Config}
    {ramSize monitorCount : Int} {cardController : String} {enable3D : Bool}
    (hs : Succeeds V h r n c d)
    (hop : r.op = .resetGraphics n ramSize monitorCount cardController enable3D) :
    d = assign (graphicsSettings ramSize monitorCount cardController enable3D) c := by
  obtain ⟨ws, rfl, hd⟩ := hs.assigns (by rw [hop]; rfl) tells_any
    (configures_resetGraphics _ _ _ _ _)
  exact hd

theorem Succeeds.setRecordingScreenConfig {J : Jsoncpp} {h : VBoxHost} {r : OpRun J} {d : Config}
    {screenid width height fps kbps audioquality : Int} {on : Bool} {basepath : String}
    (hs : Succeeds V h r n c d) (hclock : ∀ e ∈ r.trace, tells clock e.1 e.2)
    (hop : r.op = .setRecordingScreenConfig n screenid on basepath width height fps kbps
      audioquality) :
    (audioSetting audioquality).isSome ∧ ∃ now, clock now ∧
      d = assign (recordingSettings (uint32 screenid) on (recordingFile n basepath now) width
        height fps kbps audioquality) c := by
  have hprog : r.op.prog J r.fuel = some <$> VcaVmConfigure.setRecordingScreenConfig r.fuel n
      screenid on basepath width height fps kbps audioquality := by rw [hop]; rfl
  have haudio : (audioSetting audioquality).isSome := by
    cases hrange : recordingRangeError screenid width height fps kbps audioquality with
    | none => exact audioSetting_isSome hrange
    | some message => exact (hs.not_refused hprog (refuses_range hrange)).elim
  obtain ⟨ws, ⟨now, hnow, rfl⟩, hd⟩ := hs.assigns hprog hclock
    (configures_setRecordingScreenConfig _ _ _ _ _ _ _ _ _)
  exact ⟨haudio, now, hnow, hd⟩

/-- **When the last configuration wins.** Two machines on which `resetGraphics` succeeds with the
same arguments have the settings asked for, and the same controller type, exactly where the 3D
flag was asked for or off on both before, and the controller type was known or the same on both
before. Two machines on which `setRecordingScreenConfig` succeeds at the same second have the same
recording settings exactly where recording was asked for or both had the same flags before. To
configure a machine twice is to configure it once. -/
theorem last_configuration_wins {J J' : Jsoncpp} {V V' : Hypervisor} {h h' : VBoxHost}
    {r : OpRun J} {r' : OpRun J'} {n n' : String} {c c' d d' : Config}
    (hs : Succeeds V h r n c d) (hs' : Succeeds V' h' r' n' c' d') :
    (∀ ramSize monitorCount cardController enable3D,
      r.op = .resetGraphics n ramSize monitorCount cardController enable3D →
      r'.op = .resetGraphics n' ramSize monitorCount cardController enable3D →
      ((GraphicsSet ramSize monitorCount cardController enable3D d ∧
          GraphicsSet ramSize monitorCount cardController enable3D d' ∧
          d .graphicsControllerType = d' .graphicsControllerType) ↔
        (enable3D ∨ (c .accelerate3DEnabled = .flag false ∧
          c' .accelerate3DEnabled = .flag false)) ∧
        ((controllerType cardController).isSome ∨
          c .graphicsControllerType = c' .graphicsControllerType)) ∧
      (c' = d → d' = d)) ∧
    (∀ screenid on basepath width height fps kbps audioquality now,
      r.op = .setRecordingScreenConfig n screenid on basepath width height fps kbps
        audioquality →
      n' = n → r'.op = r.op →
      (∀ e ∈ r.trace, tells (· = now) e.1 e.2) →
      (∀ e ∈ r'.trace, tells (· = now) e.1 e.2) →
      (ScreensAlike (uint32 screenid) d d' ↔
        on ∨ (c .recordingEnabled = c' .recordingEnabled ∧
          c (.screen (uint32 screenid) .enabled) = c' (.screen (uint32 screenid) .enabled))) ∧
      (c' = d → d' = d)) := by
  constructor
  · intro ram mon card en hop hop'
    obtain rfl := hs.resetGraphics hop
    obtain rfl := hs'.resetGraphics hop'
    refine ⟨?_, fun htwice => by rw [htwice, assign_idem]⟩
    -- the two flags and the controller type are all that an earlier configuration can leave
    -- behind
    rw [graphicsSet_assign, graphicsSet_assign, controller_assign, ← and_assoc, ← or_and_left]
  · rintro id on base w hi fps kbps aq now hop rfl hop' hclock hclock'
    obtain ⟨haudio, _, rfl, rfl⟩ := hs.setRecordingScreenConfig hclock hop
    obtain ⟨-, _, rfl, rfl⟩ := hs'.setRecordingScreenConfig hclock' (hop'.trans hop)
    exact ⟨screensAlike_assign haudio, fun htwice => by rw [htwice, assign_idem]⟩

/-- Machine 0 has the settings `c`, and there is no other. -/
def hostWith (c : Config) : VBoxHost :=
  { oneMachine with
    store := { saved := fun vm => if vm = 0 then some c else none, draft := fun _ => none } }

/-- Of the settings, the name and whether the 3D acceleration is on. -/
def threeD (b : Bool) : Config
  | .name => .text "vm"
  | .accelerate3DEnabled => .flag b
  | _ => .absent

/-- `resetGraphics` with and without 3D acceleration. -/
def resetOnce (enable3D : Bool) : OpRun .mute :=
  Op.play .mute 0 (calm .PoweredOff) (.resetGraphics "vm" 64 1 "VMSVGA" enable3D)

theorem resetOnce_succeeds (b enable3D : Bool) :
    Succeeds plain (hostWith (threeD b)) (resetOnce enable3D) "vm" (threeD b)
      (assign (graphicsSettings 64 1 "VMSVGA" enable3D) (threeD b)) := by
  have htrace : (resetOnce enable3D).trace =
      [⟨.ptr (.findMachine "vm"), .ok (some ⟨0, .host⟩)⟩,
        ⟨.val (.state ⟨0, .host⟩), .ok .PoweredOff⟩,
        ⟨.ptr .session, .ok (some ⟨0⟩)⟩,
        ⟨.cmd (.lockMachine ⟨0, .host⟩ (some ⟨0⟩) .Shared), .ok ()⟩,
        ⟨.ptr (.sessionMachine ⟨0⟩), .ok (some ⟨0, .mutable ⟨0⟩⟩)⟩] ++
      ((if enable3D then [⟨.cmd (.setAccelerate3DEnabled ⟨0, .mutable ⟨0⟩⟩ true),
        .ok ()⟩]
        else []) ++
      [⟨.cmd (.setVRAMSize ⟨0, .mutable ⟨0⟩⟩ 64), .ok ()⟩,
        ⟨.cmd (.setMonitorCount ⟨0, .mutable ⟨0⟩⟩ 1), .ok ()⟩,
        ⟨.cmd (.setGraphicsControllerType ⟨0, .mutable ⟨0⟩⟩ .VMSVGA), .ok ()⟩,
        ⟨.cmd (.setAccelerate2DVideoEnabled ⟨0, .mutable ⟨0⟩⟩ true), .ok ()⟩,
        ⟨.cmd (.saveSettings ⟨0, .mutable ⟨0⟩⟩), .ok ()⟩,
        ⟨.cmd (.unlockMachine ⟨0⟩), .ok ()⟩,
        ⟨.release (.machine ⟨0, .host⟩), ()⟩]) := by
    cases enable3D <;> rfl
  refine ⟨?_, by cases enable3D <;> rfl, ?_, ⟨0, .host⟩, ?_, rfl, ?_⟩
  · rw [htrace]
    cases enable3D <;>
      simp [hostOk, hostNext, PtrCall.answers, PtrCall.effect, PtrCall.setting, Cmd.setting,
        Cmd.effect, VBoxHost.lock, VBoxHost.Writable, Staged.openDraft, Staged.write, hostWith,
        oneMachine, threeD, plain]
  · rw [htrace]
    cases enable3D <;> simp
  · simp [htrace]
  · rw [htrace]
    cases enable3D <;> rfl

/-- The 3D acceleration stays as it was where it is not asked for. -/
theorem threeD_kept : ¬∀ (J J' : Jsoncpp) (V V' : Hypervisor) (h h' : VBoxHost) (r : OpRun J)
    (r' : OpRun J') (n n' : String) (c c' d d' : Config) (ramSize monitorCount : Int)
    (cardController : String) (enable3D : Bool),
    Succeeds V h r n c d → Succeeds V' h' r' n' c' d' →
    r.op = .resetGraphics n ramSize monitorCount cardController enable3D →
    r'.op = .resetGraphics n' ramSize monitorCount cardController enable3D →
    d .accelerate3DEnabled = d' .accelerate3DEnabled := by
  intro hsame
  have h := hsame _ _ _ _ _ _ _ _ _ _ _ _ _ _ _ _ _ _ (resetOnce_succeeds true false)
    (resetOnce_succeeds false false) rfl rfl
  exact absurd h (by decide)

/-- Machines on which it is asked for have the settings asked for, whatever they had before. -/
theorem last_configuration_wins_threeD :
    GraphicsSet 64 1 "VMSVGA" true (assign (graphicsSettings 64 1 "VMSVGA" true) (threeD true)) ∧
    GraphicsSet 64 1 "VMSVGA" true
      (assign (graphicsSettings 64 1 "VMSVGA" true) (threeD false)) := by
  have h := (((last_configuration_wins (resetOnce_succeeds true true)
    (resetOnce_succeeds false true)).1 64 1 "VMSVGA" true rfl rfl).1.mpr
      ⟨.inl rfl, .inl (by decide)⟩)
  exact ⟨h.1, h.2.1⟩

end VirtCore.Machines
