import VirtCore.Machines.Calm
import VirtCore.Machines.Drafting

/-!
# VirtCore — settings are committed all or nothing

* **`Op.commitsTo`** — the operations that ask for a powered-off machine and change its settings,
  with the fields that each sets.
* **`Op.commits`** — each leaves the settings alone or saves one draft of the machine it found.
* **`settings_once`** — it is saved once at most.
* **`settings_commit`** — so a failure before that changes nothing.
-/

namespace VirtCore.Machines


open Interact Keyed VcaVmConfigure

variable {V : Hypervisor} {σ : Staged Nat ISession Field Value} {n : String} {P : Field → Prop}
  {s : ISession} {vm : Nat} {α : Type}

/-! ## Network adapters

The operations on an adapter differ in the change only, and the change in the fields that it
writes. -/

theorem commits_changeAdapter {m : IMachine} {slot : Int} {change : INetworkAdapter → Vb Unit}
    (h : ∀ s vm, Writes V σ n P s vm (change ⟨⟨vm, .mutable s⟩, uint32 slot⟩)) :
    CommitsOn V σ n P m.vm (changeAdapter (some m) slot change) := by
  refine on_opens (fun s => leaves_nullUse) fun s => ?_
  refine draft_ptr (fun _ _ => rfl) (fun _ _ ho => ho) ?_ ?_
  · exact leaves_put (leaves_release (leaves_ret false))
  · exact draft_writes (h s m.vm) fun _ => draft_saves ends_closes

theorem commits_poweredOff {slot : Int} {change : INetworkAdapter → Vb Unit}
    (h : ∀ s vm, Writes V σ n P s vm (change ⟨⟨vm, .mutable s⟩, uint32 slot⟩)) :
    Commits V σ n P (poweredOff change n slot) := by
  unfold poweredOff
  split
  · exact (leaves_put (leaves_ret false)).commits
  · refine commits_find (leaves_put (leaves_release (leaves_ret false))) fun m => ?_
    refine on_val (fun _ _ => rfl) fun st => ?_
    split
    · exact commits_changeAdapter h
    · exact (leaves_put (leaves_release (leaves_ret false))).on

/-- The fields that a network operation sets on an adapter. -/
def adapterFields (slot : Int) (fields : List AdapterField) : List Field :=
  fields.map (.adapter (uint32 slot))

theorem commits_addBridge (slot : Int) (hostpci : String) :
    Commits V σ n (· ∈ adapterFields slot [.bridgedInterface, .attachmentType, .enabled])
      (addBridge n slot hostpci) := by
  refine commits_poweredOff fun s vm => ?_
  refine writes_bind (writes_cmd rfl (by simp [adapterFields])) fun _ => ?_
  exact writes_bind (writes_cmd rfl (by simp [adapterFields])) fun _ =>
    writes_cmd rfl (by simp [adapterFields])

theorem commits_addNat (fuel : Nat) (slot : Int) :
    Commits V σ n (· ∈ adapterFields slot [.attachmentType, .enabled])
      (addNat fuel n slot) := by
  refine commits_tryReport (commits_poweredOff fun s vm => ?_)
  exact writes_bind (writes_cmd rfl (by simp [adapterFields])) fun _ =>
    writes_cmd rfl (by simp [adapterFields])

theorem commits_setAdaptorMAC (fuel : Nat) (slot : Int) (mac : String) :
    Commits V σ n (· ∈ adapterFields slot [.enabled, .MACAddress])
      (setAdaptorMAC fuel n slot mac) := by
  refine commits_tryReport (commits_poweredOff fun s vm => ?_)
  exact writes_bind (writes_cmd rfl (by simp [adapterFields])) fun _ =>
    writes_cmd rfl (by simp [adapterFields])

theorem commits_disableAdaptor (fuel : Nat) (slot : Int) :
    Commits V σ n (· ∈ adapterFields slot [.enabled]) (disableAdaptor fuel n slot) :=
  commits_tryReport (commits_poweredOff fun _ _ => writes_cmd rfl (by simp [adapterFields]))

/-! ## Processors, memory and graphics

Two operations on a number with a range, and the graphics, which are written field by field. -/

theorem commits_resetLimit {fuel : Nat} {inRange : Bool} {outOfRange : String}
    {set : IMachine → Cmd} {f : Field} {v : Value}
    (hset : ∀ m, (set m).setting = some (m, f, v)) :
    Commits V σ n (· ∈ [f]) (resetLimit fuel inRange outOfRange set n) := by
  refine commits_tryReport ?_
  split
  · exact (leaves_put (leaves_ret false)).commits
  refine commits_find (leaves_put (leaves_release (leaves_ret false))) fun m => ?_
  refine on_val (fun _ _ => rfl) fun st => ?_
  split
  · refine on_opens (fun s => ?_) fun s => ?_
    · -- without a mutable machine nothing is set, and the operation goes on
      exact leaves_unlock (leaves_release (leaves_ret true))
    · refine draft_writes (writes_cmd (hset _) List.mem_cons_self) fun _ => ?_
      exact draft_saves ends_closes
  · exact (leaves_put (leaves_release (leaves_ret false))).on

/-- The fields that `resetGraphics` sets. An unknown controller name sets none. -/
def graphicsFields (cardController : String) (enable3D : Bool) : List Field :=
  (if enable3D then [.accelerate3DEnabled] else []) ++ [.VRAMSize, .monitorCount] ++
    (if graphicsCtrlType.any (strcmpEq cardController) then [.graphicsControllerType] else []) ++
    [.accelerate2DVideoEnabled]

theorem writes_forEach {β : Type} {body : β → Vb (Option Unit)} {l : List β}
    (round : ∀ x ∈ l, Writes V σ n P s vm (body x)) :
    Writes V σ n P s vm (Prog.forEach body l) := by
  induction l with
  | nil => exact writes_ret none
  | cons x xs ih =>
    refine writes_bind (round x List.mem_cons_self) fun r => ?_
    cases r with
    | none => exact ih fun y hy => round y (List.mem_cons_of_mem x hy)
    | some b => exact writes_ret (some b)

/-- A setter under a condition. -/
theorem writes_when {c : Prop} [Decidable c] {p : Vb Unit} {k : Unit → Vb α}
    (hp : c → Writes V σ n P s vm p) (hk : Writes V σ n P s vm (k ())) :
    Writes V σ n P s vm (if c then p >>= k else k ()) := by
  split
  · exact writes_bind (hp ‹_›) fun _ => hk
  · exact hk

theorem writes_setGraphics (ramSize monitorCount : Int) (cardController : String)
    (enable3D : Bool) :
    Writes V σ n (· ∈ graphicsFields cardController enable3D) s vm
      (setGraphics ramSize monitorCount cardController enable3D ⟨vm, .mutable s⟩) := by
  dsimp only [setGraphics]
  refine writes_when (fun h => ?_) ?_
  · exact writes_cmd rfl (by simp [graphicsFields, h])
  refine writes_bind (writes_cmd rfl (by simp [graphicsFields])) fun _ => ?_
  refine writes_bind (writes_cmd rfl (by simp [graphicsFields])) fun _ => ?_
  refine writes_bind (writes_forEach fun x hx => ?_) fun _ => ?_
  · split
    · -- the type is only set where the given name is one of the list
      have hany : graphicsCtrlType.any (strcmpEq cardController) = true :=
        List.any_eq_true.mpr ⟨x, hx, ‹_›⟩
      have hset (g : GraphicsControllerType) :
          Writes V σ n (· ∈ graphicsFields cardController enable3D) s vm
            (cmd (.setGraphicsControllerType ⟨vm, .mutable s⟩ g)) :=
        writes_cmd rfl (by simp [graphicsFields, hany])
      refine writes_when (fun _ => hset _) ?_
      refine writes_when (fun _ => hset _) ?_
      exact writes_when (fun _ => hset _) (writes_ret none)
    · exact writes_ret none
  · exact writes_cmd rfl (by simp [graphicsFields])

theorem commits_resetGraphics (fuel : Nat) (ramSize monitorCount : Int) (cardController : String)
    (enable3D : Bool) :
    Commits V σ n (· ∈ graphicsFields cardController enable3D)
      (resetGraphics fuel n ramSize monitorCount cardController enable3D) := by
  refine commits_tryReport ?_
  split
  · exact (leaves_put (leaves_ret false)).commits
  dsimp only
  split
  · exact (leaves_put (leaves_ret false)).commits
  refine commits_find (leaves_put (leaves_release (leaves_ret false))) fun m => ?_
  refine on_val (fun _ _ => rfl) fun st => ?_
  split
  · refine on_opens (fun s => leaves_ret true) fun s => ?_
    refine draft_writes (writes_setGraphics ramSize monitorCount cardController enable3D)
      fun _ => ?_
    exact draft_saves ends_closes
  · exact (leaves_put (leaves_release (leaves_ret false))).on

/-! ## Recording and the remote display

The screens are configured one by one, and the remote display through its server. -/

/-- The fields that `setRecordingScreenConfig` sets on a screen. -/
def screenFields (on : Bool) (audioquality : Int) : List ScreenField :=
  (if on then [.enabled] else []) ++
    [.destination, .filename, .videoWidth, .videoHeight, .videoFPS, .videoRate, .videoCodec] ++
    (if (audioSetting audioquality).isSome then [.audioHz, .audioBits, .audioChannels] else []) ++
    [.audioCodec]

/-- The fields that `setRecordingScreenConfig` sets. -/
def recordingFields (screenid : Int) (on : Bool) (audioquality : Int) : List Field :=
  (if on then [.recordingEnabled] else []) ++
    (screenFields on audioquality).map (.screen (uint32 screenid))

theorem writes_configureScreen (screenid : Int) (on : Bool) (filepath : String)
    (width height fps kbps audioquality : Int) :
    Writes V σ n (· ∈ recordingFields screenid on audioquality) s vm
      (configureScreen (some ⟨⟨vm, .mutable s⟩⟩)
        (some ⟨⟨vm, .mutable s⟩, uint32 screenid⟩) on
        filepath width height fps kbps audioquality) := by
  have hset {c : Cmd} {f : ScreenField} {v : Value}
      (hc : c.setting = some (⟨vm, .mutable s⟩, .screen (uint32 screenid) f, v))
      (hf : f ∈ screenFields on audioquality) :
      Writes V σ n (· ∈ recordingFields screenid on audioquality) s vm (cmd c) :=
    writes_cmd hc (List.mem_append_right _ (List.mem_map_of_mem hf))
  -- what is written in any case, which is all of it where `on` is false
  have hvideo : Writes V σ n (· ∈ recordingFields screenid on audioquality) s vm
      (configureScreen (some ⟨⟨vm, .mutable s⟩⟩)
        (some ⟨⟨vm, .mutable s⟩, uint32 screenid⟩) false
        filepath width height fps kbps audioquality) := by
    refine writes_bind (hset rfl (by simp [screenFields])) fun _ => ?_
    refine writes_bind (writes_put _ _) fun _ => ?_
    refine writes_bind (hset rfl (by simp [screenFields])) fun _ => ?_
    refine writes_bind (hset rfl (by simp [screenFields])) fun _ => ?_
    refine writes_bind (hset rfl (by simp [screenFields])) fun _ => ?_
    refine writes_bind (hset rfl (by simp [screenFields])) fun _ => ?_
    refine writes_bind (hset rfl (by simp [screenFields])) fun _ => ?_
    refine writes_bind (hset rfl (by simp [screenFields])) fun _ => ?_
    split
    · have haudio : (audioSetting audioquality).isSome := by simp [*]
      refine writes_bind (hset rfl (by simp [screenFields, haudio])) fun _ => ?_
      refine writes_bind (hset rfl (by simp [screenFields, haudio])) fun _ => ?_
      refine writes_bind (hset rfl (by simp [screenFields, haudio])) fun _ => ?_
      exact hset rfl (by simp [screenFields])
    · exact hset rfl (by simp [screenFields])
  cases on with
  | false => exact hvideo
  | true =>
    refine writes_bind (writes_cmd rfl (by simp [recordingFields])) fun _ => ?_
    exact writes_bind (hset rfl (by simp [screenFields])) fun _ => hvideo

/-- Where there is no such screen, the recording is at most switched on in the draft. -/
theorem leaves_noScreen {m : IMachine} (hm : m.view = .mutable s) (on : Bool) (filepath : String)
    (width height fps kbps audioquality : Int) (k : Unit → Vb Bool) :
    Leaves V σ n P (configureScreen (some ⟨m⟩) none on filepath width height fps kbps
      audioquality >>= k) := by
  cases on with
  | false => exact leaves_nullUse
  | true =>
    intro st hst
    refine (wp_bind _ _ _ _).mpr ((wp_bind _ _ _ _).mpr ((wp_cmd _ _ _).mpr ⟨?_, ?_⟩))
    · refine fun _ => .inl (hst.next ⟨fun h => ?_, id⟩)
      show (h.write m _ _).store.saved = h.store.saved
      unfold VBoxHost.write
      rw [hm]
      rfl
    · exact fun err _ => .inl (hst.next (still_fails (.inl trivial)))

theorem commits_setRecordingScreenConfig (fuel : Nat) (screenid : Int) (on : Bool)
    (basepath : String) (width height fps kbps audioquality : Int) :
    Commits V σ n (· ∈ recordingFields screenid on audioquality)
      (setRecordingScreenConfig fuel n screenid on basepath width height fps kbps
        audioquality) := by
  refine commits_tryReport ?_
  dsimp only
  split
  · exact (leaves_put (leaves_ret false)).commits
  refine commits_find (leaves_put (leaves_release (leaves_ret false))) fun m => ?_
  refine on_val (fun _ _ => rfl) fun st => ?_
  split
  · refine on_time fun now => on_opens (fun s => leaves_ret true) fun s => ?_
    refine draft_ptr (fun _ _ => rfl) (fun _ _ ho => ho) leaves_nullUse ?_
    refine draft_ptr (fun _ _ => rfl) (fun _ _ ho => ho) ?_ ?_
    · exact leaves_noScreen (s := s) rfl on _ width height fps kbps audioquality _
    · exact draft_writes (writes_configureScreen screenid on _ width height fps kbps audioquality)
        fun _ => draft_saves ends_closes
  · exact (leaves_put (leaves_release (leaves_ret false))).on

/-- The fields that `setSimpleRemoteDisplay` sets. -/
def remoteDisplayFields : List Field :=
  [.enabled, .allowMultiConnection, .reuseSingleConnection, .authTimeout, .property "TCP/Ports",
    .property "TCP/Address"].map .VRDE

theorem commits_setSimpleRemoteDisplay (fuel : Nat) (ip : String) (port : Int)
    (allowMultiConnect reuseSingleConnect : Bool) :
    Commits V σ n (· ∈ remoteDisplayFields)
      (setSimpleRemoteDisplay fuel n ip port allowMultiConnect reuseSingleConnect) := by
  refine commits_tryReport ?_
  refine commits_find (leaves_put (leaves_release (leaves_ret false))) fun m => ?_
  refine on_val (fun _ _ => rfl) fun st => ?_
  split
  · refine on_opens (fun s => ?_) fun s => ?_
    · exact leaves_put (leaves_unlock (leaves_release (leaves_ret false)))
    · refine draft_ptr (fun _ _ => rfl) (fun _ _ ho => ho) leaves_nullUse ?_
      refine draft_writes ?_ fun _ => draft_saves ends_closes
      refine writes_bind (writes_cmd rfl (by simp [remoteDisplayFields])) fun _ => ?_
      refine writes_bind (writes_cmd rfl (by simp [remoteDisplayFields])) fun _ => ?_
      refine writes_bind (writes_cmd rfl (by simp [remoteDisplayFields])) fun _ => ?_
      refine writes_bind (writes_cmd rfl (by simp [remoteDisplayFields])) fun _ => ?_
      exact writes_bind (writes_cmd rfl (by simp [remoteDisplayFields])) fun _ =>
        writes_cmd rfl (by simp [remoteDisplayFields])
  · exact (leaves_put (leaves_ret false)).on

/-! ## All or nothing

The log of an execution says whether a call failed and whether settings have been saved. With the
operations' triples it decides between the two ends. -/

/-- The operations that ask for a powered-off machine and change its settings: the name of the
machine, and the fields. -/
def commitsTo : Op → Option (String × List Field)
  | .resetCpuCount n _ => some (n, [.CPUCount])
  | .resetMemSize n _ => some (n, [.memorySize])
  | .resetGraphics n _ _ card en => some (n, graphicsFields card en)
  | .setRecordingScreenConfig n id on _ _ _ _ _ aq => some (n, recordingFields id on aq)
  | .setSimpleRemoteDisplay n _ _ _ _ => some (n, remoteDisplayFields)
  | .setAdaptorMAC n slot _ => some (n, adapterFields slot [.enabled, .MACAddress])
  | .disableAdaptor n slot => some (n, adapterFields slot [.enabled])
  | .addNat n slot => some (n, adapterFields slot [.attachmentType, .enabled])
  | .addBridge n slot _ =>
    some (n, adapterFields slot [.bridgedInterface, .attachmentType, .enabled])
  | _ => none

/-- Each of them changes nothing or commits. -/
theorem commits_prog {J : Jsoncpp} {fuel : Nat} {op : Op} {fields : List Field}
    (hop : commitsTo op = some (n, fields)) :
    Triple (commitView V) (Clear σ) (op.prog J fuel)
      (fun r st => ∃ b, r = some b ∧ Returns σ n (· ∈ fields) b st)
      fun _ => Ends σ n (· ∈ fields) := by
  cases op <;> simp only [commitsTo, reduceCtorEq, Option.some.injEq, Prod.mk.injEq] at hop <;>
    obtain ⟨rfl, rfl⟩ := hop
  case resetCpuCount n cpu => exact triple_some (commits_resetLimit fun _ => rfl)
  case resetMemSize n mem => exact triple_some (commits_resetLimit fun _ => rfl)
  case resetGraphics n ram mon card en => exact triple_some (commits_resetGraphics _ _ _ _ _)
  case setRecordingScreenConfig =>
    exact triple_some (commits_setRecordingScreenConfig _ _ _ _ _ _ _ _ _)
  case setSimpleRemoteDisplay => exact triple_some (commits_setSimpleRemoteDisplay _ _ _ _ _)
  case setAdaptorMAC => exact triple_some (commits_setAdaptorMAC _ _ _)
  case disableAdaptor => exact triple_some (commits_disableAdaptor _ _)
  case addNat => exact triple_some (commits_addNat _ _)
  case addBridge => exact triple_some (commits_addBridge _ _)

/-- A call of the trace has failed, and no settings were saved before it. -/
def FailsUnsaved : VbTrace → Prop
  | [] => False
  | e :: t => fails e.1 e.2 ∨ (¬saves e.1 e.2 ∧ FailsUnsaved t)

theorem watchView_admits (w : Watch) (t : VbTrace) : watchView.Admits w t := by
  induction t generalizing w with
  | nil => trivial
  | cons e t ih => exact ⟨trivial, ih _⟩

theorem watch_failed (w : Watch) (t : VbTrace) :
    (watchView.after w t).failed ↔ w.failed ∨ (¬w.saved ∧ FailsUnsaved t) := by
  induction t generalizing w with
  | nil => simp [FailsUnsaved]
  | cons e t ih =>
    rw [View.after_cons, ih]
    simp only [watchView_next, watchNext, FailsUnsaved, not_or, and_or_left, or_assoc, and_assoc]

theorem watch_found (w : Watch) (t : VbTrace) (vm : Nat) :
    (watchView.after w t).found n vm ↔ w.found n vm ∨ ∃ e ∈ t, finds e.1 e.2 n vm :=
  View.after_remembers (v := watchView) (F := fun w => w.found n vm) (fun _ _ _ => Iff.rfl) w t

theorem finds_eq {e : Event vboxSig} {vm : Nat} (h : finds e.1 e.2 n vm) :
    ∃ m, e = ⟨.ptr (.findMachine n), .ok (some m)⟩ ∧ m.vm = vm := by
  obtain ⟨_ | c | _, x⟩ := e <;> try exact h.elim
  cases c <;> try exact h.elim
  rcases x with _ | _ | m
  · exact h.elim
  · exact h.elim
  · obtain ⟨rfl, hvm⟩ := h
    exact ⟨m, rfl, hvm⟩

/-- Where settings have not been saved again, no event of the trace saves after another. -/
theorem watch_once (w : Watch) (t : VbTrace) (h : ¬(watchView.after w t).again) :
    t.Pairwise (fun e e' => saves e.1 e.2 → ¬saves e'.1 e'.2) ∧
      (w.saved → ∀ e ∈ t, ¬saves e.1 e.2) := by
  induction t generalizing w with
  | nil => exact ⟨.nil, fun _ e he => absurd he List.not_mem_nil⟩
  | cons e t ih =>
    obtain ⟨hlater, hnone⟩ := ih (watchNext w e.1 e.2) h
    refine ⟨List.pairwise_cons.mpr ⟨fun e' he' hs => hnone (.inr hs) e' he', hlater⟩,
      fun hw => ?_⟩
    -- a second time is not forgotten
    have hfirst : ¬saves e.1 e.2 := fun hs => by
      have hagain : (watchNext w e.1 e.2).again := .inr ⟨hw, hs⟩
      have hlast : (watchView.after (watchNext w e.1 e.2) t).again :=
        watchView.after_induction (I := Watch.again) (fun _ _ _ ha _ => .inl ha) hagain
          (watchView_admits _ t)
      exact h hlast
    exact List.forall_mem_cons.mpr ⟨hfirst, hnone (.inl hw)⟩

/-- How an execution of these operations ends. -/
theorem commits_run {J : Jsoncpp} {r : OpRun J} {fields : List Field}
    (hop : commitsTo r.op = some (n, fields)) {h : VBoxHost}
    (hadmits : (hostView V).Admits h r.trace) :
    Ends h.store n (· ∈ fields)
        ((hostView V).after h r.trace, watchView.after Watch.start r.trace) ∧
      (r.result = .ok (some false) → Untouched h.store
        ((hostView V).after h r.trace, watchView.after Watch.start r.trace)) := by
  have hpair : (commitView V).Admits (h, Watch.start) r.trace :=
    (View.pair_admits _ _).mpr ⟨hadmits, watchView_admits _ _⟩
  have hrun := Triple.runs (commits_prog (V := V) hop) Clear.start r.runs hpair
  rw [View.pair_after] at hrun
  cases hresult : r.result with
  | error e =>
    rw [hresult] at hrun
    exact ⟨hrun, nofun⟩
  | ok o =>
    rw [hresult] at hrun
    obtain ⟨b, rfl, hends, hfalse⟩ := hrun
    exact ⟨hends, fun hsame => hfalse (Option.some.inj (Except.ok.inj hsame))⟩

/-- **Settings are saved once at most**, so that before them and while they are saved is all the
time up to there. -/
theorem settings_once {J : Jsoncpp} {r : OpRun J} {fields : List Field}
    (hop : commitsTo r.op = some (n, fields)) {h : VBoxHost}
    (hadmits : (hostView V).Admits h r.trace) :
    r.trace.Pairwise fun e e' => saves e.1 e.2 → ¬saves e'.1 e'.2 :=
  (watch_once Watch.start r.trace (commits_run hop hadmits).1.once).1

/-- **Settings are committed all or nothing.** The operations that ask for a powered-off machine
leave all settings as they were where they return `false` or a call fails before or while the
settings are saved; where they return `true` they change the machine they found, and of its
settings only the fields of the addressed slot or screen that they set. -/
theorem settings_commit {J : Jsoncpp} {r : OpRun J} {fields : List Field}
    (hop : commitsTo r.op = some (n, fields)) {h : VBoxHost}
    (hadmits : (hostView V).Admits h r.trace) :
    (r.result = .ok (some false) → ((hostView V).after h r.trace).store.saved = h.store.saved) ∧
    (FailsUnsaved r.trace → ((hostView V).after h r.trace).store.saved = h.store.saved) ∧
    (r.result = .ok (some true) →
      ∀ vm, ((hostView V).after h r.trace).store.saved vm ≠ h.store.saved vm →
        (∃ m, (⟨.ptr (.findMachine n), .ok (some m)⟩ : Event vboxSig) ∈ r.trace ∧
          m.vm = vm) ∧
        ∃ c d, h.store.saved vm = some c ∧
          ((hostView V).after h r.trace).store.saved vm = some d ∧
          ∀ f, f ∉ fields → d f = c f) := by
  obtain ⟨hends, hfalse⟩ := commits_run hop hadmits
  refine ⟨fun hresult => (hfalse hresult).1, fun hfails => ?_, fun hresult vm hvm => ?_⟩
  · rcases hends with hend | hend
    · exact hend.1
    · -- had the settings been saved, no call before that would have failed
      exact absurd ((watch_failed _ _).mpr (.inr ⟨id, hfails⟩)) hend.failed
  · rcases hends with hend | hend
    · exact absurd (congrFun hend.1 vm) hvm
    · -- one machine changed, and it is one that was found under the name
      obtain ⟨vm', hfound, hchanges⟩ := hend.changes
      obtain ⟨rfl, c, d, hc, hd, heq⟩ := hchanges vm hvm
      obtain ⟨e, he, hfinds⟩ := ((watch_found _ _ _).mp hfound).resolve_left id
      obtain ⟨m, rfl, hm⟩ := finds_eq hfinds
      exact ⟨⟨m, he, hm⟩, c, d, hc, hd, heq⟩

/-- Machine 0 is `vm`, and machine 1 is `other`. -/
def twoMachines : VBoxHost :=
  { oneMachine with
    store := {
      saved := fun vm =>
        if vm = 0 then some fun f => if f = .name then .text "vm" else .absent
        else if vm = 1 then some fun f => if f = .name then .text "other" else .absent
        else none
      draft := fun _ => none }
    registered := fun vm => vm == 0 || vm == 1 }

/-- Every call succeeds but that settings cannot be saved, and there is nothing to be told of it. -/
def diskless : Oracle vboxSig := fun h a =>
  match a with
  | .cmd (.saveSettings _) => .error ⟨0x80004005⟩
  | .ptr (.queryVirtualBoxErrorInfo _) => .ok none
  | a => calm .PoweredOff h a

abbrev resetRun (ω : Oracle vboxSig) : OpRun .mute := Op.play .mute 0 ω (.resetCpuCount "vm" 2)

/-- Up to `saveSettings` the two runs are the same. -/
def drafted : VbTrace :=
  [⟨.ptr (.findMachine "vm"), .ok (some ⟨0, .host⟩)⟩,
    ⟨.val (.state ⟨0, .host⟩), .ok .PoweredOff⟩,
    ⟨.ptr .session, .ok (some ⟨0⟩)⟩,
    ⟨.cmd (.lockMachine ⟨0, .host⟩ (some ⟨0⟩) .Shared), .ok ()⟩,
    ⟨.ptr (.sessionMachine ⟨0⟩), .ok (some ⟨0, .mutable ⟨0⟩⟩)⟩,
    ⟨.cmd (.setCPUCount ⟨0, .mutable ⟨0⟩⟩ 2), .ok ()⟩]

theorem resetRun_saved : (resetRun (calm .PoweredOff)).trace = drafted ++
    [⟨.cmd (.saveSettings ⟨0, .mutable ⟨0⟩⟩), .ok ()⟩,
      ⟨.cmd (.unlockMachine ⟨0⟩), .ok ()⟩,
      ⟨.release (.machine ⟨0, .host⟩), ()⟩] := rfl

theorem resetRun_failed : (resetRun diskless).trace = drafted ++
    [⟨.cmd (.saveSettings ⟨0, .mutable ⟨0⟩⟩), .error ⟨0x80004005⟩⟩,
      ⟨.currentError, some ⟨0⟩⟩,
      ⟨.ptr (.queryVirtualBoxErrorInfo ⟨0⟩), .ok none⟩] := rfl

/-- The processors of the machine are reset, and the other machine does not change; and none changes
where the settings cannot be saved. -/
theorem settings_commit_resetCpuCount :
    ((hostView plain).after twoMachines (resetRun (calm .PoweredOff)).trace).store.saved 1 =
        twoMachines.store.saved 1 ∧
      ((hostView plain).after twoMachines (resetRun diskless).trace).store.saved =
        twoMachines.store.saved := by
  have hsaved : (hostView plain).Admits twoMachines (resetRun (calm .PoweredOff)).trace := by
    rw [resetRun_saved]
    simp [drafted, hostOk, hostNext, PtrCall.answers, PtrCall.effect, PtrCall.setting, Cmd.setting,
      Cmd.effect, VBoxHost.lock, VBoxHost.Writable, Staged.openDraft, twoMachines,
      oneMachine, plain]
  have hfailed : (hostView plain).Admits twoMachines (resetRun diskless).trace := by
    rw [resetRun_failed]
    simp [drafted, hostOk, hostNext, PtrCall.answers, PtrCall.effect, PtrCall.setting, Cmd.setting,
      Cmd.effect, VBoxHost.lock, VBoxHost.Writable, Staged.openDraft, twoMachines,
      oneMachine, plain]
  constructor
  · -- only a machine that was found may change, and machine 1 was not
    by_contra hne
    obtain ⟨⟨m, hm, hvm⟩, -⟩ := (settings_commit (n := "vm") rfl hsaved).2.2 rfl 1 hne
    rw [resetRun_saved] at hm
    obtain rfl : m = ⟨0, .host⟩ := by simpa [drafted] using hm
    cases hvm
  · refine (settings_commit (n := "vm") rfl hfailed).2.1 ?_
    rw [resetRun_failed]
    simp [drafted, FailsUnsaved, fails]

end VirtCore.Machines
