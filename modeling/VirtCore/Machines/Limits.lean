import VirtCore.Calls.Op
import VirtCore.Machines.Install

/-!
# VirtCore — the limits of processors, memory and graphics

* **`limit`** / **`Within`** — the settings that are limited, and a machine within the limits.
* **`Allowed`** — a call that keeps to the limits and passes on no negative number.
* **`Limited`** — a host all of whose settings, drafts and snapshots are within the limits.
* **`limits_hold`** — whole runs, the requests one after the other or at once.
-/

namespace VirtCore.Machines


open Interact Keyed QiVCA

variable {J : Jsoncpp} {V : Hypervisor} {h : VBoxHost} {a : Act} {x : a.Ans}

/-- The settings that are limited: the least and the greatest value. -/
def limit : Field → Option (Nat × Nat)
  | .CPUCount => some (1, 4)
  | .memorySize => some (0, 8192)
  | .VRAMSize => some (0, 128)
  | .monitorCount => some (1, 8)
  | _ => none

def InRange (v : Value) (r : Nat × Nat) : Prop := ∃ n, v = .nat n ∧ r.1 ≤ n ∧ n ≤ r.2

/-- A machine within the limits. -/
def Within (c : Config) : Prop := ∀ f r, limit f = some r → InRange (c f) r

theorem Within.update {c : Config} {f : Field} {v : Value} (hc : Within c)
    (hv : ∀ r, limit f = some r → InRange v r) : Within (Function.update c f v) := by
  intro g r hr
  by_cases hg : g = f
  · subst hg
    rw [Function.update_self]
    exact hv r hr
  · rw [Function.update_of_ne hg]
    exact hc g r hr

/-- A setting without a limit may be anything. -/
theorem Within.of_eq {c d : Config} (hc : Within c) (h : ∀ f, limit f ≠ none → d f = c f) :
    Within d := by
  intro f r hr
  rw [h f (by simp [hr])]
  exact hc f r hr

/-! ## Calls

What an operation may ask of the host: a value within the limits of its field, a converted number
that was not negative, and one of the four serial ports. -/

/-- The argument of a call that an operation converts from an `int` of its request. -/
def converted : Act → Option Nat
  | .cmd (.setCPUCount _ n) => some n
  | .cmd (.setMemorySize _ n) => some n
  | .cmd (.setVRAMSize _ n) => some n
  | .cmd (.setMonitorCount _ n) => some n
  | .cmd (.setVideoWidth _ n) => some n
  | .cmd (.setVideoHeight _ n) => some n
  | .cmd (.setVideoFPS _ n) => some n
  | .cmd (.setVideoRate _ n) => some n
  | .ptr (.getNetworkAdapter _ slot) => some slot
  | .ptr (.getScreenSettings _ id) => some id
  | .ptr (.getSerialPort _ slot) => some slot
  | _ => none

/-- A call that keeps to the limits. A negative `int32` would be converted to 2^31 or more. -/
structure Allowed (a : Act) : Prop where
  setting : ∀ c, a = .cmd c → ∀ m f v, c.setting = some (m, f, v) →
    ∀ r, limit f = some r → InRange v r
  converted : ∀ n, converted a = some n → n < 2147483648
  port : ∀ m slot, a = .ptr (.getSerialPort m slot) → slot ≤ 3

theorem allowed_of_ordinary (a : Act) (ha : ordinary a) : Allowed a := by
  refine ⟨?_, fun n hn => ?_, ?_⟩
  · rintro c rfl m f v hc r hr
    cases c <;> simp only [Cmd.setting, Option.some.injEq, Prod.mk.injEq, reduceCtorEq] at hc <;>
      obtain ⟨-, rfl, -⟩ := hc <;> first | exact ha.elim | cases hr
  · unfold Machines.converted at hn
    split at hn <;> simp [ordinary] at ha hn <;> omega
  · rintro m slot rfl
    exact ha.elim

theorem allowed_task {c : PtrCall} (hc : Machines.converted (.ptr c) = none)
    (hport : ∀ m slot, c ≠ .getSerialPort m slot) : Allowed (.ptr c) := by
  refine ⟨nofun, fun n hn => ?_, fun m slot h => ?_⟩
  · rw [hc] at hn
    cases hn
  · cases h
    exact (hport m slot rfl).elim

theorem allowed_set {c : Cmd} {m : IMachine} {f : Field} {k : Int} {lo hi : Nat}
    (hc : c.setting = some (m, f, .nat (uint32 k))) (hlimit : limit f = some (lo, hi))
    (hconverted : Machines.converted (.cmd c) = some (uint32 k)) (hlo : lo ≤ k) (hhi : k ≤ hi)
    (hsmall : hi ≤ 8192) : Allowed (.cmd c) := by
  have hrange : lo ≤ uint32 k ∧ uint32 k ≤ hi := by
    unfold uint32
    omega
  refine ⟨?_, fun n hn => ?_, nofun⟩
  · rintro _ ⟨⟩ m' f' v hc' r hr
    rw [hc] at hc'
    obtain ⟨-, rfl, rfl⟩ := hc'
    rw [hlimit] at hr
    cases hr
    exact ⟨uint32 k, rfl, hrange⟩
  · rw [hconverted] at hn
    cases hn
    omega

/-! ## One call

A host within the limits stays so by an allowed call, whatever the answer; snapshots have stored
settings, and clones have copied them. -/

/-- A host all of whose settings are within the limits: those of the machines, of the drafts, and
those that snapshots have stored. -/
structure Limited (h : VBoxHost) : Prop where
  store : h.store.Every Within
  history : ∀ vm, ∀ c ∈ h.history vm, Within c

/-- Only the settings count. -/
theorem Limited.of_eq {h' : VBoxHost} (hl : Limited h) (hstore : h'.store = h.store)
    (hhistory : h'.history = h.history) : Limited h' := by
  refine ⟨?_, ?_⟩
  · rw [hstore]
    exact hl.store
  · rw [hhistory]
    exact hl.history

theorem Limited.config {m : IMachine} {c : Config} (hl : Limited h) (hc : h.config m = some c) :
    Within c := by
  unfold VBoxHost.config at hc
  split at hc
  · exact hl.store.saved _ _ hc
  · obtain ⟨d, hd, rfl⟩ := Option.map_eq_some_iff.mp hc
    exact hl.store.draft _ d.1 d.2 hd
  · cases hc

theorem Limited.create {c : Config} (hl : Limited h) (hc : Within c) (vm : Nat) :
    Limited (h.create vm c) :=
  ⟨hl.store.create hc, hl.history⟩

theorem Limited.write {m : IMachine} {f : Field} {v : Value} (hl : Limited h)
    (hv : ∀ r, limit f = some r → InRange v r) : Limited (h.write m f v) := by
  unfold VBoxHost.write
  split
  · exact ⟨hl.store.put fun _ hc => hc.update hv, hl.history⟩
  · exact ⟨hl.store.write fun _ hc => hc.update hv, hl.history⟩
  · exact hl

theorem Limited.saveSettings (hl : Limited h) (m : IMachine) : Limited (h.saveSettings m) := by
  unfold VBoxHost.saveSettings
  split
  · exact ⟨hl.store.save, hl.history⟩
  · exact hl

/-- A clone differs from its source in the name. -/
theorem Limited.clone {source : Option Config} (hl : Limited h)
    (hsource : ∀ c, source = some c → Within c) (target : Nat) :
    Limited (h.clone source target) := by
  cases source with
  | none => exact hl
  | some c =>
    refine hl.create ((hsource c rfl).of_eq fun f hf => if_neg ?_) target
    rintro rfl
    exact hf rfl

theorem Limited.snapshot (hl : Limited h) (m : IMachine) : Limited (h.snapshot m) := by
  refine ⟨hl.store, fun vm c hc => ?_⟩
  by_cases hvm : vm = m.vm
  · subst hvm
    simp only [VBoxHost.snapshot, Function.update_self, List.mem_append, Option.mem_toList] at hc
    exact hc.elim hl.config (hl.history _ c)
  · simp only [VBoxHost.snapshot, Function.update_of_ne hvm] at hc
    exact hl.history vm c hc

theorem Limited.importMachines {machines : List (Nat × Config)} (hl : Limited h)
    (hmachines : ∀ e ∈ machines, Within e.2) : Limited (h.importMachines machines) := by
  unfold VBoxHost.importMachines
  induction machines generalizing h with
  | nil => exact hl
  | cons e machines ih =>
    obtain ⟨he, hrest⟩ := List.forall_mem_cons.mp hmachines
    exact ih ((hl.create he e.1).of_eq rfl rfl) hrest

theorem Limited.deleteStorages {media : List IMedium} (hl : Limited h) :
    Limited (media.foldl VBoxHost.deleteStorage h) := by
  induction media generalizing h with
  | nil => exact hl
  | cons d media ih => exact ih (hl.of_eq rfl rfl)

theorem Limited.cmd {c : Cmd} (hl : Limited h) (hc : Allowed (.cmd c)) : Limited (c.effect h) := by
  cases hset : c.setting with
  | some e =>
    obtain ⟨m, f, v⟩ := e
    rw [Cmd.effect_of_setting hset]
    exact hl.write fun r hr => hc.setting c rfl m f v hset r hr
  | none =>
    unfold Cmd.effect
    split
    · exact hl.of_eq rfl rfl
    · exact ⟨hl.store.drop, hl.history⟩
    · exact ⟨hl.store.openDraft, hl.history⟩
    · exact hl.saveSettings _
    · rw [hset]
      exact hl

/-- The machines that an import brings are within the limits. -/
def ImportsWithin (V : Hypervisor) : (a : Act) → a.Ans → Prop
  | .ptr (.importMachines ..), .ok (some p) => ∀ e ∈ V.imports p, Within e.2
  | _, _ => True

theorem within_newMachine (hdefaults : ∀ osTypeId, Within (V.defaults osTypeId))
    (name osTypeId : String) : Within (V.newMachine name osTypeId) := by
  refine (hdefaults osTypeId).of_eq fun f hf => ?_
  cases f <;> first | rfl | exact (hf rfl).elim

theorem Limited.ptr {c : PtrCall} {o : c.Ifc} (hl : Limited h)
    (hdefaults : ∀ osTypeId, Within (V.defaults osTypeId))
    (hok : c.answers V h o) (himports : ImportsWithin V (.ptr c) (.ok (some o))) :
    Limited (c.effect V h o) := by
  cases c with
  | createMachine => exact hl.create (within_newMachine hdefaults _ _) _
  | launchVMProcess m s =>
    cases s with
    | none => exact hl
    | some s => exact ⟨hl.store.openDraft, hl.history⟩
  | openMedium => exact hl.of_eq rfl rfl
  | createBaseStorage =>
    simp only [PtrCall.effect]
    split <;> exact hl.of_eq rfl rfl
  | deleteStorage =>
    simp only [PtrCall.effect]
    split <;> exact hl.of_eq rfl rfl
  | deleteConfig =>
    simp only [PtrCall.effect]
    split
    · exact hl.deleteStorages
    · exact hl
  | takeSnapshot => exact hl.snapshot _
  -- a snapshot has stored settings of the machine, which were within the limits
  | restoreSnapshot m s =>
    cases s with
    | none => exact hl
    | some s => exact hl.create (hl.history _ _ hok) _
  | cloneTo m target =>
    cases target with
    | none => exact hl
    | some target =>
      simp only [PtrCall.effect]
      simp only [PtrCall.answers] at hok
      split
      · rename_i ref hview
        rw [hview] at hok
        refine hl.clone (fun c hc => ?_) _
        cases hc
        exact hl.history _ _ hok
      · exact hl.clone (fun c hc => hl.config hc) _
  | importMachines => exact hl.importMachines himports
  | addStorageController => exact hl.write (by intro r hr; cases hr)
  | addUSBController => exact hl.write (by intro r hr; cases hr)
  | _ => exact hl

/-- **What one call does to the limits.** -/
theorem Limited.next (hl : Limited h) (hdefaults : ∀ osTypeId, Within (V.defaults osTypeId))
    (ha : Allowed a) (hok : hostOk V h a x) (himports : ImportsWithin V a x) :
    Limited (hostNext V h a x) := by
  unfold hostNext
  split
  · exact hl.cmd ha
  · exact hl.ptr hdefaults hok himports
  · exact hl.of_eq rfl rfl
  · exact hl

/-! ## Whole runs

A run begins without machines and goes from call to call, of any number of operations whose calls
may alternate. -/

/-- There is no machine. -/
structure NoMachines (h : VBoxHost) : Prop where
  registered : ∀ vm, h.registered vm = false
  saved : ∀ vm, h.store.saved vm = none
  draft : ∀ s, h.store.draft s = none
  history : ∀ vm, h.history vm = []

theorem NoMachines.limited (hno : NoMachines h) : Limited h := by
  refine ⟨⟨fun vm c hc => ?_, fun s vm d hd => ?_⟩, fun vm c hc => ?_⟩
  · rw [hno.saved] at hc
    cases hc
  · rw [hno.draft] at hd
    cases hd
  · rw [hno.history] at hc
    cases hc

theorem Limited.after {t : VbTrace} (hl : Limited h)
    (hdefaults : ∀ osTypeId, Within (V.defaults osTypeId)) (hadmits : (hostView V).Admits h t)
    (hallowed : ∀ e ∈ t, Allowed e.1) (himports : ∀ e ∈ t, ImportsWithin V e.1 e.2) :
    Limited ((hostView V).after h t) := by
  induction t generalizing h with
  | nil => exact hl
  | cons e t ih =>
    obtain ⟨hallowed, hallowed'⟩ := List.forall_mem_cons.mp hallowed
    obtain ⟨himports, himports'⟩ := List.forall_mem_cons.mp himports
    exact ih (hl.next hdefaults hallowed hadmits.1 himports) hadmits.2 hallowed' himports'

/-- The limits hold throughout a run: every registered machine is within them in every state, and
no call passes on a negative number or a serial port beyond the fourth. -/
def LimitsHold (V : Hypervisor) (h₀ : VBoxHost) (t : VbTrace) : Prop :=
  (∀ t₁ t₂, t = t₁ ++ t₂ →
    ∀ vm c, ((hostView V).after h₀ t₁).registered vm = true →
      ((hostView V).after h₀ t₁).store.saved vm = some c → Within c) ∧
  ∀ e ∈ t, (∀ n, converted e.1 = some n → n < 2147483648) ∧
    ∀ m slot, e.1 = .ptr (.getSerialPort m slot) → slot ≤ 3

/-- A request that keeps to the limits where its operation does not check them: a create operation
that finds its request in the tables, and the serial port 4, which the guard lets through. -/
def Modest : Op → Prop
  | .createVMfromSystemdisk _ os cpu mem _ _ _ =>
    osType.any (strcmpEq os) → (1 ≤ cpu ∧ cpu ≤ 4) ∧ 0 ≤ mem ∧ mem ≤ 8192
  | .createVMfromISO _ os cpu mem _ _ _ fmt _ _ =>
    osType.any (strcmpEq os) → mediaType.any (strcmpEq fmt) →
      (1 ≤ cpu ∧ cpu ≤ 4) ∧ 0 ≤ mem ∧ mem ≤ 8192
  | .addSerialPort _ slot => slot ≠ 4
  | .delSerialPort _ slot => slot ≠ 4
  | _ => True

theorem modest_permits {op : Op} (hop : Modest op) : op.Permits Allowed := by
  have hcpu {cpu : Int} (h : 1 ≤ cpu ∧ cpu ≤ 4) (m : IMachine) :
      Allowed (.cmd (.setCPUCount m (uint32 cpu))) :=
    allowed_set rfl rfl rfl h.1 h.2 (by omega)
  have hmem {mem : Int} (h : 0 ≤ mem ∧ mem ≤ 8192) (m : IMachine) :
      Allowed (.cmd (.setMemorySize m (uint32 mem))) :=
    allowed_set rfl rfl rfl h.1 h.2 (by omega)
  -- slot 4 passes the check, but not the bound on ports
  have hport {slot : Int} (hslot : 0 ≤ slot ∧ slot ≤ 4) (hne : slot ≠ 4) (m : IMachine) :
      Allowed (.ptr (.getSerialPort m (uint32 slot))) := by
    have hle : uint32 slot ≤ 3 := uint32_le (by omega) (by omega)
    refine ⟨nofun, fun n hn => ?_, ?_⟩
    · cases hn
      omega
    · rintro _ _ ⟨⟩
      exact hle
  cases op with
  | createVMfromSystemdisk =>
    intro hos m
    obtain ⟨hc, hm⟩ := hop hos
    exact ⟨hcpu hc m, hmem hm m⟩
  | createVMfromISO =>
    intro hos hfmt m
    obtain ⟨hc, hm⟩ := hop hos hfmt
    exact ⟨hcpu hc m, hmem hm m⟩
  | resetCpuCount => exact hcpu
  | resetMemSize => exact hmem
  | resetGraphics =>
    intro hram hmon m
    refine ⟨allowed_set rfl rfl rfl hram.1 hram.2 (by omega), ?_⟩
    exact allowed_set rfl rfl rfl hmon.1 hmon.2 (by omega)
  | addSerialPort => exact fun hslot => hport hslot hop
  | delSerialPort => exact fun hslot => hport hslot hop
  | takeSnapshot => exact fun m s d p => allowed_task rfl nofun
  | restoreSnapshot => exact fun m s => allowed_task rfl nofun
  | deleteSnapshot => exact fun m id => allowed_task rfl nofun
  | cloneLinkVM => exact fun m s d p => allowed_task rfl nofun
  | _ => trivial

/-- **The limits hold throughout a run** of modest requests on a host that has no machines at
first. The calls of the requests may be interleaved in any way. -/
theorem limits_hold {rs : List (OpRun J)} {t : VbTrace} {h₀ : VBoxHost} (hno : NoMachines h₀)
    (hdefaults : ∀ osTypeId, Within (V.defaults osTypeId)) (hadmits : (hostView V).Admits h₀ t)
    (hcalls : ∀ e ∈ t, ∃ r ∈ rs, e ∈ r.trace) (hmodest : ∀ r ∈ rs, Modest r.op)
    (himports : ∀ e ∈ t, ImportsWithin V e.1 e.2) : LimitsHold V h₀ t := by
  have hallowed (e : Event vboxSig) (he : e ∈ t) : Allowed e.1 := by
    obtain ⟨r, hr, he⟩ := hcalls e he
    have honly := (op_also r.fuel (modest_permits (hmodest r hr))).runs r.runs e he
    exact honly.elim (allowed_of_ordinary e.1) id
  refine ⟨?_, fun e he => ⟨(hallowed e he).converted, (hallowed e he).port⟩⟩
  rintro t₁ t₂ rfl vm c - hc
  have hafter := hno.limited.after hdefaults (View.admits_append.mp hadmits).1
    (fun e he => hallowed e (List.mem_append_left _ he))
    fun e he => himports e (List.mem_append_left _ he)
  exact hafter.store.saved vm c hc

/-- A host without machines. -/
def emptyHost : VBoxHost where
  store :=
    { saved := fun _ => none
      draft := fun _ => none }
  registered _ := false
  history _ := []
  known _ := false
  files _ := false

/-- New machines have one processor, one MB of memory and so on. -/
def modestHost : Hypervisor := { serving 0 with defaults := fun _ _ => .nat 1 }

theorem modestHost_defaults (osTypeId : String) : Within (modestHost.defaults osTypeId) := by
  intro f r hr
  refine ⟨1, rfl, ?_⟩
  cases f <;> cases hr <;> decide

theorem limits_hold_disk : LimitsHold modestHost emptyHost (diskTrace 2) := by
  have hmodest : ∀ r ∈ [diskRun "Linux_64" 2 (.ok ())], Modest r.op := by
    simp only [List.mem_singleton, forall_eq]
    intro _
    decide
  have hno : NoMachines emptyHost := ⟨fun _ => rfl, fun _ => rfl, fun _ => rfl, fun _ => rfl⟩
  refine limits_hold hno modestHost_defaults ?_ ?_ hmodest ?_
  · exact diskTrace_admits 2 rfl rfl rfl (fun _ => rfl) fun _ => rfl
  · intro e he
    rw [← diskRun_trace] at he
    exact ⟨_, List.mem_singleton_self _, he⟩
  · simp [diskTrace, firstCalls, ImportsWithin]

/-- The create operations do not check the number of processors: five are passed on. -/
theorem fiveProcessors_exceed :
    (hostView modestHost).Admits emptyHost (diskRun "Linux_64" 5 (.ok ())).trace ∧
      ¬LimitsHold modestHost emptyHost (diskRun "Linux_64" 5 (.ok ())).trace := by
  have htrace : (diskRun "Linux_64" 5 (.ok ())).trace = diskTrace 5 :=
    (play_eq (aroundDisk_prog 5)).1
  rw [htrace]
  refine ⟨diskTrace_admits 5 rfl rfl rfl (fun _ => rfl) fun _ => rfl, fun h => ?_⟩
  have hwithin := h.1 (diskTrace 5) [] (List.append_nil _).symm 1 _ rfl rfl
  obtain ⟨n, hn, -, hle⟩ := hwithin .CPUCount (1, 4) rfl
  cases hn
  revert hle
  decide

end VirtCore.Machines
