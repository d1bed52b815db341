import VirtCore.Adapters.View
import VirtCore.VBox.Calm

/-!
# VirtCore — network adapters do not interfere

Each adapter operation is an update of the one adapter it is addressed to, so what holds of
updates of a table holds of any sequence of adapter operations.

* **`op_adapters`** — one operation is its `Op.adapterUpdate`.
* **`Succeed`** — a sequence of executions in which every call succeeds.
* **`adapters_apart`** — the settings of an adapter after a sequence, and what follows.
-/

namespace VirtCore


open Interact VcaVmConfigure

variable {J : Jsoncpp} {machineOf : String → Nat}

/-- **One operation.** -/
theorem op_adapters (fuel : Nat) {op : Op} (hop : (op.adapterAddress machineOf).isSome)
    (states : Nat → MachineState) (h : Hub) :
    Triple (adapterView machineOf states) (· = h) (op.prog J fuel)
      (fun b h' => b = some (op.adapterUpdate machineOf states).key.isSome ∧
        h'.adapters = (op.adapterUpdate machineOf states).apply h.adapters) fun _ _ => False := by
  have hmap {u : Keyed.Update AdapterKey Settings} {p : Vb Bool}
      (hp : Applies machineOf states u p) : Triple (adapterView machineOf states) (· = h)
        (some <$> p) (fun b h' => b = some u.key.isSome ∧ h'.adapters = u.apply h.adapters)
        fun _ _ => False :=
    Triple.map ((hp h).conseq (fun _ hs => hs) (fun _ _ hs => ⟨congrArg some hs.1, hs.2⟩)
      fun _ _ hs => hs)
  cases op <;> cases hop
  case setBridge n slot pci =>
    exact hmap (applies_tryReport (anyState_applies (bridge_changes _) _ _))
  case addBridge => exact hmap (poweredOff_applies (bridge_changes _) _ _)
  case setNat => exact hmap (applies_tryReport (anyState_applies nat_changes _ _))
  case addNat => exact hmap (applies_tryReport (poweredOff_applies nat_changes _ _))
  case setAdaptorMAC => exact hmap (applies_tryReport (poweredOff_applies (setMAC_changes _) _ _))
  case disableAdaptor => exact hmap (applies_tryReport (poweredOff_applies disable_changes _ _))

/-- An execution of an adapter operation, and the states of the machines while it runs. -/
structure AdapterRun (J : Jsoncpp) (machineOf : String → Nat) where
  run : OpRun J
  states : Nat → MachineState
  adapter : (run.op.adapterAddress machineOf).isSome

namespace AdapterRun

/-- The update of the operation. -/
def update (r : AdapterRun J machineOf) : Keyed.Update AdapterKey Settings :=
  r.run.op.adapterUpdate machineOf r.states

/-- Every call of the execution succeeds, from the hub `h`. -/
def Succeeds (r : AdapterRun J machineOf) (h : Hub) : Prop :=
  (adapterView machineOf r.states).Admits h r.run.trace

/-- The hub after the execution. -/
def after (r : AdapterRun J machineOf) (h : Hub) : Hub :=
  (adapterView machineOf r.states).after h r.run.trace

theorem after_adapters {r : AdapterRun J machineOf} {h : Hub} (hr : r.Succeeds h) :
    r.run.result = .ok (some r.update.key.isSome) ∧
      (r.after h).adapters = r.update.apply h.adapters := by
  have hout := (op_adapters r.run.fuel r.adapter r.states h).runs rfl r.run.runs hr
  unfold after update
  revert hout
  rcases r.run.result with e | b
  · exact fun hfalse => hfalse.elim
  · rintro ⟨rfl, hadapters⟩
    exact ⟨rfl, hadapters⟩

end AdapterRun

/-- The hub after a sequence of executions. -/
def hubAfter (h : Hub) (rs : List (AdapterRun J machineOf)) : Hub :=
  rs.foldl (fun h r => r.after h) h

/-- Every call of a sequence of executions succeeds. -/
def Succeed (h : Hub) : List (AdapterRun J machineOf) → Prop
  | [] => True
  | r :: rs => r.Succeeds h ∧ Succeed (r.after h) rs

/-- A sequence of operations is the sequence of their updates. -/
theorem hubAfter_adapters {h : Hub} {rs : List (AdapterRun J machineOf)} (hrs : Succeed h rs) :
    (hubAfter h rs).adapters = Keyed.Update.runAll (rs.map (·.update)) h.adapters := by
  induction rs generalizing h with
  | nil => rfl
  | cons r rs ih =>
    obtain ⟨hr, hrest⟩ := hrs
    have hstep : Keyed.Update.runAll ((r :: rs).map (·.update)) h.adapters =
        Keyed.Update.runAll (rs.map (·.update)) (r.update.apply h.adapters) := rfl
    rw [hstep, ← (AdapterRun.after_adapters hr).2]
    exact ih hrest

/-- An update concerns the slot of the machine to which the operation is addressed. -/
theorem adapterUpdate_key {op : Op} {states : Nat → MachineState} {k : AdapterKey}
    (h : (op.adapterUpdate machineOf states).key = some k) :
    op.adapterAddress machineOf = some (k.1, (k.2 : Int)) ∧ k.2 ≤ 3 := by
  have hslot {vm : Nat} {slot : Int} {guard : Bool} {effect : Settings → Settings}
      (hkey : (onAdapter vm slot guard effect).key = some k) :
      some (vm, slot) = some (k.1, (k.2 : Int)) ∧ k.2 ≤ 3 := by
    unfold onAdapter at hkey
    split at hkey
    · rename_i hpass
      obtain ⟨⟨hlow, hhigh⟩, -⟩ := hpass
      cases hkey
      exact ⟨by rw [Int.toNat_of_nonneg hlow], by omega⟩
    · cases hkey
  cases op <;> first | cases h | exact hslot h

/-- **Adapters do not interfere.** In sequences of adapter operations in which every call succeeds:

* the settings of an adapter are its first settings, changed by the operations addressed to it that
  passed their checks, in their order;
* operations addressed to different machines or slots commute;
* an operation addressed to a slot out of range changes nothing;
* on a powered-off machine `addBridge` does what `setBridge` does, and `addNat` what `setNat`
  does. -/
theorem adapters_apart (machineOf : String → Nat) :
    (∀ (h : Hub) (rs : List (AdapterRun J machineOf)), Succeed h rs → ∀ k,
      (hubAfter h rs).adapters k =
        (rs.filter (·.update.key = some k)).foldl (fun x r => r.update.effect x)
          (h.adapters k)) ∧
    (∀ (h : Hub) (r₁ r₂ r₁' r₂' : AdapterRun J machineOf),
      r₁'.run.op = r₁.run.op → r₁'.states = r₁.states → r₂'.run.op = r₂.run.op →
      r₂'.states = r₂.states →
      r₁.run.op.adapterAddress machineOf ≠ r₂.run.op.adapterAddress machineOf →
      Succeed h [r₁, r₂] → Succeed h [r₂', r₁'] →
        (hubAfter h [r₁, r₂]).adapters = (hubAfter h [r₂', r₁']).adapters) ∧
    (∀ (h : Hub) (r : AdapterRun J machineOf) (vm : Nat) (slot : Int),
      r.run.op.adapterAddress machineOf = some (vm, slot) → ¬(0 ≤ slot ∧ slot ≤ 3) →
      r.Succeeds h → (r.after h).adapters = h.adapters) ∧
    (∀ (h : Hub) (r r' : AdapterRun J machineOf) (n : String) (slot : Int),
      r.states (machineOf n) = .PoweredOff →
      (∃ pci, r.run.op = .addBridge n slot pci ∧ r'.run.op = .setBridge n slot pci) ∨
        (r.run.op = .addNat n slot ∧ r'.run.op = .setNat n slot) →
      r.Succeeds h → r'.Succeeds h →
        r.run.result = r'.run.result ∧ (r.after h).adapters = (r'.after h).adapters) := by
  refine ⟨fun h rs hrs k => ?_,
    fun h r₁ r₂ r₁' r₂' hop₁ hst₁ hop₂ hst₂ hne hrs hrs' => ?_,
    fun h r vm slot haddr hslot hr => ?_, fun h r r' n slot hoff hops hr hr' => ?_⟩
  · -- a run is the fold of its updates, and each adapter sees those that address it
    rw [hubAfter_adapters hrs, Keyed.Update.runAll_apply, List.filter_map, List.foldl_map]
    rfl
  · have hu₁ : r₁'.update = r₁.update := by simp only [AdapterRun.update, hop₁, hst₁]
    have hu₂ : r₂'.update = r₂.update := by simp only [AdapterRun.update, hop₂, hst₂]
    rw [hubAfter_adapters hrs, hubAfter_adapters hrs']
    show r₂.update.apply (r₁.update.apply h.adapters) =
      r₁'.update.apply (r₂'.update.apply h.adapters)
    rw [hu₁, hu₂]
    -- different addresses are different keys
    refine Keyed.Update.apply_comm h.adapters fun k k' hk hk' hkk => hne ?_
    rw [(adapterUpdate_key hk).1, (adapterUpdate_key hk').1, hkk]
  · rw [(AdapterRun.after_adapters hr).2]
    refine Keyed.Update.apply_none ?_
    cases hkey : r.update.key with
    | none => rfl
    | some k =>
      obtain ⟨hk, hle⟩ := adapterUpdate_key hkey
      rw [haddr] at hk
      cases hk
      exact (hslot ⟨by omega, by omega⟩).elim
  · obtain ⟨hres, hadapters⟩ := AdapterRun.after_adapters hr
    obtain ⟨hres', hadapters'⟩ := AdapterRun.after_adapters hr'
    -- on a powered-off machine both operations are to do the same
    have hu : r.update = r'.update := by
      unfold AdapterRun.update
      rcases hops with ⟨pci, hop, hop'⟩ | ⟨hop, hop'⟩
      · rw [hop, hop']
        simp [Op.adapterUpdate, hoff]
      · rw [hop, hop']
        simp [Op.adapterUpdate, hoff]
    rw [hres, hres', hadapters, hadapters', hu]
    exact ⟨rfl, rfl⟩

/-- A host with one powered-off machine; every adapter is disabled. -/
def oneMachineHub : Hub where
  adapters _ := ⟨false, .Null, "", "0800270001"⟩
  held _ := none

/-- An execution on it. -/
def oneMachineRun (op : Op) (h : (op.adapterAddress fun _ => 0).isSome) :
    AdapterRun .mute fun _ => 0 where
  run := Op.play .mute 0 (calm .PoweredOff) op
  states _ := .PoweredOff
  adapter := h

/-- The calls of such an execution that get through: `checks` on the machine, and `writes` to the
adapter. -/
def adapterTrace (checks : VbTrace) (slot : Nat) (writes : List Cmd) : VbTrace :=
  [⟨.ptr (.findMachine "vm"), .ok (some ⟨0, .host⟩)⟩] ++ checks ++
    [⟨.ptr .session, .ok (some ⟨0⟩)⟩,
      ⟨.cmd (.lockMachine ⟨0, .host⟩ (some ⟨0⟩) .Shared), .ok ()⟩,
      ⟨.ptr (.sessionMachine ⟨0⟩), .ok (some ⟨0, .mutable ⟨0⟩⟩)⟩,
      ⟨.ptr (.getNetworkAdapter ⟨0, .mutable ⟨0⟩⟩ slot),
        .ok (some ⟨⟨0, .mutable ⟨0⟩⟩, slot⟩)⟩] ++
    writes.map (fun c => ⟨.cmd c, .ok ()⟩) ++
    [⟨.cmd (.saveSettings ⟨0, .mutable ⟨0⟩⟩), .ok ()⟩,
      ⟨.cmd (.unlockMachine ⟨0⟩), .ok ()⟩,
      ⟨.release (.machine ⟨0, .host⟩), ()⟩]

/-- An adapter is bridged, its neighbour gets NAT, and it is disabled: it keeps its interface. -/
theorem adapters_apart_disabled :
    (hubAfter oneMachineHub [oneMachineRun (.setBridge "vm" 0 "eth0") rfl,
      oneMachineRun (.addNat "vm" 1) rfl, oneMachineRun (.disableAdaptor "vm" 0) rfl]).adapters
        (0, 0) = ⟨false, .Bridged, "eth0", "0800270001"⟩ := by
  have hrun := (adapters_apart (J := .mute) fun _ => 0).1 oneMachineHub
    [oneMachineRun (.setBridge "vm" 0 "eth0") rfl, oneMachineRun (.addNat "vm" 1) rfl,
      oneMachineRun (.disableAdaptor "vm" 0) rfl] ?_ (0, 0)
  · exact hrun
  · have hbridge : (oneMachineRun (.setBridge "vm" 0 "eth0") rfl).run.trace =
        adapterTrace [] 0 [.setBridgedInterface ⟨⟨0, .mutable ⟨0⟩⟩, 0⟩ "eth0",
          .setAttachmentType ⟨⟨0, .mutable ⟨0⟩⟩, 0⟩ .Bridged,
          .setAdapterEnabled ⟨⟨0, .mutable ⟨0⟩⟩, 0⟩ true] := by rfl
    have hnat : (oneMachineRun (.addNat "vm" 1) rfl).run.trace =
        adapterTrace [⟨.val (.state ⟨0, .host⟩), .ok .PoweredOff⟩] 1
          [.setAttachmentType ⟨⟨0, .mutable ⟨0⟩⟩, 1⟩ .NAT,
            .setAdapterEnabled ⟨⟨0, .mutable ⟨0⟩⟩, 1⟩ true] := by rfl
    have hdisable : (oneMachineRun (.disableAdaptor "vm" 0) rfl).run.trace =
        adapterTrace [⟨.val (.state ⟨0, .host⟩), .ok .PoweredOff⟩] 0
          [.setAdapterEnabled ⟨⟨0, .mutable ⟨0⟩⟩, 0⟩ false] := by rfl
    refine ⟨?_, ?_, ?_, trivial⟩
    · unfold AdapterRun.Succeeds
      rw [hbridge]
      simp [adapterTrace]
    · unfold AdapterRun.Succeeds
      rw [hnat]
      simp [adapterTrace, oneMachineRun]
    · unfold AdapterRun.Succeeds
      rw [hdisable]
      simp [adapterTrace, oneMachineRun]

end VirtCore
