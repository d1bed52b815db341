import VirtCore.Machines.Calm
import VirtCore.Machines.Creation

/-!
# VirtCore — what a full clone leaves behind

* **`Abandons`** — how `cloneFullVM` ends where it does not return `true`.
* **`cloneFullVM_ends`** — it returns `true` only with its target registered, and the clone done.
* **`clone_clean_iff`** — exactly when a clone that fails registers nothing.
-/

namespace VirtCore.Machines


open Interact Keyed QiVCA

variable {V : Hypervisor} {h₀ : VBoxHost} {st st' : VBoxHost × Log}

/-- Nothing has been registered; or something has been, and then a call has gone wrong. -/
def Abandons (h₀ : VBoxHost) (st : VBoxHost × Log) : Prop :=
  Intact h₀ st ∨ (st.2.wrong ∧ ∃ vm, Registered h₀ vm st)

theorem Abandons.alike (hst : Abandons h₀ st) (h : Alike st st')
    (hwrong : st.2.wrong → st'.2.wrong) : Abandons h₀ st' := by
  rcases hst with hst | ⟨hw, vm, hreg⟩
  · exact .inl (hst.alike h)
  · exact .inr ⟨hwrong hw, vm, hreg.alike h⟩

/-- There is a machine that was not registered. -/
def Fresh (h₀ : VBoxHost) (t : IMachine) (st : VBoxHost × Log) : Prop :=
  Fine h₀ st ∧ t.view = .host ∧ h₀.registered t.vm = false

/-- It is being cloned into. -/
def Cloning (h₀ : VBoxHost) (t : IMachine) (p : IProgress) (st : VBoxHost × Log) : Prop :=
  Fresh h₀ t st ∧ st.2.clones t.vm p

/-- It is registered. -/
def Registering (h₀ : VBoxHost) (t : IMachine) (p : IProgress) (st : VBoxHost × Log) : Prop :=
  Registered h₀ t.vm st ∧ ¬st.2.wrong ∧ st.2.clones t.vm p

theorem fine_phase : Phase (Abandons h₀) (Fine h₀) where
  keep hst ha hw _ _ := ⟨hst.1.alike ha, fun h => hst.2 (hw h)⟩
  fail hst ha _ := .inl (hst.1.alike ha)

theorem fresh_phase {t : IMachine} : Phase (Abandons h₀) (Fresh h₀ t) where
  keep hst ha hw hc hr := ⟨fine_phase.keep hst.1 ha hw hc hr, hst.2⟩
  fail hst ha hw := fine_phase.fail hst.1 ha hw

theorem cloning_phase {t : IMachine} {p : IProgress} :
    Phase (Abandons h₀) (Cloning h₀ t p) where
  keep hst ha hw hc hr := ⟨fresh_phase.keep hst.1 ha hw hc hr, (ha.clones _ _).mpr hst.2⟩
  fail hst ha hw := fresh_phase.fail hst.1 ha hw

theorem registering_phase {t : IMachine} {p : IProgress} :
    Phase (Abandons h₀) (Registering h₀ t p) where
  keep hst ha hw _ _ :=
    ⟨hst.1.alike ha, fun h => hst.2.1 (hw h), (ha.clones _ _).mpr hst.2.2⟩
  fail hst ha hw := .inr ⟨hw, t.vm, hst.1.alike ha⟩

/-- The results of `cloneFullVM`. -/
def Clones (V : Hypervisor) (h₀ : VBoxHost) (b : Bool) (st : VBoxHost × Log) : Prop :=
  if b then ¬st.2.wrong ∧ ∃ vm p, st.2.clones vm p ∧ V.ending p = 0 ∧ Registered h₀ vm st
  else Abandons h₀ st

/-- An operation on its way out. -/
theorem abandons_put {y : OutParam} {value : String} {k : Unit → Vb Bool}
    (hk : Triple (createView V) (Abandons h₀) (k ()) (Clones V h₀) fun _ => Abandons h₀) :
    Triple (createView V) (Abandons h₀) (put y value >>= k) (Clones V h₀) fun _ =>
      Abandons h₀ :=
  fun st hst _ _ => hk _ (hst.alike (idle_put.alike st) .inl)

theorem abandons_release {m : COMPtr IMachine} :
    Triple (createView V) (Abandons h₀) (releaseMachine m >>= fun _ => .ret false) (Clones V h₀)
      fun _ => Abandons h₀ := by
  cases m with
  | none => exact Triple.exit fun _ hst => hst
  | some m =>
    intro st hst _ _
    have hidle : Idle V (.release (.machine m)) () := ⟨fun _ => rfl, id, fun _ _ => id⟩
    exact hst.alike (hidle.alike st) .inl

theorem fine_creates {settingsFile name osTypeId flags : String} {groups : List String}
    {k : COMPtr IMachine → Vb Bool}
    (hnone : Triple (createView V) (Abandons h₀) (k none) (Clones V h₀) fun _ => Abandons h₀)
    (hk : ∀ t, Triple (createView V) (Fresh h₀ t) (k (some t)) (Clones V h₀) fun _ =>
      Abandons h₀) :
    Triple (createView V) (Fine h₀)
      (ptr (.createMachine settingsFile name groups osTypeId flags) >>= k) (Clones V h₀)
      fun _ => Abandons h₀ := by
  refine fine_phase.ptrTo (fun t st hst hok => ?_) hnone fun t _ => hk t
  obtain ⟨hfine, hview, hvm⟩ := hst.create hok
  exact ⟨hfine, hview, hvm⟩

/-- A clone of a machine changes its target only. -/
theorem fresh_clones {m t : IMachine} {mode : CloneMode} {options : List CloneOptions}
    {k : COMPtr IProgress → Vb Bool}
    (hnone : Triple (createView V) (Abandons h₀) (k none) (Clones V h₀) fun _ => Abandons h₀)
    (hk : ∀ p, Triple (createView V) (Cloning h₀ t p) (k (some p)) (Clones V h₀) fun _ =>
      Abandons h₀) :
    Triple (createView V) (Fresh h₀ t) (ptr (.cloneTo m (some t) mode options) >>= k)
      (Clones V h₀) fun _ => Abandons h₀ := by
  intro st hst
  rw [wp_bind, wp_ptr]
  refine ⟨fun _ => ?_, fun p _ => hk p _ ?_, fun err _ => ?_⟩
  · exact hnone _ (fresh_phase.error hst (.inr id) trivial)
  · obtain ⟨⟨hintact, hwrong⟩, hview, hvm⟩ := hst
    have hsame : Same h₀ (hostNext V st.1 (.ptr (.cloneTo m (some t) mode options))
        (.ok (some p))) := by
      show Same h₀ (PtrCall.effect V st.1 (.cloneTo m (some t) mode options) p)
      simp only [PtrCall.effect]
      -- the source is the machine itself or one of its snapshots
      split <;> exact hintact.same.clone hvm _
    refine ⟨⟨⟨⟨hsame, ?_, ?_⟩, ?_⟩, hview, hvm⟩, .inr ⟨rfl, rfl⟩⟩
    · exact fun hr => hr.elim hintact.registers id
    · rintro vm p' (hc | ⟨rfl, -⟩)
      · exact hintact.clones vm p' hc
      · exact hvm
    · exact fun hw => hw.elim hwrong id
  · exact fresh_phase.error hst (.inl trivial) trivial

/-- The new machine has no session, so its settings are its own. -/
theorem Fresh.saveSettings {t : IMachine} (hst : Fresh h₀ t st) :
    Fresh h₀ t ((createView V).next st (.cmd (.saveSettings t)) (.ok ())) := by
  have hidle : hostNext V st.1 (.cmd (.saveSettings t)) (.ok ()) = st.1 := by
    show st.1.saveSettings t = st.1
    unfold VBoxHost.saveSettings
    rw [hst.2.1]
  refine fresh_phase.keep hst ⟨hidle, ?_, fun _ _ => ?_⟩ (fun hw => hw.resolve_right id) rfl rfl
  · exact ⟨fun hr => hr.resolve_right id, .inl⟩
  · exact ⟨fun hc => hc.resolve_right id, .inl⟩

theorem cloning_poll {t : IMachine} (fuel : Nat) (p : IProgress) :
    Triple (createView V) (Cloning h₀ t p) (pollCompleted fuel (some p))
      (fun _ => Cloning h₀ t p) fun _ => Abandons h₀ := by
  have hidle (b : Bool) : Idle V (.val (.completed p)) (.ok b) :=
    ⟨fun _ => rfl, id, fun _ _ => id⟩
  have hnext (b : Bool) (st : VBoxHost × Log) (hst : Cloning h₀ t p st) :
      Cloning h₀ t p ((createView V).next st (.val (.completed p)) (.ok b)) :=
    cloning_phase.keep hst ((hidle b).alike st) (fun hw => hw.resolve_right id) rfl rfl
  refine triple_pollCompleted (P := fun _ => Cloning h₀ t p) fuel ?_ ?_ ?_ ?_
  · exact fun st hst => .inl hst.1.1.1
  · exact fun _ st hst => hnext false st hst
  · exact fun _ st hst _ => hnext true st hst
  · exact fun err _ st hst _ => cloning_phase.error hst (.inl trivial) trivial

/-- The target is registered, whatever its clone ended with. -/
theorem Cloning.register {t : IMachine} {p : IProgress} (hst : Cloning h₀ t p st) :
    Registering h₀ t p
      ((createView V).next st (.cmd (.registerMachine (some t))) (.ok ())) := by
  refine ⟨⟨.inr trivial, hst.1.2.2, ?_⟩, fun hw => hw.elim hst.1.1.2 id, .inl hst.2⟩
  exact Function.update_self ..

/-- The result code is read last. -/
theorem registering_resultCode {t : IMachine} (p : IProgress) :
    Triple (createView V) (Registering h₀ t p)
      (val (.resultCode p) >>= fun code => .ret (code == 0)) (Clones V h₀)
      fun _ => Abandons h₀ := by
  intro st hst
  rw [wp_bind, wp_val]
  have hidle (code : Int) : Idle V (.val (.resultCode p)) (.ok code) :=
    ⟨fun _ => rfl, id, fun _ _ => id⟩
  refine ⟨fun code hcode => ?_, fun err _ => ?_⟩
  · have hreg := hst.1.alike ((hidle code).alike st)
    by_cases hzero : code = 0
    · subst hzero
      refine ⟨fun hw => hw.elim hst.2.1 fun hne => hne rfl, t.vm, p, .inl hst.2.2, ?_, hreg⟩
      exact hcode.1.symm
    · have hfalse : (code == 0) = false := by simpa using hzero
      show Clones V h₀ (code == 0) _
      rw [hfalse]
      exact .inr ⟨.inr hzero, t.vm, hreg⟩
  · exact registering_phase.error hst (.inl trivial) trivial

/-- **How `cloneFullVM` ends.** -/
theorem cloneFullVM_ends (fuel : Nat) (_vmname basefolder target_vmname : String)
    (keepmacs keephwuuids keepdiskname : Bool) :
    Triple (createView V) (Fine h₀)
      (cloneFullVM fuel _vmname basefolder target_vmname keepmacs keephwuuids keepdiskname)
      (Clones V h₀) fun _ => Abandons h₀ := by
  have hleave (m : COMPtr IMachine) (message : String) :
      Triple (createView V) (Abandons h₀)
        (callbackdata message >>= fun _ => releaseMachine m >>= fun _ => .ret false)
        (Clones V h₀) fun _ => Abandons h₀ := abandons_put abandons_release
  refine fine_phase.ptr (fun o => ⟨fun _ => rfl, id, fun _ _ => id⟩) (hleave none _) fun m => ?_
  refine fine_phase.val (fun _ => ⟨fun _ => rfl, id, fun _ _ => id⟩) (fun _ => id) fun id' => ?_
  refine Phase.put (fun st hst => hst.put) ?_
  refine fine_phase.val (fun _ => ⟨fun _ => rfl, id, fun _ _ => id⟩)
    (fun _ => id) fun state => ?_
  split
  · refine fine_phase.val (fun _ => ⟨fun _ => rfl, id, fun _ _ => id⟩)
      (fun _ => id) fun p => ?_
    refine fine_phase.val (fun _ => ⟨fun _ => rfl, id, fun _ _ => id⟩)
      (fun _ => id) fun os => ?_
    refine fine_creates (hleave (some m) _) fun t => ?_
    refine fresh_phase.cmd (fun st hst _ => hst.saveSettings) ?_
    refine fresh_clones (Triple.exit fun _ hst => hst) fun p => ?_
    refine (cloning_poll fuel p).bind fun _ => ?_
    refine cloning_phase.cmd (fun st hst _ => hst.register) ?_
    refine registering_phase.release ?_
    -- the result code is only looked at when the clone has been registered
    exact registering_resultCode p
  · exact (hleave (some m) _).conseq (fun _ hst => .inl hst.1) (fun _ _ h => h) fun _ _ h => h

/-- A clone is done: its task has ended with 0 and its target is registered. -/
def Done (V : Hypervisor) (t : VbTrace) (h : VBoxHost) : Prop :=
  ∃ vm p, (∃ e ∈ t, clones e.1 e.2 vm p) ∧ V.ending p = 0 ∧ h.registered vm = true

/-- An operation that does not return `true` leaves the registered machines as they were, the
source of a clone among them, and no other machine under the name `n`. -/
def CleanFailure (V : Hypervisor) (n : String) (h₀ h : VBoxHost)
    (result : Except Exit (Option Bool)) : Prop :=
  result ≠ .ok (some true) → h.registered = h₀.registered ∧
    (∀ vm, h₀.registered vm = true → h.store.saved vm = h₀.store.saved vm) ∧
    ∀ vm, Findable V n h vm ↔ Findable V n h₀ vm

/-- **Exactly when a failed clone registers nothing.** `cloneFullVM` returns `true` just where the
clone is done, and otherwise leaves nothing behind, unless its target has been registered and
something has gone wrong: the clone did not end with 0, or its result code could not be read. -/
theorem clone_clean_iff {J : Jsoncpp} {r : OpRun J} {n basefolder target : String}
    {keepmacs keephwuuids keepdiskname : Bool}
    (hop : r.op = .cloneFullVM n basefolder target keepmacs keephwuuids keepdiskname)
    (hadmits : (hostView V).Admits h₀ r.trace) :
    ((r.result = .ok (some true) ↔ Done V r.trace ((hostView V).after h₀ r.trace)) ∧
      CleanFailure V target h₀ ((hostView V).after h₀ r.trace) r.result) ↔
    ¬((∃ e ∈ r.trace, registers e.1 e.2) ∧ ∃ e ∈ r.trace, wrong e.1 e.2) := by
  have hfine : Fine h₀ (h₀, Log.start) := ⟨⟨Same.refl, id, fun _ _ => False.elim⟩, id⟩
  have hpair : (createView V).Admits (h₀, Log.start) r.trace :=
    (View.pair_admits _ _).mpr ⟨hadmits, logView_admits _ _⟩
  have hruns := r.runs
  rw [hop] at hruns
  have hrun := Triple.runs (triple_some (cloneFullVM_ends r.fuel n basefolder target keepmacs
    keephwuuids keepdiskname)) hfine hruns hpair
  rw [View.pair_after] at hrun
  have hwrong : (∃ e ∈ r.trace, wrong e.1 e.2) ↔ (logView.after Log.start r.trace).wrong := by
    simp [log_wrong, Log.start]
  have hregisters : (∃ e ∈ r.trace, registers e.1 e.2) ↔
      (logView.after Log.start r.trace).registers := by
    simp [log_registers, Log.start]
  have hclones (vm : Nat) (p : IProgress) : (∃ e ∈ r.trace, clones e.1 e.2 vm p) ↔
      (logView.after Log.start r.trace).clones vm p := by
    simp [log_clones, Log.start]
  unfold Done CleanFailure
  simp only [hwrong, hregisters, hclones]
  generalize (hostView V).after h₀ r.trace = h at hrun ⊢
  generalize logView.after Log.start r.trace = l at hrun ⊢
  -- without success, nothing is registered or something is that should not be
  have habandons (hresult : r.result ≠ .ok (some true)) (hst : Abandons h₀ (h, l)) :
      ((r.result = .ok (some true) ↔
        ∃ vm p, l.clones vm p ∧ V.ending p = 0 ∧ h.registered vm = true) ∧
        (r.result ≠ .ok (some true) → h.registered = h₀.registered ∧
          (∀ vm, h₀.registered vm = true → h.store.saved vm = h₀.store.saved vm) ∧
          ∀ vm, Findable V target h vm ↔ Findable V target h₀ vm)) ↔
      ¬(l.registers ∧ l.wrong) := by
    rcases hst with hst | ⟨hwrong, vm, hreg⟩
    · refine iff_of_true ⟨iff_of_false hresult ?_, fun _ => ?_⟩ fun hr => hst.registers hr.1
      · rintro ⟨vm, p, hc, -, hreg⟩
        rw [hst.same.registered, hst.clones vm p hc] at hreg
        cases hreg
      · exact ⟨hst.same.registered, hst.same.saved, hst.same.findable⟩
    · refine iff_of_false (fun hclean => ?_) fun hnot => hnot ⟨hreg.registers, hwrong⟩
      exact hreg.not_same (hclean.2 hresult).1
  cases hresult : r.result with
  | error e =>
    rw [hresult] at hrun habandons
    exact habandons nofun hrun
  | ok o =>
    rw [hresult] at hrun habandons
    obtain ⟨b, rfl, hb⟩ := hrun
    cases b with
    | false => exact habandons nofun hb
    | true =>
      obtain ⟨hnot, vm, p, hc, hend, hreg⟩ := hb
      refine iff_of_true ⟨iff_of_true rfl ⟨vm, p, hc, hend, hreg.after⟩, ?_⟩ fun hr =>
        hnot hr.2
      exact fun hne => absurd rfl hne

/-- The clone task ends with `E_FAIL`. -/
def failing : Hypervisor := { plain with ending := fun _ => -2147467259 }

def failingClone : Oracle vboxSig := fun h a =>
  match a with
  | .val (.resultCode _) => .ok (-2147467259 : Int)
  | a => making .PoweredOff h a

/-- A full clone of machine 0. -/
abbrev fullClone (ω : Oracle vboxSig) : OpRun .mute :=
  Op.play .mute 1 ω (.cloneFullVM "vm" "/vm" "new" false false false)

/-- The calls of a clone whose task ends with `code`. -/
def cloneTrace (code : Int) : VbTrace :=
  [⟨.ptr (.findMachine "vm"), .ok (some ⟨0, .host⟩)⟩,
    ⟨.val (.machineId ⟨0, .host⟩), .ok ""⟩,
    ⟨.put .callbackdata "", ()⟩,
    ⟨.val (.state ⟨0, .host⟩), .ok .PoweredOff⟩,
    ⟨.val (.composeMachineFilename "new" "" "" "/vm"), .ok ""⟩,
    ⟨.val (.OSTypeId ⟨0, .host⟩), .ok ""⟩,
    ⟨.ptr (.createMachine "" "new" [] "" ""), .ok (some ⟨1, .host⟩)⟩,
    ⟨.cmd (.saveSettings ⟨1, .host⟩), .ok ()⟩,
    ⟨.ptr (.cloneTo ⟨0, .host⟩ (some ⟨1, .host⟩) .AllStates []), .ok (some ⟨0⟩)⟩,
    ⟨.val (.completed ⟨0⟩), .ok true⟩,
    ⟨.cmd (.registerMachine (some ⟨1, .host⟩)), .ok ()⟩,
    ⟨.release (.machine ⟨0, .host⟩), ()⟩,
    ⟨.val (.resultCode ⟨0⟩), .ok code⟩]

theorem cloneTrace_admits {V : Hypervisor} {code : Int} (huuid : V.uuid 0 = "")
    (hcode : V.ending ⟨0⟩ = code) : (hostView V).Admits oneMachine (cloneTrace code) := by
  simp [cloneTrace, hostOk, hostNext, PtrCall.answers, PtrCall.effect, PtrCall.setting,
    Cmd.setting, oneMachine, huuid, hcode, Cmd.effect, VBoxHost.saveSettings, VBoxHost.create]

/-- The target of a clone that fails stays registered. -/
theorem failedClone_registers :
    (hostView failing).Admits oneMachine (fullClone failingClone).trace ∧
      (fullClone failingClone).result = .ok (some false) ∧
      ¬CleanFailure failing "new" oneMachine
        ((hostView failing).after oneMachine (fullClone failingClone).trace)
        (fullClone failingClone).result := by
  have htrace : (fullClone failingClone).trace = cloneTrace (-2147467259) := rfl
  have hresult : (fullClone failingClone).result = .ok (some false) := rfl
  refine ⟨by rw [htrace]; exact cloneTrace_admits rfl rfl, hresult, fun h => ?_⟩
  have hsame := congrFun (h (by rw [hresult]; nofun)).1 1
  cases hsame

/-- A clone that succeeds. -/
theorem clone_clean_iff_succeeds :
    (fullClone (making .PoweredOff)).result = .ok (some true) ↔
      Done plain (fullClone (making .PoweredOff)).trace
        ((hostView plain).after oneMachine (fullClone (making .PoweredOff)).trace) := by
  have htrace : (fullClone (making .PoweredOff)).trace = cloneTrace 0 := rfl
  have hadmits : (hostView plain).Admits oneMachine (fullClone (making .PoweredOff)).trace := by
    rw [htrace]
    exact cloneTrace_admits rfl rfl
  refine ((clone_clean_iff rfl hadmits).mpr fun h => ?_).1
  obtain ⟨-, e, he, hwrong⟩ := h
  rw [htrace] at he
  simp [cloneTrace] at he
  rcases he with rfl | rfl | rfl | rfl | rfl | rfl | rfl | rfl | rfl | rfl | rfl | rfl | rfl <;>
    first | exact hwrong.elim | exact hwrong rfl

end VirtCore.Machines
