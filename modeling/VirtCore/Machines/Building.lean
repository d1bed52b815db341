import VirtCore.Core.Install
import VirtCore.Machines.Creation

/-!
# VirtCore — building a machine

The part that the two create operations share: a new machine gets its first settings, is
registered, and is then changed through the mutable machine of the session that locks it.

* **`Created`** / **`Built`** — there is a new machine, and its id has been handed back.
* **`Enlisted`** — it is registered, with given settings.
* **`Drafted`** — a session drafts its settings.
* **`Left`** — how an operation ends that does not return `true`.
-/

namespace VirtCore.Machines


open Interact Keyed QiVCA

variable {V : Hypervisor} {h₀ : VBoxHost} {st st' : VBoxHost × Log} {bad : Prop} {x : OutParam}
  {t : IMachine} {vm : Nat} {s : ISession} {d : Config} {a : Act} {y : a.Ans}

/-- Something has gone wrong before anything was registered. -/
def Early (h₀ : VBoxHost) (st : VBoxHost × Log) : Prop := st.2.wrong ∧ Intact h₀ st

/-- A machine has been registered, and something has gone wrong or is bound to. -/
def Late (bad : Prop) (h₀ : VBoxHost) (st : VBoxHost × Log) : Prop :=
  (st.2.wrong ∨ bad) ∧ ∃ vm, Registered h₀ vm st

def Left (bad : Prop) (h₀ : VBoxHost) (st : VBoxHost × Log) : Prop :=
  Early h₀ st ∨ Late bad h₀ st

theorem Early.next (hst : Early h₀ st) (ha : Idle V a y) :
    Early h₀ ((createView V).next st a y) :=
  ⟨.inl hst.1, hst.2.alike (ha.alike st)⟩

/-- Only `unregister` undoes a registration. -/
theorem Late.next (hst : Late bad h₀ st)
    (h : (hostNext V st.1 a y).registered = st.1.registered) :
    Late bad h₀ ((createView V).next st a y) := by
  obtain ⟨hbad, vm, hreg⟩ := hst
  refine ⟨hbad.imp_left .inl, vm, .inl hreg.registers, hreg.before, ?_⟩
  exact (congrFun h vm).trans hreg.after

theorem Late.fails (hst : Late bad h₀ st)
    (hy : threwError a y ∨ nullUnless (fun _ => False) a y) :
    Late bad h₀ ((createView V).next st a y) :=
  hst.next (congrArg VBoxHost.registered ((idle_fails hy).1 st.1))

theorem Left.next (hst : Left bad h₀ st) (ha : Idle V a y) :
    Left bad h₀ ((createView V).next st a y) := by
  rcases hst with hst | hst
  · exact .inl (hst.next ha)
  · exact .inr (hst.next (congrArg VBoxHost.registered (ha.1 st.1)))

/-! ## The phases

A machine that is being made: created, told to the caller, registered, drafted. Each phase says
how the host differs from the one at the start. -/

/-- There is a machine that was not registered, with the settings `d`. -/
structure Created (h₀ : VBoxHost) (t : IMachine) (d : Config) (st : VBoxHost × Log) : Prop where
  fine : Fine h₀ st
  view : t.view = .host
  fresh : h₀.registered t.vm = false
  saved : st.1.store.saved t.vm = some d

/-- Its id is in the output parameter `x`. -/
structure Built (V : Hypervisor) (h₀ : VBoxHost) (x : OutParam) (t : IMachine) (d : Config)
    (st : VBoxHost × Log) : Prop extends Created h₀ t d st where
  told : st.2.output x = V.uuid t.vm

/-- It is registered. -/
structure Enlisted (V : Hypervisor) (h₀ : VBoxHost) (x : OutParam) (vm : Nat) (d : Config)
    (st : VBoxHost × Log) : Prop where
  registered : Registered h₀ vm st
  fine : ¬st.2.wrong
  saved : st.1.store.saved vm = some d
  told : st.2.output x = V.uuid vm

/-- It is registered, and the session `s` drafts the settings `d` for it. -/
structure Drafted (V : Hypervisor) (h₀ : VBoxHost) (x : OutParam) (vm : Nat) (s : ISession)
    (d : Config) (st : VBoxHost × Log) : Prop where
  registered : Registered h₀ vm st
  fine : ¬st.2.wrong
  draft : st.1.store.draft s = some (vm, d)
  told : st.2.output x = V.uuid vm

theorem output_eq {l l' : Log} (hc : l'.callbackdata = l.callbackdata)
    (hr : l'.result = l.result) : l'.output x = l.output x := by
  cases x with
  | callbackdata => exact hc
  | result => exact hr

theorem fine_leaves : Phase (Left bad h₀) (Fine h₀) where
  keep hst ha hw _ _ := ⟨hst.1.alike ha, fun h => hst.2 (hw h)⟩
  fail hst ha hw := .inl ⟨hw, hst.1.alike ha⟩

theorem created_phase : Phase (Left bad h₀) (Created h₀ t d) where
  keep hst ha hw hc hr := by
    refine ⟨Phase.keep (E := Left bad h₀) fine_leaves hst.fine ha hw hc hr, hst.view,
      hst.fresh, ?_⟩
    rw [ha.host]
    exact hst.saved
  fail hst ha hw := fine_leaves.fail hst.fine ha hw

theorem built_phase : Phase (Left bad h₀) (Built V h₀ x t d) where
  keep hst ha hw hc hr :=
    ⟨Phase.keep (E := Left bad h₀) created_phase hst.toCreated ha hw hc hr,
      (output_eq hc hr).trans hst.told⟩
  fail hst ha hw := created_phase.fail hst.toCreated ha hw

theorem enlisted_phase : Phase (Late bad h₀) (Enlisted V h₀ x vm d) where
  keep hst ha hw hc hr := by
    refine ⟨hst.registered.alike ha, fun h => hst.fine (hw h), ?_,
      (output_eq hc hr).trans hst.told⟩
    rw [ha.host]
    exact hst.saved
  fail hst ha hw := ⟨.inl hw, vm, hst.registered.alike ha⟩

theorem drafted_phase : Phase (Late bad h₀) (Drafted V h₀ x vm s d) where
  keep hst ha hw hc hr := by
    refine ⟨hst.registered.alike ha, fun h => hst.fine (hw h), ?_,
      (output_eq hc hr).trans hst.told⟩
    rw [ha.host]
    exact hst.draft
  fail hst ha hw := ⟨.inl hw, vm, hst.registered.alike ha⟩

theorem Drafted.late (hst : Drafted V h₀ x vm s d st) (hbad : bad) : Late bad h₀ st :=
  ⟨.inr hbad, vm, hst.registered⟩

/-! ## Steps

What leads from one phase to the next, and the calls that stay within one. -/

/-- A setter registers nothing. -/
theorem setting_registers {c : Cmd} {m : IMachine} {f : Field} {v : Value}
    (hc : c.setting = some (m, f, v)) : ¬registers (.cmd c) (.ok ()) := by
  cases c <;> simp only [Cmd.setting, reduceCtorEq] at hc <;> exact id

/-- The new machine is not locked, so a setter writes its settings. -/
theorem Built.set {c : Cmd} {f : Field} {v : Value} (hc : c.setting = some (t, f, v))
    (hst : Built V h₀ x t d st) :
    Built V h₀ x t (Function.update d f v) ((createView V).next st (.cmd c) (.ok ())) := by
  have hput : hostNext V st.1 (.cmd c) (.ok ()) =
      { st.1 with store := st.1.store.put t.vm f v } := by
    show c.effect st.1 = _
    rw [Cmd.effect_of_setting hc, VBoxHost.write, hst.view]
  have hsame : Same h₀ (hostNext V st.1 (.cmd c) (.ok ())) := by
    rw [hput]
    exact hst.fine.1.same.change hst.fresh rfl rfl rfl rfl fun _ hne => Staged.put_saved_of_ne hne
  have hintact : Intact h₀ ((createView V).next st (.cmd c) (.ok ())) := by
    refine ⟨hsame, fun hr => ?_, fun vm p hcl => ?_⟩
    · exact hr.elim hst.fine.1.registers (setting_registers hc)
    · exact hst.fine.1.clones vm p (hcl.resolve_right id)
  refine ⟨⟨⟨hintact, fun hw => hw.elim hst.fine.2 id⟩, hst.view, hst.fresh, ?_⟩, ?_⟩
  · show (hostNext V st.1 (.cmd c) (.ok ())).store.saved t.vm = _
    rw [hput, Staged.put_saved, hst.saved]
    rfl
  · exact (output_eq rfl rfl).trans hst.told

theorem Built.register (hst : Built V h₀ x t d st) :
    Enlisted V h₀ x t.vm d
      ((createView V).next st (.cmd (.registerMachine (some t))) (.ok ())) := by
  refine ⟨⟨.inr trivial, hst.fresh, Function.update_self ..⟩, ?_, hst.saved, ?_⟩
  · exact fun hw => hw.elim hst.fine.2 id
  · exact (output_eq rfl rfl).trans hst.told

/-- A call that registers and unregisters nothing. -/
theorem Registered.next (hst : Registered h₀ vm st)
    (h : (hostNext V st.1 a y).registered = st.1.registered) :
    Registered h₀ vm ((createView V).next st a y) :=
  ⟨.inl hst.registers, hst.before, (congrFun h vm).trans hst.after⟩

/-- A session that locks the machine drafts its settings. -/
theorem Enlisted.lock {lockType : LockType} (hview : t.vm = vm) (hst : Enlisted V h₀ x vm d st) :
    Drafted V h₀ x vm s d
      ((createView V).next st (.cmd (.lockMachine t (some s) lockType)) (.ok ())) := by
  subst hview
  refine ⟨hst.registered.next rfl, fun hw => hw.elim hst.fine id, ?_, ?_⟩
  · show (st.1.store.openDraft s t.vm).draft s = _
    simp [Staged.openDraft, hst.saved]
  · exact (output_eq rfl rfl).trans hst.told

/-- A call that turns the draft into `d'`. -/
theorem Drafted.next {d' : Config} (hst : Drafted V h₀ x vm s d st)
    (hregistered : (hostNext V st.1 a y).registered = st.1.registered)
    (hdraft : (hostNext V st.1 a y).store.draft s = some (vm, d')) (hwrong : ¬wrong a y)
    (hput : ∀ x value, a ≠ .put x value) :
    Drafted V h₀ x vm s d' ((createView V).next st a y) := by
  have hkeep (old : String) (z : OutParam) : assigned old z a = old := by
    cases a with
    | put x value => exact absurd rfl (hput x value)
    | _ => rfl
  refine ⟨hst.registered.next hregistered, fun hw => hw.elim hst.fine hwrong, hdraft, ?_⟩
  exact (output_eq (hkeep ..) (hkeep ..)).trans hst.told

theorem Drafted.write {f : Field} {v : Value} (hst : Drafted V h₀ x vm s d st)
    (hnext : hostNext V st.1 a y = st.1.write ⟨vm, .mutable s⟩ f v) (hwrong : ¬wrong a y)
    (hput : ∀ x value, a ≠ .put x value) :
    Drafted V h₀ x vm s (Function.update d f v) ((createView V).next st a y) := by
  refine hst.next ?_ ?_ hwrong hput
  · rw [hnext]
    rfl
  · rw [hnext]
    simp [Staged.write, hst.draft]

theorem Drafted.set {c : Cmd} {f : Field} {v : Value}
    (hc : c.setting = some (⟨vm, .mutable s⟩, f, v)) (hst : Drafted V h₀ x vm s d st) :
    Drafted V h₀ x vm s (Function.update d f v) ((createView V).next st (.cmd c) (.ok ())) :=
  hst.write (Cmd.effect_of_setting hc) id nofun

/-- Saving the settings makes the draft the settings of the machine. -/
theorem Drafted.save (hst : Drafted V h₀ x vm s d st) :
    Enlisted V h₀ x vm d
      ((createView V).next st (.cmd (.saveSettings ⟨vm, .mutable s⟩)) (.ok ())) := by
  refine ⟨hst.registered.next rfl, fun hw => hw.elim hst.fine id, ?_, ?_⟩
  · show (st.1.store.save s).saved vm = _
    rw [Staged.save_eq hst.draft, Staged.create_saved]
  · exact (output_eq rfl rfl).trans hst.told

theorem Enlisted.unlock (hst : Enlisted V h₀ x vm d st) :
    Enlisted V h₀ x vm d ((createView V).next st (.cmd (.unlockMachine s)) (.ok ())) :=
  ⟨hst.registered.next rfl, fun hw => hw.elim hst.fine id, hst.saved,
    (output_eq rfl rfl).trans hst.told⟩

/-! ## Rules

Before the machine is registered the exits are `Left`, afterwards they are `Late`. -/

section

variable {α : Type} {R : α → VBoxHost × Log → Prop}

theorem left_put {z : OutParam} {value : String} {k : Unit → Vb α}
    (hk : Triple (createView V) (Left bad h₀) (k ()) R fun _ => Left bad h₀) :
    Triple (createView V) (Left bad h₀) (put z value >>= k) R fun _ => Left bad h₀ :=
  fun _ hst _ _ => hk _ (hst.next idle_put)

theorem late_put {z : OutParam} {value : String} {k : Unit → Vb α}
    (hk : Triple (createView V) (Late bad h₀) (k ()) R fun _ => Late bad h₀) :
    Triple (createView V) (Late bad h₀) (put z value >>= k) R fun _ => Late bad h₀ :=
  fun _ hst _ _ => hk _ (hst.next rfl)

theorem late_release {m : IMachine} {k : Unit → Vb α}
    (hk : Triple (createView V) (Late bad h₀) (k ()) R fun _ => Late bad h₀) :
    Triple (createView V) (Late bad h₀) (releaseMachine (some m) >>= k) R fun _ =>
      Late bad h₀ :=
  fun _ hst _ _ => hk _ (hst.next rfl)

theorem late_cmd {c : Cmd} {k : Unit → Vb α}
    (hquiet : ∀ h : VBoxHost, (c.effect h).registered = h.registered)
    (hk : Triple (createView V) (Late bad h₀) (k ()) R fun _ => Late bad h₀) :
    Triple (createView V) (Late bad h₀) (cmd c >>= k) R fun _ => Late bad h₀ := by
  intro st hst
  rw [wp_bind, wp_cmd]
  exact ⟨fun _ => hk _ (hst.next (hquiet _)), fun err _ => hst.fails (.inl trivial)⟩

theorem late_val {c : ValCall} {k : c.Val → Vb α}
    (hquiet : ∀ (h : VBoxHost) z, (hostNext V h (.val c) (.ok z)).registered = h.registered)
    (hk : ∀ z, Triple (createView V) (Late bad h₀) (k z) R fun _ => Late bad h₀) :
    Triple (createView V) (Late bad h₀) (val c >>= k) R fun _ => Late bad h₀ := by
  intro st hst
  rw [wp_bind, wp_val]
  exact ⟨fun z _ => hk z _ (hst.next (hquiet _ z)), fun err _ => hst.fails (.inl trivial)⟩

theorem late_ptr {c : PtrCall} {k : COMPtr c.Ifc → Vb α}
    (hquiet : ∀ (h : VBoxHost) o, (c.effect V h o).registered = h.registered)
    (hk : ∀ o, Triple (createView V) (Late bad h₀) (k o) R fun _ => Late bad h₀) :
    Triple (createView V) (Late bad h₀) (ptr c >>= k) R fun _ => Late bad h₀ := by
  intro st hst
  rw [wp_bind, wp_ptr]
  refine ⟨fun _ => hk none _ (hst.fails (.inr id)), fun o _ => ?_, fun err _ => ?_⟩
  · exact hk (some o) _ (hst.next (hquiet _ o))
  · exact hst.fails (.inl trivial)

theorem creates_machine {settingsFile name osTypeId flags : String} {groups : List String}
    {k : COMPtr IMachine → Vb α}
    (hnone : Triple (createView V) (Left bad h₀) (k none) R fun _ => Left bad h₀)
    (hk : ∀ t, Triple (createView V) (Created h₀ t (V.newMachine name osTypeId)) (k (some t)) R
      fun _ => Left bad h₀) :
    Triple (createView V) (Fine h₀)
      (ptr (.createMachine settingsFile name groups osTypeId flags) >>= k) R fun _ =>
      Left bad h₀ := by
  refine fine_leaves.ptrTo (fun t st hst hok => ?_) hnone fun t _ => hk t
  obtain ⟨hfine, hview, hvm⟩ := hst.create hok
  exact ⟨hfine, hview, hvm, Staged.create_saved⟩

theorem built_set {c : Cmd} {f : Field} {v : Value} {k : Unit → Vb α}
    (hc : c.setting = some (t, f, v))
    (hk : Triple (createView V) (Built V h₀ x t (Function.update d f v)) (k ()) R fun _ =>
      Left bad h₀) :
    Triple (createView V) (Built V h₀ x t d) (cmd c >>= k) R fun _ => Left bad h₀ :=
  built_phase.cmd (fun _ hst _ => hst.set hc) hk

theorem drafted_set {c : Cmd} {f : Field} {v : Value} {k : Unit → Vb α}
    (hc : c.setting = some (⟨vm, .mutable s⟩, f, v))
    (hk : Triple (createView V) (Drafted V h₀ x vm s (Function.update d f v)) (k ()) R fun _ =>
      Late bad h₀) :
    Triple (createView V) (Drafted V h₀ x vm s d) (cmd c >>= k) R fun _ => Late bad h₀ :=
  drafted_phase.cmd (fun _ hst _ => hst.set hc) hk

/-- A controller is added under a name that the machine does not have. -/
theorem adds_controller {name : String} {bus : StorageBus}
    {k : COMPtr IStorageController → Vb α}
    (hnone : Triple (createView V) (Late bad h₀) (k none) R fun _ => Late bad h₀)
    (hk : ∀ c, V.controllerName c = name → d (.storageController name) = .absent →
      Triple (createView V)
        (Drafted V h₀ x vm s (Function.update d (.storageController name) (.bus bus)))
        (k (some c)) R fun _ => Late bad h₀) :
    Triple (createView V) (Drafted V h₀ x vm s d)
      (ptr (.addStorageController ⟨vm, .mutable s⟩ name bus) >>= k) R fun _ =>
        Late bad h₀ := by
  refine drafted_phase.ptrTo (Q := fun _ st =>
    Drafted V h₀ x vm s (Function.update d (.storageController name) (.bus bus)) st ∧
      d (.storageController name) = .absent) (fun c st hst hok => ⟨?_, ?_⟩) hnone ?_
  · exact hst.write rfl id nofun
  · refine hok.2.2 d ?_
    simp [VBoxHost.config, hst.draft]
  · rintro c ⟨h, hok⟩ st ⟨hst, habsent⟩
    exact hk c hok.2.1 habsent st hst

/-- The session gives out the mutable machine of the machine that it locks. -/
theorem takes_machine {k : COMPtr IMachine → Vb α}
    (hnone : Triple (createView V) (Late bad h₀) (k none) R fun _ => Late bad h₀)
    (hk : Triple (createView V) (Drafted V h₀ x vm s d) (k (some ⟨vm, .mutable s⟩)) R fun _ =>
      Late bad h₀) :
    Triple (createView V) (Drafted V h₀ x vm s d) (ptr (.sessionMachine s) >>= k) R fun _ =>
      Late bad h₀ := by
  have hnext (m : IMachine) (st : VBoxHost × Log) (hst : Drafted V h₀ x vm s d st)
      (hok : hostOk V st.1 (.ptr (.sessionMachine s)) (.ok (some m))) :
      Drafted V h₀ x vm s d ((createView V).next st (.ptr (.sessionMachine s)) (.ok (some m))) ∧
        m = ⟨vm, .mutable s⟩ := by
    obtain ⟨hview, e, he⟩ := hok
    -- the session has the draft of this machine, so that it is the one it hands out
    rw [hst.draft] at he
    obtain ⟨rfl, rfl⟩ := Prod.mk.inj (Option.some.inj he)
    refine ⟨hst.next rfl hst.draft id nofun, ?_⟩
    cases m
    subst hview
    rfl
  refine drafted_phase.ptrTo (Q := fun (m : IMachine) st =>
    Drafted V h₀ x vm s d st ∧ m = ⟨vm, .mutable s⟩) hnext hnone ?_
  rintro m - st ⟨hst, rfl⟩
  exact hk st hst

/-- The controller of the disk; for a bus that the operations do not know there is none. -/
theorem adds_bus {storagebustype : String} {k : COMPtr IStorageController → Vb α}
    (hbad : storageBusOf storagebustype = none → bad)
    (hnone : Triple (createView V) (Late bad h₀) (k none) R fun _ => Late bad h₀)
    (hk : ∀ bus c, storageBusOf storagebustype = some bus →
      V.controllerName c = storagebustype →
      Triple (createView V) (Drafted V h₀ x vm s
        (Function.update d (.storageController storagebustype) (.bus bus)))
        (k (some c)) R fun _ => Late bad h₀) :
    Triple (createView V) (Drafted V h₀ x vm s d)
      (addBusController (some ⟨vm, .mutable s⟩) storagebustype >>= k) R fun _ =>
        Late bad h₀ := by
  unfold addBusController
  cases hbus : storageBusOf storagebustype with
  | none => exact hnone.conseq (fun _ hst => hst.late (hbad hbus)) (fun _ _ h => h) fun _ _ h => h
  | some bus => exact adds_controller hnone fun c hname _ => hk bus c hbus hname

/-- A call that leaves machines alone, and tells `F` of its result. -/
theorem drafted_ptr {c : PtrCall} {F : c.Ifc → Prop} {k : COMPtr c.Ifc → Vb α}
    (hquiet : ∀ (h : VBoxHost) o, (c.effect V h o).store = h.store ∧
      (c.effect V h o).registered = h.registered)
    (hfact : ∀ h o, hostOk V h (.ptr c) (.ok (some o)) → F o)
    (hnone : Triple (createView V) (Late bad h₀) (k none) R fun _ => Late bad h₀)
    (hk : ∀ o, F o → Triple (createView V) (Drafted V h₀ x vm s d) (k (some o)) R fun _ =>
      Late bad h₀) :
    Triple (createView V) (Drafted V h₀ x vm s d) (ptr c >>= k) R fun _ => Late bad h₀ := by
  refine drafted_phase.ptrTo (Q := fun _ => Drafted V h₀ x vm s d) (fun o st hst _ => ?_) hnone
    fun o hok => ?_
  · obtain ⟨hstore, hregistered⟩ := hquiet st.1 o
    refine hst.next hregistered ?_ id nofun
    show (c.effect V st.1 o).store.draft s = _
    rw [hstore]
    exact hst.draft
  · obtain ⟨h, hok⟩ := hok
    exact hk o (hfact h o hok)

/-- A task that does not end with 0 has gone wrong. -/
theorem checks_code {p : IProgress} {k : Int → Vb α}
    (hfails : ∀ code, code ≠ 0 →
      Triple (createView V) (Late bad h₀) (k code) R fun _ => Late bad h₀)
    (hk : Triple (createView V) (Drafted V h₀ x vm s d) (k 0) R fun _ => Late bad h₀) :
    Triple (createView V) (Drafted V h₀ x vm s d) (val (.resultCode p) >>= k) R fun _ =>
      Late bad h₀ := by
  intro st hst
  rw [wp_bind, wp_val]
  refine ⟨fun code _ => ?_, fun err _ => drafted_phase.error hst (.inl trivial) trivial⟩
  by_cases hcode : code = 0
  · subst hcode
    exact hk _ (hst.next rfl hst.draft (fun hne => hne rfl) nofun)
  · exact hfails code hcode _ ⟨.inl (.inr hcode), vm, hst.registered.next rfl⟩

/-- The storage of a medium is made in a task, whose result code is read. -/
theorem creates_storage {m : IMedium} {size : Int} {variant : List MediumVariant}
    {k : Int → Vb α}
    (hfails : ∀ code, code ≠ 0 →
      Triple (createView V) (Late bad h₀) (k code) R fun _ => Late bad h₀)
    (hk : Triple (createView V) (Drafted V h₀ x vm s d) (k 0) R fun _ => Late bad h₀) :
    Triple (createView V) (Drafted V h₀ x vm s d)
      (ptr (.createBaseStorage m size variant) >>= fun progress =>
        via progress (fun p => cmd (.waitForCompletion p (-1))) >>= fun _ =>
        via progress (fun p => val (.resultCode p)) >>= k) R fun _ => Late bad h₀ := by
  have hquiet (h : VBoxHost) (p : IProgress) :
      (PtrCall.effect V h (.createBaseStorage m size variant) p).store = h.store ∧
        (PtrCall.effect V h (.createBaseStorage m size variant) p).registered =
          h.registered := by
    simp only [PtrCall.effect]
    split <;> exact ⟨rfl, rfl⟩
  refine drafted_ptr (F := fun _ => True) hquiet (fun _ _ _ => trivial)
    (Triple.exit fun _ hst => hst) fun p _ => ?_
  refine drafted_phase.cmd (fun st hst _ => hst.next rfl hst.draft id nofun) ?_
  exact checks_code hfails hk

/-- The draft is saved, and the lock given back. -/
theorem saves_unlocks {k : Unit → Vb α}
    (hk : Triple (createView V) (Enlisted V h₀ x vm d) (k ()) R fun _ => Late bad h₀) :
    Triple (createView V) (Drafted V h₀ x vm s d)
      (cmd (.saveSettings ⟨vm, .mutable s⟩) >>= fun _ => cmd (.unlockMachine s) >>= k) R
      fun _ => Late bad h₀ :=
  drafted_phase.cmd (fun _ hst _ => hst.save)
    (enlisted_phase.cmd (fun _ hst _ => hst.unlock) hk)

theorem reads_name {c : IStorageController} {k : String → Vb α}
    (hk : Triple (createView V) (Drafted V h₀ x vm s d) (k (V.controllerName c)) R fun _ =>
      Late bad h₀) :
    Triple (createView V) (Drafted V h₀ x vm s d) (val (.controllerName c) >>= k) R fun _ =>
      Late bad h₀ :=
  drafted_phase.read (y := V.controllerName c) ⟨fun _ => rfl, id, fun _ _ => id⟩ id
    (fun _ _ (hok : _ = V.controllerName c) => hok) hk

/-- Without a session the machine may still get registered, but it is not locked. -/
theorem without_session {k : COMPtr IMachine → Vb α} :
    Triple (createView V) (fun st => Early h₀ st ∧ h₀.registered t.vm = false)
      (cmd (.registerMachine (some t)) >>= fun _ =>
        cmd (.lockMachine t none .Write) >>= fun _ =>
        via none (fun s => ptr (.sessionMachine s)) >>= k) R fun _ => Left bad h₀ := by
  rintro st ⟨hst, hfresh⟩
  rw [wp_bind, wp_cmd]
  refine ⟨fun _ => ?_, fun err _ => .inl (hst.next (idle_fails (.inl trivial)))⟩
  have hlate : Late bad h₀
      ((createView V).next st (.cmd (.registerMachine (some t))) (.ok ())) :=
    ⟨.inl (.inl hst.1), t.vm, .inr trivial, hfresh, Function.update_self ..⟩
  exact late_cmd (k := fun _ => .exit .nullUse) (R := R) (fun _ => rfl)
    (Triple.exit fun _ h => h) |>.conseq (fun _ h => h) (fun _ _ h => h) (fun _ _ => .inr) _ hlate

/-- The settings of a new machine up to the choice of its disk. -/
def firstSettings (V : Hypervisor) (name ostypeid : String) (cpucount memorysize : Int) : Config :=
  Function.update (Function.update (Function.update (Function.update
    (V.newMachine name ostypeid) .CPUCount (.nat (uint32 cpucount)))
    .OSTypeId (.text ostypeid)) .memorySize (.nat (uint32 memorysize)))
    (.HWVirtEx .NestedPaging) (.flag true)

/-- From a new machine to one that is registered and locked. -/
theorem sets_up {name ostypeid : String} {cpucount memorysize : Int}
    {k : COMPtr ISession → COMPtr IMachine → Vb α}
    (hk : ∀ s, Triple (createView V)
      (Drafted V h₀ x t.vm s (firstSettings V name ostypeid cpucount memorysize))
      (k (some s) (some ⟨t.vm, .mutable s⟩)) R fun _ => Late bad h₀) :
    Triple (createView V) (Created h₀ t (V.newMachine name ostypeid))
      (val (.machineId t) >>= fun id => put x id >>= fun _ =>
        cmd (.setCPUCount t (uint32 cpucount)) >>= fun _ =>
        cmd (.setOSTypeId t ostypeid) >>= fun _ =>
        cmd (.setMemorySize t (uint32 memorysize)) >>= fun _ =>
        ptr .session >>= fun session =>
        cmd (.registerMachine (some t)) >>= fun _ =>
        cmd (.lockMachine t session .Write) >>= fun _ =>
        via session (fun s => ptr (.sessionMachine s)) >>= fun mutableMachine =>
        via mutableMachine (fun m => cmd (.setHWVirtExProperty m .NestedPaging true)) >>= fun _ =>
        k session mutableMachine) R fun _ => Left bad h₀ := by
  refine created_phase.read (y := V.uuid t.vm) ⟨fun _ => rfl, id, fun _ _ => id⟩ id
    (fun _ _ (hok : _ = V.uuid t.vm) => hok) ?_
  -- the id of the machine goes to the output parameter
  have hput (st : VBoxHost × Log) (hst : Created h₀ t (V.newMachine name ostypeid) st) :
      Built V h₀ x t (V.newMachine name ostypeid)
        ((createView V).next st (.put x (V.uuid t.vm)) ()) := by
    refine ⟨⟨hst.fine.put, hst.view, hst.fresh, hst.saved⟩, ?_⟩
    cases x <;> rfl
  refine Phase.put hput (built_set rfl (built_set rfl (built_set rfl ?_)))
  intro st hst
  rw [wp_bind, wp_ptr]
  refine ⟨fun _ => ?_, fun s _ => ?_, fun err _ => ?_⟩
  · have hidle : Idle V (.ptr .session) (.ok none) := idle_fails (.inr id)
    -- without a session the machine is registered all the same, and then not locked
    exact without_session _ ⟨⟨.inr trivial, hst.fine.1.alike (hidle.alike st)⟩, hst.fresh⟩
  · have hidle : Idle V (.ptr .session) (.ok (some s)) := ⟨fun _ => rfl, id, fun _ _ => id⟩
    have hbuilt := Phase.keep (E := Left bad h₀) built_phase hst (hidle.alike st)
      (fun hw => hw.resolve_right id) rfl rfl
    refine built_phase.cmd (fun _ h _ => h.register) (Triple.conseq (P := Enlisted V h₀ x t.vm _)
      ?_ (fun _ h => h) (fun _ _ h => h) fun _ _ => .inr) _ hbuilt
    refine enlisted_phase.cmd (fun _ h _ => h.lock rfl) ?_
    exact takes_machine (Triple.exit fun _ h => h) (drafted_set rfl (hk s))
  · exact built_phase.error hst (.inl trivial) trivial

end

end VirtCore.Machines
