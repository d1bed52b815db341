import VirtCore.Interact.Pair
import VirtCore.Machines.View
import VirtCore.Operation

/-!
# VirtCore — operations that bring a machine into being

Beside the host, the view keeps a log: whether a call has failed, whether a machine has been
registered, which clones were begun, and the two output parameters.

* **`Intact`** — no machine has been registered, and what was there is as it was.
* **`Registered`** — a machine that was not registered before is now.
* **`Findable`** — a machine that a later call would find under a name.
-/

namespace VirtCore.Machines


open Interact Keyed

/-- A call has gone wrong: it failed, or the task it asks about did. -/
def wrong : (a : Act) → a.Ans → Prop
  | .cmd _, .error _ => True
  | .ptr _, .error _ => True
  | .ptr _, .ok none => True
  | .val _, .error _ => True
  | .val (.resultCode _), .ok code => code ≠ 0
  | _, _ => False

/-- A machine has been registered. -/
def registers : (a : Act) → a.Ans → Prop
  | .cmd (.registerMachine _), .ok _ => True
  | _, _ => False

/-- A clone has been begun: its target and its task. -/
def clones : (a : Act) → a.Ans → Nat → IProgress → Prop
  | .ptr (.cloneTo _ (some target) _ _), .ok (some p) => fun vm p' => target.vm = vm ∧ p = p'
  | _, _ => fun _ _ => False

structure Log where
  wrong : Prop
  registers : Prop
  clones : Nat → IProgress → Prop
  callbackdata : String
  result : String

def Log.start : Log := ⟨False, False, fun _ _ => False, "", ""⟩

/-- An output parameter. -/
def Log.output (l : Log) : OutParam → String
  | .callbackdata => l.callbackdata
  | .result => l.result

/-- An output parameter after a call. -/
def assigned (old : String) (x : OutParam) : Act → String
  | .put y value => if y = x then value else old
  | _ => old

def logNext (l : Log) (a : Act) (x : a.Ans) : Log where
  wrong := l.wrong ∨ Machines.wrong a x
  registers := l.registers ∨ Machines.registers a x
  clones vm p := l.clones vm p ∨ Machines.clones a x vm p
  callbackdata := assigned l.callbackdata .callbackdata a
  result := assigned l.result .result a

def logView : View vboxSig Log where
  next := logNext
  ok _ _ _ := True

@[simp] theorem logView_next : logView.next = logNext := rfl

@[simp] theorem logView_ok (l : Log) (a : Act) (x : a.Ans) : logView.ok l a x = True := rfl

theorem logView_admits (l : Log) (t : VbTrace) : logView.Admits l t := by
  induction t generalizing l with
  | nil => trivial
  | cons e t ih => exact ⟨trivial, ih _⟩

theorem log_wrong (l : Log) (t : VbTrace) :
    (logView.after l t).wrong ↔ l.wrong ∨ ∃ e ∈ t, Machines.wrong e.1 e.2 :=
  View.after_remembers (v := logView) (F := Log.wrong) (fun _ _ _ => Iff.rfl) l t

theorem log_registers (l : Log) (t : VbTrace) :
    (logView.after l t).registers ↔ l.registers ∨ ∃ e ∈ t, Machines.registers e.1 e.2 :=
  View.after_remembers (v := logView) (F := Log.registers) (fun _ _ _ => Iff.rfl) l t

theorem log_clones (l : Log) (t : VbTrace) (vm : Nat) (p : IProgress) :
    (logView.after l t).clones vm p ↔ l.clones vm p ∨
    ∃ e ∈ t, Machines.clones e.1 e.2 vm p :=
  View.after_remembers (v := logView) (F := fun l => l.clones vm p) (fun _ _ _ => Iff.rfl) l t

abbrev createView (V : Hypervisor) : View vboxSig (VBoxHost × Log) := (hostView V).pair logView

/-! ## The states

A host is compared with the one at the start. As long as nothing is registered they agree on
everything that a look-up of a machine can show. -/

/-- A machine that `findMachine` may answer with. -/
def Findable (V : Hypervisor) (nameOrId : String) (h : VBoxHost) (vm : Nat) : Prop :=
  h.registered vm = true ∧
    ((h.store.saved vm).map (· .name) = some (.text nameOrId) ∨ V.uuid vm = nameOrId)

/-- A session holds the lock of a machine. -/
def Locked (h : VBoxHost) (vm : Nat) : Prop := ∃ s d, h.store.draft s = some (vm, d)

/-- The same machines are registered, with the same settings, and the same locked; and the media
are the same. -/
structure Same (h₀ h : VBoxHost) : Prop where
  registered : h.registered = h₀.registered
  saved : ∀ vm, h₀.registered vm = true → h.store.saved vm = h₀.store.saved vm
  draft : h.store.draft = h₀.store.draft
  known : h.known = h₀.known
  files : h.files = h₀.files

theorem Same.findable {V : Hypervisor} {n : String} {h₀ h : VBoxHost} (hsame : Same h₀ h)
    (vm : Nat) : Findable V n h vm ↔ Findable V n h₀ vm := by
  unfold Findable
  rw [hsame.registered]
  refine and_congr_right fun hreg => ?_
  rw [hsame.saved vm hreg]

theorem Same.locked {h₀ h : VBoxHost} (hsame : Same h₀ h) (vm : Nat) :
    Locked h vm ↔ Locked h₀ vm := by
  unfold Locked
  rw [hsame.draft]

/-- No machine has been registered, and what was there is as it was. The targets of the clones so
far were not registered. -/
structure Intact (h₀ : VBoxHost) (st : VBoxHost × Log) : Prop where
  same : Same h₀ st.1
  registers : ¬st.2.registers
  clones : ∀ vm p, st.2.clones vm p → h₀.registered vm = false

/-- Nothing has been registered, and nothing has gone wrong. -/
def Fine (h₀ : VBoxHost) (st : VBoxHost × Log) : Prop := Intact h₀ st ∧ ¬st.2.wrong

/-- A machine that was not registered before is now. -/
structure Registered (h₀ : VBoxHost) (vm : Nat) (st : VBoxHost × Log) : Prop where
  registers : st.2.registers
  before : h₀.registered vm = false
  after : st.1.registered vm = true

theorem Registered.not_same {h₀ : VBoxHost} {vm : Nat} {st : VBoxHost × Log}
    (h : Registered h₀ vm st) : st.1.registered ≠ h₀.registered := by
  intro heq
  have hbefore := h.before
  rw [← heq, h.after] at hbefore
  cases hbefore

variable {V : Hypervisor} {h₀ h : VBoxHost} {st st' : VBoxHost × Log} {vm : Nat} {a : Act}
    {x : a.Ans}

theorem Same.refl : Same h h := ⟨rfl, fun _ _ => rfl, rfl, rfl, rfl⟩

/-- To change a machine that is not registered is to keep the registered ones. -/
theorem Same.change {h' : VBoxHost} (hsame : Same h₀ h) (hvm : h₀.registered vm = false)
    (hregistered : h'.registered = h.registered) (hdraft : h'.store.draft = h.store.draft)
    (hknown : h'.known = h.known) (hfiles : h'.files = h.files)
    (hsaved : ∀ vm', vm' ≠ vm → h'.store.saved vm' = h.store.saved vm') : Same h₀ h' := by
  refine ⟨hregistered.trans hsame.registered, fun vm' hreg => ?_, hdraft.trans hsame.draft,
    hknown.trans hsame.known, hfiles.trans hsame.files⟩
  have hne : vm' ≠ vm := by
    rintro rfl
    rw [hvm] at hreg
    cases hreg
  rw [hsaved vm' hne, hsame.saved vm' hreg]

theorem Same.create (hsame : Same h₀ h) (hvm : h₀.registered vm = false) (c : Config) :
    Same h₀ (h.create vm c) :=
  hsame.change hvm rfl rfl rfl rfl fun _ hne => Staged.create_saved_of_ne hne

theorem Same.clone (hsame : Same h₀ h) (hvm : h₀.registered vm = false) (c : Option Config) :
    Same h₀ (h.clone c vm) := by
  cases c with
  | none => exact hsame
  | some c => exact hsame.create hvm _

/-! ## Phases

Such an operation goes through phases. A call that does nothing keeps the phase; where a call goes
wrong the operation is on its way out. -/

/-- Two states that differ at most in the outputs and in what has gone wrong. -/
structure Alike (st st' : VBoxHost × Log) : Prop where
  host : st'.1 = st.1
  registers : st'.2.registers ↔ st.2.registers
  clones : ∀ vm p, st'.2.clones vm p ↔ st.2.clones vm p

theorem Intact.alike (hst : Intact h₀ st) (h : Alike st st') :
    Intact h₀ st' := by
  refine ⟨?_, fun hr => hst.registers (h.registers.mp hr), fun vm p hc => ?_⟩
  · rw [h.host]
    exact hst.same
  · exact hst.clones vm p ((h.clones vm p).mp hc)

theorem Registered.alike (hst : Registered h₀ vm st) (h : Alike st st') :
    Registered h₀ vm st' := by
  refine ⟨h.registers.mpr hst.registers, hst.before, ?_⟩
  rw [h.host]
  exact hst.after

/-- A call that does nothing: it changes neither the host nor the log, what has gone wrong and the
outputs apart. -/
def Idle (V : Hypervisor) (a : Act) (x : a.Ans) : Prop :=
  (∀ h, hostNext V h a x = h) ∧ ¬registers a x ∧ ∀ vm p, ¬clones a x vm p

theorem Idle.alike (ha : Idle V a x) (st : VBoxHost × Log) :
    Alike st ((createView V).next st a x) := by
  refine ⟨ha.1 st.1, ?_, fun vm p => ?_⟩
  · exact ⟨fun hr => hr.resolve_right ha.2.1, .inl⟩
  · exact ⟨fun hc => hc.resolve_right (ha.2.2 vm p), .inl⟩

theorem idle_put {y : OutParam} {value : String} : Idle V (.put y value) () :=
  ⟨fun _ => rfl, id, fun _ _ => id⟩

theorem Fine.put {y : OutParam} {value : String} (hst : Fine h₀ st) :
    Fine h₀ ((createView V).next st (.put y value) ()) :=
  ⟨hst.1.alike (idle_put.alike st), fun hw => hw.elim hst.2 id⟩

/-- A new machine is not one of those that are registered. -/
theorem Fine.create {settingsFile name osTypeId flags : String} {groups : List String}
    {t : IMachine} (hst : Fine h₀ st)
    (hok : hostOk V st.1 (.ptr (.createMachine settingsFile name groups osTypeId flags))
      (.ok (some t))) :
    Fine h₀
      ((createView V).next st (.ptr (.createMachine settingsFile name groups osTypeId flags))
      (.ok (some t))) ∧ t.view = .host ∧ h₀.registered t.vm = false := by
  obtain ⟨hview, hreg, -⟩ := hok
  have hvm : h₀.registered t.vm = false := by
    rw [← hst.1.same.registered]
    exact hreg
  refine ⟨⟨⟨hst.1.same.create hvm _, ?_, ?_⟩, ?_⟩, hview, hvm⟩
  · exact fun hr => hr.elim hst.1.registers id
  · exact fun vm p hc => hc.elim (hst.1.clones vm p) False.elim
  · exact fun hw => hw.elim hst.2 id

/-- A call that fails does nothing. -/
theorem idle_fails (hx : threwError a x ∨ nullUnless (fun _ => False) a x) : Idle V a x := by
  refine ⟨fun h => hostNext_fails hx, ?_, fun vm p => ?_⟩
  · cases a with
    | cmd c =>
      cases x with
      | error err => cases c <;> exact id
      | ok x => exact hx.elim False.elim False.elim
    | _ => exact id
  · cases a with
    | ptr c =>
      rcases x with err | _ | o
      · cases c <;> first | exact id | (rename_i t _ _; cases t <;> exact id)
      · cases c <;> first | exact id | (rename_i t _ _; cases t <;> exact id)
      · exact hx.elim False.elim False.elim
    | _ => exact id

/-- The report on an error does nothing. -/
theorem idle_reporting (ha : Reporting a) : Idle V a x := by
  refine ⟨fun h => hostNext_reporting ha x, ?_, fun vm p => ?_⟩
  · cases a with
    | cmd c => exact ha.elim
    | _ => exact id
  · cases a with
    | ptr c => cases c <;> first | exact ha.elim | exact id
    | _ => exact id

/-- A phase `P` of an operation: a call that does nothing keeps it, and where a call goes wrong the
operation leaves with `E`. -/
structure Phase (E P : VBoxHost × Log → Prop) : Prop where
  keep : ∀ {st st'}, P st → Alike st st' → (st'.2.wrong → st.2.wrong) →
    st'.2.callbackdata = st.2.callbackdata → st'.2.result = st.2.result → P st'
  fail : ∀ {st st'}, P st → Alike st st' → st'.2.wrong → E st'

section

variable {α : Type} {E P P' : VBoxHost × Log → Prop} {R : α → VBoxHost × Log → Prop}

theorem Phase.error (hP : Phase E P) (hst : P st)
    (hx : threwError a x ∨ nullUnless (fun _ => False) a x) (hwrong : wrong a x) :
    E ((createView V).next st a x) :=
  hP.fail hst ((idle_fails hx).alike st) (.inr hwrong)

/-- A call that does nothing and returns a value. -/
theorem Phase.val (hP : Phase E P) {c : ValCall} {k : c.Val → Vb α}
    (hidle : ∀ x, Idle V (.val c) (.ok x)) (hwrong : ∀ x, ¬wrong (.val c) (.ok x))
    (hk : ∀ x, Triple (createView V) P (k x) R fun _ => E) :
    Triple (createView V) P (val c >>= k) R fun _ => E := by
  intro st hst
  rw [wp_bind, wp_val]
  refine ⟨fun x _ => hk x _ ?_, fun err _ => hP.error hst (.inl trivial) trivial⟩
  exact hP.keep hst ((hidle x).alike st) (fun hw => hw.resolve_right (hwrong x)) rfl rfl

/-- A call that does nothing and returns a pointer. -/
theorem Phase.ptr (hP : Phase E P) {c : PtrCall} {k : COMPtr c.Ifc → Vb α}
    (hidle : ∀ o, Idle V (.ptr c) (.ok (some o)))
    (hnone : Triple (createView V) E (k none) R fun _ => E)
    (hk : ∀ o, Triple (createView V) P (k (some o)) R fun _ => E) :
    Triple (createView V) P (ptr c >>= k) R fun _ => E := by
  intro st hst
  rw [wp_bind, wp_ptr]
  refine ⟨fun _ => hnone _ (hP.error hst (.inr id) trivial), fun o _ => hk o _ ?_,
    fun err _ => ?_⟩
  · exact hP.keep hst ((hidle o).alike st) (fun hw => hw.resolve_right id) rfl rfl
  · exact hP.error hst (.inl trivial) trivial

/-- A call that returns a pointer and leads to the next phase. -/
theorem Phase.ptrTo (hP : Phase E P) {c : PtrCall} {Q : c.Ifc → VBoxHost × Log → Prop}
    {k : COMPtr c.Ifc → Vb α}
    (hnext : ∀ o st, P st → hostOk V st.1 (.ptr c) (.ok (some o)) →
      Q o ((createView V).next st (.ptr c) (.ok (some o))))
    (hnone : Triple (createView V) E (k none) R fun _ => E)
    (hk : ∀ o, (∃ h, hostOk V h (.ptr c) (.ok (some o))) →
      Triple (createView V) (Q o) (k (some o)) R fun _ => E) :
    Triple (createView V) P (VirtCore.ptr c >>= k) R fun _ => E := by
  intro st hst
  rw [wp_bind, wp_ptr]
  refine ⟨fun _ => hnone _ (hP.error hst (.inr id) trivial), fun o hok => ?_, fun err _ => ?_⟩
  · exact hk o ⟨st.1, hok.1⟩ _ (hnext o st hst hok.1)
  · exact hP.error hst (.inl trivial) trivial

/-- A call that does nothing and returns the value `y`. -/
theorem Phase.read (hP : Phase E P) {c : ValCall} {y : c.Val} {k : c.Val → Vb α}
    (hidle : Idle V (.val c) (.ok y)) (hwrong : ¬wrong (.val c) (.ok y))
    (hy : ∀ h x, hostOk V h (.val c) (.ok x) → x = y)
    (hk : Triple (createView V) P (k y) R fun _ => E) :
    Triple (createView V) P (VirtCore.val c >>= k) R fun _ => E := by
  intro st hst
  rw [wp_bind, wp_val]
  refine ⟨fun x hok => ?_, fun err _ => hP.error hst (.inl trivial) trivial⟩
  obtain rfl := hy st.1 x hok.1
  exact hk _ (hP.keep hst (hidle.alike st) (fun hw => hw.resolve_right hwrong) rfl rfl)

/-- A call that returns nothing and leads to the next phase. -/
theorem Phase.cmd (hP : Phase E P) {c : Cmd} {k : Unit → Vb α}
    (hnext : ∀ st, P st → hostOk V st.1 (.cmd c) (.ok ()) →
      P' ((createView V).next st (.cmd c) (.ok ())))
    (hk : Triple (createView V) P' (k ()) R fun _ => E) :
    Triple (createView V) P (cmd c >>= k) R fun _ => E := by
  intro st hst
  rw [wp_bind, wp_cmd]
  exact ⟨fun hok => hk _ (hnext st hst hok.1), fun err _ => hP.error hst (.inl trivial) trivial⟩

theorem Phase.put {x : OutParam} {value : String} {k : Unit → Vb α}
    (hput : ∀ st, P st → P' ((createView V).next st (.put x value) ()))
    (hk : Triple (createView V) P' (k ()) R fun _ => E) :
    Triple (createView V) P (VirtCore.put x value >>= k) R fun _ => E :=
  fun st hst _ _ => hk _ (hput st hst)

theorem Phase.release (hP : Phase E P) {m : IMachine} {k : Unit → Vb α}
    (hk : Triple (createView V) P (k ()) R fun _ => E) :
    Triple (createView V) P (releaseMachine (some m) >>= k) R fun _ => E := by
  intro st hst _ _
  have hidle : Idle V (.release (.machine m)) () := ⟨fun _ => rfl, id, fun _ _ => id⟩
  exact hk _ (hP.keep hst (hidle.alike st) (fun hw => hw.resolve_right id) rfl rfl)

end

end VirtCore.Machines
