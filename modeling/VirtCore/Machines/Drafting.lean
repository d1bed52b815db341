import VirtCore.Interact.Pair
import VirtCore.Machines.View
import VirtCore.Operation

/-!
# VirtCore — changing the settings of a machine that is powered off

Beside the host, the view watches whether settings have been saved, and saved again, whether a call
has failed before that, and which machines have been found under which name.

* **`Untouched`** / **`Committed`** — the two ends of such an operation: no settings are
  changed, or a draft of the machine that was found is, with nothing failed before.
* **`Writes`** — a program that changes the draft in given fields, and no settings.
* **`on_opens`** / **`draft_saves`** — what opens the draft, and what saves it.
-/

namespace VirtCore.Machines


open Interact Keyed

/-- What has happened so far. -/
structure Watch where
  saved : Prop
  /-- Settings have been saved twice. -/
  again : Prop
  /-- A call has failed before any settings were saved. -/
  failed : Prop
  found : String → Nat → Prop
  saved_of_again : again → saved

/-- Nothing has. -/
def Watch.start : Watch := ⟨False, False, False, fun _ _ => False, id⟩

/-- The settings of a machine have been saved. -/
def saves : (a : Act) → a.Ans → Prop
  | .cmd (.saveSettings _), .ok _ => True
  | _, _ => False

/-- A machine has been found. -/
def finds : (a : Act) → a.Ans → String → Nat → Prop
  | .ptr (.findMachine n), .ok (some m) => fun n' vm => n = n' ∧ m.vm = vm
  | _, _ => fun _ _ => False

attribute [simp] saves finds

/-- A call has failed: it threw, or returned a null pointer. -/
def fails (a : Act) (x : a.Ans) : Prop := threwError a x ∨ nullUnless (fun _ => False) a x

def watchNext (w : Watch) (a : Act) (x : a.Ans) : Watch where
  saved := w.saved ∨ saves a x
  again := w.again ∨ (w.saved ∧ saves a x)
  failed := w.failed ∨ (¬w.saved ∧ fails a x)
  found n vm := w.found n vm ∨ finds a x n vm
  saved_of_again h := h.imp w.saved_of_again And.right

def watchView : View vboxSig Watch where
  next := watchNext
  ok _ _ _ := True

@[simp] theorem watchView_next : watchView.next = watchNext := rfl

@[simp] theorem watchView_ok (w : Watch) (a : Act) (x : a.Ans) : watchView.ok w a x = True := rfl

abbrev commitView (V : Hypervisor) : View vboxSig (VBoxHost × Watch) := (hostView V).pair watchView

/-! ## The states of such an operation

At first nothing is changed, then there is a draft, and in the end it is saved or the session is
given up. -/

section

variable (σ : Staged Nat ISession Field Value) (n : String) (P : Field → Prop)

/-- The settings are as they were, and none have been saved. -/
def Untouched (st : VBoxHost × Watch) : Prop :=
  st.1.store.saved = σ.saved ∧ ¬st.2.saved

/-- Moreover no call has failed. -/
def Clear (st : VBoxHost × Watch) : Prop := Untouched σ st ∧ ¬st.2.failed

/-- Moreover session `s` has a draft of machine `vm`, which was found under the name `n`, and has
changed it in fields of `P` only. -/
structure Drafting (s : ISession) (vm : Nat) (st : VBoxHost × Watch) : Prop where
  clear : Clear σ st
  found : st.2.found n vm
  drafts : st.1.store.Drafts P s vm

/-- The settings of the machine found under the name `n` are changed, in fields of `P` only, no call
had failed, and they have been saved once. -/
structure Committed (st : VBoxHost × Watch) : Prop where
  saved : st.2.saved
  once : ¬st.2.again
  failed : ¬st.2.failed
  changes : ∃ vm, st.2.found n vm ∧ Staged.ChangesOnly P vm σ st.1.store

/-- How such an operation may end. -/
def Ends (st : VBoxHost × Watch) : Prop := Untouched σ st ∨ Committed σ n P st

end

variable {V : Hypervisor} {σ : Staged Nat ISession Field Value} {n : String} {P : Field → Prop}
  {st st' : VBoxHost × Watch} {s : ISession} {vm : Nat} {α : Type}

theorem Clear.start {h : VBoxHost} : Clear h.store (h, Watch.start) :=
  ⟨⟨rfl, id⟩, id⟩

/-- Nothing that changes no settings disturbs an end. -/
theorem Untouched.keep (h : Untouched σ st) (hstore : st'.1.store.saved = st.1.store.saved)
    (hsaved : st'.2.saved → st.2.saved) : Untouched σ st' :=
  ⟨hstore.trans h.1, fun hs => h.2 (hsaved hs)⟩

theorem Committed.keep (h : Committed σ n P st) (hstore : st'.1.store.saved = st.1.store.saved)
    (hsaved : st.2.saved → st'.2.saved) (hagain : st'.2.again → st.2.again)
    (hfailed : st'.2.failed → st.2.failed)
    (hfound : ∀ vm, st.2.found n vm → st'.2.found n vm) : Committed σ n P st' := by
  obtain ⟨vm, hvm, hchanges⟩ := h.changes
  refine ⟨hsaved h.saved, fun ha => h.once (hagain ha), fun hf => h.failed (hfailed hf), vm,
    hfound vm hvm, fun k hk => ?_⟩
  rw [hstore] at hk ⊢
  exact hchanges k hk

/-- A call that changes no settings. -/
def Still (V : Hypervisor) (a : Act) (x : a.Ans) : Prop :=
  (∀ h, (hostNext V h a x).store.saved = h.store.saved) ∧ ¬saves a x

theorem Ends.next (h : Ends σ n P st) {a : Act} {x : a.Ans} (hstill : Still V a x) :
    Ends σ n P ((commitView V).next st a x) := by
  rcases h with h | h
  · exact .inl (h.keep (hstill.1 _) fun hs => hs.resolve_right hstill.2)
  · refine .inr (h.keep (hstill.1 _) .inl
      (fun ha => ha.resolve_right fun ha' => hstill.2 ha'.2) ?_ ?_)
    · exact fun hf => hf.resolve_right fun hf' => hf'.1 h.saved
    · exact fun vm hvm => .inl hvm

/-- Settings have been saved at most once. -/
theorem Ends.once (h : Ends σ n P st) : ¬st.2.again := by
  rcases h with h | h
  · exact fun ha => h.2 (st.2.saved_of_again ha)
  · exact h.once

theorem still_fails {a : Act} {x : a.Ans} (hx : fails a x) : Still V a x := by
  refine ⟨fun h => by rw [hostNext_fails hx], ?_⟩
  cases a with
  | cmd c =>
    cases x with
    | error err => cases c <;> exact not_false
    | ok x => exact hx.elim False.elim False.elim
  | _ => exact not_false

theorem still_reporting {a : Act} (ha : Reporting a) (x : a.Ans) : Still V a x := by
  refine ⟨fun h => by rw [hostNext_reporting ha], ?_⟩
  cases a with
  | cmd c => exact ha.elim
  | _ => exact not_false

/-- The results of an operation: `false` leaves the settings as they were. -/
def Returns (σ : Staged Nat ISession Field Value) (n : String) (P : Field → Prop) (b : Bool)
    (st : VBoxHost × Watch) : Prop := Ends σ n P st ∧ (b = false → Untouched σ st)

/-- An operation that changes settings in fields of `P` of the machine named `n`, or no settings. -/
abbrev Commits (V : Hypervisor) (σ : Staged Nat ISession Field Value) (n : String)
    (P : Field → Prop) (p : Vb Bool) : Prop :=
  Triple (commitView V) (Clear σ) p (Returns σ n P) fun _ => Ends σ n P

/-- A `try` around the whole body of an operation. -/
theorem commits_tryReport {fuel : Nat} {body : Vb Bool} (h : Commits V σ n P body) :
    Commits V σ n P (tryReport fuel body) := by
  refine triple_catchReport (fun st a x ha hst _ => hst.next (still_reporting ha x))
    (fun _ _ hst => hst) ?_ h fun _ _ => Triple.exit fun _ hst => hst
  rintro e st (hst | hst) <;> exact hst

/-! ## Writing the draft

What is written goes into the draft of the one session, and into the fields of the operation. -/

/-- A program that writes the draft in fields of `P`; where it leaves, nothing has been saved. -/
abbrev Writes (V : Hypervisor) (σ : Staged Nat ISession Field Value) (n : String)
    (P : Field → Prop) (s : ISession) (vm : Nat) (p : Vb α) : Prop :=
  Triple (commitView V) (Drafting σ n P s vm) p (fun _ => Drafting σ n P s vm) fun _ =>
    Untouched σ

theorem saves_of_setting {c : Cmd} {m : IMachine} {f : Field} {v : Value}
    (hc : c.setting = some (m, f, v)) : ¬saves (.cmd c) (.ok ()) := by
  cases c <;> first | exact not_false | cases hc

theorem writes_cmd {c : Cmd} {f : Field} {v : Value}
    (hc : c.setting = some (⟨vm, .mutable s⟩, f, v)) (hf : P f) :
    Writes V σ n P s vm (cmd c) := by
  intro st hst
  have hnext : hostNext V st.1 (.cmd c) (.ok ()) = { st.1 with store := st.1.store.write s f v } :=
    Cmd.effect_of_setting hc
  refine (wp_cmd c _ st).mpr ⟨fun _ => ?_, fun err _ => ?_⟩
  · show Drafting σ n P s vm (hostNext V st.1 (.cmd c) (.ok ()), watchNext st.2 (.cmd c) (.ok ()))
    rw [hnext]
    refine ⟨⟨⟨hst.clear.1.1, ?_⟩, ?_⟩, .inl hst.found, hst.drafts.write hf⟩
    · exact fun hs => hs.elim hst.clear.1.2 (saves_of_setting hc)
    · exact fun hs => hs.elim hst.clear.2 fun hf => hf.2.elim False.elim False.elim
  · have hstill : Still V (.cmd c) (.error err) := still_fails (.inl trivial)
    exact hst.clear.1.keep (hstill.1 _) fun hs => hs.resolve_right hstill.2

theorem writes_ret (a : α) : Writes V σ n P s vm (.ret a) := Triple.ret fun _ hst => hst

theorem writes_bind {β : Type} {p : Vb α} {f : α → Vb β} (hp : Writes V σ n P s vm p)
    (hf : ∀ a, Writes V σ n P s vm (f a)) : Writes V σ n P s vm (p >>= f) :=
  Triple.bind hp hf

/-- A call that is neither a setter nor saves. -/
theorem Drafting.next (h : Drafting σ n P s vm st) {a : Act} {x : a.Ans}
    (hnext : hostNext V st.1 a x = st.1) (hsaves : ¬saves a x) (hfails : ¬fails a x) :
    Drafting σ n P s vm ((commitView V).next st a x) := by
  refine ⟨⟨⟨?_, fun hs => hs.elim h.clear.1.2 hsaves⟩, fun hf => ?_⟩, .inl h.found, ?_⟩
  · exact (congrArg (fun h => h.store.saved) hnext).trans h.clear.1.1
  · exact hf.elim h.clear.2 fun hf => hfails hf.2
  · show (hostNext V st.1 a x).store.Drafts P s vm
    rw [hnext]
    exact h.drafts

theorem not_fails_ok {c : PtrCall} {o : c.Ifc} : ¬fails (.ptr c) (.ok (some o)) :=
  fun hf => hf.elim id id

theorem writes_put (x : OutParam) (value : String) : Writes V σ n P s vm (put x value) :=
  fun _ hst => (wp_put x value _ _).mpr fun _ => hst.next rfl id fun hf => hf.elim id id

/-! ## Opening and saving the draft

The machine is found under its name, locked and got from the session. From there on it is written,
until `saveSettings`. -/

/-- An operation that has changed nothing and goes on to leave. -/
abbrev Leaves (V : Hypervisor) (σ : Staged Nat ISession Field Value) (n : String)
    (P : Field → Prop) (p : Vb Bool) : Prop :=
  Triple (commitView V) (Untouched σ) p (Returns σ n P) fun _ => Ends σ n P

theorem Untouched.next (h : Untouched σ st) {a : Act} {x : a.Ans} (hstill : Still V a x) :
    Untouched σ ((commitView V).next st a x) :=
  h.keep (hstill.1 _) fun hs => hs.resolve_right hstill.2

theorem leaves_ret (b : Bool) : Leaves V σ n P (.ret b) :=
  Triple.ret fun _ hst => ⟨.inl hst, fun _ => hst⟩

theorem leaves_nullUse : Leaves V σ n P (.exit .nullUse) := Triple.exit fun _ hst => .inl hst

theorem leaves_put {x : OutParam} {value : String} {k : Unit → Vb Bool}
    (hk : Leaves V σ n P (k ())) : Leaves V σ n P (put x value >>= k) :=
  fun _ hst _ _ => hk _ (hst.next ⟨fun _ => rfl, id⟩)

theorem leaves_release {m : COMPtr IMachine} {k : Unit → Vb Bool} (hk : Leaves V σ n P (k ())) :
    Leaves V σ n P (releaseMachine m >>= k) := by
  cases m with
  | none => exact leaves_nullUse
  | some m => exact fun _ hst _ _ => hk _ (hst.next ⟨fun _ => rfl, id⟩)

theorem leaves_unlock {s : ISession} {k : Unit → Vb Bool} (hk : Leaves V σ n P (k ())) :
    Leaves V σ n P (cmd (.unlockMachine s) >>= k) := by
  intro st hst
  rw [wp_bind, wp_cmd]
  refine ⟨fun _ => hk _ (hst.next ⟨fun _ => rfl, id⟩), fun err _ => .inl (hst.next ?_)⟩
  exact still_fails (.inl trivial)

/-- The machine `vm` has been found under the name `n`, and nothing has been changed. -/
def Named (σ : Staged Nat ISession Field Value) (n : String) (vm : Nat)
    (st : VBoxHost × Watch) : Prop := Clear σ st ∧ st.2.found n vm

/-- An operation from there on. -/
abbrev CommitsOn (V : Hypervisor) (σ : Staged Nat ISession Field Value) (n : String)
    (P : Field → Prop) (vm : Nat) (p : Vb Bool) : Prop :=
  Triple (commitView V) (Named σ n vm) p (Returns σ n P) fun _ => Ends σ n P

theorem Leaves.on {p : Vb Bool} (h : Leaves V σ n P p) : CommitsOn V σ n P vm p :=
  h.conseq (fun _ hst => hst.1.1) (fun _ _ hst => hst) fun _ _ hst => hst

theorem Leaves.commits {p : Vb Bool} (h : Leaves V σ n P p) : Commits V σ n P p :=
  h.conseq (fun _ hst => hst.1) (fun _ _ hst => hst) fun _ _ hst => hst

theorem Named.next (h : Named σ n vm st) {a : Act} {x : a.Ans} (hstill : Still V a x)
    (hfails : ¬fails a x) : Named σ n vm ((commitView V).next st a x) := by
  refine ⟨⟨h.1.1.next hstill, fun hf => ?_⟩, .inl h.2⟩
  exact hf.elim h.1.2 fun hf => hfails hf.2

/-- Where a call fails, nothing has been changed. -/
theorem Named.fail (h : Named σ n vm st) {a : Act} {x : a.Ans} (hx : fails a x) :
    Untouched σ ((commitView V).next st a x) :=
  h.1.1.next (still_fails hx)

theorem commits_find {k : COMPtr IMachine → Vb Bool} (hnone : Leaves V σ n P (k none))
    (hsome : ∀ m, CommitsOn V σ n P m.vm (k (some m))) :
    Commits V σ n P (ptr (.findMachine n) >>= k) := by
  intro st hst
  rw [wp_bind, wp_ptr]
  refine ⟨fun _ => ?_, fun m _ => ?_, fun err _ => ?_⟩
  · exact hnone _ (hst.1.next (still_fails (.inr id)))
  · refine hsome m _ ⟨⟨hst.1.next ⟨fun _ => rfl, id⟩, fun hf => ?_⟩,
      .inr ⟨rfl, rfl⟩⟩
    exact hf.elim hst.2 fun hf => not_fails_ok hf.2
  · exact .inl (hst.1.next (still_fails (.inl trivial)))

theorem on_val {c : ValCall} {k : c.Val → Vb Bool}
    (hc : ∀ h x, hostNext V h (.val c) (.ok x) = h) (hk : ∀ x, CommitsOn V σ n P vm (k x)) :
    CommitsOn V σ n P vm (val c >>= k) := by
  intro st hst
  rw [wp_bind, wp_val]
  refine
    ⟨fun x _ => hk x _ (hst.next ⟨fun h => by rw [hc], id⟩ fun hf => hf.elim id id), ?_⟩
  exact fun err _ => .inl (hst.fail (.inl trivial))

theorem on_time {k : Int → Vb Bool} (hk : ∀ now, CommitsOn V σ n P vm (k now)) :
    CommitsOn V σ n P vm (time >>= k) :=
  fun _ hst now _ => hk now _ (hst.next ⟨fun _ => rfl, id⟩ fun hf => hf.elim id id)

/-- An operation opens a draft of the machine that was found. -/
theorem on_opens {m : IMachine} {lockType : LockType}
    {k : COMPtr ISession → COMPtr IMachine → Vb Bool}
    (hnull : ∀ s, Leaves V σ n P (k (some s) none))
    (hmutable : ∀ s, Triple (commitView V) (Drafting σ n P s m.vm)
      (k (some s) (some ⟨m.vm, .mutable s⟩)) (Returns σ n P) fun _ => Ends σ n P) :
    CommitsOn V σ n P m.vm (ptr .session >>= fun session =>
      cmd (.lockMachine m session lockType) >>= fun _ =>
        via session (fun s => ptr (.sessionMachine s)) >>= fun mutabmachine =>
          k session mutabmachine) := by
  intro st hst
  simp only [wp_bind, wp_ptr]
  refine ⟨fun _ => ?_, fun s _ => ?_, fun err _ => .inl (hst.fail (.inl trivial))⟩
  · -- a null session is used
    rw [wp_cmd]
    have hnext : Untouched σ ((commitView V).next st (.ptr .session) (.ok none)) :=
      hst.fail (.inr id)
    refine ⟨fun _ => .inl (hnext.next ?_), fun err _ => .inl (hnext.next ?_)⟩
    · exact ⟨fun _ => rfl, id⟩
    · exact still_fails (.inl trivial)
  · rw [wp_cmd]
    have hsession : Named σ n m.vm ((commitView V).next st (.ptr .session) (.ok (some s))) :=
      hst.next ⟨fun _ => rfl, id⟩ not_fails_ok
    refine ⟨fun _ => ?_, fun err _ => .inl (hsession.fail (.inl trivial))⟩
    have hlock := hsession.next (V := V) (a := .cmd (.lockMachine m (some s) lockType))
      (x := .ok ())
      ⟨fun _ => rfl, id⟩ fun hf => hf.elim id id
    simp only [via_some, wp_ptr]
    refine ⟨fun _ => ?_, fun m' hm' => ?_, fun err _ => .inl (hlock.fail (.inl trivial))⟩
    · exact hnull s _ (hlock.fail (.inr id))
    · obtain ⟨hview, d, hd⟩ := hm'.1
      obtain ⟨hvm, hdrafts⟩ := Staged.drafts_openDraft (P := P) hd
      obtain ⟨vm', view⟩ := m'
      obtain rfl : vm' = m.vm := hvm
      obtain rfl : view = .mutable s := hview
      have hopen := hlock.next (V := V) (a := .ptr (.sessionMachine s))
        (x := .ok (some ⟨m.vm, .mutable s⟩)) ⟨fun _ => rfl, id⟩ not_fails_ok
      exact hmutable s _ ⟨hopen.1, hopen.2, hdrafts⟩

/-- An operation with a draft. -/
abbrev CommitsDraft (V : Hypervisor) (σ : Staged Nat ISession Field Value) (n : String)
    (P : Field → Prop) (s : ISession) (vm : Nat) (p : Vb Bool) : Prop :=
  Triple (commitView V) (Drafting σ n P s vm) p (Returns σ n P) fun _ => Ends σ n P

/-- It writes the draft. -/
theorem draft_writes {p : Vb α} {k : α → Vb Bool} (hp : Writes V σ n P s vm p)
    (hk : ∀ a, CommitsDraft V σ n P s vm (k a)) : CommitsDraft V σ n P s vm (p >>= k) :=
  (hp.conseq (fun _ hst => hst) (fun _ _ hst => hst) fun _ _ hst => .inl hst).bind hk

/-- It gets a part of its machine. -/
theorem draft_ptr {c : PtrCall} {k : COMPtr c.Ifc → Vb Bool} {o : c.Ifc}
    (hc : ∀ h o', c.effect V h o' = h) (ho : ∀ h o', c.answers V h o' → o' = o)
    (hnone : Leaves V σ n P (k none)) (hsome : CommitsDraft V σ n P s vm (k (some o))) :
    CommitsDraft V σ n P s vm (ptr c >>= k) := by
  intro st hst
  rw [wp_bind, wp_ptr]
  refine ⟨fun _ => ?_, fun o' ho' => ?_, fun err _ => ?_⟩
  · exact hnone _ (hst.clear.1.next (still_fails (.inr id)))
  · obtain rfl := ho _ o' ho'.1
    exact hsome _ (hst.next (hc _ _) id not_fails_ok)
  · exact .inl (hst.clear.1.next (still_fails (.inl trivial)))

/-- It saves its draft. -/
theorem draft_saves {k : Unit → Vb Bool}
    (hk : Triple (commitView V) (Ends σ n P) (k ()) (Returns σ n P) fun _ => Ends σ n P) :
    CommitsDraft V σ n P s vm (cmd (.saveSettings ⟨vm, .mutable s⟩) >>= k) := by
  intro st hst
  rw [wp_bind, wp_cmd]
  refine ⟨fun _ => hk _ (.inr ?_), fun err _ => ?_⟩
  · have hchanges := hst.drafts.save
    refine ⟨.inr trivial, fun ha => ?_, fun hf => ?_, vm, .inl hst.found, fun k hk => ?_⟩
    · -- nothing had been saved before, so that this is the first time
      exact ha.elim (fun ha => hst.clear.1.2 (st.2.saved_of_again ha)) fun ha => hst.clear.1.2 ha.1
    · exact hf.elim hst.clear.2 fun hf => hf.2.elim id id
    · have hk' := hchanges k
      rw [hst.clear.1.1] at hk'
      exact hk' hk
  · exact .inl (hst.clear.1.next (still_fails (.inl trivial)))

/-- What follows once the settings are saved. -/
theorem ends_closes {m : IMachine} : Triple (commitView V) (Ends σ n P)
    (cmd (.unlockMachine s) >>= fun _ => releaseMachine (some m) >>= fun _ => .ret true)
    (Returns σ n P) fun _ => Ends σ n P := by
  intro st hst
  rw [wp_bind, wp_cmd]
  refine ⟨fun _ _ _ => ?_, fun err _ => hst.next (still_fails (.inl trivial))⟩
  have hunlock : Ends σ n P ((commitView V).next st (.cmd (.unlockMachine s)) (.ok ())) :=
    hst.next ⟨fun _ => rfl, id⟩
  exact ⟨hunlock.next (a := .release (.machine m)) (x := ()) ⟨fun _ => rfl, id⟩, nofun⟩

end VirtCore.Machines
