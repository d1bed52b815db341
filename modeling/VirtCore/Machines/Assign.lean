import VirtCore.Keyed.Assign
import VirtCore.Machines.Drafting

/-!
# VirtCore — operations that assign settings

An operation that locks a machine, makes a sequence of assignments to its settings, saves and
unlocks. The view notes which machine was found. The environment gives every session that has a
lock its machine, and tells a time of `clock`.

* **`Sets`** — a program that makes a sequence of assignments on the draft of a session.
* **`Configures`** — an operation after which, if it returns `true`, the machine it found has its
  settings with the assignments made.
-/

namespace VirtCore.Machines


open Interact Keyed

/-- The time that is told. -/
def tells (clock : Int → Prop) : (a : Act) → a.Ans → Prop
  | .time, now => clock now
  | _, _ => True

attribute [simp] tells

/-- The settings of the machines and the machines found. -/
abbrev assignView (V : Hypervisor) (n : String) (clock : Int → Prop) :
    View vboxSig (VBoxHost × (Nat → Prop)) :=
  ((hostView V).pair (View.noting fun vm a x => finds a x n vm)).only fun a x =>
    ¬noMutable a x ∧ tells clock a x

variable {V : Hypervisor} {n : String} {clock : Int → Prop} {σ : Staged Nat ISession Field Value}
    {vm : Nat}
  {c : Config} {s : ISession} {ws ws' : List (Field × Value)}
  {W : List (Field × Value) → Prop} {α β : Type}
  {st : VBoxHost × (Nat → Prop)}

/-- Nothing is saved yet, and no machine but `vm` has been found. -/
structure Found (σ : Staged Nat ISession Field Value) (vm : Nat)
    (st : VBoxHost × (Nat → Prop)) : Prop where
  saved : st.1.store.saved = σ.saved
  found : ∀ vm', st.2 vm' → vm' = vm

/-- Moreover session `s` has a draft of the machine, with the assignments `ws` made to its settings
`c`. -/
structure Assigning (σ : Staged Nat ISession Field Value) (vm : Nat) (c : Config) (s : ISession)
    (ws : List (Field × Value)) (st : VBoxHost × (Nat → Prop)) :
      Prop extends Found σ vm st where
  before : σ.saved vm = some c
  draft : st.1.store.draft s = some (vm, assign ws c)

/-- The settings of the machine that was found are those before, with assignments of `W` made. -/
def Assigned (σ : Staged Nat ISession Field Value) (W : List (Field × Value) → Prop)
    (st : VBoxHost × (Nat → Prop)) : Prop :=
  ∃ ws, W ws ∧ ∀ vm, st.2 vm → st.1.store.saved vm = (σ.saved vm).map (assign ws)

/-- A program that makes the assignments `ws` on the draft of a session and returns `r`. -/
abbrev Sets (V : Hypervisor) (n : String) (clock : Int → Prop)
    (σ : Staged Nat ISession Field Value) (vm : Nat) (c : Config) (s : ISession)
    (ws : List (Field × Value)) (r : α) (p : Vb α) : Prop :=
  ∀ ws₀, Triple (assignView V n clock) (Assigning σ vm c s ws₀) p
    (fun a st => a = r ∧ Assigning σ vm c s (ws₀ ++ ws) st) fun _ _ => True

/-- An operation that makes assignments of `W` on the machine named `n`, where it returns
`true`. -/
abbrev Configures (V : Hypervisor) (σ : Staged Nat ISession Field Value) (n : String)
    (clock : Int → Prop) (W : List (Field × Value) → Prop) (p : Vb Bool) : Prop :=
  Triple (assignView V n clock) (fun st => st.1.store.saved = σ.saved ∧ ∀ vm, ¬st.2 vm) p
    (fun b st => b = true → Assigned σ W st) fun _ _ => True

/-! ## Assignments

A piece of an operation that writes the draft and returns the one result; pieces add up as their
lists of assignments do. -/

theorem sets_ret (a : α) : Sets V n clock σ vm c s [] a (.ret a) :=
  fun ws₀ => Triple.ret fun _ h => ⟨rfl, by rwa [List.append_nil]⟩

theorem sets_bind {r : α} {r' : β} {p : Vb α} {f : α → Vb β}
    (hp : Sets V n clock σ vm c s ws r p) (hf : Sets V n clock σ vm c s ws' r' (f r)) :
    Sets V n clock σ vm c s (ws ++ ws') r' (p >>= f) := by
  intro ws₀
  refine Triple.bind (hp ws₀) fun a => ?_
  rintro st ⟨rfl, hst⟩
  rw [← List.append_assoc]
  exact hf _ st hst

/-- A setter. -/
theorem sets_cmd {a : Cmd} {f : Field} {v : Value}
    (ha : a.setting = some (⟨vm, .mutable s⟩, f, v)) :
    Sets V n clock σ vm c s [(f, v)] () (cmd a) := by
  intro ws₀ st hst
  have hnext : hostNext V st.1 (.cmd a) (.ok ()) = { st.1 with store := st.1.store.write s f v } :=
    Cmd.effect_of_setting ha
  refine (wp_cmd a _ st).mpr ⟨fun _ => ⟨rfl, ?_⟩, fun _ _ => trivial⟩
  refine ⟨⟨?_, fun vm' h => hst.found vm' (h.resolve_right id)⟩, hst.before, ?_⟩
  · show (hostNext V st.1 (.cmd a) (.ok ())).store.saved = _
    rw [hnext]
    exact hst.saved
  · show (hostNext V st.1 (.cmd a) (.ok ())).store.draft s = _
    rw [hnext]
    exact Staged.write_assign hst.draft

theorem sets_put (x : OutParam) (value : String) :
    Sets V n clock σ vm c s [] () (put x value) := by
  intro ws₀ st hst
  refine (wp_put x value _ st).mpr fun _ => ⟨rfl, ?_⟩
  rw [List.append_nil]
  exact ⟨⟨hst.saved, fun vm' h => hst.found vm' (h.resolve_right id)⟩, hst.before,
    hst.draft⟩

/-- A setter, and then the rest. -/
theorem sets_cmd_bind {r : α} {a : Cmd} {f : Field} {v : Value} {k : Unit → Vb α}
    (ha : a.setting = some (⟨vm, .mutable s⟩, f, v))
    (hk : Sets V n clock σ vm c s ws r (k ())) :
    Sets V n clock σ vm c s ((f, v) :: ws) r (cmd a >>= k) :=
  sets_bind (sets_cmd ha) hk

theorem sets_put_bind {r : α} {x : OutParam} {value : String} {k : Unit → Vb α}
    (hk : Sets V n clock σ vm c s ws r (k ())) :
    Sets V n clock σ vm c s ws r (put x value >>= k) :=
  sets_bind (sets_put x value) hk

/-- A setter under a condition. -/
theorem sets_when {q : Prop} [Decidable q] {r : α} {p : Vb Unit} {k : Unit → Vb α}
    (hp : q → Sets V n clock σ vm c s ws () p) (hk : Sets V n clock σ vm c s ws' r (k ())) :
    Sets V n clock σ vm c s ((if q then ws else []) ++ ws') r (if q then p >>= k else k ()) := by
  split
  · exact sets_bind (hp ‹_›) hk
  · exact hk

theorem sets_forEach {body : β → Vb (Option Unit)} {g : β → List (Field × Value)}
    {l : List β} (round : ∀ x ∈ l, Sets V n clock σ vm c s (g x) none (body x)) :
    Sets V n clock σ vm c s (l.flatMap g) none (Prog.forEach body l) := by
  induction l with
  | nil => exact sets_ret none
  | cons x xs ih =>
    rw [List.flatMap_cons]
    refine sets_bind (round x List.mem_cons_self) ?_
    exact ih fun y hy => round y (List.mem_cons_of_mem x hy)

/-! ## The machine is found

Before the draft is opened the operation either finds its machine and goes on, or returns `false`;
the arguments that it refuses are refused on every path. -/

/-- A call that saves nothing and finds no machine. -/
theorem Found.next (h : Found σ vm st) {a : Act} {x : a.Ans}
    (hsaved : (hostNext V st.1 a x).store.saved = st.1.store.saved)
    (hfinds : ∀ vm', ¬finds a x n vm') : Found σ vm ((assignView V n clock).next st a x) :=
  ⟨hsaved.trans h.saved, fun vm' hvm => h.found vm' (hvm.resolve_right (hfinds vm'))⟩

/-- An operation on the machine `vm`, which it has found. -/
abbrev ConfiguresOn (V : Hypervisor) (σ : Staged Nat ISession Field Value) (n : String)
    (clock : Int → Prop) (W : List (Field × Value) → Prop) (vm : Nat) (p : Vb Bool) : Prop :=
  Triple (assignView V n clock) (Found σ vm) p (fun b st => b = true → Assigned σ W st)
    fun _ _ => True

/-- A program that returns nothing but `false`. -/
abbrev Refuses (V : Hypervisor) (n : String) (clock : Int → Prop) (p : Vb Bool) : Prop :=
  Triple (assignView V n clock) (fun _ => True) p (fun b _ => b = false) fun _ _ => True

theorem Refuses.configures {p : Vb Bool} (h : Refuses V n clock p) : Configures V σ n clock W p :=
  h.conseq (fun _ _ => trivial) (fun _ _ hb hb' => absurd (hb.symm.trans hb') nofun) fun _ _ h => h

theorem Refuses.on {p : Vb Bool} (h : Refuses V n clock p) : ConfiguresOn V σ n clock W vm p :=
  h.conseq (fun _ _ => trivial) (fun _ _ hb hb' => absurd (hb.symm.trans hb') nofun) fun _ _ h => h

theorem refuses_put (x : OutParam) (value : String) :
    Refuses V n clock (put x value >>= fun _ => .ret false) := fun _ _ _ _ => rfl

theorem refuses_release {x : OutParam} {value : String} (m : COMPtr IMachine) :
    Refuses V n clock (put x value >>= fun _ => releaseMachine m >>= fun _ => .ret false) := by
  cases m with
  | none => exact fun _ _ _ _ => trivial
  | some m => exact fun _ _ _ _ _ _ => rfl

/-- A `try` around the whole body of an operation. -/
theorem configures_tryReport {fuel : Nat} {body : Vb Bool} (h : Configures V σ n clock W body) :
    Configures V σ n clock W (tryReport fuel body) :=
  triple_catchReport (I := fun _ => True) (fun _ _ _ _ _ _ => trivial) (fun _ _ _ => trivial)
    (fun _ _ _ => trivial) h fun _ _ => Triple.exit fun _ _ => trivial

theorem configures_find {k : COMPtr IMachine → Vb Bool} (hnone : Refuses V n clock (k none))
    (hsome : ∀ m, ConfiguresOn V σ n clock W m.vm (k (some m))) :
    Configures V σ n clock W (ptr (.findMachine n) >>= k) := by
  intro st hst
  rw [wp_bind, wp_ptr]
  refine ⟨fun _ => hnone.configures _ ⟨hst.1, ?_⟩, fun m _ => hsome m _ ⟨hst.1, ?_⟩,
    fun err _ => trivial⟩
  · exact fun vm h => h.elim (hst.2 vm) id
  · exact fun vm h => h.elim (fun h => (hst.2 vm h).elim) fun h => h.2.symm

theorem configures_val {c : ValCall} {k : c.Val → Vb Bool}
    (hc : ∀ h x, hostNext V h (.val c) (.ok x) = h)
    (hk : ∀ x, ConfiguresOn V σ n clock W vm (k x)) :
    ConfiguresOn V σ n clock W vm (val c >>= k) := by
  intro st hst
  rw [wp_bind, wp_val]
  exact ⟨fun x _ => hk x _ (hst.next (by rw [hc]) fun _ => id), fun _ _ => trivial⟩

theorem configures_time {k : Int → Vb Bool} (hk : ∀ now, clock now →
    ConfiguresOn V σ n clock W vm (k now)) : ConfiguresOn V σ n clock W vm (time >>= k) :=
  fun _ hst now hnow => hk now hnow.2.2 _ (hst.next rfl fun _ => id)

/-! ## Opening and saving the draft

What is assigned between the two is what the machine has in the end, under the assumption that the
operation returned `true`. -/

/-- An operation with a draft, in which it has made the assignments `ws₀`. -/
abbrev ConfiguresDraft (V : Hypervisor) (σ : Staged Nat ISession Field Value) (n : String)
    (clock : Int → Prop) (W : List (Field × Value) → Prop) (vm : Nat) (c : Config)
    (s : ISession) (ws₀ : List (Field × Value)) (p : Vb Bool) : Prop :=
  Triple (assignView V n clock) (Assigning σ vm c s ws₀) p
    (fun b st => b = true → Assigned σ W st) fun _ _ => True

/-- An operation opens a draft of the machine that was found. -/
theorem configures_opens {m : IMachine} {lockType : LockType}
    {k : COMPtr ISession → COMPtr IMachine → Vb Bool}
    (hk : ∀ s c, ConfiguresDraft V σ n clock W m.vm c s []
      (k (some s) (some ⟨m.vm, .mutable s⟩))) :
    ConfiguresOn V σ n clock W m.vm (ptr .session >>= fun session =>
      cmd (.lockMachine m session lockType) >>= fun _ =>
        via session (fun s => ptr (.sessionMachine s)) >>= fun mutabmachine =>
          k session mutabmachine) := by
  intro st hst
  simp only [wp_bind, wp_ptr, wp_cmd]
  refine ⟨fun _ => ⟨fun _ => trivial, fun _ _ => trivial⟩,
    fun s _ => ⟨fun _ => ?_, fun _ _ => trivial⟩,
    fun _ _ => trivial⟩
  have hlock :
    Found σ m.vm ((assignView V n clock).next ((assignView V n clock).next st (.ptr .session)
      (.ok (some s))) (.cmd (.lockMachine m (some s) lockType)) (.ok ())) :=
    (hst.next (a := .ptr .session) (x := .ok (some s)) rfl fun _ => id).next rfl fun _ => id
  simp only [via_some, wp_ptr]
  refine ⟨fun h => (h.2.1 trivial).elim, fun m' hm' => ?_, fun _ _ => trivial⟩
  obtain ⟨hview, d, hd⟩ := hm'.1.1
  obtain ⟨vm', view⟩ := m'
  obtain rfl : view = .mutable s := hview
  -- the draft is what was saved of the machine that was found
  simp only [View.only_next, View.pair_next, hostView_next, hostNext, Cmd.effect, VBoxHost.lock,
    PtrCall.effect, PtrCall.setting, Staged.openDraft, Function.update_self, Option.map_eq_some_iff,
    Prod.mk.injEq] at hd
  obtain ⟨c, hc, rfl, rfl⟩ := hd
  refine hk s c _ ⟨hlock.next rfl fun _ => id, (congrFun hst.saved m.vm).symm.trans hc, ?_⟩
  simp [hostNext, Cmd.effect, VBoxHost.lock, PtrCall.effect, PtrCall.setting, Staged.openDraft, hc]

/-- It makes assignments. -/
theorem draft_sets {ws₀ : List (Field × Value)} {r : α} {p : Vb α} {k : α → Vb Bool}
    (hp : Sets V n clock σ vm c s ws' r p)
    (hk : ConfiguresDraft V σ n clock W vm c s (ws₀ ++ ws') (k r)) :
    ConfiguresDraft V σ n clock W vm c s ws₀ (p >>= k) := by
  refine Triple.bind (hp ws₀) fun a => ?_
  rintro st ⟨rfl, hst⟩
  exact hk st hst

/-- It gets a part of its machine. -/
theorem configures_ptr {ws₀ : List (Field × Value)} {c' : PtrCall}
    {k : COMPtr c'.Ifc → Vb Bool}
    {o : c'.Ifc} (hc : ∀ h o', c'.effect V h o' = h) (ho : ∀ h o', c'.answers V h o' → o' = o)
    (hfinds : ∀ o' vm', ¬finds (.ptr c') (.ok (some o')) n vm')
    (hnone : ConfiguresDraft V σ n clock W vm c s ws₀ (k none))
    (hsome : ConfiguresDraft V σ n clock W vm c s ws₀ (k (some o))) :
    ConfiguresDraft V σ n clock W vm c s ws₀ (ptr c' >>= k) := by
  intro st hst
  rw [wp_bind, wp_ptr]
  refine ⟨fun _ => hnone _ ⟨hst.toFound.next rfl fun vm' => ?_, hst.before, hst.draft⟩,
    fun o' ho' => ?_, fun _ _ => trivial⟩
  · cases c' <;> exact id
  · obtain rfl := ho _ o' ho'.1.1
    have hnext : hostNext V st.1 (.ptr c') (.ok (some o')) = st.1 := hc _ _
    refine hsome _ ⟨hst.toFound.next (by rw [hnext]) (hfinds o'), hst.before, ?_⟩
    show (hostNext V st.1 (.ptr c') (.ok (some o'))).store.draft s = _
    rw [hnext]
    exact hst.draft

/-- It saves its draft and leaves. -/
theorem configures_saves {m : IMachine} (hws : W ws) :
    ConfiguresDraft V σ n clock W vm c s ws (cmd (.saveSettings ⟨vm, .mutable s⟩) >>= fun _ =>
      cmd (.unlockMachine s) >>= fun _ => releaseMachine (some m) >>= fun _ => .ret true) := by
  intro st hst
  simp only [wp_bind, wp_cmd]
  refine ⟨fun _ => ⟨fun _ _ _ _ => ⟨ws, hws, fun vm' hvm => ?_⟩, fun _ _ => trivial⟩,
    fun _ _ => trivial⟩
  have hfound : vm' = vm := hst.found vm' (by simpa using hvm)
  subst hfound
  show ((st.1.store.save s).drop s).saved vm' = _
  rw [Staged.drop_saved, Staged.save_eq hst.draft, Staged.create_saved, hst.before]
  rfl

end VirtCore.Machines
