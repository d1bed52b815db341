import VirtCore.Interact.Triple
import VirtCore.Transition.System

/-!
# Interact — parties that look before they act

Several programs run side by side, each call one step, over one thing that has a state. Some
answers tell that state; some calls, the *acting* ones, are to be made in some states only.

* **`Probe`** — which answers tell the state, and which answers there are.
* **`Guard`** — which calls act, and in which states each of them may be made.
* **`Heeds`** — the program acts only on the strength of the state it was told last. It is a
  triple, so it composes.
* **`Pending`** — the acting calls that a program can still reach without being told the state
  again. What a heeding program has pending, the state it was told last admits.
* **`room`** — the programs side by side. Nothing keeps the state from changing between a look
  and the act.
* **`room_heeds`** — where every change of the state suits what is pending everywhere, every act
  is made in a state that admits it, in any number of parties and any order of their steps.
-/

namespace Interact

open Transition

variable {σ : Sig} {ε α β T ι : Type}

/-- What the answers tell of the state `T`, and which answers may be given. -/
structure Probe (σ : Sig) (T : Type) where
  reads : (c : σ.Call) → σ.Ans c → Option T
  kind : (c : σ.Call) → σ.Ans c → Prop
  answers : ∀ c, ∃ x, kind c x

/-- The acting calls, and the states in which each may be made. -/
structure Guard (σ : Sig) (T : Type) where
  acts : σ.Call → Prop
  admits : σ.Call → T → Prop

/-- The state told last, and whether every acting call so far was made on the strength of it. -/
def checkView (P : Probe σ T) (G : Guard σ T) : View σ (Option T × Prop) where
  next s c x := ((P.reads c x).or s.1, s.2 ∧ (G.acts c → ∃ st ∈ s.1, G.admits c st))
  ok _ c x := P.kind c x

variable {P : Probe σ T} {G : Guard σ T}

@[simp] theorem checkView_next (s : Option T × Prop) (c : σ.Call) (x : σ.Ans c) :
    (checkView P G).next s c x =
      ((P.reads c x).or s.1, s.2 ∧ (G.acts c → ∃ st ∈ s.1, G.admits c st)) := rfl

@[simp] theorem checkView_ok (s : Option T × Prop) (c : σ.Call) (x : σ.Ans c) :
    (checkView P G).ok s c x = P.kind c x := rfl

/-! ## Programs that look before they act

The view remembers the last state that the program was told. The calls it may make are judged by
that, not by the state as it is. -/

/-- Whatever it was told before, the program acts only on what it was told last. -/
abbrev Heeds (P : Probe σ T) (G : Guard σ T) (p : Prog σ ε α) : Prop :=
  Triple (checkView P G) (fun s => s.2) p (fun _ s => s.2) fun _ s => s.2

/-- The program acts only on what it was told last, having just been told `st`. -/
abbrev HeedsTold (P : Probe σ T) (G : Guard σ T) (st : T) (p : Prog σ ε α) : Prop :=
  Triple (checkView P G) (fun s => s.1 = some st ∧ s.2) p (fun _ s => s.2) fun _ s => s.2

/-- What needs no look at the start may follow one. -/
theorem Heeds.told {p : Prog σ ε α} (h : Heeds P G p) (st : T) : HeedsTold P G st p :=
  h.conseq (fun _ hs => hs.2) (fun _ _ hs => hs) fun _ _ hs => hs

/-- A program that makes no acting call. -/
theorem heeds_of_quiet {p : Prog σ ε α} (h : ∀ t o, Runs p t o → ∀ e ∈ t, ¬G.acts e.1) :
    Heeds P G p := by
  have hafter (t : Trace σ) (ht : ∀ e ∈ t, ¬G.acts e.1) (s : Option T × Prop) (hs : s.2) :
      ((checkView P G).after s t).2 := by
    induction t generalizing s with
    | nil => exact hs
    | cons e t ih =>
      obtain ⟨he, ht⟩ := List.forall_mem_cons.mp ht
      exact ih ht _ ⟨hs, fun ha => absurd ha he⟩
  intro s hs
  refine (wp_iff_runs p _ s).mpr fun t o hr _ => ?_
  have hfine := hafter t (h t o hr) s hs
  cases o <;> exact hfine

/-- A program that does not look again and makes only calls that what it was told admits. -/
theorem heeds_of_admitted {p : Prog σ ε α} {st : T}
    (h : ∀ t o, Runs p t o → ∀ e ∈ t, P.reads e.1 e.2 = none ∧
      (G.acts e.1 → G.admits e.1 st)) : HeedsTold P G st p := by
  have hafter (t : Trace σ)
      (ht : ∀ e ∈ t, P.reads e.1 e.2 = none ∧ (G.acts e.1 → G.admits e.1 st))
      (s : Option T × Prop) (hs : s.1 = some st ∧ s.2) : ((checkView P G).after s t).2 := by
    induction t generalizing s with
    | nil => exact hs.2
    | cons e t ih =>
      obtain ⟨⟨hread, hadmits⟩, ht⟩ := List.forall_mem_cons.mp ht
      refine ih ht _ ⟨?_, hs.2, fun ha => ⟨st, hs.1, hadmits ha⟩⟩
      rw [checkView_next, hread, Option.none_or]
      exact hs.1
  intro s hs
  refine (wp_iff_runs p _ s).mpr fun t o hr _ => ?_
  have hfine := hafter t (h t o hr) s hs
  cases o <;> exact hfine

/-! ## What is pending

A state that a program was told may be gone when it acts. What may still happen without another
look is a property of the rest of the program. -/

/-- The acting calls that a program can make before it is told the state again. -/
def Pending (P : Probe σ T) (G : Guard σ T) : Prog σ ε α → σ.Call → Prop
  | .ret _, _ => False
  | .exit _, _ => False
  | .call c k, a => (a = c ∧ G.acts a) ∨ ∃ x, P.kind c x ∧ P.reads c x = none ∧
      Pending P G (k x) a

/-- What was fine at the end was fine on the way: nothing makes it fine again. -/
theorem fine_of_wp {p : Prog σ ε α} {s : Option T × Prop}
    (h : wp (checkView P G) p (fun s _ => s.2) s) : s.2 := by
  induction p generalizing s with
  | ret a => exact h
  | exit e => exact h
  | call c k ih =>
    obtain ⟨x, hx⟩ := P.answers c
    exact (ih x (h x hx)).1

/-- A call of a program that is fine so far. -/
theorem wp_called {c : σ.Call} {k : σ.Ans c → Prog σ ε α} {last : Option T}
    (h : wp (checkView P G) (.call c k) (fun s _ => s.2) (last, True)) {x : σ.Ans c}
    (hx : P.kind c x) :
    wp (checkView P G) (k x) (fun s _ => s.2) ((P.reads c x).or last, True) := by
  have hnext := h x hx
  have hstate : (checkView P G).next (last, True) c x = ((P.reads c x).or last, True) :=
    Prod.ext rfl (eq_true (fine_of_wp hnext))
  rwa [hstate] at hnext

/-- **The state told last admits what is pending.** Induction on the program. -/
theorem admitted_of_pending {p : Prog σ ε α} {last : Option T} {a : σ.Call}
    (h : wp (checkView P G) p (fun s _ => s.2) (last, True)) (ha : Pending P G p a) :
    ∃ st ∈ last, G.admits a st := by
  induction p with
  | ret a => exact ha.elim
  | exit e => exact ha.elim
  | call c k ih =>
    rcases ha with ⟨rfl, hacts⟩ | ⟨x, hx, hread, ha⟩
    · obtain ⟨x, hx⟩ := P.answers a
      exact (fine_of_wp (h x hx)).2 hacts
    · have hnext := wp_called h hx
      rw [hread, Option.none_or] at hnext
      exact ih x hnext ha

/-- Before it is told anything, a program that heeds has nothing pending. -/
theorem Heeds.not_pending {p : Prog σ ε α} (h : Heeds P G p) (a : σ.Call) :
    ¬Pending P G p a := by
  intro ha
  have hwp := h (none, True) trivial
  have hfine : wp (checkView P G) p (fun s _ => s.2) (none, True) :=
    wp_mono (fun s o ho => by cases o <;> exact ho) hwp
  obtain ⟨st, hst, -⟩ := admitted_of_pending hfine ha
  exact absurd hst (Option.not_mem_none st)

/-! ## Side by side

Programs that share a state and take turns. A program that looks and then acts is safe among
others only as long as the state admits what is pending. -/

/-- The state, and what is left of each party's program. -/
structure Room (σ : Sig) (ε α T ι : Type) where
  state : T
  rest : ι → Prog σ ε α

/-- A party makes its next call. The answer tells the state as it is, where it tells it; after
the call the state is whatever the environment makes of it. -/
inductive RoomStep (P : Probe σ T) (s : Room σ ε α T ι) (i : ι) (s' : Room σ ε α T ι) :
    Prop where
  | call (c : σ.Call) (k : σ.Ans c → Prog σ ε α) (x : σ.Ans c)
      (before : s.rest i = .call c k)
      (after : s'.rest i = k x) (others : ∀ j, j ≠ i → s'.rest j = s.rest j)
      (kind : P.kind c x)
      (truthful : ∀ st, P.reads c x = some st → st = s.state)

/-- The parties' programs, side by side: any order of their steps is a run. -/
def room (P : Probe σ T) (p : ι → Prog σ ε α) :
    System (Room σ ε α T ι) (ι × Room σ ε α T ι) where
  start s := s.rest = p
  step s a s' := a.2 = s' ∧ RoomStep P s a.1 s'

/-- A run goes on by one step. -/
theorem room_call [DecidableEq ι] {p : ι → Prog σ ε α}
    {C : Room σ ε α T ι → ι × Room σ ε α T ι → Prop}
    {s : Room σ ε α T ι} (hs : Reachable ((room P p).restrict C) s) {i : ι} {c : σ.Call}
    {k : σ.Ans c → Prog σ ε α} (before : s.rest i = .call c k) (x : σ.Ans c) (state' : T)
    (kind : P.kind c x) (truthful : ∀ st, P.reads c x = some st → st = s.state)
    (hC : C s (i, ⟨state', fun j => if j = i then k x else s.rest j⟩)) :
    Reachable ((room P p).restrict C) ⟨state', fun j => if j = i then k x else s.rest j⟩ := by
  refine hs.step (a := (i, _)) ⟨hC, rfl, ?_⟩
  exact .call c k x before (if_pos rfl) (fun j hj => if_neg hj) kind truthful

/-- A step after which the state is as before, or one that admits whatever is pending. -/
def Suits (P : Probe σ T) (G : ι → Guard σ T) (s : Room σ ε α T ι)
    (a : ι × Room σ ε α T ι) : Prop :=
  a.2.state = s.state ∨
    ∀ i c, Pending P (G i) (a.2.rest i) c → (G i).admits c a.2.state

/-- What holds between the steps: every party heeds, and the state admits what it has
pending. -/
structure Heedful (P : Probe σ T) (G : ι → Guard σ T) (s : Room σ ε α T ι) : Prop where
  heeds : ∀ i, ∃ last, wp (checkView P (G i)) (s.rest i) (fun s _ => s.2) (last, True)
  admits : ∀ i c, Pending P (G i) (s.rest i) c → (G i).admits c s.state

variable {G : ι → Guard σ T} {p : ι → Prog σ ε α} {s s' : Room σ ε α T ι}

/-- Programs that heed begin with nothing pending. -/
theorem Heedful.start (h : ∀ i, Heeds P (G i) (p i)) (hs : s.rest = p) : Heedful P G s where
  heeds i := by
    refine ⟨none, wp_mono (fun s o ho => ?_) (hs ▸ h i (none, True) trivial)⟩
    cases o <;> exact ho
  admits i c hc := absurd (hs ▸ hc) ((h i).not_pending c)

/-- A step of one party keeps every party heedful, if the change of the state suits what is
pending. -/
theorem Heedful.step (h : Heedful P G s) {i : ι} (hstep : RoomStep P s i s')
    (hsuits : Suits P G s (i, s')) : Heedful P G s' := by
  obtain ⟨c, k, x, hbefore, hafter, hothers, hkind, htruthful⟩ := hstep
  obtain ⟨last, hlast⟩ := h.heeds i
  rw [hbefore] at hlast
  have hnext := wp_called hlast hkind
  refine ⟨fun j => ?_, fun j a ha => ?_⟩
  · by_cases hj : j = i
    · rw [hj, hafter]
      exact ⟨_, hnext⟩
    · rw [hothers j hj]
      exact h.heeds j
  · rcases hsuits with hstate | hall
    · dsimp only at hstate
      rw [hstate]
      by_cases hj : j = i
      · subst hj
        rw [hafter] at ha
        cases hread : P.reads c x with
        | none =>
          -- it was not told the state: what is pending now was pending before
          exact h.admits j a (by rw [hbefore]; exact .inr ⟨x, hkind, hread, ha⟩)
        | some st =>
          obtain ⟨st', hst', hadmits⟩ := admitted_of_pending hnext ha
          rw [hread, Option.some_or, Option.mem_some_iff] at hst'
          rw [← htruthful st hread]
          exact hst' ▸ hadmits
      · rw [hothers j hj] at ha
        exact h.admits j a ha
    · exact hall j a ha

/-- **Acts are made in states that admit them**, in every run whose steps suit what is pending.
The invariant is `Heedful`; a party about to act has that act pending. -/
theorem room_heeds (h : ∀ i, Heeds P (G i) (p i))
    (hs : Reachable ((room P p).restrict (Suits P G)) s) {i : ι} {c : σ.Call}
    {k : σ.Ans c → Prog σ ε α} (hrest : s.rest i = .call c k) (hacts : (G i).acts c) :
    (G i).admits c s.state := by
  have hinv : Heedful P G s := by
    refine hs.invariant (fun s hs => .start h hs) fun s a s' hinv hstep => ?_
    obtain ⟨hsuits, ha, hstep⟩ := hstep
    obtain ⟨i, _⟩ := a
    obtain rfl := ha
    exact hinv.step hstep hsuits
  exact hinv.admits i c (by rw [hrest]; exact .inl ⟨rfl, hacts⟩)

end Interact
