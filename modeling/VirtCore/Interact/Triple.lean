import VirtCore.Interact.View

/-!
# Interact — triples

A triple says what a program does from every state that satisfies its precondition: where it
returns, what its result and the state satisfy; where it leaves abnormally, what the exit and
the state satisfy.

* **`Triple`** — `wp` from every state of a precondition, with the two postconditions apart.
* **The rules** — sequencing, consequence, handlers, and one rule for each loop shape, whose
  premise is an invariant. All segments of a program share the exit postcondition, so they
  compose without restating it.
-/

namespace Interact

variable {σ : Sig} {ε α β γ S : Type} {v : View σ S}

/-- The postcondition that takes a result to `R` and an abnormal exit to `E`. -/
def outcome (R : α → S → Prop) (E : ε → S → Prop) (s : S) : Except ε α → Prop
  | .ok a => R a s
  | .error e => E e s

@[simp] theorem outcome_ok (R : α → S → Prop) (E : ε → S → Prop) (s : S) (a : α) :
    outcome R E s (.ok a) = R a s := rfl

@[simp] theorem outcome_error (R : α → S → Prop) (E : ε → S → Prop) (s : S) (e : ε) :
    outcome R E s (.error e) = E e s := rfl

/-- From every state of `P`, `p` returns with `R` or leaves with `E`. -/
def Triple (v : View σ S) (P : S → Prop) (p : Prog σ ε α) (R : α → S → Prop)
    (E : ε → S → Prop) : Prop :=
  ∀ s, P s → wp v p (outcome R E) s

namespace Triple

variable {P P' : S → Prop} {p : Prog σ ε α} {R R' : α → S → Prop}
    {E E' : ε → S → Prop}

/-- A triple about executions. -/
theorem runs (h : Triple v P p R E) {s : S} (hs : P s) {t : Trace σ} {o : Except ε α}
    (hr : Runs p t o) (ha : v.Admits s t) : outcome R E (v.after s t) o :=
  (wp_iff_runs p _ s).mp (h s hs) t o hr ha

/-- Use a triple in the middle of a weakest precondition. -/
theorem use (h : Triple v P p R E) {s : S} (hs : P s) {Q : S → Except ε α → Prop}
    (ok : ∀ a s, R a s → Q s (.ok a)) (error : ∀ e s, E e s → Q s (.error e)) :
    wp v p Q s := by
  refine wp_mono ?_ (h s hs)
  rintro s (e | a) ho
  · exact error e s ho
  · exact ok a s ho

/-- A triple may ask for more and promise less. -/
theorem conseq (h : Triple v P p R E) (hP : ∀ s, P' s → P s) (hR : ∀ a s, R a s → R' a s)
    (hE : ∀ e s, E e s → E' e s) : Triple v P' p R' E' :=
  fun s hs => h.use (hP s hs) hR hE

/-- The end of a program. -/
theorem ret {a : α} (h : ∀ s, P s → R a s) : Triple v P (.ret a) R E := h

/-- An abnormal end. -/
theorem exit {e : ε} (h : ∀ s, P s → E e s) : Triple v P (.exit e) R E := h

/-- Two programs one after the other: where the first leaves, so does the whole. -/
theorem bind {f : α → Prog σ ε β} {R' : β → S → Prop} (hp : Triple v P p R E)
    (hf : ∀ a, Triple v (R a) (f a) R' E) : Triple v P (p >>= f) R' E := by
  intro s hs
  rw [wp_bind]
  exact hp.use hs (fun a s ha => hf a s ha) fun _ _ he => he

/-- What is made of a result makes no call. -/
theorem map {f : α → β} {R' : β → S → Prop} (hp : Triple v P p (fun a => R' (f a)) E) :
    Triple v P (f <$> p) R' E :=
  bind hp fun _ _ hs => hs

/-- A handler takes over from where the program has left. -/
theorem handle {h : ε → Prog σ ε α} {D : ε → S → Prop} (hp : Triple v P p R D)
    (hh : ∀ e, Triple v (D e) (h e) R E) : Triple v P (p.handle h) R E := by
  intro s hs
  rw [wp_handle]
  exact hp.use hs (fun _ _ ha => ha) fun e s he => hh e s he

/-- What no call of a program disturbs holds at its end, however it ends. -/
theorem of_calls {C : σ.Call → Prop} {I : S → Prop}
    (step : ∀ s c x, C c → I s → v.ok s c x → I (v.next s c x)) (hp : p.Calls C) :
    Triple v I p (fun _ => I) (fun _ => I) := by
  intro s hs
  refine wp_mono ?_ (wp_of_calls step hp hs)
  rintro s (e | a) h <;> exact h

/-! ## The loop rules -/

/-- **The rule of loops that carry a value.** Each round keeps the invariant. -/
theorem fold {body : β → γ → Prog σ ε β} (I : β → S → Prop) {l : List γ}
    (round : ∀ x ∈ l, ∀ b, Triple v (I b) (body b x) I E) (b : β) :
    Triple v (I b) (Prog.fold body b l) I E := by
  induction l generalizing b with
  | nil => exact ret fun _ h => h
  | cons x xs ih =>
    refine bind (round x List.mem_cons_self b) fun b' => ?_
    exact ih (fun y hy => round y (List.mem_cons_of_mem x hy)) b'

/-- A round that never returns makes the loop never return. -/
theorem fold_exit {body : β → γ → Prog σ ε β} (I : β → S → Prop) {l : List γ}
    (round : ∀ x ∈ l, ∀ b, Triple v (I b) (body b x) I E) {y : γ} (hy : y ∈ l)
    (hexit : ∀ b, Triple v (I b) (body b y) (fun _ _ => False) E) (b : β) :
    Triple v (I b) (Prog.fold body b l) (fun _ _ => False) E := by
  induction l generalizing b with
  | nil => exact (List.not_mem_nil hy).elim
  | cons x xs ih =>
    rcases List.mem_cons.mp hy with rfl | hy
    · exact bind (hexit b) fun _ _ h => h.elim
    · refine bind (round x List.mem_cons_self b) fun b' => ?_
      exact ih (fun z hz => round z (List.mem_cons_of_mem x hz)) hy b'

/-- **The rule of list loops.** A round that does not return keeps the invariant; the loop
returns what its last round returns. -/
theorem forEach {body : γ → Prog σ ε (Option β)} (I : S → Prop) {R : β → S → Prop}
    {l : List γ} (round : ∀ x ∈ l, Triple v I (body x) (fun r s => r.elim (I s) (R · s)) E) :
    Triple v I (Prog.forEach body l) (fun r s => r.elim (I s) (R · s)) E := by
  induction l with
  | nil => exact ret fun _ h => h
  | cons x xs ih =>
    refine bind (round x List.mem_cons_self) fun r => ?_
    cases r with
    | none => exact ih fun y hy => round y (List.mem_cons_of_mem x hy)
    | some b => exact ret fun _ h => h

/-- **The rule of unbounded loops.** The invariant counts the rounds made. A round that goes on
keeps it, a round that leaves the loop establishes the postcondition, and being cut off after
all the rounds allowed is an exit. -/
theorem iterate {spin : ε} {body : β → Prog σ ε (β ⊕ α)} (I : Nat → β → S → Prop)
    (fuel : Nat) (stop : ∀ b s, I fuel b s → E spin s)
    (round : ∀ k b, Triple v (I k b) (body b) (fun r s => r.elim (I (k + 1) · s) (R · s)) E)
    (b : β) : Triple v (I 0 b) (Prog.iterate spin body fuel b) R E := by
  have hrest (n k : Nat) (b : β) (hk : k + n = fuel) :
      Triple v (I k b) (Prog.iterate spin body n b) R E := by
    induction n generalizing k b with
    | zero =>
      obtain rfl : k = fuel := hk
      exact exit fun s hs => stop b s hs
    | succ n ih =>
      refine bind (round k b) fun r => ?_
      cases r with
      | inl b' => exact ih (k + 1) b' (by omega)
      | inr a => exact ret fun _ h => h
  exact hrest fuel 0 b (Nat.zero_add fuel)

end Triple

end Interact
