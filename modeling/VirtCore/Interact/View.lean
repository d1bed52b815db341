import VirtCore.Interact.Prog

/-!
# Interact — views of an execution and their weakest preconditions

A *view* watches an execution: a state that each answered call updates, and the answers the
environment may give in a state. Several views of one interface say different things about
the same environment — who holds a lock, what is attached where — without a single model of
all of it.

* **`View`** — `next` (what an answered call does to the state) and `ok` (which answers the
  environment may give); `only` narrows the answers down.
* **`wp`** — the weakest precondition of a program under a view: the postcondition sees the
  final state and how the program ended, normally or not.
* **`wp_iff_runs`** — `wp` is exactly "every admitted execution ends in the postcondition".
* **The rules** — `wp_bind`, `wp_map`, `wp_handle`, `wp_mono`, and `wp_of_calls` for what no
  call of a program disturbs.
-/

namespace Interact

/-- An observer of executions over `σ`, with states `S`. -/
structure View (σ : Sig) (S : Type) where
  next : S → (c : σ.Call) → σ.Ans c → S
  ok : S → (c : σ.Call) → σ.Ans c → Prop

namespace View

variable {σ : Sig} {S : Type}

/-- The state after a trace. -/
def after (v : View σ S) : S → Trace σ → S
  | s, [] => s
  | s, e :: t => v.after (v.next s e.1 e.2) t

/-- Every answer of the trace is one the environment may give. -/
def Admits (v : View σ S) : S → Trace σ → Prop
  | _, [] => True
  | s, e :: t => v.ok s e.1 e.2 ∧ v.Admits (v.next s e.1 e.2) t

@[simp] theorem after_nil (v : View σ S) (s : S) : v.after s [] = s := rfl

@[simp] theorem after_cons (v : View σ S) (s : S) (e : Event σ) (t : Trace σ) :
    v.after s (e :: t) = v.after (v.next s e.1 e.2) t := rfl

@[simp] theorem admits_nil (v : View σ S) (s : S) : v.Admits s [] ↔ True := Iff.rfl

@[simp] theorem admits_cons (v : View σ S) (s : S) (e : Event σ) (t : Trace σ) :
    v.Admits s (e :: t) ↔ v.ok s e.1 e.2 ∧ v.Admits (v.next s e.1 e.2) t := Iff.rfl

/-- Two traces one after the other. -/
theorem after_append (v : View σ S) (s : S) (t u : Trace σ) :
    v.after s (t ++ u) = v.after (v.after s t) u := by
  induction t generalizing s with
  | nil => rfl
  | cons e t ih => exact ih _

/-- The second of them is admitted where the first has led. -/
theorem admits_append {v : View σ S} {s : S} {t u : Trace σ} :
    v.Admits s (t ++ u) ↔ v.Admits s t ∧ v.Admits (v.after s t) u := by
  induction t generalizing s with
  | nil => simp
  | cons e t ih => simp [ih, and_assoc]

/-- The same view of an environment that gives only answers of the kind `c`. -/
def only (v : View σ S) (c : (a : σ.Call) → σ.Ans a → Prop) : View σ S where
  next := v.next
  ok s a x := v.ok s a x ∧ c a x

@[simp] theorem only_next (v : View σ S) (c : (a : σ.Call) → σ.Ans a → Prop) :
    (v.only c).next = v.next := rfl

@[simp] theorem only_ok (v : View σ S) (c : (a : σ.Call) → σ.Ans a → Prop) (s : S)
    (a : σ.Call) (x : σ.Ans a) : (v.only c).ok s a x = (v.ok s a x ∧ c a x) := rfl

/-- Narrowing the answers down does not change the state. -/
theorem only_after (v : View σ S) (c : (a : σ.Call) → σ.Ans a → Prop) (s : S)
    (t : Trace σ) : (v.only c).after s t = v.after s t := by
  induction t generalizing s with
  | nil => rfl
  | cons e t ih => exact ih _

/-- A trace whose answers are all of the narrower kind is admitted. -/
theorem only_admits {v : View σ S} {c : (a : σ.Call) → σ.Ans a → Prop} {s : S} {t : Trace σ}
    (h : v.Admits s t) (hc : ∀ e ∈ t, c e.1 e.2) : (v.only c).Admits s t := by
  induction t generalizing s with
  | nil => trivial
  | cons e t ih =>
    exact ⟨⟨h.1, hc e List.mem_cons_self⟩,
      ih h.2 fun e' he' => hc e' (List.mem_cons_of_mem e he')⟩

/-- A property kept by every admitted step is kept by every admitted trace. -/
theorem after_induction (v : View σ S) {I : S → Prop}
    (step : ∀ s c x, I s → v.ok s c x → I (v.next s c x)) {s : S} {t : Trace σ}
    (hs : I s) (ht : v.Admits s t) : I (v.after s t) := by
  induction t generalizing s with
  | nil => exact hs
  | cons e t ih => exact ih (step s e.1 e.2 hs ht.1) ht.2

end View

/-! ## Weakest preconditions

A view is a state that is computed from a trace, and `wp` what must hold of it for a program to
end well whatever is answered. -/

variable {σ : Sig} {ε α β S : Type} {v : View σ S}

/-- The weakest precondition of a program: every admitted execution from `s` ends in a state
and with an outcome that satisfy `Q`. -/
def wp (v : View σ S) : Prog σ ε α → (S → Except ε α → Prop) → S → Prop
  | .ret a, Q, s => Q s (.ok a)
  | .exit e, Q, s => Q s (.error e)
  | .call c k, Q, s => ∀ x, v.ok s c x → wp v (k x) Q (v.next s c x)

/-- **`wp` is about executions.** The weakest precondition holds iff every admitted execution
ends in the postcondition. Induction on the program. -/
theorem wp_iff_runs (p : Prog σ ε α) (Q : S → Except ε α → Prop) (s : S) :
    wp v p Q s ↔ ∀ t o, Runs p t o → v.Admits s t → Q (v.after s t) o := by
  induction p generalizing s with
  | ret a =>
    refine ⟨fun h t o hr _ => ?_, fun h => h [] _ (.ret a) trivial⟩
    cases hr
    exact h
  | exit e =>
    refine ⟨fun h t o hr _ => ?_, fun h => h [] _ (.exit e) trivial⟩
    cases hr
    exact h
  | call c k ih =>
    constructor
    · intro h t o hr ha
      cases hr with
      | call _ _ x hr => exact (ih x _).mp (h x ha.1) _ _ hr ha.2
    · intro h x hx
      exact (ih x _).mpr fun t o hr ha => h _ o (.call c k x hr) ⟨hx, ha⟩

@[simp ↓] theorem wp_ret (a : α) (Q : S → Except ε α → Prop) (s : S) :
    wp v (.ret a) Q s = Q s (.ok a) := rfl

@[simp ↓] theorem wp_pure (a : α) (Q : S → Except ε α → Prop) (s : S) :
    wp v (pure a : Prog σ ε α) Q s = Q s (.ok a) := rfl

@[simp ↓] theorem wp_exit (e : ε) (Q : S → Except ε α → Prop) (s : S) :
    wp v (.exit e) Q s = Q s (.error e) := rfl

/-- The postcondition is simplified only where the program has ended. -/
@[congr] theorem wp_congr {p p' : Prog σ ε α} {Q : S → Except ε α → Prop} {s s' : S}
    (hp : p = p') (hs : s = s') : wp v p Q s = wp v p' Q s' := by rw [hp, hs]

/-- The rule of sequencing. -/
@[simp ↓] theorem wp_bind (p : Prog σ ε α) (f : α → Prog σ ε β)
    (Q : S → Except ε β → Prop) (s : S) : wp v (p >>= f) Q s = wp v p (fun s o => match o with
      | .ok a => wp v (f a) Q s
      | .error e => Q s (.error e)) s := by
  induction p generalizing s with
  | ret a => rfl
  | exit e => rfl
  | call c k ih =>
    show (∀ x, v.ok s c x → wp v (k x >>= f) Q (v.next s c x)) = _
    simp only [ih]
    rfl

/-- The rule of a function applied to the result. -/
theorem wp_map (f : α → β) (p : Prog σ ε α) (Q : S → Except ε β → Prop) (s : S) :
    wp v (f <$> p) Q s = wp v p (fun s o => Q s (o.map f)) s := by
  show wp v (p >>= fun a => pure (f a)) Q s = _
  rw [wp_bind]
  congr 1
  funext s o
  rcases o with e | a <;> rfl

/-- The rule of exception handlers. -/
theorem wp_handle (p : Prog σ ε α) (h : ε → Prog σ ε α) (Q : S → Except ε α → Prop)
    (s : S) : wp v (p.handle h) Q s = wp v p (fun s o => match o with
      | .ok a => Q s (.ok a)
      | .error e => wp v (h e) Q s) s := by
  induction p generalizing s with
  | ret a => rfl
  | exit e => rfl
  | call c k ih =>
    show (∀ x, v.ok s c x → wp v ((k x).handle h) Q (v.next s c x)) = _
    simp only [ih]
    rfl

/-- Consequence: a weaker postcondition has a weaker precondition. -/
theorem wp_mono {p : Prog σ ε α} {Q Q' : S → Except ε α → Prop} {s : S}
    (hQ : ∀ s o, Q s o → Q' s o) (h : wp v p Q s) : wp v p Q' s :=
  (wp_iff_runs p Q' s).mpr fun t o hr ha => hQ _ _ ((wp_iff_runs p Q s).mp h t o hr ha)

/-! ## Invariants of the calls a program can make

Where what matters is which calls a program makes, and not what they are answered, a predicate on
the calls is enough, and a view need not be run. -/

/-- Every call the program can make satisfies `P`. -/
def Prog.Calls (P : σ.Call → Prop) : Prog σ ε α → Prop
  | .ret _ => True
  | .exit _ => True
  | .call c k => P c ∧ ∀ x, (k x).Calls P

theorem Prog.calls_bind {P : σ.Call → Prop} {p : Prog σ ε α} {f : α → Prog σ ε β}
    (hp : p.Calls P) (hf : ∀ a, (f a).Calls P) : (p >>= f).Calls P := by
  induction p with
  | ret a => exact hf a
  | exit e => trivial
  | call c k ih => exact ⟨hp.1, fun x => ih x (hp.2 x)⟩

theorem Prog.calls_iterate {P : σ.Call → Prop} {spin : ε} {body : β → Prog σ ε (β ⊕ α)}
    (hbody : ∀ b, (body b).Calls P) (fuel : Nat) (b : β) :
    (Prog.iterate spin body fuel b).Calls P := by
  induction fuel generalizing b with
  | zero => trivial
  | succ fuel ih =>
    refine calls_bind (hbody b) fun r => ?_
    cases r with
    | inl b' => exact ih b'
    | inr a => trivial

theorem Prog.calls_true (p : Prog σ ε α) : p.Calls fun _ => True := by
  induction p with
  | ret a => trivial
  | exit e => trivial
  | call c k ih => exact ⟨trivial, ih⟩

/-- A property kept by every call the program can make holds at its end, however it ends. -/
theorem wp_of_calls {P : σ.Call → Prop} {I : S → Prop}
    (step : ∀ s c x, P c → I s → v.ok s c x → I (v.next s c x)) {p : Prog σ ε α}
    (hp : p.Calls P) {s : S} (hs : I s) : wp v p (fun s _ => I s) s := by
  induction p generalizing s with
  | ret a => exact hs
  | exit e => exact hs
  | call c k ih => exact fun x hx => ih x (hp.2 x) (step s c x hp.1 hs hx)

end Interact
