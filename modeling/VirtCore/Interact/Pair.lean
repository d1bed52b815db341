import VirtCore.Interact.View

/-!
# Interact — two views at once

* **`View.pair`** — the states of two views side by side; each says of the answers what it says
  alone.
* **`after_remembers`** — what a view remembers of single calls, it remembers of a trace.
* **`View.noting`** — the view that notes, for a family of events, which have happened.
-/

namespace Interact.View

variable {σ : Sig} {S T : Type}

/-- Two views side by side. -/
def pair (v : View σ S) (w : View σ T) : View σ (S × T) where
  next s c x := (v.next s.1 c x, w.next s.2 c x)
  ok s c x := v.ok s.1 c x ∧ w.ok s.2 c x

variable {v : View σ S} {w : View σ T}

@[simp] theorem pair_next (s : S × T) (c : σ.Call) (x : σ.Ans c) :
    (v.pair w).next s c x = (v.next s.1 c x, w.next s.2 c x) := rfl

@[simp] theorem pair_ok (s : S × T) (c : σ.Call) (x : σ.Ans c) :
    (v.pair w).ok s c x = (v.ok s.1 c x ∧ w.ok s.2 c x) := rfl

/-- Each view goes its own way. -/
theorem pair_after (s : S × T) (t : Trace σ) :
    (v.pair w).after s t = (v.after s.1 t, w.after s.2 t) := by
  induction t generalizing s with
  | nil => rfl
  | cons e t ih => exact ih _

/-- A pair admits what both admit. -/
theorem pair_admits (s : S × T) (t : Trace σ) :
    (v.pair w).Admits s t ↔ v.Admits s.1 t ∧ w.Admits s.2 t := by
  induction t generalizing s with
  | nil => simp
  | cons e t ih =>
    simp only [admits_cons, pair_ok, pair_next, ih]
    exact and_and_and_comm

/-- A fact that each call of a kind brings about, and no call undoes. -/
theorem after_remembers {F : S → Prop} {E : (c : σ.Call) → σ.Ans c → Prop}
    (h : ∀ s c x, F (v.next s c x) ↔ F s ∨ E c x) (s : S) (t : Trace σ) :
    F (v.after s t) ↔ F s ∨ ∃ e ∈ t, E e.1 e.2 := by
  induction t generalizing s with
  | nil => simp
  | cons e t ih =>
    rw [after_cons, ih, h]
    simp only [List.mem_cons, or_and_right, exists_or, exists_eq_left, or_assoc]

/-- For each of a family of events, whether it has happened. -/
def noting {I : Type} (E : I → (c : σ.Call) → σ.Ans c → Prop) : View σ (I → Prop) where
  next s c x i := s i ∨ E i c x
  ok _ _ _ := True

variable {I : Type} {E : I → (c : σ.Call) → σ.Ans c → Prop}

@[simp] theorem noting_next (s : I → Prop) (c : σ.Call) (x : σ.Ans c) (i : I) :
    (noting E).next s c x i = (s i ∨ E i c x) := rfl

@[simp] theorem noting_ok (s : I → Prop) (c : σ.Call) (x : σ.Ans c) :
    (noting E).ok s c x = True := rfl

/-- Noting asks nothing of the environment. -/
theorem noting_admits (s : I → Prop) (t : Trace σ) : (noting E).Admits s t := by
  induction t generalizing s with
  | nil => trivial
  | cons e t ih => exact ⟨trivial, ih _⟩

/-- An event is noted exactly where it has happened. -/
theorem noting_after (s : I → Prop) (t : Trace σ) (i : I) :
    (noting E).after s t i ↔ s i ∨ ∃ e ∈ t, E i e.1 e.2 :=
  after_remembers (v := noting E) (F := fun s => s i) (fun _ _ _ => Iff.rfl) s t

end Interact.View
