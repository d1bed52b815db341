/-!
# Transition — labelled transition systems

A system is a set of start states and a step relation whose labels say who did what. Any order
of steps is an execution, so a fact about every reachable state is a fact about every
interleaving of the parties.

* **`System`** / **`Reachable`** — the states that some finite run reaches.
* **`Reachable.invariant`** — what holds at the start and survives each step holds always.
  **`Reachable.invariant_with`** lets the step use facts that are already invariant.
* **`restrict`** — the system cut down to the steps that meet a condition: a fact about its
  reachable states is one about the runs all of whose steps meet the condition.
-/

namespace Transition

/-- A transition system with states `S` and labels `A`. -/
structure System (S A : Type) where
  start : S → Prop
  step : S → A → S → Prop

variable {S A : Type} {M : System S A}

/-- The states of the runs of a system. -/
inductive Reachable (M : System S A) : S → Prop where
  | start {s : S} (h : M.start s) : Reachable M s
  | step {s s' : S} {a : A} (hs : Reachable M s) (h : M.step s a s') : Reachable M s'

namespace Reachable

/-- **The rule of invariants.** -/
theorem invariant {I : S → Prop} (hstart : ∀ s, M.start s → I s)
    (hstep : ∀ s a s', I s → M.step s a s' → I s') {s : S} (hs : Reachable M s) : I s := by
  induction hs with
  | start h => exact hstart _ h
  | step _ h ih => exact hstep _ _ _ ih h

/-- The rule of invariants, where a step may use what already is one. -/
theorem invariant_with {I H : S → Prop} (known : ∀ s, Reachable M s → H s)
    (hstart : ∀ s, M.start s → I s) (hstep : ∀ s a s', H s → I s → M.step s a s' → I s')
    {s : S} (hs : Reachable M s) : I s := by
  induction hs with
  | start h => exact hstart _ h
  | step hs h ih => exact hstep _ _ _ (known _ hs) ih h

end Reachable

namespace System

/-- The steps that meet a condition on the state before them and their label. -/
def restrict (M : System S A) (C : S → A → Prop) : System S A where
  start := M.start
  step s a s' := C s a ∧ M.step s a s'

@[simp] theorem restrict_start (M : System S A) (C : S → A → Prop) :
    (M.restrict C).start = M.start := rfl

@[simp] theorem restrict_step (M : System S A) (C : S → A → Prop) (s s' : S) (a : A) :
    (M.restrict C).step s a s' = (C s a ∧ M.step s a s') := rfl

end System

/-- What the runs that meet a condition reach, the system reaches. -/
theorem Reachable.of_restrict {C : S → A → Prop} {s : S} (hs : Reachable (M.restrict C) s) :
    Reachable M s :=
  hs.invariant (fun _ h => .start h) fun _ _ _ ih h => .step ih h.2

end Transition
