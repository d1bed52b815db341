import VirtCore.Keyed.Staged

/-!
# Keyed — sequences of assignments

A list of assignments to fields, made one after the other.

* **`assign`** — the fields after a list of assignments.
* **`assign_congr`** — a field that is assigned does not depend on what was there before.
* **`assign_idem`** — to make the same assignments again changes nothing.
* **`Staged.write_assign`** — a session writes its draft in assignments.
-/

namespace Keyed

variable {K S F V : Type} [DecidableEq F]

/-- The fields after a list of assignments; the last one to a field wins. -/
def assign (ws : List (F × V)) (c : F → V) : F → V :=
  ws.foldl (fun c w => Function.update c w.1 w.2) c

variable {ws ws' : List (F × V)} {c d : F → V} {f : F} {v : V}

@[simp] theorem assign_nil : assign [] c = c := rfl

@[simp] theorem assign_cons (w : F × V) :
    assign (w :: ws) c = assign ws (Function.update c w.1 w.2) :=
  rfl

theorem assign_append : assign (ws ++ ws') c = assign ws' (assign ws c) := List.foldl_append

theorem assign_snoc : assign (ws ++ [(f, v)]) c = Function.update (assign ws c) f v :=
  assign_append

/-- A field that is not assigned keeps its value. -/
theorem assign_other (h : ∀ w ∈ ws, w.1 ≠ f) : assign ws c f = c f := by
  induction ws generalizing c with
  | nil => rfl
  | cons w ws ih =>
    obtain ⟨hw, hws⟩ := List.forall_mem_cons.mp h
    rw [assign_cons, ih hws, Function.update_of_ne hw.symm]

/-- What was there before matters only where nothing is assigned. -/
theorem assign_eq (h : c f = d f) : assign ws c f = assign ws d f := by
  induction ws generalizing c d with
  | nil => exact h
  | cons w ws ih =>
    rw [assign_cons, assign_cons]
    refine ih ?_
    by_cases hw : f = w.1
    · subst hw
      rw [Function.update_self, Function.update_self]
    · rw [Function.update_of_ne hw, Function.update_of_ne hw, h]

/-- **The last assignment wins**: a field that is assigned does not depend on what was there
before. -/
theorem assign_congr (h : ∃ w ∈ ws, w.1 = f) : assign ws c f = assign ws d f := by
  induction ws generalizing c d with
  | nil => simp at h
  | cons w ws ih =>
    by_cases hws : ∃ w ∈ ws, w.1 = f
    · exact ih hws
    · obtain ⟨w', hw', rfl⟩ := h
      rcases List.mem_cons.mp hw' with rfl | hw'
      · rw [assign_cons, assign_cons]
        exact assign_eq (by rw [Function.update_self, Function.update_self])
      · exact (hws ⟨w', hw', rfl⟩).elim

/-- **To assign again changes nothing.** -/
theorem assign_idem : assign ws (assign ws c) = assign ws c := by
  funext f
  by_cases h : ∃ w ∈ ws, w.1 = f
  · exact assign_congr h
  · refine assign_other fun w hw hf => h ⟨w, hw, hf⟩

namespace Staged

variable [DecidableEq S] {σ : Staged K S F V} {s : S} {k : K}

/-- One more assignment to a draft. -/
theorem write_assign (h : σ.draft s = some (k, assign ws c)) :
    (σ.write s f v).draft s = some (k, assign (ws ++ [(f, v)]) c) := by
  rw [assign_snoc]
  simp [write, h]

end Staged

end Keyed
