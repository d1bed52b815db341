/-!
# Keyed — updates of one entry at a time

A table from keys to values is changed by updates, each of which concerns one key or none.
What becomes of an entry is decided by the updates of its own key, in their order.

* **`modify`** — change the entry of one key.
* **`Update`** — an effect on the entry of a key, or (without a key) on nothing.
* **`runAll_apply`** — an entry after a list of updates: the effects of its own updates.
* **`apply_comm`** — updates of different keys commute.
-/

namespace Keyed

variable {K V : Type} [DecidableEq K]

/-- Change the entry of one key. -/
def modify (f : K → V) (k : K) (g : V → V) : K → V :=
  fun k' => if k' = k then g (f k) else f k'

@[simp] theorem modify_self (f : K → V) (k : K) (g : V → V) : modify f k g k = g (f k) := by
  simp [modify]

theorem modify_other (f : K → V) {k k' : K} (g : V → V) (h : k' ≠ k) :
    modify f k g k' = f k' := by
  simp [modify, h]

/-- Two changes of one entry are one. -/
@[simp] theorem modify_modify (f : K → V) (k : K) (g g' : V → V) :
    modify (modify f k g) k g' = modify f k fun v => g' (g v) := by
  funext k'
  by_cases h : k' = k
  · rw [h, modify_self, modify_self, modify_self]
  · rw [modify_other _ _ h, modify_other _ _ h, modify_other _ _ h]

theorem modify_comm (f : K → V) {k k' : K} (g g' : V → V) (h : k ≠ k') :
    modify (modify f k g) k' g' = modify (modify f k' g') k g := by
  funext k''
  by_cases hk : k'' = k
  · subst hk
    rw [modify_other _ _ h, modify_self, modify_self, modify_other _ _ h]
  · by_cases hk' : k'' = k'
    · subst hk'
      rw [modify_self, modify_other _ _ hk, modify_other _ _ hk, modify_self]
    · rw [modify_other _ _ hk', modify_other _ _ hk, modify_other _ _ hk, modify_other _ _ hk']

/-- A change of the entry of a key, or of nothing. -/
structure Update (K V : Type) where
  key : Option K
  effect : V → V

namespace Update

/-- The table after an update. -/
def apply (u : Update K V) (f : K → V) : K → V :=
  match u.key with
  | some k => modify f k u.effect
  | none => f

/-- The table after a list of updates. -/
def runAll (us : List (Update K V)) (f : K → V) : K → V := us.foldl (fun f u => u.apply f) f

theorem apply_key {u : Update K V} {f : K → V} {k : K} (h : u.key = some k) :
    u.apply f k = u.effect (f k) := by
  simp [apply, h]

theorem apply_other {u : Update K V} {f : K → V} {k : K} (h : u.key ≠ some k) :
    u.apply f k = f k := by
  unfold apply
  cases hkey : u.key with
  | none => rfl
  | some k' => exact modify_other f u.effect fun hk => h (by rw [hkey, hk])

theorem apply_none {u : Update K V} {f : K → V} (h : u.key = none) : u.apply f = f := by
  simp [apply, h]

/-- **An entry after a list of updates.** Induction on the list. -/
theorem runAll_apply (us : List (Update K V)) (f : K → V) (k : K) :
    runAll us f k = (us.filter (·.key = some k)).foldl (fun v u => u.effect v) (f k) := by
  induction us generalizing f with
  | nil => rfl
  | cons u us ih =>
    show runAll us (u.apply f) k = _
    rw [ih]
    by_cases h : u.key = some k
    · rw [apply_key h, List.filter_cons_of_pos (by simpa using h), List.foldl_cons]
    · rw [apply_other h, List.filter_cons_of_neg (by simpa using h)]

/-- Updates of different keys commute. -/
theorem apply_comm {u w : Update K V} (f : K → V)
    (h : ∀ k k', u.key = some k → w.key = some k' → k ≠ k') :
    w.apply (u.apply f) = u.apply (w.apply f) := by
  unfold apply
  cases hu : u.key with
  | none => rfl
  | some k =>
    cases hw : w.key with
    | none => rfl
    | some k' => exact modify_comm f u.effect w.effect (h k k' hu hw)

end Update

end Keyed
