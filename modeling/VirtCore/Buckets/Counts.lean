import Mathlib.Algebra.BigOperators.Group.Finset.Basic
import Mathlib.Algebra.Order.BigOperators.Group.Finset
import Mathlib.Data.Fintype.Basic
import Mathlib.Data.Fintype.BigOperators

/-!
# Counting items by their number

A list whose entry `k` says how many items have the number `k`, kept while the numbers of single
items go up and down by one, or all of them go down by one.
-/

namespace Buckets

open Function (update)

variable {α : Type} [Fintype α]

/-- How many items have the number `k`. -/
def count (f : α → Nat) (k : Nat) : Int := ∑ i, if f i = k then 1 else 0

variable {f : α → Nat} {hist : List Int} {i : α} {k v : Nat}

/-- A sum over all items after one of them changed. -/
theorem sum_update [DecidableEq α] (g : α → Nat → Int) (f : α → Nat) (i : α) (v : Nat) :
    ∑ j, g j (update f i v j) = ∑ j, g j (f j) - g i (f i) + g i v := by
  have hnew := Finset.add_sum_erase Finset.univ (fun j => g j (update f i v j)) (Finset.mem_univ i)
  have hold := Finset.add_sum_erase Finset.univ (fun j => g j (f j)) (Finset.mem_univ i)
  have hrest : ∑ j ∈ Finset.univ.erase i, g j (update f i v j) =
      ∑ j ∈ Finset.univ.erase i, g j (f j) := by
    refine Finset.sum_congr rfl fun j hj => ?_
    rw [Function.update_of_ne (Finset.ne_of_mem_erase hj)]
  rw [Function.update_self, hrest] at hnew
  omega

theorem count_update [DecidableEq α] (f : α → Nat) (i : α) (v k : Nat) :
    count (update f i v) k =
      count f k - (if f i = k then 1 else 0) + if v = k then 1 else 0 :=
  sum_update (fun _ m => if m = k then 1 else 0) f i v

theorem count_pos (f : α → Nat) (i : α) : 0 < count f (f i) := by
  have hle : (if f i = f i then (1 : Int) else 0) ≤ count f (f i) :=
    Finset.single_le_sum (f := fun j => if f j = f i then (1 : Int) else 0)
      (fun j _ => by split <;> omega) (Finset.mem_univ i)
  rw [if_pos rfl] at hle
  omega

/-- The entries of the list are the counts. -/
def Counts (hist : List Int) (f : α → Nat) : Prop := ∀ k, hist.getD k 0 = count f k

theorem Counts.lt_length (h : Counts hist f) (i : α) : f i < hist.length := by
  refine Nat.lt_of_not_le fun hle => ?_
  have hzero := h (f i)
  rw [List.getD_eq_getElem?_getD, List.getElem?_eq_none hle] at hzero
  have := count_pos f i
  rw [← hzero] at this
  exact absurd this (by decide)

/-! ## Up and down by one

One count moves to the next bucket, or to the one before. `tail` and `counts_zero` are for the two
ends of the array. -/

/-- One is taken from entry `k` and one is added to entry `m`. There is no result where an entry
is missing. -/
def shift (hist : List Int) (k m : Nat) : Option (List Int) := do
  let x ← hist[k]?
  let y ← (hist.set k (x - 1))[m]?
  some ((hist.set k (x - 1)).set m (y + 1))

theorem getD_set (l : List Int) (k j : Nat) (x : Int) (hk : k < l.length) :
    (l.set k x).getD j 0 = if k = j then x else l.getD j 0 := by
  rw [List.getD_eq_getElem?_getD, List.getElem?_set, List.getD_eq_getElem?_getD]
  by_cases hkj : k = j
  · rw [if_pos hkj, if_pos hkj, if_pos hk, Option.getD_some]
  · rw [if_neg hkj, if_neg hkj]

theorem getElem?_getD (l : List Int) (hk : k < l.length) : l[k]? = some (l.getD k 0) := by
  rw [List.getD_eq_getElem?_getD, List.getElem?_eq_getElem hk, Option.getD_some]

theorem shift_getD {m : Nat} (hk : k < hist.length) (hm : m < hist.length) :
    ∃ hist', shift hist k m = some hist' ∧
      ∀ j, hist'.getD j 0 =
        hist.getD j 0 - (if k = j then 1 else 0) + if m = j then 1 else 0 := by
  have hx := getElem?_getD hist hk
  generalize hist.getD k 0 = x at hx
  have hx' : hist.getD k 0 = x := by
    rw [List.getD_eq_getElem?_getD, hx, Option.getD_some]
  have hm' : m < (hist.set k (x - 1)).length := by rwa [List.length_set]
  have hy := getElem?_getD (hist.set k (x - 1)) hm'
  rw [getD_set _ _ _ _ hk] at hy
  have hshift : shift hist k m = some ((hist.set k (x - 1)).set m
      ((if k = m then x - 1 else hist.getD m 0) + 1)) := by
    simp only [shift, hx, hy, Option.bind_eq_bind, Option.bind_some]
  refine ⟨_, hshift, fun j => ?_⟩
  rw [getD_set _ _ _ _ hm', getD_set _ _ _ _ hk]
  -- the place that goes down, the place that goes up, which may be the same, and the others
  by_cases hkj : k = j
  · subst hkj
    rw [if_pos rfl, if_pos rfl, hx']
    by_cases hmk : m = k
    · rw [if_pos hmk, if_pos hmk, if_pos hmk.symm]
    · rw [if_neg hmk, if_neg hmk, Int.add_zero]
  · rw [if_neg hkj, if_neg hkj, Int.sub_zero]
    by_cases hmj : m = j
    · subst hmj
      rw [if_pos rfl, if_pos rfl, if_neg hkj]
    · rw [if_neg hmj, if_neg hmj, Int.add_zero]

/-- An item with the number `k` has the number `k + 1` now: the list grows when `k` was its last
entry. -/
def raise (hist : List Int) (k : Nat) : Option (List Int) :=
  shift (if k + 1 = hist.length then hist ++ [0] else hist) k (k + 1)

/-- An item with the number `k` has the number `k - 1` now. -/
def lower (hist : List Int) (k : Nat) : Option (List Int) := shift hist k (k - 1)

theorem getD_append_zero (l : List Int) (j : Nat) : (l ++ [0]).getD j 0 = l.getD j 0 := by
  rw [List.getD_eq_getElem?_getD, List.getD_eq_getElem?_getD, List.getElem?_append]
  by_cases hj : j < l.length
  · rw [if_pos hj]
  · rw [if_neg hj, List.getElem?_eq_none (Nat.le_of_not_lt hj), List.getElem?_singleton]
    split <;> rfl

/-- **The counts after an item's number went up by one.** -/
theorem Counts.raise [DecidableEq α] (h : Counts hist f) (i : α) :
    ∃ hist', raise hist (f i) = some hist' ∧ Counts hist' (update f i (f i + 1)) := by
  have hlt := h.lt_length i
  have hgrown : Counts (if f i + 1 = hist.length then hist ++ [0] else hist) f := by
    intro k
    split
    · rw [getD_append_zero]
      exact h k
    · exact h k
  have hlength : f i + 1 < (if f i + 1 = hist.length then hist ++ [0] else hist).length := by
    split
    · rw [List.length_append, List.length_singleton]
      omega
    · omega
  obtain ⟨hist', hshift, hgetD⟩ := shift_getD (Nat.lt_of_succ_lt hlength) hlength
  refine ⟨hist', hshift, fun k => ?_⟩
  rw [hgetD, hgrown, count_update]

/-- **The counts after an item's number went down by one.** -/
theorem Counts.lower [DecidableEq α] (h : Counts hist f) (i : α) :
    ∃ hist', lower hist (f i) = some hist' ∧ Counts hist' (update f i (f i - 1)) := by
  have hlt := h.lt_length i
  obtain ⟨hist', hshift, hgetD⟩ := shift_getD (m := f i - 1) hlt (by omega)
  refine ⟨hist', hshift, fun k => ?_⟩
  rw [hgetD, h, count_update]

/-- **The counts after all numbers went down by one.** -/
theorem Counts.tail (h : Counts hist f) (hpos : ∀ i, 0 < f i) :
    Counts hist.tail fun i => f i - 1 := by
  intro k
  have hsame : count (fun i => f i - 1) k = count f (k + 1) := by
    refine Finset.sum_congr rfl fun i _ => ?_
    have := hpos i
    show (if f i - 1 = k then (1 : Int) else 0) = if f i = k + 1 then 1 else 0
    by_cases hk : f i = k + 1
    · rw [if_pos hk, if_pos (by omega)]
    · rw [if_neg hk, if_neg (by omega)]
  rw [hsame, ← h (k + 1), List.getD_eq_getElem?_getD, List.getD_eq_getElem?_getD,
    List.getElem?_tail]

/-- All items have the number zero. -/
theorem counts_zero (α : Type) [Fintype α] : Counts [(Fintype.card α : Int)] fun _ :
    α => 0 := by
  intro k
  cases k with
  | zero => simp [count]
  | succ k => simp [count]

end Buckets
