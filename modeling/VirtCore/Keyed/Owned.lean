import Mathlib.Logic.Function.Basic
import Mathlib.Data.List.Perm.Basic

/-!
# Keyed — entries with one owner each

A heap whose entries are in use by a list of owners. Each owner has one entry, no two have the
same, and each finds its entry as it needs it. Steps of a system pass entries from owner to owner.

* **`Owned`** — the invariant; it does not depend on the order of the owners.
* **`replace` / `keep`** — an owner passes its entry on, changed or not.
* **`alloc` / `free`** — a new entry gets an owner, and an entry goes with its owner.
-/

namespace Keyed

variable {K V P : Type} [DecidableEq K] {heap : K → Option V} {key : P → K}
  {good : P → Option V → Prop} {l l' : List P} {p p' : P}

/-- The entries of the owners `l`: one each, and as each needs it. -/
structure Owned (heap : K → Option V) (key : P → K) (good : P → Option V → Prop)
    (l : List P) : Prop where
  nodup : (l.map key).Nodup
  good : ∀ p ∈ l, good p (heap (key p))

namespace Owned

omit [DecidableEq K] in
theorem perm (h : Owned heap key good l) (hl : l'.Perm l) : Owned heap key good l' :=
  ⟨(hl.map key).nodup_iff.mpr h.nodup, fun p hp => h.good p (hl.mem_iff.mp hp)⟩

omit [DecidableEq K] in
/-- No other owner has the entry of the first. -/
theorem ne_of_mem (h : Owned heap key good (p :: l)) {q : P} (hq : q ∈ l) : key q ≠ key p := by
  intro heq
  have hnot := (List.nodup_cons.mp h.nodup).1
  exact hnot (heq ▸ List.mem_map_of_mem hq)

/-- The entry of an owner changes as it is passed on. -/
theorem replace (h : Owned heap key good (p :: l)) (hkey : key p' = key p) {x : Option V}
    (hx : good p' x) : Owned (Function.update heap (key p) x) key good (p' :: l) := by
  refine ⟨by simpa [hkey] using h.nodup, fun q hq => ?_⟩
  rcases List.mem_cons.mp hq with rfl | hq
  · rw [hkey, Function.update_self]
    exact hx
  · rw [Function.update_of_ne (h.ne_of_mem hq)]
    exact h.good q (List.mem_cons_of_mem p hq)

omit [DecidableEq K] in
/-- An entry is passed on as it is. -/
theorem keep (h : Owned heap key good (p :: l)) (hkey : key p' = key p)
    (hx : good p' (heap (key p))) : Owned heap key good (p' :: l) := by
  refine ⟨by simpa [hkey] using h.nodup, fun q hq => ?_⟩
  rcases List.mem_cons.mp hq with rfl | hq
  · rw [hkey]
    exact hx
  · exact h.good q (List.mem_cons_of_mem p hq)

/-- A new entry gets an owner. -/
theorem alloc (h : Owned heap key good l) (hfresh : key p ∉ l.map key) {x : Option V}
    (hx : good p x) : Owned (Function.update heap (key p) x) key good (p :: l) := by
  refine ⟨List.nodup_cons.mpr ⟨hfresh, h.nodup⟩, fun q hq => ?_⟩
  rcases List.mem_cons.mp hq with rfl | hq
  · rw [Function.update_self]
    exact hx
  · have hne : key q ≠ key p := fun heq => hfresh (List.mem_map.mpr ⟨q, hq, heq⟩)
    rw [Function.update_of_ne hne]
    exact h.good q hq

/-- An entry goes with its owner. -/
theorem free (h : Owned heap key good (p :: l)) (x : Option V) :
    Owned (Function.update heap (key p) x) key good l := by
  refine ⟨(List.nodup_cons.mp h.nodup).2, fun q hq => ?_⟩
  rw [Function.update_of_ne (h.ne_of_mem hq)]
  exact h.good q (List.mem_cons_of_mem p hq)

end Owned

end Keyed
