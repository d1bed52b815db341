import Mathlib.Data.List.Infix

/-!
# Words — texts with blanks between their parts

* **`unwords`** — words in a row, with a blank between two of them.
* **`infix_append_cons_iff`** — a text without a separator occurs on one side of it.
* **`infix_unwords_iff`** — a text without a blank occurs in one of the words.
-/

namespace Words

variable {α : Type} {pattern a b : List α} {c : α}

/-- A pattern that does not contain `c` occurs before it or after it. -/
theorem infix_append_cons_iff (hc : c ∉ pattern) :
    pattern <:+: a ++ c :: b ↔ pattern <:+: a ∨ pattern <:+: b := by
  constructor
  · rintro ⟨s, t, h⟩
    rw [List.append_assoc] at h
    rcases List.append_eq_append_iff.mp h with ⟨u, ha, hrest⟩ | ⟨u, hs, hrest⟩
    · -- it begins before the separator
      rcases List.append_eq_append_iff.mp hrest with ⟨v, hu, ht⟩ | ⟨v, hpattern, ht⟩
      · exact .inl ⟨s, v, by rw [ha, hu, List.append_assoc]⟩
      · cases v with
        | nil =>
          rw [List.append_nil] at hpattern
          exact .inl ⟨s, [], by rw [List.append_nil, ha, hpattern]⟩
        | cons d v =>
          obtain ⟨rfl, -⟩ := List.cons.inj ht
          exact (hc (hpattern ▸ List.mem_append_right _ List.mem_cons_self)).elim
    · cases u with
      | nil =>
        cases pattern with
        | nil => exact .inl (List.nil_infix)
        | cons d pattern =>
          obtain ⟨rfl, -⟩ := List.cons.inj hrest
          exact (hc List.mem_cons_self).elim
      | cons d u =>
        obtain ⟨-, hb⟩ := List.cons.inj hrest
        exact .inr ⟨u, t, by rw [hb, List.append_assoc]; rfl⟩
  · rintro (h | h)
    · exact h.trans (List.prefix_append a _).isInfix
    · exact h.trans ((List.suffix_cons c b).trans (List.suffix_append a _)).isInfix

/-- The words in a row. -/
def unwords : List (List Char) → List Char
  | [] => []
  | [w] => w
  | w :: ws => w ++ ' ' :: unwords ws

theorem unwords_cons_cons (w v : List Char) (ws : List (List Char)) :
    unwords (w :: v :: ws) = w ++ ' ' :: unwords (v :: ws) := rfl

/-- A pattern without a blank occurs in a word. -/
theorem infix_unwords_iff {pattern : List Char} (hne : pattern ≠ []) (hblank : ' ' ∉ pattern)
    (ws : List (List Char)) : pattern <:+: unwords ws ↔ ∃ w ∈ ws, pattern <:+: w := by
  induction ws with
  | nil => simpa [unwords] using hne
  | cons w ws ih =>
    cases ws with
    | nil => simp [unwords]
    | cons v ws =>
      rw [unwords_cons_cons, infix_append_cons_iff hblank, ih]
      simp only [List.exists_mem_cons_iff]

end Words
