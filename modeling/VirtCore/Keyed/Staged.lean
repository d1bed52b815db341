import Mathlib.Logic.Function.Basic

/-!
# Keyed — a store that is changed through drafts

Each key has a saved entry, a table of fields. A session opens a draft of an entry, writes fields
of its draft, and saves the whole draft or drops it.

* **`Staged`** — the saved entries and the drafts.
* **`Drafts`** — the draft of a session differs from the saved entry in given fields only.
* **`ChangesOnly`** — one store differs from another in given fields of one entry only.
* **`Every`** — a property of all entries, saved or not.
-/

namespace Keyed

/-- Entries of `K`, drafted by sessions `S`, with fields `F` and values `V`. -/
structure Staged (K S F V : Type) where
  saved : K → Option (F → V)
  draft : S → Option (K × (F → V))

variable {K S F V : Type} [DecidableEq K] [DecidableEq S] [DecidableEq F]

namespace Staged

variable (σ : Staged K S F V)

/-- A new entry, or another one in the place of the old. -/
def create (k : K) (c : F → V) : Staged K S F V :=
  { σ with saved := Function.update σ.saved k (some c) }

/-- A session begins a draft of an entry. -/
def openDraft (s : S) (k : K) : Staged K S F V :=
  { σ with draft := Function.update σ.draft s ((σ.saved k).map (k, ·)) }

/-- A session writes a field of its draft. -/
def write (s : S) (f : F) (v : V) : Staged K S F V :=
  { σ with
    draft := Function.update σ.draft s ((σ.draft s).map fun d => (d.1, Function.update d.2 f v)) }

/-- A field is written without a draft. -/
def put (k : K) (f : F) (v : V) : Staged K S F V :=
  { σ with saved := Function.update σ.saved k ((σ.saved k).map (Function.update · f v)) }

/-- A session saves its draft. -/
def save (s : S) : Staged K S F V :=
  match σ.draft s with
  | some (k, d) => σ.create k d
  | none => σ

/-- A session drops its draft. -/
def drop (s : S) : Staged K S F V := { σ with draft := Function.update σ.draft s none }

variable {σ} {σ' : Staged K S F V} {s : S} {k : K} {f : F} {v : V} {c d : F → V}
    {P : F → Prop}

omit [DecidableEq K] [DecidableEq F] in
@[simp] theorem openDraft_saved : (σ.openDraft s k).saved = σ.saved := rfl

omit [DecidableEq K] in
@[simp] theorem write_saved : (σ.write s f v).saved = σ.saved := rfl

omit [DecidableEq K] [DecidableEq F] in
@[simp] theorem drop_saved : (σ.drop s).saved = σ.saved := rfl

omit [DecidableEq S] [DecidableEq F] in
@[simp] theorem create_draft : (σ.create k c).draft = σ.draft := rfl

omit [DecidableEq S] in
@[simp] theorem put_draft : (σ.put k f v).draft = σ.draft := rfl

omit [DecidableEq S] [DecidableEq F] in
@[simp] theorem create_saved : (σ.create k c).saved k = some c := by simp [create]

omit [DecidableEq S] [DecidableEq F] in
theorem create_saved_of_ne {k' : K} (h : k' ≠ k) : (σ.create k c).saved k' = σ.saved k' := by
  simp [create, Function.update_of_ne h]

omit [DecidableEq S] in
theorem put_saved_of_ne {k' : K} (h : k' ≠ k) : (σ.put k f v).saved k' = σ.saved k' := by
  simp [put, Function.update_of_ne h]

omit [DecidableEq S] in
@[simp] theorem put_saved : (σ.put k f v).saved k = (σ.saved k).map (Function.update · f v) := by
  simp [put]

omit [DecidableEq S] [DecidableEq F] in
theorem save_eq (h : σ.draft s = some (k, d)) : σ.save s = σ.create k d := by simp [save, h]

omit [DecidableEq S] [DecidableEq F] in
@[simp] theorem save_draft : (σ.save s).draft = σ.draft := by
  unfold save
  split <;> rfl

/-! ## Drafts

A draft is a copy under the name of its session. Until it is saved nobody else sees what is
written into it. -/

/-- The draft of `s` is one of `k`, and differs from what is saved in fields of `P` only. -/
def Drafts (σ : Staged K S F V) (P : F → Prop) (s : S) (k : K) : Prop :=
  ∃ c d, σ.saved k = some c ∧ σ.draft s = some (k, d) ∧ ∀ f, ¬P f → d f = c f

omit [DecidableEq K] [DecidableEq F] in
/-- A draft begins as what is saved. -/
theorem drafts_openDraft {k' : K} (h : (σ.openDraft s k).draft s = some (k', d)) :
    k' = k ∧ (σ.openDraft s k).Drafts P s k := by
  simp only [openDraft, Function.update_self, Option.map_eq_some_iff, Prod.mk.injEq] at h
  obtain ⟨c, hc, rfl, rfl⟩ := h
  exact ⟨rfl, c, c, hc, by simp [openDraft, hc], fun _ _ => rfl⟩

omit [DecidableEq K] in
theorem Drafts.write (h : σ.Drafts P s k) (hf : P f) : (σ.write s f v).Drafts P s k := by
  obtain ⟨c, d, hc, hd, heq⟩ := h
  refine ⟨c, Function.update d f v, hc, by simp [Staged.write, hd], fun g hg => ?_⟩
  have hne : g ≠ f := fun hgf => hg (hgf ▸ hf)
  rw [Function.update_of_ne hne]
  exact heq g hg

/-- `σ'` differs from `σ` in what is saved of `k` only, and there in fields of `P` only. -/
def ChangesOnly (P : F → Prop) (k : K) (σ σ' : Staged K S F V) : Prop :=
  ∀ k', σ'.saved k' ≠ σ.saved k' →
    k' = k ∧ ∃ c d, σ.saved k = some c ∧ σ'.saved k = some d ∧ ∀ f, ¬P f → d f = c f

omit [DecidableEq S] [DecidableEq F] in
/-- To save a draft is to change what it drafts. -/
theorem Drafts.save (h : σ.Drafts P s k) : ChangesOnly P k σ (σ.save s) := by
  obtain ⟨c, d, hc, hd, heq⟩ := h
  rw [save_eq hd]
  intro k' hk'
  by_cases hkk : k' = k
  · exact ⟨hkk, c, d, hc, create_saved, heq⟩
  · exact absurd (create_saved_of_ne hkk) hk'

/-! ## Properties of all entries

What holds of an entry holds of its draft when this is opened, and is kept by every write that
keeps it. -/

/-- Every entry and every draft of one satisfies `L`. -/
structure Every (L : (F → V) → Prop) (σ : Staged K S F V) : Prop where
  saved : ∀ k c, σ.saved k = some c → L c
  draft : ∀ s k d, σ.draft s = some (k, d) → L d

variable {L : (F → V) → Prop}

omit [DecidableEq S] [DecidableEq F] in
theorem Every.create (h : σ.Every L) (hc : L c) : (σ.create k c).Every L := by
  refine ⟨fun k' c' hc' => ?_, h.draft⟩
  by_cases hk : k' = k
  · subst hk
    rw [create_saved] at hc'
    exact Option.some.inj hc' ▸ hc
  · rw [create_saved_of_ne hk] at hc'
    exact h.saved k' c' hc'

omit [DecidableEq S] in
theorem Every.put (h : σ.Every L) (hL : ∀ c, L c → L (Function.update c f v)) :
    (σ.put k f v).Every L := by
  refine ⟨fun k' c' hc' => ?_, h.draft⟩
  by_cases hk : k' = k
  · subst hk
    rw [put_saved] at hc'
    obtain ⟨c, hc, rfl⟩ := Option.map_eq_some_iff.mp hc'
    exact hL c (h.saved k' c hc)
  · rw [put_saved_of_ne hk] at hc'
    exact h.saved k' c' hc'

omit [DecidableEq K] [DecidableEq F] in
theorem Every.openDraft (h : σ.Every L) : (σ.openDraft s k).Every L := by
  refine ⟨h.saved, fun s' k' d hd => ?_⟩
  by_cases hs : s' = s
  · subst hs
    simp only [Staged.openDraft, Function.update_self, Option.map_eq_some_iff, Prod.mk.injEq] at hd
    obtain ⟨c, hc, -, rfl⟩ := hd
    exact h.saved k c hc
  · simp only [Staged.openDraft, Function.update_of_ne hs] at hd
    exact h.draft s' k' d hd

omit [DecidableEq K] in
theorem Every.write (h : σ.Every L) (hL : ∀ c, L c → L (Function.update c f v)) :
    (σ.write s f v).Every L := by
  refine ⟨h.saved, fun s' k' d hd => ?_⟩
  by_cases hs : s' = s
  · subst hs
    simp only [Staged.write, Function.update_self, Option.map_eq_some_iff, Prod.mk.injEq] at hd
    obtain ⟨e, he, -, rfl⟩ := hd
    exact hL e.2 (h.draft s' e.1 e.2 he)
  · simp only [Staged.write, Function.update_of_ne hs] at hd
    exact h.draft s' k' d hd

omit [DecidableEq S] [DecidableEq F] in
theorem Every.save (h : σ.Every L) : (σ.save s).Every L := by
  cases hd : σ.draft s with
  | none => simpa [Staged.save, hd] using h
  | some e =>
    rw [save_eq hd]
    exact h.create (h.draft s e.1 e.2 hd)

omit [DecidableEq K] [DecidableEq F] in
theorem Every.drop (h : σ.Every L) : (σ.drop s).Every L := by
  refine ⟨h.saved, fun s' k' d hd => ?_⟩
  by_cases hs : s' = s
  · simp [Staged.drop, hs] at hd
  · simp only [Staged.drop, Function.update_of_ne hs] at hd
    exact h.draft s' k' d hd

end Staged

end Keyed
