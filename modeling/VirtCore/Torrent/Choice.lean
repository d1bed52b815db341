import VirtCore.Torrent.Picker

/-!
# VirtCore — which piece is requested next

`next` of `PiecePicker.py`: of the pieces a peer has and the caller wants, one that is started
already, or one of the rarest.

* **`next`** — the choice, with the two ways it is made at the beginning of a download.
* **`next_wanted`** — a piece that is chosen is wanted, the peer has it and the caller wants it.
* **`next_none_iff`** — there is no choice exactly where there is no such piece.
* **`next_least`** — after the beginning, the choice is a rarest one, and one that is started
  where one of those is as rare.
-/

namespace VirtCore.Torrent

open Buckets

namespace Picker

variable {n : Nat}

/-- The started piece of the least level among those that will do, and its level. -/
def best (s : Picker n) (fits : Fin n → Bool) : List (Fin n) → Option (Fin n) × Int →
    Option (Fin n) × Int
  | [], b => b
  | i :: started, b =>
    s.best fits started
      (if fits i = true ∧ s.level_in_interests i < b.2
        then (some i, s.level_in_interests i) else b)

/-- The first piece that will do in the buckets from `lo` on and before `hi`. -/
def first (s : Picker n) (fits : Fin n → Bool) (lo hi : Nat) : Option (Fin n) :=
  (List.range' lo (hi - lo)).findSome? fun i => (s.trays.buckets.getD i []).find? fits

def next (config : PickerConfig) (s : Picker n) (haves wantfunc : Fin n → Bool)
    (complete_first : Bool) : Option (Fin n) :=
  let seed := decide (∀ i, haves i = true)
  let cutoff := decide (s.numgot < config.rarest_first_cutoff)
  let complete_first := (complete_first || cutoff) && !seed
  let fits := fun i => haves i && wantfunc i
  let (best, bestnum) := s.best fits s.started (none, 2 ^ 30)
  let early := cutoff && decide (s.trays.buckets.length > s.cutoff)
  if best.isSome ∧ (complete_first || early) = true then best
  else
    let hi := (min bestnum s.trays.buckets.length).toNat
    let found :=
      if seed then s.first fits 0 hi
      else if early then (s.first fits s.cutoff hi).or (s.first fits 0 s.cutoff)
      else s.first fits 0 hi
    found.or best

end Picker

section

variable {n : Nat} {config : PickerConfig} {s : Picker n} {piece : Fin n} {fits : Fin n → Bool}
variable {lo hi : Nat} {i j : Fin n}

open Picker

/-! ## The started pieces

The lowest level so far is kept while the list is gone through. The search begins at 2 ** 30, so
that no piece from there on is found. -/

/-- What is known of the best of the pieces that have been seen. -/
def BestOf (s : Picker n) (fits : Fin n → Bool) (seen : List (Fin n))
    (b : Option (Fin n) × Int) : Prop :=
  (∀ j ∈ seen, fits j = true → b.2 ≤ s.level_in_interests j) ∧
    match b.1 with
    | none => b.2 = 2 ^ 30
    | some i => i ∈ seen ∧ fits i = true ∧ b.2 = s.level_in_interests i ∧ b.2 < 2 ^ 30

theorem best_spec (s : Picker n) (fits : Fin n → Bool) (started seen : List (Fin n))
    (b : Option (Fin n) × Int) (hb : BestOf s fits seen b) :
    BestOf s fits (seen ++ started) (s.best fits started b) := by
  -- by the started pieces; `seen` are those that come before
  induction started generalizing seen b with
  | nil => rwa [List.append_nil]
  | cons i started ih =>
    have happend : seen ++ i :: started = (seen ++ [i]) ++ started := by simp
    rw [happend]
    refine ih _ _ ?_
    obtain ⟨hleast, hbest⟩ := hb
    have hlow : b.2 ≤ 2 ^ 30 := by
      cases hb : b.1 with
      | none =>
        rw [hb] at hbest
        exact Int.le_of_eq hbest
      | some k =>
        rw [hb] at hbest
        exact Int.le_of_lt hbest.2.2.2
    split
    · next hbetter =>
      refine ⟨fun j hj hfits => ?_, List.mem_append_right _ List.mem_cons_self, hbetter.1, rfl,
        Int.lt_of_lt_of_le hbetter.2 hlow⟩
      rcases List.mem_append.mp hj with hj | hj
      · exact Int.le_trans (Int.le_of_lt hbetter.2) (hleast j hj hfits)
      · exact List.mem_singleton.mp hj ▸ Int.le_refl _
    · next hworse =>
      refine ⟨fun j hj hfits => ?_, ?_⟩
      · rcases List.mem_append.mp hj with hj | hj
        · exact hleast j hj hfits
        · obtain rfl := List.mem_singleton.mp hj
          exact Int.not_lt.mp fun hlt => hworse ⟨hfits, hlt⟩
      · cases hb : b.1 with
        | none =>
          rw [hb] at hbest
          exact hbest
        | some k =>
          rw [hb] at hbest
          exact ⟨List.mem_append_left _ hbest.1, hbest.2⟩

/-! ## The buckets

The buckets are gone through from the lowest level on, and a bucket from its first place. -/

/-- Nothing is found where nothing in the buckets will do. -/
theorem first_none_iff : s.first fits lo hi = none ↔
    ∀ b, lo ≤ b → b < hi → ∀ j ∈ s.trays.buckets.getD b [], fits j = false := by
  unfold Picker.first
  rw [List.findSome?_eq_none_iff]
  constructor
  · intro hnone b hlo hhi j hj
    have hb := hnone b (List.mem_range'_1.mpr ⟨hlo, by omega⟩)
    have := List.find?_eq_none.mp hb j hj
    exact Bool.eq_false_iff.mpr this
  · intro hnone b hb
    obtain ⟨hlo, hhi⟩ := List.mem_range'_1.mp hb
    refine List.find?_eq_none.mpr fun j hj => ?_
    rw [hnone b hlo (by omega) j hj]
    exact Bool.false_ne_true

/-- What is found stands in the first bucket with something that will do. -/
theorem first_some (h : s.first fits lo hi = some i) :
    ∃ b, lo ≤ b ∧ b < hi ∧ i ∈ s.trays.buckets.getD b [] ∧ fits i = true ∧
      ∀ b', lo ≤ b' → b' < b → ∀ j ∈ s.trays.buckets.getD b' [], fits j = false := by
  unfold Picker.first at h
  obtain ⟨before, b, after, hrange, hfind, hbefore⟩ := List.findSome?_eq_some_iff.mp h
  have hb : b ∈ List.range' lo (hi - lo) := by
    rw [hrange]
    exact List.mem_append_right _ List.mem_cons_self
  obtain ⟨hlo, hhi⟩ := List.mem_range'_1.mp hb
  refine ⟨b, hlo, by omega, List.mem_of_find?_eq_some hfind, List.find?_some hfind, ?_⟩
  intro b' hlo' hlt j hj
  have hin : b' ∈ before ++ b :: after := by
    rw [← hrange]
    exact List.mem_range'_1.mpr ⟨hlo', by omega⟩
  have hsorted : (before ++ b :: after).Pairwise (· < ·) := by
    rw [← hrange]
    exact List.pairwise_lt_range'
  -- an earlier bucket has been searched without success, and a later one is not earlier
  rcases List.mem_append.mp hin with hin | hin
  · exact Bool.eq_false_iff.mpr (List.find?_eq_none.mp (hbefore b' hin) j hj)
  · rcases List.mem_cons.mp hin with rfl | hin
    · exact absurd hlt (Nat.lt_irrefl _)
    · have := (List.pairwise_cons.mp (List.pairwise_append.mp hsorted).2.1).1 b' hin
      omega

/-- What is found is wanted, and of the least level from `lo` on. -/
theorem first_wanted (h : Kept config s) (hfound : s.first fits lo hi = some i) :
    s.Wanted i ∧ fits i = true ∧ s.rank config i < hi ∧
      ∀ j, s.Wanted j → fits j = true → lo ≤ s.rank config j →
        s.rank config i ≤ s.rank config j := by
  obtain ⟨b, hlo, hhi, hmem, hfits, hbefore⟩ := first_some hfound
  have hhome := h.placed.mem_iff.mp hmem
  have hwanted : s.Wanted i := by
    by_contra hno
    exact nomatch (home_unwanted hno).symm.trans hhome
  obtain rfl := Option.some.inj ((home_wanted hwanted).symm.trans hhome)
  refine ⟨hwanted, hfits, hhi, fun j hj hfitsj hloj => Nat.le_of_not_lt fun hlt => ?_⟩
  have := hbefore _ hloj hlt j (h.placed.mem_iff.mpr (home_wanted hj))
  exact Bool.false_ne_true (this.symm.trans hfitsj)

theorem first_none (h : Kept config s) (hfound : s.first fits lo hi = none) (hj : s.Wanted j)
    (hfits : fits j = true) (hlo : lo ≤ s.rank config j) : hi ≤ s.rank config j := by
  refine Nat.le_of_not_lt fun hlt => ?_
  have := first_none_iff.mp hfound _ hlo hlt j (h.placed.mem_iff.mpr (home_wanted hj))
  exact Bool.false_ne_true (this.symm.trans hfits)

/-! ## The choice -/

/-- The levels are below the number the search begins with. -/
def Low (config : PickerConfig) (s : Picker n) : Prop :=
  ∀ i, s.Wanted i → s.rank config i < 2 ^ 30

/-- What is known of the best started piece. -/
theorem started_best (h : Kept config s) (fits : Fin n → Bool) :
    match (s.best fits s.started (none, 2 ^ 30)) with
    | (none, bestnum) => bestnum = 2 ^ 30 ∧
        ∀ j ∈ s.started, fits j = true → 2 ^ 30 ≤ s.rank config j
    | (some i, bestnum) => i ∈ s.started ∧ s.Wanted i ∧ fits i = true ∧
        bestnum = s.rank config i ∧ bestnum < 2 ^ 30 ∧
        ∀ j ∈ s.started, fits j = true → s.rank config i ≤ s.rank config j := by
  -- the walk over the started pieces begins with none and the largest level
  have hspec := best_spec s fits s.started [] (none, 2 ^ 30) ⟨nofun, rfl⟩
  rw [List.nil_append] at hspec
  generalize s.best fits s.started (none, 2 ^ 30) = b at hspec
  obtain ⟨best, bestnum⟩ := b
  obtain ⟨hleast, hbest⟩ := hspec
  cases best with
  | none =>
    have hnum : bestnum = 2 ^ 30 := hbest
    refine ⟨hnum, fun j hj hfits => ?_⟩
    have hle : bestnum ≤ s.level_in_interests j := hleast j hj hfits
    rw [h.level j (h.started j hj)] at hle
    omega
  | some i =>
    obtain ⟨hi, hfits, hnum, hlow⟩ : i ∈ s.started ∧ fits i = true ∧
      bestnum = s.level_in_interests i ∧ bestnum < 2 ^ 30 := hbest
    have hwanted := h.started i hi
    refine ⟨hi, hwanted, hfits, hnum.trans (h.level i hwanted), hlow, fun j hj hfitsj => ?_⟩
    have hle : bestnum ≤ s.level_in_interests j := hleast j hj hfitsj
    rw [hnum, h.level i hwanted, h.level j (h.started j hj)] at hle
    omega

variable {haves wantfunc : Fin n → Bool} {complete_first : Bool}

/-- **A piece that is chosen is wanted, the peer has it and the caller wants it.** -/
theorem next_wanted (h : Kept config s)
    (hnext : s.next config haves wantfunc complete_first = some i) :
    s.Wanted i ∧ haves i = true ∧ wantfunc i = true := by
  have hbest := started_best h fun i => haves i && wantfunc i
  have hfirst {lo hi : Nat} (hfound : s.first (fun i => haves i && wantfunc i) lo hi = some i) :
      s.Wanted i ∧ (haves i && wantfunc i) = true :=
    ⟨(first_wanted h hfound).1, (first_wanted h hfound).2.1⟩
  unfold Picker.next at hnext
  dsimp only at hnext
  generalize s.best (fun i => haves i && wantfunc i) s.started (none, 2 ^ 30) = b at hbest hnext
  obtain ⟨best, bestnum⟩ := b
  have hchosen : best = some i → s.Wanted i ∧ (haves i && wantfunc i) = true := by
    rintro rfl
    exact ⟨hbest.2.1, hbest.2.2.1⟩
  -- the choice is the best started piece or comes from one of three ranges of buckets
  have hboth : s.Wanted i ∧ (haves i && wantfunc i) = true := by
    dsimp only at hnext
    split at hnext
    · exact hchosen hnext
    · rcases Option.or_eq_some_iff.mp hnext with hfound | ⟨-, hfound⟩
      · split at hfound
        · exact hfirst hfound
        · split at hfound
          · rcases Option.or_eq_some_iff.mp hfound with hfound | ⟨-, hfound⟩
            · exact hfirst hfound
            · exact hfirst hfound
          · exact hfirst hfound
      · exact hchosen hfound
  exact ⟨hboth.1, Bool.and_eq_true_iff.mp hboth.2⟩

/-- **There is a choice as long as the peer has a piece that is wanted.** -/
theorem next_none_iff (h : Kept config s) (hlow : Low config s) :
    s.next config haves wantfunc complete_first = none ↔
      ∀ i, s.Wanted i → haves i = true → wantfunc i = false := by
  constructor
  · intro hnext i hwanted hhave
    refine Bool.eq_false_iff.mpr fun hwant => ?_
    have hfits : (haves i && wantfunc i) = true := Bool.and_eq_true_iff.mpr ⟨hhave, hwant⟩
    have hbest := started_best h fun i => haves i && wantfunc i
    have hlt := hlow i hwanted
    have hin := h.placed.lt_length (home_wanted hwanted)
    unfold Picker.next at hnext
    dsimp only at hnext
    generalize s.best (fun i => haves i && wantfunc i) s.started (none, 2 ^ 30) = b at hbest hnext
    obtain ⟨best, bestnum⟩ := b
    dsimp only at hnext hbest
    -- a started piece is an answer; without one the wanted piece is in some bucket
    cases best with
    | some j =>
      split at hnext
      · cases hnext
      · exact nomatch (Option.or_eq_none_iff.mp hnext).2
    | none =>
      rw [if_neg fun hno => Bool.false_ne_true hno.1, hbest.1] at hnext
      have hhi : s.rank config i < (min (2 ^ 30) (s.trays.buckets.length : Int)).toNat := by omega
      have hall {hi : Nat} (hhi : s.rank config i < hi)
          (hfound : s.first (fun i => haves i && wantfunc i) 0 hi = none) : False := by
        have := first_none h hfound hwanted hfits (Nat.zero_le _)
        omega
      have hfound := (Option.or_eq_none_iff.mp hnext).1
      split at hfound
      · exact hall hhi hfound
      · split at hfound
        · -- the buckets from the cutoff on, and those before it
          obtain ⟨hupper, hlower⟩ := Option.or_eq_none_iff.mp hfound
          by_cases hcutoff : s.cutoff ≤ s.rank config i
          · have := first_none h hupper hwanted hfits hcutoff
            omega
          · exact hall (Nat.lt_of_not_le hcutoff) hlower
        · exact hall hhi hfound
  · intro hnone
    refine Option.eq_none_iff_forall_ne_some.mpr fun i hnext => ?_
    obtain ⟨hwanted, hhave, hwant⟩ := next_wanted h hnext
    exact Bool.false_ne_true ((hnone i hwanted hhave).symm.trans hwant)

/-! ### After the beginning

Once `rarest_first_cutoff` pieces are there only two ways are left. A caller that asks for started
pieces first, of a peer that is no seed, gets the started piece of the least level, whatever the
levels of the others. In every other case the buckets are searched below the best started piece,
which is the answer where nothing is found. -/

/-- **A started piece is completed first**, where the caller asks for it and the peer is no seed. -/
theorem next_completing (h : Kept config s)
    (hnext : s.next config haves wantfunc true = some i) (hno : ∃ k, haves k = false)
    (hstarted : j ∈ s.started) (hhave : haves j = true) (hwant : wantfunc j = true)
    (hlow : s.rank config j < 2 ^ 30) :
    i ∈ s.started ∧ s.rank config i ≤ s.rank config j := by
  have hfits : (haves j && wantfunc j) = true := Bool.and_eq_true_iff.mpr ⟨hhave, hwant⟩
  have hbest := started_best h fun i => haves i && wantfunc i
  have hseed : decide (∀ i, haves i = true) = false :=
    decide_eq_false fun hall => hno.elim fun k hk => Bool.false_ne_true (hk.symm.trans (hall k))
  unfold Picker.next at hnext
  dsimp only at hnext
  generalize s.best (fun i => haves i && wantfunc i) s.started (none, 2 ^ 30) = b at hbest hnext
  obtain ⟨best, bestnum⟩ := b
  cases best with
  | none =>
    -- the piece itself would do
    have := hbest.2 j hstarted hfits
    omega
  | some k =>
    rw [hseed, if_pos ⟨rfl, rfl⟩] at hnext
    obtain rfl := Option.some.inj hnext
    exact ⟨hbest.1, hbest.2.2.2.2.2 j hstarted hfits⟩

/-- No started piece is answered before the buckets are searched: the caller does not ask for it,
the peer is a seed, or no started piece will do. -/
def Searches (config : PickerConfig) (s : Picker n) (haves wantfunc : Fin n → Bool)
    (complete_first : Bool) : Prop :=
  complete_first = false ∨ (∀ j, haves j = true) ∨
    ∀ j ∈ s.started, haves j = true → wantfunc j = true → 2 ^ 30 ≤ s.rank config j

/-- **After the beginning the rarest piece is chosen**, and a started one where that is as rare. -/
theorem next_least (h : Kept config s) (hbegun : config.rarest_first_cutoff ≤ s.numgot)
    (hsearches : Searches config s haves wantfunc complete_first)
    (hnext : s.next config haves wantfunc complete_first = some i) (hwanted : s.Wanted j)
    (hhave : haves j = true) (hwant : wantfunc j = true) :
    s.rank config i ≤ s.rank config j ∧
      (s.rank config j = s.rank config i → j ∈ s.started → i ∈ s.started) := by
  have hfits : (haves j && wantfunc j) = true := Bool.and_eq_true_iff.mpr ⟨hhave, hwant⟩
  have hbest := started_best h fun i => haves i && wantfunc i
  have hin := h.placed.lt_length (home_wanted hwanted)
  have hcutoff : decide (s.numgot < config.rarest_first_cutoff) = false :=
    decide_eq_false (Nat.not_lt.mpr hbegun)
  unfold Picker.next at hnext
  dsimp only at hnext
  generalize s.best (fun i => haves i && wantfunc i) s.started (none, 2 ^ 30) = b at hbest hnext
  obtain ⟨best, bestnum⟩ := b
  have hlate : ¬(best.isSome ∧ (complete_first && !decide (∀ i, haves i = true)) = true) := by
    rintro ⟨hsome, hfirst⟩
    obtain ⟨hasked, hseed⟩ := Bool.and_eq_true_iff.mp hfirst
    rcases hsearches with hnot | hall | hnone
    · exact Bool.false_ne_true (hnot.symm.trans hasked)
    · rw [decide_eq_true hall] at hseed
      cases hseed
    · obtain ⟨k, rfl⟩ := Option.isSome_iff_exists.mp hsome
      obtain ⟨hk, -, hfitsk, hnum, hlow, -⟩ := hbest
      obtain ⟨hhavek, hwantk⟩ := Bool.and_eq_true_iff.mp hfitsk
      have := hnone k hk hhavek hwantk
      omega
  rw [hcutoff] at hnext
  simp only [Bool.or_false, Bool.false_and, Bool.false_eq_true, if_false, if_neg hlate,
    ite_self] at hnext
  rcases Option.or_eq_some_iff.mp hnext with hfound | ⟨hfound, rfl⟩
  · -- the piece is rarer than all that are started
    obtain ⟨-, -, hhi, hleast⟩ := first_wanted h hfound
    refine ⟨hleast j hwanted hfits (Nat.zero_le _), fun hsame hstarted => ?_⟩
    cases best with
    | none =>
      have := hbest.1
      have := hbest.2 j hstarted hfits
      omega
    | some k =>
      have := hbest.2.2.2.1
      have := hbest.2.2.2.2.2 j hstarted hfits
      omega
  · -- nothing is rarer than the started piece
    have := first_none h hfound hwanted hfits (Nat.zero_le _)
    have := hbest.2.2.2.1
    exact ⟨by omega, fun _ _ => hbest.1⟩

end

end VirtCore.Torrent
