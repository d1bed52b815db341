import Mathlib.Data.Option.Basic
import Mathlib.Logic.Function.Basic

/-!
# Buckets of items that know their places

Lists of items, with the place of each item in its list remembered beside them. An item is
taken out by moving the last one into its place, and put in by moving the item it displaces to
the end, so that only two items move. `Placed` says that an item stands in the bucket it is at
home in, at the place that is remembered for it, and nowhere else; each operation has one lemma
that says it succeeds and what the homes are afterwards.
-/

namespace Buckets

open Function (update)

/-- Lists of items, and for each item the place that is remembered for it. -/
structure Trays (α : Type) where
  buckets : List (List α)
  pos : α → Nat

variable {α : Type} {s : Trays α} {home home' : α → Option Nat} {pos' : α → Nat}
variable {i j q : α} {l l' : List α} {a b p k : Nat}

/-- The item that stands at a place of a bucket. -/
def Trays.item (s : Trays α) (b p : Nat) : Option α := (s.buckets.getD b [])[p]?

/-- Every item stands in its own bucket at the place remembered for it, and nowhere else. -/
def Placed (s : Trays α) (home : α → Option Nat) : Prop :=
  ∀ b p i, s.item b p = some i ↔ home i = some b ∧ s.pos i = p

/-! ## What placing gives

An item is in the bucket that it is placed in, in no other, and there once. -/

theorem item_bucket (h : s.buckets[b]? = some l) : s.item b p = l[p]? := by
  unfold Trays.item
  rw [List.getD_eq_getElem?_getD, h, Option.getD_some]

/-- The bucket an item is at home in is there, and has the item at its place. -/
theorem Placed.bucket (h : Placed s home) (hi : home i = some b) :
    ∃ l, s.buckets[b]? = some l ∧ l[s.pos i]? = some i := by
  have hat : s.item b (s.pos i) = some i := (h b (s.pos i) i).2 ⟨hi, rfl⟩
  cases hl : s.buckets[b]? with
  | none => simp [Trays.item, hl] at hat
  | some l => exact ⟨l, rfl, item_bucket hl ▸ hat⟩

theorem Placed.lt_length (h : Placed s home) (hi : home i = some b) : b < s.buckets.length := by
  obtain ⟨l, hl, -⟩ := h.bucket hi
  exact (List.getElem?_eq_some_iff.mp hl).1

/-- What stands in a bucket is at home there. -/
theorem Placed.mem_iff (h : Placed s home) : i ∈ s.buckets.getD b [] ↔ home i = some b := by
  constructor
  · intro hmem
    obtain ⟨p, hp⟩ := List.mem_iff_getElem?.mp hmem
    exact ((h b p i).1 hp).1
  · intro hi
    exact List.mem_iff_getElem?.mpr ⟨s.pos i, (h b (s.pos i) i).2 ⟨hi, rfl⟩⟩

/-- An item stands at one place of its bucket only. -/
theorem Placed.inj (h : Placed s home) (hl : s.buckets[b]? = some l) (hp : l[p]? = some i)
    (hk : l[k]? = some i) : p = k := by
  rw [← item_bucket hl] at hp hk
  exact ((h b p i).1 hp).2.symm.trans ((h b k i).1 hk).2

/-- A bucket holds every item once. -/
theorem Placed.nodup (h : Placed s home) (hl : s.buckets[b]? = some l) : l.Nodup := by
  refine List.pairwise_iff_getElem.mpr fun x y hx hy hxy hsame => ?_
  have hx' : l[x]? = some l[x] := List.getElem?_eq_getElem hx
  have hy' : l[y]? = some l[y] := List.getElem?_eq_getElem hy
  have := h.inj hl hx' (hsame ▸ hy')
  omega

theorem getElem?_inj_of_nodup (hnodup : l.Nodup) (hk : l[k]? = some j) (hp : l[p]? = some j) :
    k = p := by
  obtain ⟨hklt, hk⟩ := List.getElem?_eq_some_iff.mp hk
  obtain ⟨hplt, hp⟩ := List.getElem?_eq_some_iff.mp hp
  exact (List.getElem_inj hnodup).mp (hk.trans hp.symm)

/-- One bucket is replaced: it has to hold the items that are now at home there, and the items
of the other buckets stay as they were. -/
theorem Placed.replace (h : Placed s home) (hl : s.buckets[a]? = some l)
    (hhere : ∀ k j, l'[k]? = some j ↔ home' j = some a ∧ pos' j = k)
    (hother : ∀ j, home' j = home j ∧ pos' j = s.pos j ∨
      (∀ b ≠ a, home j ≠ some b) ∧ ∀ b ≠ a, home' j ≠ some b) :
    Placed ⟨s.buckets.set a l', pos'⟩ home' := by
  have ha : a < s.buckets.length := (List.getElem?_eq_some_iff.mp hl).1
  intro b k j
  -- the replaced bucket is as it is said to be, and all others are as they were
  by_cases hab : b = a
  · subst hab
    rw [item_bucket (List.getElem?_set_self ha)]
    exact hhere k j
  · have hsame : (Trays.mk (s.buckets.set a l') pos').item b k = s.item b k := by
      unfold Trays.item
      rw [List.getD_eq_getElem?_getD, List.getElem?_set_ne (Ne.symm hab),
        List.getD_eq_getElem?_getD]
    rw [hsame, h b k j]
    rcases hother j with ⟨hhome, hpos⟩ | ⟨hno, hno'⟩
    · rw [hhome]
      show _ ↔ home j = some b ∧ pos' j = k
      rw [hpos]
    · exact ⟨fun hold => absurd hold.1 (hno b hab), fun hnew => absurd hnew.1 (hno' b hab)⟩

theorem getElem?_appended :
    (l ++ [i])[k]? = some j ↔ l[k]? = some j ∨ k = l.length ∧ j = i := by
  rcases Nat.lt_trichotomy k l.length with hk | rfl | hk
  · rw [List.getElem?_append_left hk]
    exact ⟨.inl, fun hj => hj.resolve_right fun hend => absurd hend.1 (by omega)⟩
  · rw [List.getElem?_concat_length, List.getElem?_eq_none (Nat.le_refl _), Option.some.injEq]
    exact ⟨fun hj => .inr ⟨rfl, hj.symm⟩, fun hj => (hj.resolve_left nofun).2.symm⟩
  · rw [List.getElem?_eq_none (by rw [List.length_append, List.length_singleton]; omega),
      List.getElem?_eq_none (by omega)]
    exact ⟨nofun, fun hj => absurd (hj.resolve_left nofun).1 (by omega)⟩

/-! ## Taking an item out

The last item of the bucket moves into the gap, so that two places change. -/

section

variable [DecidableEq α]

/-- Takes an item out of a bucket: the last item of the bucket takes its place. There is no
result where another item, or none, stands at the place remembered for it. -/
def Trays.take (s : Trays α) (b : Nat) (i : α) : Option (Trays α) := do
  let l ← s.buckets[b]?
  guard (l[s.pos i]? = some i)
  let q ← l.getLast?
  some ⟨s.buckets.set b (l.set (s.pos i) q).dropLast, update s.pos q (s.pos i)⟩

/-- The items of a list of which one has been taken out. -/
theorem getElem?_taken (hinj : ∀ {k k' : Nat} {j : α}, l[k]? = some j →
    l[k']? = some j → k = k') (hp : l[p]? = some i) (hq : l[l.length - 1]? = some q) :
    (l.set p q).dropLast[k]? = some j ↔ j ≠ i ∧
    (if j = q then k = p else l[k]? = some j) := by
  obtain ⟨hlt, -⟩ := List.getElem?_eq_some_iff.mp hp
  rw [List.getElem?_dropLast, List.length_set, List.getElem?_set]
  by_cases hpk : p = k
  · subst hpk
    rw [if_pos rfl, if_pos hlt]
    by_cases hend : p < l.length - 1
    · -- the last item is another one, and stands here now
      have hqi : q ≠ i := fun hqi => by
        have := hinj hp (hqi ▸ hq)
        omega
      rw [if_pos hend, Option.some.injEq]
      constructor
      · rintro rfl
        exact ⟨hqi, by rw [if_pos rfl]⟩
      · rintro ⟨hji, hj⟩
        by_cases hjq : j = q
        · exact hjq.symm
        · rw [if_neg hjq, hp, Option.some.injEq] at hj
          exact absurd hj.symm hji
    · -- the item was the last one
      obtain rfl : p = l.length - 1 := by omega
      obtain rfl := Option.some.inj (hp.symm.trans hq)
      rw [if_neg hend]
      refine ⟨nofun, fun hj => ?_⟩
      rw [if_neg hj.1, hp, Option.some.injEq] at hj
      exact absurd hj.2.symm hj.1
  · rw [if_neg hpk]
    by_cases hend : k < l.length - 1
    · rw [if_pos hend]
      constructor
      · intro hj
        refine ⟨fun hji => hpk (hinj hp (hji ▸ hj)), ?_⟩
        rw [if_neg fun hjq => absurd (hinj hq (hjq ▸ hj)) (by omega)]
        exact hj
      · rintro ⟨-, hj⟩
        by_cases hjq : j = q
        · rw [if_pos hjq] at hj
          exact absurd hj.symm hpk
        · rwa [if_neg hjq] at hj
    · rw [if_neg hend]
      refine ⟨nofun, fun hj => ?_⟩
      by_cases hjq : j = q
      · rw [if_pos hjq] at hj
        exact absurd hj.2.symm hpk
      · rw [if_neg hjq] at hj
        obtain ⟨hklt, -⟩ := List.getElem?_eq_some_iff.mp hj.2
        obtain rfl : k = l.length - 1 := by omega
        exact absurd (Option.some.inj (hj.2.symm.trans hq)) hjq

/-- An item that is at home can be taken out, and the others stay at home. -/
theorem Placed.take (h : Placed s home) (hi : home i = some b) :
    ∃ s', s.take b i = some s' ∧ s'.buckets.length = s.buckets.length ∧
      Placed s' (update home i none) := by
  obtain ⟨l, hl, hp⟩ := h.bucket hi
  obtain ⟨hlt, -⟩ := List.getElem?_eq_some_iff.mp hp
  -- `q` is the last item, which takes the free place
  obtain ⟨q, hq⟩ : ∃ q, l[l.length - 1]? = some q :=
    ⟨_, List.getElem?_eq_getElem (by omega)⟩
  have hlast : l.getLast? = some q := List.getLast?_eq_getElem?.trans hq
  obtain ⟨hqhome, -⟩ := (h b (l.length - 1) q).1 ((item_bucket hl).trans hq)
  refine ⟨⟨s.buckets.set b (l.set (s.pos i) q).dropLast, update s.pos q (s.pos i)⟩, ?_,
    List.length_set, h.replace hl ?_ ?_⟩
  · have hguard : (guard (l[s.pos i]? = some i) : Option Unit) = some () :=
      (Option.guard_eq_some' ()).mpr hp
    simp [Trays.take, hl, hguard, hlast]
  · intro k j
    rw [getElem?_taken (fun hk hk' => h.inj hl hk hk') hp hq]
    have hold := h b k j
    rw [item_bucket hl] at hold
    by_cases hji : j = i
    · subst hji
      rw [Function.update_self]
      exact ⟨fun hj => absurd rfl hj.1, fun hj => absurd hj.1.symm (Option.some_ne_none b)⟩
    · rw [Function.update_of_ne hji]
      by_cases hjq : j = q
      · subst hjq
        rw [if_pos rfl, Function.update_self]
        exact ⟨fun hj => ⟨hqhome, hj.2.symm⟩, fun hj => ⟨hji, hj.2.symm⟩⟩
      · rw [if_neg hjq, Function.update_of_ne hjq, hold]
        exact ⟨fun hj => hj.2, fun hj => ⟨hji, hj⟩⟩
  · intro j
    by_cases hji : j = i
    · subst hji
      refine .inr ⟨fun b' hb hj => hb (Option.some.inj (hj.symm.trans hi)), fun b' _ hj => ?_⟩
      rw [Function.update_self] at hj
      exact Option.some_ne_none b' hj.symm
    · rw [Function.update_of_ne hji]
      by_cases hjq : j = q
      · subst hjq
        have hno : ∀ b' ≠ b, home j ≠ some b' :=
          fun b' hb hj => hb (Option.some.inj (hj.symm.trans hqhome))
        exact .inr ⟨hno, hno⟩
      · exact .inl ⟨rfl, Function.update_of_ne hjq _ _⟩

/-! ## Putting an item in

The item goes to a place that is drawn, and what stood there goes to the end of the bucket. -/

/-- Puts an item into a bucket at the place `draw % (length + 1)`: the item that stood there
goes to the end. -/
def Trays.put (s : Trays α) (b : Nat) (i : α) (draw : Nat) : Option (Trays α) := do
  let l ← s.buckets[b]?
  let newp := draw % (l.length + 1)
  if newp = l.length then
    some ⟨s.buckets.set b (l ++ [i]), update s.pos i l.length⟩
  else do
    let old ← l[newp]?
    some ⟨s.buckets.set b ((l ++ [old]).set newp i), update (update s.pos old l.length) i newp⟩

/-- The items of a list in which one has been put at the place of another, that goes to the end. -/
theorem getElem?_displaced {old : α}
    (hinj : ∀ {k k' : Nat} {j : α}, l[k]? = some j → l[k']? = some j → k = k')
    (hnot : ∀ k : Nat, l[k]? ≠ some i) (hat : l[p]? = some old) :
    ((l ++ [old]).set p i)[k]? = some j ↔
      if j = i then p = k else if j = old then l.length = k else l[k]? = some j := by
  obtain ⟨hlt, -⟩ := List.getElem?_eq_some_iff.mp hat
  rw [List.getElem?_set, List.length_append]
  by_cases hk : p = k
  · -- the place of the new item
    subst hk
    rw [if_pos rfl, if_pos (by omega), Option.some.injEq]
    by_cases hji : j = i
    · rw [if_pos hji]
      exact ⟨fun _ => rfl, fun _ => hji.symm⟩
    · rw [if_neg hji]
      refine ⟨fun hj => absurd hj.symm hji, fun hj => ?_⟩
      by_cases hjo : j = old
      · rw [if_pos hjo] at hj
        omega
      · rw [if_neg hjo, hat] at hj
        exact absurd (Option.some.inj hj).symm hjo
  · -- any other place is as before, or the new last one
    rw [if_neg hk, getElem?_appended]
    by_cases hji : j = i
    · subst hji
      have holdi : old ≠ j := fun hsame => hnot p (hsame ▸ hat)
      rw [if_pos rfl]
      exact ⟨fun hj => absurd (hj.resolve_left (hnot k)).2.symm holdi, fun hj => absurd hj hk⟩
    · rw [if_neg hji]
      by_cases hjo : j = old
      · subst hjo
        rw [if_pos rfl]
        constructor
        · rintro (hj | hj)
          · exact absurd (hinj hat hj) hk
          · exact hj.1.symm
        · exact fun hj => .inr ⟨hj.symm, rfl⟩
      · rw [if_neg hjo]
        exact ⟨fun hj => hj.resolve_right fun hlast => hjo hlast.2, .inl⟩

/-- An item that is nowhere can be put into any bucket there is. -/
theorem Placed.put (h : Placed s home) (hi : home i = none) (hb : b < s.buckets.length)
    (draw : Nat) :
    ∃ s', s.put b i draw = some s' ∧ s'.buckets.length = s.buckets.length ∧
      Placed s' (update home i (some b)) := by
  have hl : s.buckets[b]? = some s.buckets[b] := List.getElem?_eq_getElem hb
  generalize s.buckets[b] = l at hl
  -- an item that is nowhere does not stand in this bucket either
  have hnot (k : Nat) : l[k]? ≠ some i := by
    intro hk
    rw [← item_bucket hl] at hk
    exact nomatch hi.symm.trans ((h b k i).1 hk).1
  have hold (k : Nat) (j : α) : l[k]? = some j ↔ home j = some b ∧ s.pos j = k := by
    rw [← item_bucket hl]
    exact h b k j
  have hself : ∀ b' ≠ b, update home i (some b) i ≠ some b' := by
    intro b' hb' hj
    rw [Function.update_self] at hj
    exact hb' (Option.some.inj hj).symm
  have hmod : draw % (l.length + 1) < l.length + 1 := Nat.mod_lt _ (Nat.succ_pos _)
  by_cases hend : draw % (l.length + 1) = l.length
  · refine ⟨⟨s.buckets.set b (l ++ [i]), update s.pos i l.length⟩, ?_, List.length_set,
      h.replace hl ?_ ?_⟩
    · simp [Trays.put, hl, hend]
    · intro k j
      rw [getElem?_appended]
      by_cases hji : j = i
      · subst hji
        rw [Function.update_self, Function.update_self]
        exact ⟨fun hj => ⟨rfl, (hj.resolve_left (hnot k)).1.symm⟩,
          fun hj => .inr ⟨hj.2.symm, rfl⟩⟩
      · rw [Function.update_of_ne hji, Function.update_of_ne hji, ← hold]
        exact ⟨fun hj => hj.resolve_right fun hlast => hji hlast.2, .inl⟩
    · intro j
      by_cases hji : j = i
      · subst hji
        exact .inr ⟨fun b' _ hj => (nomatch hi.symm.trans hj), hself⟩
      · exact .inl ⟨Function.update_of_ne hji _ _, Function.update_of_ne hji _ _⟩
  · generalize hnewp : draw % (l.length + 1) = newp at hmod hend
    have hlt : newp < l.length := by omega
    obtain ⟨old, hat⟩ : ∃ old, l[newp]? = some old := ⟨_, List.getElem?_eq_getElem hlt⟩
    obtain ⟨hhome, -⟩ := (hold newp old).1 hat
    refine ⟨⟨s.buckets.set b ((l ++ [old]).set newp i),
      update (update s.pos old l.length) i newp⟩, ?_, List.length_set, h.replace hl ?_ ?_⟩
    · simp [Trays.put, hl, hnewp, hend, hat]
    · intro k j
      rw [getElem?_displaced (fun hk hk' => h.inj hl hk hk') hnot hat]
      by_cases hji : j = i
      · subst hji
        rw [if_pos rfl, Function.update_self, Function.update_self]
        exact ⟨fun hj => ⟨rfl, hj⟩, fun hj => hj.2⟩
      · rw [if_neg hji, Function.update_of_ne hji, Function.update_of_ne hji]
        by_cases hjo : j = old
        · subst hjo
          rw [if_pos rfl, Function.update_self]
          exact ⟨fun hj => ⟨hhome, hj⟩, fun hj => hj.2⟩
        · rw [if_neg hjo, Function.update_of_ne hjo, hold]
    · intro j
      by_cases hji : j = i
      · subst hji
        exact .inr ⟨fun b' _ hj => (nomatch hi.symm.trans hj), hself⟩
      · rw [Function.update_of_ne hji, Function.update_of_ne hji]
        by_cases hjo : j = old
        · subst hjo
          have hno : ∀ b' ≠ b, home j ≠ some b' :=
            fun b' hb' hj => hb' (Option.some.inj (hj.symm.trans hhome))
          exact .inr ⟨hno, hno⟩
        · exact .inl ⟨rfl, Function.update_of_ne hjo _ _⟩

/-- **An item moves to another bucket.** -/
theorem Placed.move (h : Placed s home) (hi : home i = some a) (hb : b < s.buckets.length)
    (draw : Nat) :
    ∃ s' s'', s.take a i = some s' ∧ s'.put b i draw = some s'' ∧
      s''.buckets.length = s.buckets.length ∧ Placed s'' (update home i (some b)) := by
  obtain ⟨s', htake, hlength, h'⟩ := h.take hi
  obtain ⟨s'', hput, hlength', h''⟩ := h'.put (Function.update_self ..) (hlength ▸ hb) draw
  rw [Function.update_idem] at h''
  exact ⟨s', s'', htake, hput, hlength'.trans hlength, h''⟩

/-! ## Moving an item to the end of its bucket

All items behind it move one place forward, so that the places of a whole bucket are written anew.
-/

/-- The places of the items of a list, counted from `k`. -/
def renumber (pos : α → Nat) : List α → Nat → α → Nat
  | [], _ => pos
  | j :: l, k => renumber (update pos j k) l (k + 1)

theorem renumber_of_not_mem (pos : α → Nat) (l : List α) (k : Nat) (hj : j ∉ l) :
    renumber pos l k j = pos j := by
  induction l generalizing pos k with
  | nil => rfl
  | cons x l ih =>
    rw [List.mem_cons, not_or] at hj
    show renumber (update pos x k) l (k + 1) j = pos j
    rw [ih _ _ hj.2, Function.update_of_ne hj.1]

theorem renumber_of_getElem? (pos : α → Nat) (l : List α) (k : Nat) (hnodup : l.Nodup)
    (hj : l[p]? = some j) : renumber pos l k j = k + p := by
  induction l generalizing pos k p with
  | nil => simp at hj
  | cons x l ih =>
    obtain ⟨hx, hnodup⟩ := List.nodup_cons.mp hnodup
    show renumber (update pos x k) l (k + 1) j = k + p
    cases p with
    | zero =>
      obtain rfl : x = j := by simpa using hj
      rw [renumber_of_not_mem _ _ _ hx, Function.update_self, Nat.add_zero]
    | succ p =>
      rw [List.getElem?_cons_succ] at hj
      rw [ih _ _ hnodup hj]
      omega

/-- Moves an item to the end of its bucket: it is dropped from the place remembered for it,
added at the end, and the places from there on are told anew. -/
def Trays.bump (s : Trays α) (b : Nat) (i : α) : Option (Trays α) := do
  let l ← s.buckets[b]?
  guard (s.pos i < l.length)
  let l' := l.eraseIdx (s.pos i) ++ [i]
  some ⟨s.buckets.set b l', renumber s.pos (l'.drop (s.pos i)) (s.pos i)⟩

/-- **Moving an item to the end leaves every item in its bucket.** -/
theorem Placed.bump (h : Placed s home) (hi : home i = some b) :
    ∃ s', s.bump b i = some s' ∧ s'.buckets.length = s.buckets.length ∧ Placed s' home := by
  obtain ⟨l, hl, hp⟩ := h.bucket hi
  obtain ⟨hlt, hget⟩ := List.getElem?_eq_some_iff.mp hp
  have hold (k : Nat) (j : α) : l[k]? = some j ↔ home j = some b ∧ s.pos j = k := by
    rw [← item_bucket hl]
    exact h b k j
  have hmem (j : α) : j ∈ l ↔ home j = some b := by
    rw [List.mem_iff_getElem?]
    exact ⟨fun ⟨k, hk⟩ => ((hold k j).1 hk).1,
      fun hj => ⟨s.pos j, (hold _ j).2 ⟨hj, rfl⟩⟩⟩
  -- nothing is lost, and nothing moves before the old place
  have hperm : (l.eraseIdx (s.pos i) ++ [i]).Perm l := by
    rw [List.eraseIdx_eq_take_drop_succ]
    have hcut : l.take (s.pos i) ++ l[s.pos i] :: l.drop (s.pos i + 1) = l := by
      rw [List.getElem_cons_drop, List.take_append_drop]
    rw [hget] at hcut
    refine List.Perm.trans ?_ (List.Perm.of_eq hcut)
    rw [List.append_assoc]
    exact (List.perm_append_singleton i _).append_left _
  have hnodup : (l.eraseIdx (s.pos i) ++ [i]).Nodup := hperm.nodup_iff.mpr (h.nodup hl)
  have hfront (k : Nat) (hk : k < s.pos i) : (l.eraseIdx (s.pos i) ++ [i])[k]? = l[k]? := by
    rw [List.getElem?_append_left (by rw [List.length_eraseIdx_of_lt hlt]; omega),
      List.getElem?_eraseIdx_of_lt hk]
  have hbump : s.bump b i = some ⟨s.buckets.set b (l.eraseIdx (s.pos i) ++ [i]),
      renumber s.pos ((l.eraseIdx (s.pos i) ++ [i]).drop (s.pos i)) (s.pos i)⟩ := by
    have hguard : (guard (s.pos i < l.length) : Option Unit) = some () :=
      (Option.guard_eq_some' ()).mpr hlt
    simp [Trays.bump, hl, hguard]
  refine ⟨_, hbump, List.length_set, h.replace hl ?_ ?_⟩
  all_goals generalize l.eraseIdx (s.pos i) ++ [i] = l' at hperm hnodup hfront
  · -- the places from the item's old place on are the new ones, those before it the old ones
    have hplace (k : Nat) (j : α) (hk : l'[k]? = some j) :
        renumber s.pos (l'.drop (s.pos i)) (s.pos i) j = k := by
      by_cases hfrom : k < s.pos i
      · have hnot : j ∉ l'.drop (s.pos i) := by
          intro hlater
          obtain ⟨k', hk'⟩ := List.mem_iff_getElem?.mp hlater
          rw [List.getElem?_drop] at hk'
          have := getElem?_inj_of_nodup hnodup hk hk'
          omega
        rw [renumber_of_not_mem _ _ _ hnot]
        rw [hfront k hfrom] at hk
        exact ((hold k j).1 hk).2
      · obtain ⟨k', rfl⟩ := Nat.exists_eq_add_of_le (Nat.le_of_not_lt hfrom)
        rw [← List.getElem?_drop] at hk
        exact renumber_of_getElem? _ _ _ (hnodup.sublist (List.drop_sublist _ _)) hk
    intro k j
    constructor
    · intro hk
      exact ⟨(hmem j).1 (hperm.mem_iff.mp (List.mem_iff_getElem?.mpr ⟨k, hk⟩)),
        hplace k j hk⟩
    · rintro ⟨hj, hpos⟩
      obtain ⟨k', hk'⟩ := List.mem_iff_getElem?.mp (hperm.mem_iff.mpr ((hmem j).2 hj))
      rwa [← hpos, hplace k' j hk']
  · intro j
    by_cases hj : home j = some b
    · have hno : ∀ b' ≠ b, home j ≠ some b' :=
        fun b' hb' hj' => hb' (Option.some.inj (hj'.symm.trans hj))
      exact .inr ⟨hno, hno⟩
    · have hnot : j ∉ l'.drop (s.pos i) := fun hlater =>
        hj ((hmem j).1 (hperm.mem_iff.mp (List.mem_of_mem_drop hlater)))
      exact .inl ⟨rfl, renumber_of_not_mem _ _ _ hnot⟩

/-! ## The first deal

All items go into one bucket, in an order that is drawn. -/

/-- All items in one bucket behind `b` empty ones, in the order given. -/
def deal (b : Nat) (order : List α) : Trays α :=
  ⟨List.replicate b [] ++ [order], renumber (fun _ => 0) order 0⟩

theorem deal_placed (b : Nat) {order : List α} (hnodup : order.Nodup) (hall : ∀ i, i ∈ order) :
    Placed (deal b order) fun _ => some b := by
  intro b' k j
  have hat (k : Nat) : order[k]? = some j ↔ renumber (fun _ => 0) order 0 j = k := by
    obtain ⟨p, hp⟩ := List.mem_iff_getElem?.mp (hall j)
    have hplace := renumber_of_getElem? (fun _ => 0) order 0 hnodup hp
    rw [Nat.zero_add] at hplace
    rw [hplace]
    exact ⟨fun hk => getElem?_inj_of_nodup hnodup hp hk, fun hk => hk ▸ hp⟩
  have hitem : (deal b order).item b' k = if b' = b then order[k]? else none := by
    unfold Trays.item deal
    rw [List.getD_eq_getElem?_getD, List.getElem?_append, List.length_replicate]
    -- the buckets before are empty, and behind there are none
    rcases Nat.lt_trichotomy b' b with hb | rfl | hb
    · rw [if_pos hb, List.getElem?_replicate, if_pos hb, if_neg (by omega)]
      rfl
    · rw [if_neg (Nat.lt_irrefl _), if_pos rfl, Nat.sub_self]
      rfl
    · have hpast : [order][b' - b]? = none :=
        List.getElem?_eq_none (by rw [List.length_singleton]; omega)
      rw [if_neg (by omega), if_neg (by omega), hpast]
      rfl
  rw [hitem, Option.some.injEq]
  by_cases hb : b' = b
  · rw [if_pos hb, hat]
    exact ⟨fun hk => ⟨hb.symm, hk⟩, fun hk => hk.2⟩
  · rw [if_neg hb]
    exact ⟨nofun, fun hk => absurd hk.1.symm hb⟩

end

/-! ## More buckets, and fewer -/

/-- There are at least so many buckets: empty ones are added. -/
def Trays.pad (s : Trays α) (m : Nat) : Trays α :=
  { s with buckets := s.buckets ++ List.replicate (m - s.buckets.length) [] }

theorem pad_length (s : Trays α) (m : Nat) :
    (s.pad m).buckets.length = max m s.buckets.length := by
  show (s.buckets ++ List.replicate _ []).length = _
  rw [List.length_append, List.length_replicate]
  omega

theorem Placed.pad (h : Placed s home) (m : Nat) : Placed (s.pad m) home := by
  intro b k j
  have hsame : (s.pad m).item b k = s.item b k := by
    unfold Trays.item Trays.pad
    rw [List.getD_eq_getElem?_getD, List.getD_eq_getElem?_getD, List.getElem?_append]
    by_cases hb : b < s.buckets.length
    · rw [if_pos hb]
    · rw [if_neg hb, List.getElem?_replicate, List.getElem?_eq_none (Nat.le_of_not_lt hb)]
      split <;> rfl
  rw [hsame]
  exact h b k j

/-- The first bucket goes. -/
def Trays.tail (s : Trays α) : Trays α := { s with buckets := s.buckets.tail }

/-- **The others move up when the first bucket goes.** -/
theorem Placed.tail (h : Placed s home)
    (hhome : ∀ i b, home' i = some b ↔ home i = some (b + 1)) : Placed s.tail home' := by
  intro b k j
  have hsame : s.tail.item b k = s.item (b + 1) k := by
    unfold Trays.item Trays.tail
    rw [List.getD_eq_getElem?_getD, List.getD_eq_getElem?_getD, List.getElem?_tail]
  rw [hsame, h, hhome]
  exact Iff.rfl

end Buckets
