import VirtCore.Buckets.Places
import VirtCore.Buckets.Counts

/-!
# VirtCore — `PiecePicker.py`

The pieces that are still wanted stand in buckets by how many peers have them. Every piece a peer
gains or loses, and every priority that is set, moves one piece from a bucket to another.

* **`Picker`** — the picker, and its methods under their names. Where one has no result the
  source raises an exception, or would count below zero and take an index from the end of a list.
* **`Kept`** — the buckets, the counts and the started pieces are those of the availability, of
  the priorities and of the pieces that are there.
* **`got_have_kept`** … **`set_priority_kept`** — no method fails where its caller keeps to what
  it says, and `Kept` goes on.

Seeding in turns (`superseed`) is left out.
-/

namespace VirtCore.Torrent

open Buckets
open Function (update)

/-- The arguments of a picker, as given. -/
structure PickerConfig where
  rarest_first_cutoff : Nat
  rarest_first_priority_cutoff : Nat
  priority_step : Nat

/-- A picker of `n` pieces. The lists of pieces of `interests` and the places of
`pos_in_interests` are `trays`. -/
structure Picker (n : Nat) where
  started : List (Fin n)
  totalcount : Int
  numhaves : Fin n → Nat
  priority : Fin n → Int
  removed_partials : Fin n → Bool
  crosscount : List Int
  /-- While pieces are missing; afterwards `crosscount` is meant. -/
  crosscount2 : List Int
  has : Fin n → Bool
  numgot : Nat
  done : Bool
  seeds_connected : Int
  cutoff : Nat
  trays : Trays (Fin n)
  level_in_interests : Fin n → Int

/-- A level as an index of `interests`. -/
def index (level : Int) : Option Nat := if 0 ≤ level then some level.toNat else none

namespace Picker

variable {n : Nat}

/-- `__init__`, with the order the pieces are shuffled into. -/
def init (config : PickerConfig) (interests : List (Fin n)) : Picker n where
  started := []
  totalcount := 0
  numhaves := fun _ => 0
  priority := fun _ => 1
  removed_partials := fun _ => false
  crosscount := [n]
  crosscount2 := [n]
  has := fun _ => false
  numgot := 0
  done := false
  seeds_connected := 0
  cutoff := config.rarest_first_priority_cutoff
  trays := deal config.priority_step interests
  level_in_interests := fun _ => config.priority_step

/-- A piece goes from one level to another, to the place that is drawn. -/
def shift_over (s : Picker n) (piece : Fin n) (l1 l2 : Int) (draw : Nat) : Option (Picker n) := do
  let a ← index l1
  let b ← index l2
  guard (s.has piece = false ∧ 0 ≤ s.priority piece)
  let trays ← s.trays.take a piece
  let trays ← trays.put b piece draw
  some { s with trays }

def got_have (s : Picker n) (piece : Fin n) (draw : Nat) : Option (Picker n) := do
  let numint := s.numhaves piece
  let crosscount ← raise s.crosscount numint
  -- `numint` is the level from here on, but for a picker that is done
  let (crosscount2, level_in_interests, numint) ←
    if s.done then some (s.crosscount2, s.level_in_interests, (numint : Int))
    else do
      let crosscount2 ← raise s.crosscount2 (numint + (s.has piece).toNat)
      let level := s.level_in_interests piece
      some (crosscount2, update s.level_in_interests piece (level + 1), level)
  let s' : Picker n := { s with
    totalcount := s.totalcount + 1
    numhaves := update s.numhaves piece (s.numhaves piece + 1)
    crosscount, crosscount2, level_in_interests }
  if s.has piece = true ∨ s.priority piece = -1 then some s'
  else
    let trays :=
      if numint = s.trays.buckets.length - 1 then s.trays.pad (s.trays.buckets.length + 1)
      else s.trays
    { s' with trays }.shift_over piece numint (numint + 1) draw

def lost_have (s : Picker n) (piece : Fin n) (draw : Nat) : Option (Picker n) := do
  let numint := s.numhaves piece
  guard (numint ≠ 0)
  let crosscount ← lower s.crosscount numint
  let (crosscount2, level_in_interests, numint) ←
    if s.done then some (s.crosscount2, s.level_in_interests, (numint : Int))
    else do
      let crosscount2 ← lower s.crosscount2 (numint + (s.has piece).toNat)
      let level := s.level_in_interests piece
      some (crosscount2, update s.level_in_interests piece (level - 1), level)
  let s' : Picker n := { s with
    totalcount := s.totalcount - 1
    numhaves := update s.numhaves piece (s.numhaves piece - 1)
    crosscount, crosscount2, level_in_interests }
  if s.has piece = true ∨ s.priority piece = -1 then some s'
  else s'.shift_over piece numint (numint - 1) draw

def got_seed (config : PickerConfig) (s : Picker n) : Picker n :=
  let seeds_connected := s.seeds_connected + 1
  { s with
    seeds_connected
    cutoff := (max (config.rarest_first_priority_cutoff + config.priority_step -
      seeds_connected) 0).toNat }

/-- One is taken off the count of every piece. -/
def count_down (s : Picker n) : Picker n :=
  { s with
    totalcount := s.totalcount - n
    numhaves := fun i => s.numhaves i - 1
    level_in_interests := fun i =>
      if s.done then s.level_in_interests i else s.level_in_interests i - 1
    trays := if s.done then s.trays else s.trays.tail
    crosscount := s.crosscount.tail
    crosscount2 := if s.done then s.crosscount2 else s.crosscount2.tail }

def became_seed (config : PickerConfig) (s : Picker n) : Option (Picker n) := do
  guard ((∀ i, s.numhaves i ≠ 0) ∧ s.crosscount ≠ [] ∧
    (s.done = false → s.crosscount2 ≠ []))
  some (s.got_seed config).count_down

def lost_seed (config : PickerConfig) (s : Picker n) : Picker n :=
  let seeds_connected := s.seeds_connected - 1
  { s with
    seeds_connected
    cutoff := (max (config.rarest_first_priority_cutoff + config.priority_step -
      seeds_connected) 0).toNat }

def requested (s : Picker n) (piece : Fin n) : Picker n :=
  if piece ∈ s.started then s else { s with started := s.started ++ [piece] }

def remove_from_interests (s : Picker n) (piece : Fin n) (keepPartial : Bool) :
    Option (Picker n) := do
  let a ← index (s.level_in_interests piece)
  let trays ← s.trays.take a piece
  some { s with
    trays
    started := s.started.erase piece
    removed_partials :=
      if piece ∈ s.started ∧ keepPartial = true then update s.removed_partials piece true
      else s.removed_partials }

def complete (s : Picker n) (piece : Fin n) : Option (Picker n) := do
  guard (s.has piece = false)
  let done := decide (s.numgot + 1 = n)
  let crosscount2 ← (if done then some s.crosscount else raise s.crosscount2 (s.numhaves piece))
  { s with
    has := update s.has piece true
    numgot := s.numgot + 1
    done := s.done || done
    crosscount2 }.remove_from_interests piece false

def bump (s : Picker n) (piece : Fin n) : Option (Picker n) := do
  let a ← index (s.level_in_interests piece)
  let trays ← s.trays.bump a piece
  some { s with trays, started := s.started.erase piece }

/-- The priority of a piece and its level. -/
def with_priority (s : Picker n) (piece : Fin n) (p level : Int) : Picker n :=
  { s with
    priority := update s.priority piece p
    level_in_interests := update s.level_in_interests piece level }

/-- A piece that was disabled goes to its level, and is started if it was before. -/
def enter (s : Picker n) (piece : Fin n) (level : Int) (draw : Nat) :
    Option (Bool × Picker n) := do
  let b ← index level
  let trays ← (s.trays.pad (b + 1)).put b piece draw
  if s.removed_partials piece = true then
    some (true, { s with
      trays
      removed_partials := update s.removed_partials piece false
      started := s.started ++ [piece] })
  else some (true, { s with trays })

/-- With the answer whether to go on requesting. -/
def set_priority (config : PickerConfig) (s : Picker n) (piece : Fin n) (p : Int) (draw : Nat) :
    Option (Bool × Picker n) :=
  let oldp := s.priority piece
  if oldp = p then some (false, s)
  else if p = -1 then
    if s.has piece = true then some (true, { s with priority := update s.priority piece p })
    else
      ({ s with priority := update s.priority piece p } : Picker n).remove_from_interests piece true
        |>.map (true, ·)
  else if oldp = -1 then
    let level := s.numhaves piece + config.priority_step * p
    if s.has piece = true then some (true, s.with_priority piece p level)
    else (s.with_priority piece p level).enter piece level draw
  else
    let numint := s.level_in_interests piece
    let newint := numint + (p - oldp) * config.priority_step
    if s.has piece = true then some (false, s.with_priority piece p newint)
    else
      ({ s.with_priority piece p newint with
        trays := s.trays.pad (newint + 1).toNat } : Picker n).shift_over piece numint newint draw
        |>.map (false, ·)

def is_blocked (s : Picker n) (piece : Fin n) : Bool := decide (s.priority piece < 0)

/-! ## What is kept

The lists, the counts and the histograms are all told by three things of each piece: who has it,
whether it is one's own, and its priority. -/

/-- A piece that is missing and not disabled. -/
def Wanted (s : Picker n) (i : Fin n) : Prop := s.has i = false ∧ 0 ≤ s.priority i

instance (s : Picker n) (i : Fin n) : Decidable (s.Wanted i) :=
  inferInstanceAs (Decidable (_ ∧ _))

/-- The level of a piece: how many peers have it, and a step for each priority. -/
def rank (config : PickerConfig) (s : Picker n) (i : Fin n) : Nat :=
  s.numhaves i + config.priority_step * (s.priority i).toNat

/-- The bucket of a piece. -/
def home (config : PickerConfig) (s : Picker n) (i : Fin n) : Option Nat :=
  if s.Wanted i then some (s.rank config i) else none

/-- The availability with the own piece. -/
def copies (s : Picker n) (i : Fin n) : Nat := s.numhaves i + (s.has i).toNat

end Picker

/-- The lists of a picker tell its pieces. -/
structure Kept {n : Nat} (config : PickerConfig) (s : Picker n) : Prop where
  placed : Placed s.trays (s.home config)
  level : ∀ i, s.Wanted i → s.level_in_interests i = s.rank config i
  priority : ∀ i, -1 ≤ s.priority i
  counts : Counts s.crosscount s.numhaves
  counts2 : s.done = false → Counts s.crosscount2 s.copies
  total : s.totalcount = ∑ i, (s.numhaves i : Int)
  got : s.numgot = (Finset.univ.filter fun i => s.has i = true).card
  finished : s.done = true ↔ s.numgot = n
  started : ∀ i ∈ s.started, s.Wanted i
  nodup : s.started.Nodup

section

variable {n : Nat} {config : PickerConfig} {s : Picker n} {piece : Fin n}

open Picker

theorem index_cast (b : Nat) : index (b : Int) = some b := by
  rw [index, if_pos (Int.natCast_nonneg b), Int.toNat_natCast]

theorem Picker.home_wanted (h : s.Wanted piece) :
    s.home config piece = some (s.rank config piece) :=
  if_pos h

theorem Picker.home_unwanted (h : ¬s.Wanted piece) : s.home config piece = none := if_neg h

/-- A picker that still misses a piece is not done. -/
theorem Kept.missing (h : Kept config s) (hhas : s.has piece = false) :
    s.numgot < n ∧ s.done = false := by
  have hlt : (Finset.univ.filter fun i => s.has i = true).card <
    (Finset.univ : Finset (Fin n)).card := by
    refine Finset.card_lt_card ((Finset.filter_ssubset).mpr ⟨piece, Finset.mem_univ piece, ?_⟩)
    rw [hhas]
    exact Bool.false_ne_true
  rw [← h.got, Finset.card_univ, Fintype.card_fin] at hlt
  refine ⟨hlt, ?_⟩
  cases hdone : s.done with
  | false => rfl
  | true => exact absurd (h.finished.mp hdone) (Nat.ne_of_lt hlt)

/-- A picker at the start. -/
theorem init_kept (config : PickerConfig) {interests : List (Fin n)} (hn : 0 < n)
    (hnodup : interests.Nodup) (hall : ∀ i, i ∈ interests) :
    Kept config (Picker.init config interests) where
  placed := by
    -- nobody has a piece yet, and all have priority 1, so that one bucket has them all
    have hhome : (Picker.init config interests).home config =
      fun _ => some config.priority_step := by
      funext i
      rw [home_wanted ⟨rfl, Int.le_of_lt Int.zero_lt_one⟩]
      show some (0 + config.priority_step * 1) = _
      rw [Nat.zero_add, Nat.mul_one]
    rw [hhome]
    exact deal_placed _ hnodup hall
  level i _ := by
    show (config.priority_step : Int) = ((0 + config.priority_step * 1 : Nat) : Int)
    rw [Nat.zero_add, Nat.mul_one]
  priority _ := by
    show (-1 : Int) ≤ 1
    decide
  counts := by
    have := counts_zero (Fin n)
    rwa [Fintype.card_fin] at this
  counts2 _ := by
    have := counts_zero (Fin n)
    rwa [Fintype.card_fin] at this
  total := by
    show (0 : Int) = ∑ _, ((0 : Nat) : Int)
    simp
  got := by
    show 0 = (Finset.univ.filter fun _ : Fin n => false = true).card
    simp
  finished := ⟨fun hdone => (Bool.false_ne_true hdone).elim,
    fun hn' => absurd hn' (Nat.ne_of_lt hn)⟩
  started _ hmem := nomatch hmem
  nodup := List.nodup_nil

theorem not_wanted_iff (h : Kept config s) :
    s.has piece = true ∨ s.priority piece = -1 ↔ ¬s.Wanted piece := by
  have := h.priority piece
  unfold Picker.Wanted
  cases s.has piece with
  | true => simp
  | false =>
    simp only [Bool.false_eq_true, false_or, true_and]
    omega

/-- The bucket of a piece after its count changed. -/
theorem home_counted (s : Picker n) (piece : Fin n) (v : Nat) :
    ({ s with numhaves := update s.numhaves piece v } : Picker n).home config =
      if s.Wanted piece then
        update (s.home config) piece (some (v + config.priority_step * (s.priority piece).toNat))
      else s.home config := by
  have hhome (i : Fin n) :
      ({ s with numhaves := update s.numhaves piece v } : Picker n).home config i =
      if s.Wanted i then
        some (update s.numhaves piece v i + config.priority_step * (s.priority i).toNat)
      else none := rfl
  funext i
  rw [hhome]
  -- only the bucket of the piece itself depends on its count
  by_cases hi : i = piece
  · subst hi
    rw [Function.update_self]
    by_cases hwanted : s.Wanted i
    · rw [if_pos hwanted, if_pos hwanted, Function.update_self]
    · rw [if_neg hwanted, if_neg hwanted, home_unwanted hwanted]
  · rw [Function.update_of_ne hi]
    by_cases hwanted : s.Wanted piece
    · rw [if_pos hwanted, Function.update_of_ne hi]
      rfl
    · rw [if_neg hwanted]
      rfl

/-- **A piece is counted anew, and stands where its count says.** -/
theorem Kept.counted (h : Kept config s) (v : Nat) {totalcount : Int}
    {crosscount crosscount2 : List Int} {trays : Trays (Fin n)} {level_in_interests : Fin n → Int}
    (htotal : totalcount = s.totalcount - s.numhaves piece + v)
    (hcounts : Counts crosscount (update s.numhaves piece v))
    (hcounts2 : s.done = false →
      Counts crosscount2 (update s.copies piece (v + (s.has piece).toNat)))
    (hlevel : s.done = false → level_in_interests =
      update s.level_in_interests piece (s.level_in_interests piece - s.numhaves piece + v))
    (hplaced : Placed trays (if s.Wanted piece then
      update (s.home config) piece (some (v + config.priority_step * (s.priority piece).toNat))
      else s.home config)) :
    Kept config { s with
      totalcount, crosscount, crosscount2, trays, level_in_interests
      numhaves := update s.numhaves piece v } where
  placed := by
    rw [← home_counted] at hplaced
    exact hplaced
  level i hi := by
    show level_in_interests i =
      ((update s.numhaves piece v i + config.priority_step * (s.priority i).toNat : Nat) : Int)
    rw [hlevel (h.missing hi.1).2]
    have hold := h.level i hi
    unfold Picker.rank at hold
    -- the level of the piece moves with its count
    by_cases hpiece : i = piece
    · subst hpiece
      rw [Function.update_self, Function.update_self, hold]
      omega
    · rw [Function.update_of_ne hpiece, Function.update_of_ne hpiece, hold]
  priority := h.priority
  counts := hcounts
  counts2 hdone := by
    -- copies count the piece that one has oneself as well
    have hcopies : update s.copies piece (v + (s.has piece).toNat) =
        fun i => update s.numhaves piece v i + (s.has i).toNat := by
      funext i
      by_cases hpiece : i = piece
      · subst hpiece
        rw [Function.update_self, Function.update_self]
      · rw [Function.update_of_ne hpiece, Function.update_of_ne hpiece]
        rfl
    have hnew := hcounts2 hdone
    rw [hcopies] at hnew
    exact hnew
  total := by
    rw [htotal, h.total]
    exact (sum_update (fun _ m => (m : Int)) s.numhaves piece v).symm
  got := h.got
  finished := h.finished
  started := h.started
  nodup := h.nodup

/-- `_shift_over` of a piece that is wanted. -/
theorem shift_over_spec {home : Fin n → Option Nat} {a b : Nat} (hplaced : Placed s.trays home)
    (hwanted : s.Wanted piece) (ha : home piece = some a) (hb : b < s.trays.buckets.length)
    (draw : Nat) :
    ∃ trays, s.shift_over piece a b draw = some { s with trays } ∧
      Placed trays (update home piece (some b)) := by
  obtain ⟨trays, trays', htake, hput, -, hplaced'⟩ := hplaced.move ha hb draw
  refine ⟨trays', ?_, hplaced'⟩
  have hguard : (guard (s.has piece = false ∧ 0 ≤ s.priority piece) : Option Unit) = some () :=
    (Option.guard_eq_some' ()).mpr hwanted
  simp only [Picker.shift_over, index_cast, Option.bind_eq_bind, hguard, Option.bind_some]
  simp [htake, hput]

/-! ## Pieces of peers

A piece that one more peer has, or one less, moves by one level, and one entry of the histogram
moves with it. -/

section

variable {totalcount level : Int} {crosscount crosscount2 : List Int} {trays : Trays (Fin n)}
variable {v : Nat}

/-- A wanted piece that is counted anew moves to the level of its count. -/
theorem Kept.moved (h : Kept config s) (hwanted : s.Wanted piece)
    (htotal : totalcount = s.totalcount - s.numhaves piece + v)
    (hcounts : Counts crosscount (update s.numhaves piece v))
    (hcounts2 : Counts crosscount2 (update s.copies piece (v + (s.has piece).toNat)))
    (hlevel : level = s.level_in_interests piece - s.numhaves piece + v)
    (hplaced : Placed trays (s.home config)) (hroom : level < trays.buckets.length) (draw : Nat) :
    ∃ s', ({ s with
        totalcount, crosscount, crosscount2, trays
        numhaves := update s.numhaves piece v
        level_in_interests := update s.level_in_interests piece level } : Picker n).shift_over piece
          (s.level_in_interests piece) level draw = some s' ∧ Kept config s' ∧
      s'.numhaves = update s.numhaves piece v ∧ s'.seeds_connected = s.seeds_connected := by
  have hold := h.level piece hwanted
  -- the new level is the bucket that the new count asks for
  have hnew : level = ((v + config.priority_step * (s.priority piece).toNat : Nat) : Int) := by
    rw [hlevel, hold]
    unfold Picker.rank
    omega
  rw [hnew] at hroom
  obtain ⟨trays', hshift, hplaced'⟩ := shift_over_spec
    (s := { s with
      totalcount, crosscount, crosscount2, trays
      numhaves := update s.numhaves piece v
      level_in_interests := update s.level_in_interests piece level })
    hplaced hwanted (home_wanted hwanted) (Int.ofNat_lt.mp hroom) draw
  rw [← hnew, ← hold] at hshift
  refine ⟨_, hshift, h.counted v htotal hcounts (fun _ => hcounts2) (fun _ => ?_) ?_, rfl, rfl⟩
  · rw [hlevel]
  · rw [if_pos hwanted]
    exact hplaced'

/-- Any other piece is only counted. -/
theorem Kept.unmoved (h : Kept config s) (hwanted : ¬s.Wanted piece)
    {level_in_interests : Fin n → Int}
    (htotal : totalcount = s.totalcount - s.numhaves piece + v)
    (hcounts : Counts crosscount (update s.numhaves piece v))
    (hcounts2 : s.done = false →
      Counts crosscount2 (update s.copies piece (v + (s.has piece).toNat)))
    (hlevel : s.done = false → level_in_interests =
      update s.level_in_interests piece (s.level_in_interests piece - s.numhaves piece + v)) :
    Kept config { s with
      totalcount, crosscount, crosscount2, level_in_interests
      numhaves := update s.numhaves piece v } := by
  refine h.counted v htotal hcounts hcounts2 hlevel ?_
  rw [if_neg hwanted]
  exact h.placed

end

/-- **A peer has one more piece.** -/
theorem got_have_kept (h : Kept config s) (piece : Fin n) (draw : Nat) :
    ∃ s', s.got_have piece draw = some s' ∧ Kept config s' ∧
      s'.numhaves = update s.numhaves piece (s.numhaves piece + 1) ∧
      s'.seeds_connected = s.seeds_connected := by
  obtain ⟨crosscount, hcross, hcounts⟩ := h.counts.raise piece
  simp only [Picker.got_have, Option.bind_eq_bind, hcross, Option.bind_some]
  by_cases hdone : s.done = true
  · -- nothing is wanted
    have hwanted : ¬s.Wanted piece := fun hwanted =>
      Bool.false_ne_true ((h.missing hwanted.1).2.symm.trans hdone)
    simp only [if_pos hdone, if_pos ((not_wanted_iff h).mpr hwanted)]
    exact ⟨_, rfl, h.unmoved hwanted (by omega) hcounts
      (fun hno => absurd (hno.symm.trans hdone) Bool.false_ne_true)
      (fun hno => absurd (hno.symm.trans hdone) Bool.false_ne_true), rfl, rfl⟩
  · have hmissing : s.done = false := Bool.eq_false_iff.mpr hdone
    obtain ⟨crosscount2, hcross2, hcounts2⟩ := (h.counts2 hmissing).raise piece
    have hcopies : s.copies piece + 1 = s.numhaves piece + 1 + (s.has piece).toNat :=
      Nat.add_right_comm ..
    rw [hcopies] at hcounts2
    have hcross2 : raise s.crosscount2 (s.numhaves piece + (s.has piece).toNat) =
        some crosscount2 := hcross2
    simp only [if_neg hdone, hcross2, Option.bind_some]
    by_cases hwanted : s.Wanted piece
    · rw [if_neg fun hno => (not_wanted_iff h).mp hno hwanted]
      have hlt := h.placed.lt_length (home_wanted hwanted)
      have hlevel := h.level piece hwanted
      split
      · -- the piece leaves the last bucket
        refine h.moved hwanted (by omega) hcounts hcounts2 (by omega) (h.placed.pad _) ?_ draw
        rw [pad_length]
        omega
      · exact h.moved hwanted (by omega) hcounts hcounts2 (by omega) h.placed (by omega) draw
    · rw [if_pos ((not_wanted_iff h).mpr hwanted)]
      refine ⟨_, rfl, h.unmoved hwanted (by omega) hcounts (fun _ => hcounts2) (fun _ => ?_),
        rfl, rfl⟩
      congr 1
      omega

/-- **A peer that had a piece is gone.** -/
theorem lost_have_kept (h : Kept config s) (piece : Fin n) (hhave : 0 < s.numhaves piece)
    (draw : Nat) :
    ∃ s', s.lost_have piece draw = some s' ∧ Kept config s' ∧
      s'.numhaves = update s.numhaves piece (s.numhaves piece - 1) ∧
      s'.seeds_connected = s.seeds_connected := by
  obtain ⟨crosscount, hcross, hcounts⟩ := h.counts.lower piece
  have hguard : (guard (s.numhaves piece ≠ 0) : Option Unit) = some () :=
    (Option.guard_eq_some' ()).mpr (by omega)
  simp only [Picker.lost_have, Option.bind_eq_bind, hguard, hcross, Option.bind_some]
  by_cases hdone : s.done = true
  · -- nothing is wanted
    have hwanted : ¬s.Wanted piece := fun hwanted =>
      Bool.false_ne_true ((h.missing hwanted.1).2.symm.trans hdone)
    simp only [if_pos hdone, if_pos ((not_wanted_iff h).mpr hwanted)]
    exact ⟨_, rfl, h.unmoved hwanted (by omega) hcounts
      (fun hno => absurd (hno.symm.trans hdone) Bool.false_ne_true)
      (fun hno => absurd (hno.symm.trans hdone) Bool.false_ne_true), rfl, rfl⟩
  · have hmissing : s.done = false := Bool.eq_false_iff.mpr hdone
    obtain ⟨crosscount2, hcross2, hcounts2⟩ := (h.counts2 hmissing).lower piece
    have hcopies : s.copies piece - 1 = s.numhaves piece - 1 + (s.has piece).toNat :=
      Nat.sub_add_comm hhave
    rw [hcopies] at hcounts2
    have hcross2 : lower s.crosscount2 (s.numhaves piece + (s.has piece).toNat) =
        some crosscount2 := hcross2
    simp only [if_neg hdone, hcross2, Option.bind_some]
    by_cases hwanted : s.Wanted piece
    · rw [if_neg fun hno => (not_wanted_iff h).mp hno hwanted]
      have hlt := h.placed.lt_length (home_wanted hwanted)
      have hlevel := h.level piece hwanted
      exact h.moved hwanted (by omega) hcounts hcounts2 (by omega) h.placed (by omega) draw
    · rw [if_pos ((not_wanted_iff h).mpr hwanted)]
      refine ⟨_, rfl, h.unmoved hwanted (by omega) hcounts (fun _ => hcounts2) (fun _ => ?_),
        rfl, rfl⟩
      congr 1
      omega

/-! ## Seeds

A seed has every piece. It is counted as one seed, and not with each piece; a peer that becomes
one is taken off all counts at once. -/

theorem got_seed_kept (h : Kept config s) : Kept config (s.got_seed config) :=
  ⟨h.placed, h.level, h.priority, h.counts, h.counts2, h.total, h.got, h.finished, h.started,
    h.nodup⟩

theorem lost_seed_kept (h : Kept config s) : Kept config (s.lost_seed config) :=
  ⟨h.placed, h.level, h.priority, h.counts, h.counts2, h.total, h.got, h.finished, h.started,
    h.nodup⟩

theorem count_down_kept (h : Kept config s) (hhave : ∀ i, 0 < s.numhaves i) :
    Kept config s.count_down where
  placed := by
    by_cases hdone : s.done = true
    · have htrays : s.count_down.trays = s.trays := if_pos hdone
      -- nothing is wanted, so that no bucket matters
      have hnone (i : Fin n) : ¬s.Wanted i := fun hwanted =>
        Bool.false_ne_true ((h.missing hwanted.1).2.symm.trans hdone)
      have hhome : s.count_down.home config = s.home config := by
        funext i
        rw [home_unwanted (hnone i)]
        exact if_neg (hnone i)
      rw [htrays, hhome]
      exact h.placed
    · -- every wanted piece has a count, so that the first bucket is empty and all move down by one
      have htrays : s.count_down.trays = s.trays.tail := if_neg hdone
      rw [htrays]
      refine h.placed.tail fun i b => ?_
      by_cases hwanted : s.Wanted i
      · have := hhave i
        have hnew : s.count_down.home config i =
            some (s.numhaves i - 1 + config.priority_step * (s.priority i).toNat) := if_pos hwanted
        rw [hnew, home_wanted hwanted, Picker.rank, Option.some.injEq, Option.some.injEq]
        omega
      · have hnew : s.count_down.home config i = none := if_neg hwanted
        rw [hnew, home_unwanted hwanted]
        exact ⟨nofun, nofun⟩
  level i hi := by
    have hdone := (h.missing (show s.has i = false from hi.1)).2
    have hold := h.level i hi
    have := hhave i
    show (if s.done then s.level_in_interests i else s.level_in_interests i - 1) =
      ((s.numhaves i - 1 + config.priority_step * (s.priority i).toNat : Nat) : Int)
    rw [hdone, if_neg Bool.false_ne_true, hold, Picker.rank]
    omega
  priority := h.priority
  counts := h.counts.tail hhave
  counts2 hdone := by
    have hmissing : s.done = false := hdone
    have hlists : s.count_down.crosscount2 = s.crosscount2.tail :=
      if_neg (by rw [hmissing]; exact Bool.false_ne_true)
    have hcopies : s.count_down.copies = fun i => s.copies i - 1 := by
      funext i
      have := hhave i
      show s.numhaves i - 1 + (s.has i).toNat = s.numhaves i + (s.has i).toNat - 1
      omega
    rw [hlists, hcopies]
    exact (h.counts2 hmissing).tail fun i => Nat.add_pos_left (hhave i) _
  total := by
    have hcast (i : Fin n) : ((s.numhaves i - 1 : Nat) : Int) = (s.numhaves i : Int) - 1 :=
      Int.ofNat_sub (hhave i)
    show s.totalcount - n = ∑ i, ((s.numhaves i - 1 : Nat) : Int)
    rw [h.total, Finset.sum_congr rfl fun i _ => hcast i, Finset.sum_sub_distrib]
    simp
  got := h.got
  finished := h.finished
  started := h.started
  nodup := h.nodup

/-- **A peer that has all pieces is not counted piece by piece any more.** -/
theorem became_seed_kept (h : Kept config s) (hn : 0 < n) (hhave : ∀ i, 0 < s.numhaves i) :
    ∃ s', s.became_seed config = some s' ∧ Kept config s' ∧
      s'.numhaves = (fun i => s.numhaves i - 1) ∧ s'.seeds_connected = s.seeds_connected + 1 := by
  have hlength {f : Fin n → Nat} {hist : List Int} (hc : Counts hist f) : hist ≠ [] :=
    List.ne_nil_of_length_pos (Nat.lt_of_le_of_lt (Nat.zero_le _) (hc.lt_length ⟨0, hn⟩))
  -- `assert` and `del` find what they need
  have hguards : (∀ i, s.numhaves i ≠ 0) ∧ s.crosscount ≠ [] ∧
      (s.done = false → s.crosscount2 ≠ []) :=
    ⟨fun i => Nat.ne_of_gt (hhave i), hlength h.counts, fun hdone => hlength (h.counts2 hdone)⟩
  have hrun : s.became_seed config = some (s.got_seed config).count_down := by
    rw [Picker.became_seed, (Option.guard_eq_some' ()).mpr hguards]
    rfl
  refine ⟨_, hrun, (count_down_kept (got_seed_kept h) hhave), rfl, rfl⟩

/-! ## Own pieces

Requesting puts a piece among the started ones, and completing one takes it off all lists. -/

theorem requested_kept (h : Kept config s) (hwanted : s.Wanted piece) :
    Kept config (s.requested piece) := by
  unfold Picker.requested
  split
  · exact h
  · next hnew =>
    refine ⟨h.placed, h.level, h.priority, h.counts, h.counts2, h.total, h.got, h.finished,
      ?_, ?_⟩
    · intro i hi
      rcases List.mem_append.mp hi with hi | hi
      · exact h.started i hi
      · exact List.mem_singleton.mp hi ▸ hwanted
    · exact List.nodup_append.mpr ⟨h.nodup, List.nodup_singleton _, fun i hi j hj hij =>
        hnew (List.mem_singleton.mp hj ▸ hij ▸ hi)⟩

theorem bump_kept (h : Kept config s) (hwanted : s.Wanted piece) :
    ∃ s', s.bump piece = some s' ∧ Kept config s' ∧ s'.numhaves = s.numhaves ∧
      s'.seeds_connected = s.seeds_connected := by
  obtain ⟨trays, hbump, -, hplaced⟩ := h.placed.bump (home_wanted hwanted)
  have hrun : s.bump piece = some { s with trays, started := s.started.erase piece } := by
    rw [Picker.bump, h.level piece hwanted, index_cast]
    simp [hbump]
  exact ⟨_, hrun, ⟨hplaced, h.level, h.priority, h.counts, h.counts2, h.total, h.got,
    h.finished,
    fun i hi => h.started i (List.mem_of_mem_erase hi), h.nodup.erase piece⟩, rfl, rfl⟩

/-- A piece is taken out of its bucket. -/
theorem remove_spec {home : Fin n → Option Nat} {b : Nat} (hplaced : Placed s.trays home)
    (hhome : home piece = some b) (hlevel : s.level_in_interests piece = b) (keepPartial : Bool) :
    ∃ trays, s.remove_from_interests piece keepPartial = some { s with
        trays
        started := s.started.erase piece
        removed_partials :=
          if piece ∈ s.started ∧ keepPartial = true then update s.removed_partials piece true
          else s.removed_partials } ∧
      Placed trays (update home piece none) := by
  obtain ⟨trays, htake, -, hplaced'⟩ := hplaced.take hhome
  refine ⟨trays, ?_, hplaced'⟩
  rw [Picker.remove_from_interests, hlevel, index_cast]
  simp [htake]

theorem wanted_congr {s' : Picker n} {i : Fin n} (hhas : s'.has i = s.has i)
    (hpriority : s'.priority i = s.priority i) : s'.Wanted i ↔ s.Wanted i := by
  unfold Picker.Wanted
  rw [hhas, hpriority]

theorem home_congr {s' : Picker n} {i : Fin n} (hhas : s'.has i = s.has i)
    (hpriority : s'.priority i = s.priority i) (hnum : s'.numhaves i = s.numhaves i) :
    s'.home config i = s.home config i := by
  have hwanted := wanted_congr hhas hpriority
  by_cases hi : s.Wanted i
  · rw [home_wanted hi, home_wanted (hwanted.mpr hi), Picker.rank, Picker.rank, hnum, hpriority]
  · rw [home_unwanted hi, home_unwanted fun hno => hi (hwanted.mp hno)]

/-- One piece has another bucket, or none, and the others are where they were. -/
theorem home_eq_update {s' : Picker n} {b : Option Nat} (hpiece : s'.home config piece = b)
    (hhas : ∀ i ≠ piece, s'.has i = s.has i)
    (hpriority : ∀ i ≠ piece, s'.priority i = s.priority i)
    (hnum : s'.numhaves = s.numhaves) : s'.home config = update (s.home config) piece b := by
  funext i
  by_cases hi : i = piece
  · subst hi
    rw [Function.update_self, hpiece]
  · rw [Function.update_of_ne hi]
    exact home_congr (hhas i hi) (hpriority i hi) (congrFun hnum i)

/-- **A piece has come in.** -/
theorem complete_kept (h : Kept config s) (hwanted : s.Wanted piece) :
    ∃ s', s.complete piece = some s' ∧ Kept config s' ∧ s'.numhaves = s.numhaves ∧
      s'.seeds_connected = s.seeds_connected := by
  obtain ⟨hlt, hdone⟩ := h.missing hwanted.1
  obtain ⟨crosscount2, hcross2, hcounts2⟩ := (h.counts2 hdone).raise piece
  have hcopies : s.copies piece = s.numhaves piece := by
    rw [Picker.copies, hwanted.1]
    rfl
  rw [hcopies] at hcross2 hcounts2
  -- the lists once the last piece is there are those of the peers
  have hlists : ∃ lists, (if decide (s.numgot + 1 = n) = true then some s.crosscount
      else raise s.crosscount2 (s.numhaves piece)) = some lists ∧
        (s.numgot + 1 ≠ n → lists = crosscount2) := by
    by_cases hlast : s.numgot + 1 = n
    · exact ⟨_, if_pos (decide_eq_true hlast), fun hno => absurd hlast hno⟩
    · exact ⟨_, (if_neg (by rw [decide_eq_true_eq]; exact hlast)).trans hcross2, fun _ => rfl⟩
  obtain ⟨lists, hlists, hmore⟩ := hlists
  obtain ⟨trays, hremove, hplaced⟩ := remove_spec
    (s := { s with
      has := update s.has piece true
      numgot := s.numgot + 1
      done := s.done || decide (s.numgot + 1 = n)
      crosscount2 := lists })
    h.placed (home_wanted hwanted) (h.level piece hwanted) false
  have hguard : (guard (s.has piece = false) : Option Unit) = some () :=
    (Option.guard_eq_some' ()).mpr hwanted.1
  have hrun : s.complete piece = ({ s with
      has := update s.has piece true
      numgot := s.numgot + 1
      done := s.done || decide (s.numgot + 1 = n)
      crosscount2 := lists } : Picker n).remove_from_interests piece false := by
    simp only [Picker.complete, Option.bind_eq_bind, hguard, Option.bind_some, hlists]
  have hother {i : Fin n} (hi : i ≠ piece) : update s.has piece true i = s.has i :=
    Function.update_of_ne hi _ _
  have hself : update s.has piece true piece = true := Function.update_self ..
  refine ⟨_, hrun.trans hremove,
    ⟨?_, ?_, h.priority, h.counts, ?_, h.total, ?_, ?_, ?_, h.nodup.erase piece⟩,
    rfl, rfl⟩
  · refine (congrArg (Placed trays) (home_eq_update (home_unwanted ?_) ?_ ?_ ?_)).mpr hplaced
    · exact fun hno => Bool.false_ne_true (hno.1.symm.trans hself)
    · exact fun i hi => hother hi
    · exact fun _ _ => rfl
    · rfl
  · intro i hi
    have hne : i ≠ piece := by
      rintro rfl
      exact Bool.false_ne_true (hi.1.symm.trans hself)
    exact h.level i ⟨(hother hne).symm.trans hi.1, hi.2⟩
  · intro hmissing
    have hlast : s.numgot + 1 ≠ n := by
      intro hlast
      have hlate : (s.done || decide (s.numgot + 1 = n)) = false := hmissing
      rw [decide_eq_true hlast, Bool.or_true] at hlate
      exact Bool.false_ne_true hlate.symm
    have hnew : (fun i => s.numhaves i + (update s.has piece true i).toNat) =
        update s.copies piece (s.numhaves piece + 1) := by
      funext i
      by_cases hi : i = piece
      · subst hi
        rw [Function.update_self, Function.update_self]
        rfl
      · rw [Function.update_of_ne hi, Function.update_of_ne hi]
        rfl
    show Counts lists fun i => s.numhaves i + (update s.has piece true i).toNat
    rw [hnew, hmore hlast]
    exact hcounts2
  · have hset : (Finset.univ.filter fun i => update s.has piece true i = true) =
        insert piece (Finset.univ.filter fun i => s.has i = true) := by
      ext i
      by_cases hi : i = piece
      · subst hi
        simp
      · simp [hi]
    have hnot : piece ∉ Finset.univ.filter fun i => s.has i = true := by
      simp [hwanted.1]
    show s.numgot + 1 = (Finset.univ.filter fun i => update s.has piece true i = true).card
    rw [hset, Finset.card_insert_of_notMem hnot, h.got]
  · show (s.done || decide (s.numgot + 1 = n)) = true ↔ s.numgot + 1 = n
    rw [hdone, Bool.false_or, decide_eq_true_eq]
  · intro i hi
    have hmem : i ∈ s.started.erase piece := hi
    have hne : i ≠ piece := by
      rintro rfl
      exact h.nodup.not_mem_erase hmem
    have hold := h.started i (List.mem_of_mem_erase hmem)
    exact ⟨(hother hne).trans hold.1, hold.2⟩

/-! ## Priorities

A piece changes its bucket where its priority or its being disabled does; one that is owned is in
no bucket. -/

section

variable {p : Int}

/-- The bucket of a piece that has a new priority. -/
def bucketOf (config : PickerConfig) (s : Picker n) (piece : Fin n) (p : Int) : Option Nat :=
  if s.has piece = false ∧ 0 ≤ p then some (s.numhaves piece + config.priority_step * p.toNat)
  else none

/-- **A piece has a new priority, and stands where it says.** -/
theorem Kept.prioritised (h : Kept config s) (hp : -1 ≤ p) {trays : Trays (Fin n)}
    {level_in_interests : Fin n → Int} {started : List (Fin n)}
    {removed_partials : Fin n → Bool}
    (hplaced : Placed trays (update (s.home config) piece (bucketOf config s piece p)))
    (hothers : ∀ i ≠ piece, level_in_interests i = s.level_in_interests i)
    (hlevel : s.has piece = false → 0 ≤ p →
      level_in_interests piece = s.numhaves piece + config.priority_step * p)
    (hstarted : ∀ i ∈ started, i ≠ piece ∧ i ∈ s.started ∨
      i = piece ∧ s.has piece = false ∧ 0 ≤ p) (hnodup : started.Nodup) :
    Kept config { s with
      trays, level_in_interests, started, removed_partials
      priority := update s.priority piece p } where
  placed := by
    refine (congrArg (Placed trays) (home_eq_update ?_ ?_ ?_ ?_)).mpr hplaced
    · unfold bucketOf
      have hself : update s.priority piece p piece = p := Function.update_self ..
      -- a piece that is there, or that is switched off, has no bucket
      by_cases hnew : s.has piece = false ∧ 0 ≤ p
      · have hpos : 0 ≤ update s.priority piece p piece := by
          rw [hself]
          exact hnew.2
        rw [if_pos hnew, home_wanted]
        · show some (s.numhaves piece +
            config.priority_step * (update s.priority piece p piece).toNat) = _
          rw [hself]
        · exact ⟨hnew.1, hpos⟩
      · rw [if_neg hnew]
        refine home_unwanted fun hno => hnew ⟨hno.1, ?_⟩
        have hpos : 0 ≤ update s.priority piece p piece := hno.2
        rwa [hself] at hpos
    · exact fun _ _ => rfl
    · exact fun i hi => Function.update_of_ne hi _ _
    · rfl
  level i hi := by
    show level_in_interests i =
      ((s.numhaves i + config.priority_step * (update s.priority piece p i).toNat : Nat) : Int)
    have hpos : 0 ≤ update s.priority piece p i := hi.2
    by_cases hpiece : i = piece
    · subst hpiece
      rw [Function.update_self] at hpos ⊢
      rw [hlevel hi.1 hpos, Int.natCast_add, Int.natCast_mul, Int.toNat_of_nonneg hpos]
    · rw [Function.update_of_ne hpiece] at hpos ⊢
      rw [hothers i hpiece]
      exact h.level i ⟨hi.1, hpos⟩
  priority i := by
    show -1 ≤ update s.priority piece p i
    by_cases hpiece : i = piece
    · subst hpiece
      rwa [Function.update_self]
    · rw [Function.update_of_ne hpiece]
      exact h.priority i
  counts := h.counts
  counts2 := h.counts2
  total := h.total
  got := h.got
  finished := h.finished
  started i hi := by
    -- what is started was started before, or is the piece itself and wanted now
    rcases hstarted i hi with ⟨hpiece, hold⟩ | ⟨rfl, hhas, hpos⟩
    · have hwanted := h.started i hold
      refine ⟨hwanted.1, ?_⟩
      show 0 ≤ update s.priority piece p i
      rw [Function.update_of_ne hpiece]
      exact hwanted.2
    · refine ⟨hhas, ?_⟩
      show 0 ≤ update s.priority i p i
      rw [Function.update_self]
      exact hpos
  nodup := hnodup

/-- An own piece gets a priority: it is in no bucket. -/
theorem set_priority_owned (h : Kept config s) (hp : -1 ≤ p) (hold : s.priority piece ≠ p)
    (hhad : s.has piece = true) (draw : Nat) :
    ∃ more s', s.set_priority config piece p draw = some (more, s') ∧ Kept config s' ∧
      s'.numhaves = s.numhaves ∧ s'.seeds_connected = s.seeds_connected := by
  -- a piece that is there has no bucket, whatever its priority
  have hsame : Placed s.trays (update (s.home config) piece (bucketOf config s piece p)) := by
    have hbucket : bucketOf config s piece p = s.home config piece := by
      rw [home_unwanted fun hno => Bool.false_ne_true (hno.1.symm.trans hhad)]
      exact if_neg fun hno => Bool.false_ne_true (hno.1.symm.trans hhad)
    rw [hbucket, Function.update_eq_self]
    exact h.placed
  have hout (i : Fin n) (hi : i ∈ s.started) : i ≠ piece := by
    rintro rfl
    exact Bool.false_ne_true ((h.started i hi).1.symm.trans hhad)
  have hkept {level_in_interests : Fin n → Int}
      (hothers : ∀ i ≠ piece, level_in_interests i = s.level_in_interests i) :
      Kept config { s with level_in_interests, priority := update s.priority piece p } :=
    h.prioritised hp hsame hothers
      (fun hno => absurd (hno.symm.trans hhad) Bool.false_ne_true)
      (fun i hi => .inl ⟨hout i hi, hi⟩) h.nodup
  unfold Picker.set_priority
  simp only [if_neg hold, if_pos hhad]
  split
  · exact ⟨_, _, rfl, hkept fun _ _ => rfl, rfl, rfl⟩
  · split
    · exact ⟨_, _, rfl, hkept fun i hi => Function.update_of_ne hi _ _, rfl, rfl⟩
    · exact ⟨_, _, rfl, hkept fun i hi => Function.update_of_ne hi _ _, rfl, rfl⟩

/-- A missing piece is disabled: it leaves its bucket. -/
theorem set_priority_disabled (h : Kept config s) (hp : -1 ≤ p) (hold : s.priority piece ≠ p)
    (hmissing : s.has piece = false) (hoff : p = -1) (draw : Nat) :
    ∃ more s', s.set_priority config piece p draw = some (more, s') ∧ Kept config s' ∧
      s'.numhaves = s.numhaves ∧ s'.seeds_connected = s.seeds_connected := by
  have hbefore := h.priority piece
  have hwanted : s.Wanted piece := ⟨hmissing, by omega⟩
  have hbucket : bucketOf config s piece p = none := if_neg fun hno => by omega
  obtain ⟨trays, hremove, hplaced⟩ := remove_spec
    (s := { s with priority := update s.priority piece p })
    h.placed (home_wanted hwanted) (h.level piece hwanted) true
  unfold Picker.set_priority
  simp only [if_neg hold, if_neg (ne_true_of_eq_false hmissing)]
  rw [if_pos hoff, hremove]
  rw [← hbucket] at hplaced
  refine ⟨_, _, rfl, h.prioritised hp hplaced (fun _ _ => rfl) (fun _ hpos => by omega)
    (fun i hi => .inl ⟨?_, List.mem_of_mem_erase hi⟩) (h.nodup.erase piece), rfl, rfl⟩
  rintro rfl
  exact h.nodup.not_mem_erase hi

/-- A missing piece is enabled again: it enters the bucket of its new priority. -/
theorem set_priority_enabled (h : Kept config s) (hp : -1 ≤ p) (hold : s.priority piece ≠ p)
    (hmissing : s.has piece = false) (hoff : p ≠ -1) (hwas : s.priority piece = -1) (draw : Nat) :
    ∃ more s', s.set_priority config piece p draw = some (more, s') ∧ Kept config s' ∧
      s'.numhaves = s.numhaves ∧ s'.seeds_connected = s.seeds_connected := by
  have hpos : 0 ≤ p := by omega
  have hbucket : bucketOf config s piece p =
      some (s.numhaves piece + config.priority_step * p.toNat) := if_pos ⟨hmissing, hpos⟩
  have hwanted : ¬s.Wanted piece := fun hno => by
    have := hno.2
    omega
  have hlevel : (s.numhaves piece : Int) + config.priority_step * p =
      ((s.numhaves piece + config.priority_step * p.toNat : Nat) : Int) := by
    rw [Int.natCast_add, Int.natCast_mul, Int.toNat_of_nonneg hpos]
  have hroom : s.numhaves piece + config.priority_step * p.toNat < (s.trays.pad
      (s.numhaves piece + config.priority_step * p.toNat + 1)).buckets.length := by
    rw [pad_length]
    omega
  -- the piece was in no bucket, so that it is put into its new one
  obtain ⟨trays, hput, -, hplaced⟩ := (h.placed.pad _).put (home_unwanted hwanted) hroom draw
  rw [← hbucket] at hplaced
  -- what is kept, whether or not the piece is started again
  have hnew {started : List (Fin n)} {removed_partials : Fin n → Bool}
      (hstarted : ∀ i ∈ started, i ∈ s.started ∨ i = piece) (hnodup : started.Nodup) :
      Kept config { s with
        trays, started, removed_partials
        level_in_interests := update s.level_in_interests piece
          ((s.numhaves piece + config.priority_step * p.toNat : Nat) : Int)
        priority := update s.priority piece p } := by
    refine h.prioritised hp hplaced (fun i hi => Function.update_of_ne hi _ _) (fun _ _ => ?_)
      (fun i hi => ?_) hnodup
    · rw [Function.update_self, hlevel]
    · rcases hstarted i hi with hi | rfl
      · refine .inl ⟨?_, hi⟩
        rintro rfl
        exact hwanted (h.started i hi)
      · exact .inr ⟨rfl, hmissing, hpos⟩
  unfold Picker.set_priority
  simp only [if_neg hold, if_neg (ne_true_of_eq_false hmissing), if_neg hoff, if_pos hwas, hlevel,
    Picker.enter, Picker.with_priority, index_cast, Option.bind_eq_bind, Option.bind_some, hput]
  split
  · refine ⟨_, _, rfl, hnew (fun i hi => ?_) ?_, rfl, rfl⟩
    · exact (List.mem_append.mp hi).imp_right List.mem_singleton.mp
    · refine List.nodup_append.mpr ⟨h.nodup, List.nodup_singleton _, fun i hi j hj hij => ?_⟩
      exact hwanted (h.started piece (List.mem_singleton.mp hj ▸ hij ▸ hi))
  · exact ⟨_, _, rfl, hnew (fun i hi => .inl hi) h.nodup, rfl, rfl⟩

/-- A wanted piece gets another priority: it goes over to the bucket of that. -/
theorem set_priority_moved (h : Kept config s) (hp : -1 ≤ p) (hold : s.priority piece ≠ p)
    (hmissing : s.has piece = false) (hoff : p ≠ -1) (hwas : s.priority piece ≠ -1)
    (draw : Nat) :
    ∃ more s', s.set_priority config piece p draw = some (more, s') ∧ Kept config s' ∧
      s'.numhaves = s.numhaves ∧ s'.seeds_connected = s.seeds_connected := by
  have hbefore := h.priority piece
  have hpos : 0 ≤ p := by omega
  have hbucket : bucketOf config s piece p =
      some (s.numhaves piece + config.priority_step * p.toNat) := if_pos ⟨hmissing, hpos⟩
  have hwanted : s.Wanted piece := ⟨hmissing, by omega⟩
  have hlevel := h.level piece hwanted
  unfold Picker.rank at hlevel
  -- the level moves with the priority by whole steps
  have hnew : s.level_in_interests piece + (p - s.priority piece) * config.priority_step =
      ((s.numhaves piece + config.priority_step * p.toNat : Nat) : Int) := by
    rw [hlevel, Int.natCast_add, Int.natCast_mul, Int.toNat_of_nonneg hwanted.2, Int.natCast_add,
      Int.natCast_mul, Int.toNat_of_nonneg hpos, Int.sub_mul, Int.mul_comm p,
      Int.mul_comm (s.priority piece)]
    omega
  have hpad : (((s.numhaves piece + config.priority_step * p.toNat : Nat) : Int) + 1).toNat =
      s.numhaves piece + config.priority_step * p.toNat + 1 := by omega
  have hpos' : 0 ≤ update s.priority piece p piece := by rwa [Function.update_self]
  have hroom : s.numhaves piece + config.priority_step * p.toNat < (s.trays.pad
      (s.numhaves piece + config.priority_step * p.toNat + 1)).buckets.length := by
    rw [pad_length]
    omega
  -- the piece leaves its bucket for the new one
  obtain ⟨trays, hshift, hplaced⟩ := shift_over_spec
    (s := { s with
      priority := update s.priority piece p
      level_in_interests := update s.level_in_interests piece
        ((s.numhaves piece + config.priority_step * p.toNat : Nat) : Int)
      trays := s.trays.pad (s.numhaves piece + config.priority_step * p.toNat + 1) })
    (h.placed.pad _) ⟨hmissing, hpos'⟩ (home_wanted hwanted) hroom draw
  rw [← hbucket] at hplaced
  rw [Picker.rank, ← hlevel] at hshift
  unfold Picker.set_priority
  simp only [if_neg hold, if_neg (ne_true_of_eq_false hmissing), if_neg hoff, if_neg hwas, hnew,
    Picker.with_priority, hpad, hshift]
  refine ⟨_, _, rfl, h.prioritised hp hplaced (fun i hi => Function.update_of_ne hi _ _)
    (fun _ _ => ?_) (fun i hi => ?_) h.nodup, rfl, rfl⟩
  · rw [Function.update_self, Int.natCast_add, Int.natCast_mul, Int.toNat_of_nonneg hpos]
  · by_cases hpiece : i = piece
    · exact .inr ⟨hpiece, hmissing, hpos⟩
    · exact .inl ⟨hpiece, hi⟩

/-- **A priority is set.** -/
theorem set_priority_kept (h : Kept config s) (piece : Fin n) (hp : -1 ≤ p) (draw : Nat) :
    ∃ more s', s.set_priority config piece p draw = some (more, s') ∧ Kept config s' ∧
      s'.numhaves = s.numhaves ∧ s'.seeds_connected = s.seeds_connected := by
  by_cases hold : s.priority piece = p
  · exact ⟨_, _, if_pos hold, h, rfl, rfl⟩
  by_cases hhad : s.has piece = true
  · exact set_priority_owned h hp hold hhad draw
  have hmissing : s.has piece = false := Bool.eq_false_iff.mpr hhad
  by_cases hoff : p = -1
  · exact set_priority_disabled h hp hold hmissing hoff draw
  by_cases hwas : s.priority piece = -1
  · exact set_priority_enabled h hp hold hmissing hoff hwas draw
  · exact set_priority_moved h hp hold hmissing hoff hwas draw

end

end

end VirtCore.Torrent
