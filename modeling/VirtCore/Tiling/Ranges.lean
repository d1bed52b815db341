import Mathlib.Data.List.Basic
import Mathlib.Data.List.Nodup

/-!
# Tiling — one space of addresses laid out over several stores

Ranges of addresses, one behind the other, are each kept in a store of their own at some offset. A
walk turns an interval of addresses into pieces of stores.

* **`Tiles`** — ranges one behind the other, from an address to another.
* **`place`** — where an address is kept.
* **`intervals`** — the pieces of an interval, found by bisection and a walk.
* **`cells_intervals`** — they are the places of the interval's addresses, in their order.
* **`place_injective`** — two addresses are kept in two places, if no store is used twice.
-/

namespace Tiling

/-- The addresses from `start` to `stop`, kept in `file` from `offset` on. -/
structure Range (ν : Type) where
  start : Nat
  stop : Nat
  offset : Nat
  file : ν

/-- A piece of a store: its name, where it begins and where it ends. -/
abbrev Piece (ν : Type) : Type := ν × Nat × Nat

variable {ν : Type}

/-- Ranges one behind the other, from `a` to `b`; none is empty. -/
def Tiles (a b : Nat) : List (Range ν) → Prop
  | [] => a = b
  | r :: rs => r.start = a ∧ r.start < r.stop ∧ Tiles r.stop b rs

/-- Where an address is kept. -/
def place (rs : List (Range ν)) (i : Nat) : Option (ν × Nat) :=
  (rs.find? fun r => r.start ≤ i ∧ i < r.stop).map fun r => (r.file, r.offset + (i - r.start))

/-- The first index with an element past `x`, in a list that ascends. -/
def bisect (l : List Nat) (x : Nat) : Nat := (l.takeWhile (· ≤ x)).length

/-- The pieces of the ranges that an interval meets, from a range on that it does
not come before. -/
def walk (pos stop : Nat) : List (Range ν) → List (Piece ν)
  | [] => []
  | r :: rs =>
    if r.start ≥ stop then []
    else
      (r.file, r.offset + max pos r.start - r.start, r.offset + min r.stop stop - r.start) ::
        walk pos stop rs

/-- `none` where there are no ranges. -/
def intervals (rs : List (Range ν)) (pos amount : Nat) : Option (List (Piece ν)) :=
  if rs = [] then none
  else some (walk pos (pos + amount) (rs.drop (bisect (rs.map Range.start) pos - 1)))

/-- The places of a piece. -/
def cells (p : Piece ν) : List (ν × Nat) := (List.range' p.2.1 (p.2.2 - p.2.1)).map (p.1, ·)

variable {a b pos stop i j : Nat} {r : Range ν} {rs : List (Range ν)}

theorem Tiles.append {c : Nat} {rs' : List (Range ν)} (h : Tiles a b rs) (h' : Tiles b c rs') :
    Tiles a c (rs ++ rs') := by
  induction rs generalizing a with
  | nil =>
    obtain rfl : a = b := h
    exact h'
  | cons r rs ih => exact ⟨h.1, h.2.1, ih h.2.2⟩

theorem place_head (hstart : r.start ≤ i) (hstop : i < r.stop) :
    place (r :: rs) i = some (r.file, r.offset + (i - r.start)) := by
  rw [place, List.find?_cons_of_pos (by simp; omega), Option.map_some]

theorem place_tail (hstop : r.stop ≤ i) : place (r :: rs) i = place rs i := by
  rw [place, List.find?_cons_of_neg (by simp; omega), place]

/-- A walk from a range that the interval does not lie behind. -/
theorem cells_walk (pos : Nat) (h : Tiles a b rs) (hpos : ∀ r ∈ rs.head?, pos ≤ r.stop)
    (hstop : stop ≤ b) : ((walk pos stop rs).flatMap cells).map some =
      (List.range' (max pos a) (stop - max pos a)).map (place rs) := by
  induction rs generalizing a with
  | nil =>
    obtain rfl : a = b := h
    rw [show stop - max pos a = 0 from by omega]
    rfl
  | cons r rs ih =>
    obtain ⟨rfl, hne, hrest⟩ := h
    have hin : pos ≤ r.stop := hpos r rfl
    rw [walk]
    by_cases hpast : r.start ≥ stop
    · rw [if_pos hpast, show stop - max pos r.start = 0 from by omega]
      rfl
    · rw [if_neg hpast, List.flatMap_cons, List.map_append]
      have hnext : ∀ s ∈ rs.head?, pos ≤ s.stop := by
        cases rs with
        | nil => exact nofun
        | cons s rs =>
          intro t ht
          obtain rfl := Option.some.inj ht
          obtain ⟨hs, hs', -⟩ := hrest
          omega
      have htail := ih hrest hnext
      rw [show max pos r.stop = r.stop from by omega] at htail
      -- the addresses of this range, and those behind it
      have hsplit : List.range' (max pos r.start) (stop - max pos r.start) =
          List.range' (max pos r.start) (min r.stop stop - max pos r.start) ++
            List.range' r.stop (stop - r.stop) := by
        by_cases hlast : stop ≤ r.stop
        · rw [show stop - r.stop = 0 from by omega, show min r.stop stop = stop from by omega,
            List.range'_zero, List.append_nil]
        · have happend := List.range'_append_1 (s := max pos r.start)
            (m := r.stop - max pos r.start) (n := stop - r.stop)
          rw [show max pos r.start + (r.stop - max pos r.start) = r.stop from by omega,
            show r.stop - max pos r.start + (stop - r.stop) = stop - max pos r.start from by omega]
            at happend
          rw [show min r.stop stop = r.stop from by omega, happend]
      have hhead : (cells (r.file, r.offset + max pos r.start - r.start,
          r.offset + min r.stop stop - r.start)).map some =
          (List.range' (max pos r.start) (min r.stop stop - max pos r.start)).map
            (place (r :: rs)) := by
        rw [cells, List.map_map]
        refine List.ext_getElem (by simp; omega) fun k hk hk' => ?_
        rw [List.length_map, List.length_range'] at hk'
        rw [List.getElem_map, List.getElem_map, List.getElem_range', List.getElem_range',
          place_head (by omega) (by omega)]
        show some (r.file, _) = some (r.file, _)
        rw [show r.offset + max pos r.start - r.start + 1 * k =
          r.offset + (max pos r.start + 1 * k - r.start) from by omega]
      have hbehind : (List.range' r.stop (stop - r.stop)).map (place rs) =
          (List.range' r.stop (stop - r.stop)).map (place (r :: rs)) := by
        refine List.map_congr_left fun k hk => ?_
        exact (place_tail (List.mem_range'_1.mp hk).1).symm
      rw [hsplit, List.map_append, hhead, htail, hbehind]

theorem bisect_cons {x : Nat} {l : List Nat} (h : a ≤ x) :
    bisect (a :: l) x = bisect l x + 1 := by
  rw [bisect, List.takeWhile_cons_of_pos (by simp; omega), List.length_cons, bisect]

/-- **The pieces of an interval are the places of its addresses, in their order.** -/
theorem cells_intervals (h : Tiles a b rs) (hne : rs ≠ []) {amount : Nat} (ha : a ≤ pos)
    (hb : pos + amount ≤ b) : ∃ ps, intervals rs pos amount = some ps ∧
      (ps.flatMap cells).map some = (List.range' pos amount).map (place rs) := by
  refine ⟨_, if_neg hne, ?_⟩
  clear hne
  induction rs generalizing a with
  | nil =>
    have hsame : a = b := h
    rw [show amount = 0 from by omega]
    rfl
  | cons r rs ih =>
    have htiles := h
    obtain ⟨rfl, hstop, hrest⟩ := h
    rw [List.map_cons, bisect_cons ha, Nat.add_sub_cancel]
    cases hcount : bisect (rs.map Range.start) pos with
    | zero =>
      -- the interval begins in this range
      have hin : pos ≤ r.stop := by
        cases rs with
        | nil =>
          have hsame : r.stop = b := hrest
          omega
        | cons s rs =>
          obtain ⟨hs, -, -⟩ := hrest
          by_contra hbeyond
          rw [List.map_cons, bisect_cons (by omega)] at hcount
          omega
      have hwalk := cells_walk pos htiles (fun s hs => Option.some.inj hs ▸ hin) hb
      rw [show max pos r.start = pos from by omega, Nat.add_sub_cancel_left] at hwalk
      rw [List.drop_zero, hwalk]
    | succ n =>
      -- it begins behind this range
      have hbehind : r.stop ≤ pos := by
        cases rs with
        | nil => cases hcount
        | cons s rs =>
          obtain ⟨hs, -, -⟩ := hrest
          by_contra hbefore
          rw [List.map_cons, bisect, List.takeWhile_cons_of_neg (by simp; omega)] at hcount
          cases hcount
      have htail := ih hrest hbehind
      rw [hcount, Nat.add_sub_cancel] at htail
      rw [List.drop_succ_cons, htail]
      refine List.map_congr_left fun k hk => ?_
      exact (place_tail (Nat.le_trans hbehind (List.mem_range'_1.mp hk).1)).symm

/-- What is at a place is in the range of its store. -/
theorem place_range {p : ν × Nat} (h : place rs i = some p) :
    ∃ r ∈ rs, r.start ≤ i ∧ i < r.stop ∧ p = (r.file, r.offset + (i - r.start)) := by
  unfold place at h
  obtain ⟨r, hr, rfl⟩ := Option.map_eq_some_iff.mp h
  have hin := List.find?_some hr
  rw [decide_eq_true_iff] at hin
  exact ⟨r, List.mem_of_find?_eq_some hr, hin.1, hin.2, rfl⟩

/-- **Two addresses are kept in two places**, if no store is used twice. -/
theorem place_injective (hfiles : (rs.map Range.file).Nodup) {p : ν × Nat}
    (hi : place rs i = some p) (hj : place rs j = some p) : i = j := by
  obtain ⟨r, hr, hri, hri', rfl⟩ := place_range hi
  obtain ⟨s, hs, hsj, hsj', hsame⟩ := place_range hj
  obtain ⟨hfile, hoffset⟩ := Prod.mk.inj hsame
  obtain rfl := List.inj_on_of_nodup_map hfiles hr hs hfile
  omega

end Tiling
