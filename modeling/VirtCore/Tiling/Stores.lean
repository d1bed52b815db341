import VirtCore.Tiling.Ranges

/-!
# Tiling — reading and writing through the stores

* **`overwrite`** — what a seek and a write do to a store, which may grow.
* **`readIn`** / **`readAll`** — reading pieces in portions; a short read fails.
* **`writeAll`** — writing to the pieces one after the other.
* **`look_write`** — what is at an address after a write.
* **`read_look`** — reading is looking at the addresses one by one.
* **`read_latest`** — what has been written last is read.
-/

namespace Tiling

variable {ν α : Type}

/-! ## One store

A write changes the cells within its range and no others. -/

/-- `seek(start)` and `write(s)`. A gap is filled. -/
def overwrite (fill : α) (l : List α) (start : Nat) (s : List α) : List α :=
  if s = [] then l
  else l.take start ++ List.replicate (start - l.length) fill ++ s ++ l.drop (start + s.length)

/-- Reading from `pos` to `stop` in portions of at most `size + 1`; `none` at the end of the
store. -/
def readIn (size : Nat) (l : List α) (pos stop : Nat) : Option (List α) :=
  if pos < stop then
    let length := min (stop - pos) (size + 1)
    let data := (l.drop pos).take length
    if data.length ≠ length then none
    else (readIn size l (pos + length) stop).map (data ++ ·)
  else some []
termination_by stop - pos
decreasing_by omega

variable {fill : α} {l s : List α} {start i : Nat}

theorem overwrite_inside {k : Nat} (hk : k < s.length) :
    (overwrite fill l start s)[start + k]? = s[k]? := by
  have hne : s ≠ [] := List.ne_nil_of_length_pos (by omega)
  have hfront : (l.take start ++ List.replicate (start - l.length) fill).length = start := by
    rw [List.length_append, List.length_take, List.length_replicate]
    omega
  rw [overwrite, if_neg hne, List.append_assoc, List.getElem?_append_right (by omega), hfront,
    show start + k - start = k from by omega, List.getElem?_append_left hk]

theorem overwrite_outside {x : α} (hx : l[i]? = some x)
    (hi : i < start ∨ start + s.length ≤ i) : (overwrite fill l start s)[i]? = some x := by
  obtain ⟨hlt, -⟩ := List.getElem?_eq_some_iff.mp hx
  unfold overwrite
  split
  · exact hx
  · rcases hi with hi | hi
    · rw [List.append_assoc, List.append_assoc, List.getElem?_append_left (by simp; omega),
        List.getElem?_take_of_lt hi]
      exact hx
    · have hfront : (l.take start ++ List.replicate (start - l.length) fill ++ s).length =
          start + s.length := by
        simp
        omega
      rw [List.getElem?_append_right (by omega), hfront, List.getElem?_drop,
        show start + s.length + (i - (start + s.length)) = i from by omega]
      exact hx

/-- **Reading in portions is reading at once.** -/
theorem readIn_eq (size : Nat) (l : List α) (pos stop : Nat) (h : stop ≤ l.length) :
    readIn size l pos stop = some ((l.drop pos).take (stop - pos)) := by
  induction hn : stop - pos using Nat.strongRecOn generalizing pos with
  | ind n ih =>
    rw [readIn]
    by_cases hlt : pos < stop
    · have hlength : ((l.drop pos).take (min (stop - pos) (size + 1))).length =
          min (stop - pos) (size + 1) := by
        rw [List.length_take, List.length_drop]
        omega
      -- each read takes at least one byte, or nothing is left to be read
      have hrest := ih (stop - (pos + min (stop - pos) (size + 1))) (by omega)
        (pos + min (stop - pos) (size + 1)) rfl
      rw [if_pos hlt]
      dsimp only
      rw [if_neg (not_not.mpr hlength), hrest, Option.map_some, ← List.drop_drop, ← hn,
        show stop - (pos + min (stop - pos) (size + 1)) =
          stop - pos - min (stop - pos) (size + 1) from by omega]
      have hsplit : stop - pos = min (stop - pos) (size + 1) +
          (stop - pos - min (stop - pos) (size + 1)) := by omega
      conv_rhs => rw [hsplit, List.take_add]
    · rw [if_neg hlt, ← hn, show stop - pos = 0 from by omega, List.take_zero]

/-! ## All stores -/

/-- What is kept under each name. -/
abbrev Stores (ν α : Type) : Type := ν → List α

/-- What is at a place. -/
def look (st : Stores ν α) (p : ν × Nat) : Option α := (st p.1)[p.2]?

def readAll (size : Nat) (st : Stores ν α) : List (Piece ν) → Option (List α)
  | [] => some []
  | (file, pos, stop) :: ps =>
    match readIn size (st file) pos stop with
    | none => none
    | some data => (readAll size st ps).map (data ++ ·)

/-- `total` symbols have been written. -/
def writeAll [DecidableEq ν] (fill : α) (s : List α) (total : Nat) (st : Stores ν α) :
    List (Piece ν) → Stores ν α
  | [] => st
  | (file, start, stop) :: ps =>
    let data := (s.drop total).take (stop - start)
    writeAll fill s (total + (stop - start))
      (Function.update st file (overwrite fill (st file) start data)) ps

theorem mem_cells {p : Piece ν} {c : ν × Nat} :
    c ∈ cells p ↔ c.1 = p.1 ∧ p.2.1 ≤ c.2 ∧ c.2 < p.2.1 + (p.2.2 - p.2.1) := by
  unfold cells
  rw [List.mem_map]
  constructor
  · rintro ⟨k, hk, rfl⟩
    exact ⟨rfl, List.mem_range'_1.mp hk⟩
  · rintro ⟨hname, hin⟩
    exact ⟨c.2, List.mem_range'_1.mpr hin, Prod.ext hname.symm rfl⟩

theorem cells_length (p : Piece ν) : (cells p).length = p.2.2 - p.2.1 := by
  rw [cells, List.length_map, List.length_range']

variable [DecidableEq ν] {ps : List (Piece ν)}

/-- A place that is not written to keeps what it has. -/
theorem look_outside {st : Stores ν α} {c : ν × Nat} (total : Nat) (hc : c ∉ ps.flatMap cells)
    {x : α} (hx : look st c = some x) : look (writeAll fill s total st ps) c = some x := by
  induction ps generalizing st total with
  | nil => exact hx
  | cons p ps ih =>
    obtain ⟨file, start, stop⟩ := p
    rw [List.flatMap_cons, List.mem_append, not_or] at hc
    refine ih _ hc.2 ?_
    show (Function.update st file _ c.1)[c.2]? = some x
    by_cases hname : c.1 = file
    · rw [hname, Function.update_self]
      refine overwrite_outside (hname ▸ hx) ?_
      have hnot : ¬(start ≤ c.2 ∧ c.2 < start + (stop - start)) := fun hin =>
        hc.1 (mem_cells.mpr ⟨hname, hin⟩)
      rw [List.length_take]
      omega
    · rw [Function.update_of_ne hname]
      exact hx

/-- The places that are written to, one after the other, have what is written. -/
theorem look_inside (fill : α) (st : Stores ν α) (total : Nat)
    (hnodup : (ps.flatMap cells).Nodup)
    (hlength : total + (ps.flatMap cells).length ≤ s.length) {k : Nat} {c : ν × Nat}
    (hc : (ps.flatMap cells)[k]? = some c) :
    look (writeAll fill s total st ps) c = s[total + k]? := by
  -- by the parts: the first is written to now, the others later and elsewhere
  induction ps generalizing st total k with
  | nil => cases hc
  | cons p ps ih =>
    obtain ⟨file, start, stop⟩ := p
    rw [List.flatMap_cons] at hnodup hlength hc
    rw [List.length_append, cells_length] at hlength
    dsimp only at hlength
    obtain ⟨-, hrest, hdisjoint⟩ := List.nodup_append'.mp hnodup
    by_cases hk : k < (cells (file, start, stop)).length
    · -- the place is written to now, and not again
      rw [List.getElem?_append_left hk] at hc
      have hmem := List.mem_of_getElem? hc
      rw [cells_length] at hk
      dsimp only at hk
      have hlater : c ∉ ps.flatMap cells := hdisjoint hmem
      obtain rfl : (file, start + k) = c := by
        unfold cells at hc
        rw [List.getElem?_map, List.getElem?_range' hk] at hc
        have hsame := Option.some.inj hc
        rw [Nat.one_mul] at hsame
        exact hsame
      have hdata : ((s.drop total).take (stop - start))[k]? = s[total + k]? := by
        rw [List.getElem?_take_of_lt hk, List.getElem?_drop]
      have hin : total + k < s.length := by omega
      have hnow : look (Function.update st file (overwrite fill (st file) start
          ((s.drop total).take (stop - start)))) (file, start + k) = s[total + k]? := by
        show (Function.update st file _ file)[start + k]? = _
        rw [Function.update_self, overwrite_inside (by simp; omega), hdata]
      rw [List.getElem?_eq_getElem hin] at hnow ⊢
      exact look_outside _ hlater hnow
    · rw [List.getElem?_append_right (by omega)] at hc
      rw [cells_length] at hk hc
      dsimp only at hk hc
      have hnext := ih (Function.update st file (overwrite fill (st file) start
        ((s.drop total).take (stop - start)))) (total + (stop - start)) hrest (by omega) hc
      rw [show total + (stop - start) + (k - (stop - start)) = total + k from by omega] at hnext
      exact hnext

omit [DecidableEq ν] in
/-- **Reading is looking at the places one by one.** -/
theorem readAll_look {st : Stores ν α} (size : Nat) {data : List α}
    (h : (ps.flatMap cells).map (look st) = data.map some) : readAll size st ps = some data := by
  induction ps generalizing data with
  | nil =>
    obtain rfl := List.map_eq_nil_iff.mp h.symm
    rfl
  | cons p ps ih =>
    obtain ⟨file, start, stop⟩ := p
    rw [List.flatMap_cons, List.map_append] at h
    obtain ⟨first, rest, rfl, hfirst, hrest⟩ := List.map_eq_append_iff.mp h.symm
    have hlength : first.length = stop - start := by
      have hcount := congrArg List.length hfirst
      rw [List.length_map, List.length_map, cells_length] at hcount
      exact hcount
    -- each symbol of the piece is there
    have hget (k : Nat) (hk : k < stop - start) : (st file)[start + k]? = first[k]? := by
      have hin : k < first.length := by omega
      have hsame := congrArg (·[k]?) hfirst
      rw [List.getElem?_map, List.getElem?_map, List.getElem?_eq_getElem hin, cells,
        List.getElem?_map, List.getElem?_range' hk, Nat.one_mul] at hsame
      rw [List.getElem?_eq_getElem hin]
      exact (Option.some.inj hsame).symm
    have hpiece : readIn size (st file) start stop = some first := by
      by_cases hempty : stop ≤ start
      · rw [readIn, if_neg (by omega)]
        rw [show stop - start = 0 from by omega] at hlength
        rw [List.length_eq_zero_iff.mp hlength]
      · have hend := hget (stop - start - 1) (by omega)
        rw [List.getElem?_eq_getElem (show stop - start - 1 < first.length by omega)] at hend
        obtain ⟨hlt, -⟩ := List.getElem?_eq_some_iff.mp hend
        rw [readIn_eq size (st file) start stop (by omega)]
        refine congrArg some (List.ext_getElem? fun k => ?_)
        by_cases hk : k < stop - start
        · rw [List.getElem?_take_of_lt hk, List.getElem?_drop, hget k hk]
        · rw [List.getElem?_eq_none (by simp; omega), List.getElem?_eq_none (by omega)]
    rw [readAll, hpiece]
    show (readAll size st ps).map (first ++ ·) = _
    rw [ih hrest.symm, Option.map_some]

/-! ## One space of addresses -/

/-- What is at an address. -/
def lookAt (rs : List (Range ν)) (st : Stores ν α) (i : Nat) : Option α :=
  (place rs i).bind (look st)

/-- Reading some addresses. -/
def read (size : Nat) (rs : List (Range ν)) (st : Stores ν α) (pos amount : Nat) :
    Option (List α) :=
  (intervals rs pos amount).bind (readAll size st)

/-- Writing to some addresses. -/
def write (fill : α) (rs : List (Range ν)) (st : Stores ν α) (pos : Nat) (s : List α) :
    Option (Stores ν α) :=
  (intervals rs pos s.length).map (writeAll fill s 0 st)

variable {a b pos : Nat} {rs : List (Range ν)}

/-- **What is at an address after a write**: what was written there, or else what was there. -/
theorem look_write (fill : α) (st : Stores ν α) (h : Tiles a b rs) (hne : rs ≠ [])
    (hfiles : (rs.map Range.file).Nodup)
    (ha : a ≤ pos) (hb : pos + s.length ≤ b) : ∃ st', write fill rs st pos s = some st' ∧
      (∀ k, k < s.length → lookAt rs st' (pos + k) = s[k]?) ∧
      ∀ i x, i < pos ∨ pos + s.length ≤ i → lookAt rs st i = some x →
        lookAt rs st' i = some x := by
  obtain ⟨ps, hps, hcells⟩ := cells_intervals h hne ha hb
  have hlength : (ps.flatMap cells).length = s.length := by
    have hcount := congrArg List.length hcells
    rw [List.length_map, List.length_map, List.length_range'] at hcount
    exact hcount
  have hnth {k : Nat} {c : ν × Nat} (hc : (ps.flatMap cells)[k]? = some c) (hk : k < s.length) :
      place rs (pos + k) = some c := by
    have hsame := congrArg (·[k]?) hcells
    rw [List.getElem?_map, List.getElem?_map, hc, List.getElem?_range' hk, Nat.one_mul] at hsame
    exact (Option.some.inj hsame).symm
  -- the places differ, since the addresses do
  have hnodup : (ps.flatMap cells).Nodup := by
    refine List.nodup_iff_getElem?_ne_getElem?.mpr fun i j hij hj hsame => ?_
    rw [hlength] at hj
    have hget : (ps.flatMap cells)[j]? = some ((ps.flatMap cells).get ⟨j, by omega⟩) :=
      List.getElem?_eq_getElem _
    have hi := hnth (hsame.trans hget) (by omega)
    have hj' := hnth hget hj
    have hequal := place_injective hfiles hi hj'
    omega
  refine ⟨_, by rw [write, hps, Option.map_some], fun k hk => ?_, fun i x hi hx => ?_⟩
  · have hget : (ps.flatMap cells)[k]? = some ((ps.flatMap cells).get ⟨k, by omega⟩) :=
      List.getElem?_eq_getElem _
    have hlook := look_inside (s := s) fill st 0 hnodup (by omega) hget
    rw [lookAt, hnth hget hk, Option.bind_some, hlook, Nat.zero_add]
  · obtain ⟨c, hc, hlook⟩ := Option.bind_eq_some_iff.mp hx
    have hout : c ∉ ps.flatMap cells := by
      intro hmem
      obtain ⟨k, hk⟩ := List.getElem?_of_mem hmem
      have hlt : k < s.length := hlength ▸ (List.getElem?_eq_some_iff.mp hk).1
      have hequal := place_injective hfiles hc (hnth hk hlt)
      omega
    rw [lookAt, hc, Option.bind_some]
    exact look_outside 0 hout hlook

omit [DecidableEq ν] in
/-- **Reading is looking at the addresses one by one.** -/
theorem read_look {st : Stores ν α} (size : Nat) (h : Tiles a b rs) (hne : rs ≠ [])
    {amount : Nat} (ha : a ≤ pos) (hb : pos + amount ≤ b) {data : List α}
    (hlength : data.length = amount)
    (hdata : ∀ k, k < amount → lookAt rs st (pos + k) = data[k]?) :
    read size rs st pos amount = some data := by
  obtain ⟨ps, hps, hcells⟩ := cells_intervals h hne ha hb
  rw [read, hps, Option.bind_some]
  refine readAll_look size ?_
  have hlook : (ps.flatMap cells).map (look st) =
      ((ps.flatMap cells).map some).map fun p => p.bind (look st) := by
    rw [List.map_map]
    rfl
  rw [hlook, hcells, List.map_map]
  refine List.ext_getElem? fun k => ?_
  by_cases hk : k < amount
  · rw [List.getElem?_map, List.getElem?_range' hk, Nat.one_mul, List.getElem?_map,
      Option.map_some]
    show some (lookAt rs st (pos + k)) = _
    rw [hdata k hk, List.getElem?_eq_getElem (by omega), Option.map_some]
  · rw [List.getElem?_eq_none (by simp; omega), List.getElem?_eq_none (by simp; omega)]

/-! ## One write after another

A cell has what the latest write to it has written, or what it had. -/

/-- Writes one after the other; `none` where one fails. -/
def writes (fill : α) (rs : List (Range ν)) (st : Stores ν α) :
    List (Nat × List α) → Option (Stores ν α)
  | [] => some st
  | w :: ws => (write fill rs st w.1 w.2).bind fun st => writes fill rs st ws

/-- What the latest write to an address has written there. -/
def latest (ws : List (Nat × List α)) (i : Nat) : Option α :=
  ws.foldl (fun x w => if w.1 ≤ i ∧ i < w.1 + w.2.length then w.2[i - w.1]? else x) none

/-- The writes from a space of which something is known. -/
theorem writes_look (fill : α) (st : Stores ν α) (h : Tiles a b rs) (hne : rs ≠ [])
    (hfiles : (rs.map Range.file).Nodup) {ws : List (Nat × List α)}
    (hws : ∀ w ∈ ws, a ≤ w.1 ∧ w.1 + w.2.length ≤ b) (known : Nat → Option α)
    (hknown : ∀ i x, known i = some x → lookAt rs st i = some x) :
    ∃ st', writes fill rs st ws = some st' ∧ ∀ i x,
      ws.foldl (fun x w => if w.1 ≤ i ∧ i < w.1 + w.2.length then w.2[i - w.1]? else x)
        (known i) =
        some x → lookAt rs st' i = some x := by
  -- by the writes; `known` is what the ones before have left
  induction ws generalizing st known with
  | nil => exact ⟨st, rfl, hknown⟩
  | cons w ws ih =>
    obtain ⟨ha, hb⟩ := hws w List.mem_cons_self
    obtain ⟨st', hwrite, hinside, houtside⟩ := look_write fill st h hne hfiles ha hb
    have hnext : ∀ i x, (if w.1 ≤ i ∧ i < w.1 + w.2.length then w.2[i - w.1]? else known i) =
        some x → lookAt rs st' i = some x := by
      intro i x hx
      by_cases hin : w.1 ≤ i ∧ i < w.1 + w.2.length
      · rw [if_pos hin] at hx
        have hhere := hinside (i - w.1) (by omega)
        rw [show w.1 + (i - w.1) = i from by omega, hx] at hhere
        exact hhere
      · rw [if_neg hin] at hx
        exact houtside i x (by omega) (hknown i x hx)
    obtain ⟨st'', hwrites, hlook⟩ :=
      ih st' (fun v hv => hws v (List.mem_cons_of_mem _ hv)) _ hnext
    exact ⟨st'', by rw [writes, hwrite, Option.bind_some, hwrites], hlook⟩

/-- **What has been written last is read**, however the addresses are laid out. -/
theorem read_latest (fill : α) (st : Stores ν α) (size : Nat) (h : Tiles a b rs)
    (hne : rs ≠ []) (hfiles : (rs.map Range.file).Nodup) {ws : List (Nat × List α)}
    (hws : ∀ w ∈ ws, a ≤ w.1 ∧ w.1 + w.2.length ≤ b) {data : List α} (ha : a ≤ pos)
    (hb : pos + data.length ≤ b)
    (hdata : ∀ k, k < data.length → latest ws (pos + k) = data[k]?) :
    ∃ st', writes fill rs st ws = some st' ∧ read size rs st' pos data.length = some data := by
  obtain ⟨st', hwrites, hlook⟩ := writes_look fill st h hne hfiles hws (fun _ => none) nofun
  refine ⟨st', hwrites, read_look size h hne ha hb rfl fun k hk => ?_⟩
  have hsome := List.getElem?_eq_getElem hk
  rw [hsome]
  exact hlook (pos + k) _ ((hdata k hk).trans hsome)

end Tiling
