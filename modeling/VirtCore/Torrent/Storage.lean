import VirtCore.Tiling.Stores
import VirtCore.Transition.System
import Mathlib.Algebra.Ring.Nat

/-!
# VirtCore — `Storage.py`

The files of a torrent as one space of bytes. A file that is not wanted is kept as far as its pieces
are shared with others, in files of a buffer directory.

A storage begins with all its files enabled, as `__init__` leaves `disabled`; its argument
`disabled_files`, which only says which files are not made, is left out with the making and
cutting of the files themselves, and so are their handles and locks.

* **`file_ranges`** — the files one behind the other.
* **`disabled_range`** — what takes the place of a file that is not wanted.
* **`storage`** — files are enabled and disabled, and the ranges computed again.
* **`ranges_tile`** — in any reachable state the ranges tile the whole space.
* **`read_written`** — what has been written last is read.
-/

namespace VirtCore.Torrent

open Tiling Transition

/-- A file of the torrent, or in the buffer directory the whole of one, its beginning or its end. -/
inductive Name where
  | file (f : Nat)
  | whole (f : Nat)
  | first (f : Nat)
  | last (f : Nat)
  deriving DecidableEq

/-- The number of the file behind a name. -/
def Name.number : Name → Nat
  | .file f | .whole f | .first f | .last f => f

/-- The loop of `__init__` over the lengths: `file_ranges` of the files from `f` on, where `total`
bytes come before them. -/
def file_ranges (f total : Nat) : List Nat → List (Option (Range Name))
  | [] => []
  | length :: lengths =>
    if length = 0 then none :: file_ranges (f + 1) total lengths
    else some ⟨total, total + length, 0, .file f⟩ :: file_ranges (f + 1)
      (total + length) lengths

/-- The ranges of `_get_disabled_ranges`, in a torrent of `numfiles` files. -/
def disabled_range (piece_length numfiles f start stop : Nat) : List (Range Name) :=
  let first := start / piece_length
  let last := (stop - 1) / piece_length
  if first = last then
    if start % piece_length = 0 ∧ stop % piece_length = 0 then [⟨start, stop, 0, .file f⟩]
    else [⟨start, stop, 0, .whole f⟩]
  else
    let beginning := start % piece_length ≠ 0
    let ending := f ≠ numfiles - 1 ∧ stop % piece_length ≠ 0
    let working_range_b : List (Range Name) :=
      if beginning then [⟨start, (first + 1) * piece_length, 0, .first f⟩] else []
    let offset := if beginning then (first + 1) * piece_length - start else 0
    let working_range_e : List (Range Name) :=
      if ending then [⟨last * piece_length, stop, 0, .last f⟩] else []
    -- the pieces that are left, from `from_` on and before `to_`
    let from_ := if beginning then first + 1 else first
    let to_ := if ending then last else last + 1
    let working_range_m : List (Range Name) :=
      if from_ < to_ then [⟨from_ * piece_length, to_ * piece_length, offset, .file f⟩] else []
    working_range_b ++ working_range_m ++ working_range_e

/-- The ranges of a file, by whether it is disabled. -/
def working_range (piece_length numfiles f : Nat) (disabled : Bool) :
    Option (Range Name) → List (Range Name)
  | none => []
  | some r => if disabled then disabled_range piece_length numfiles f r.start r.stop else [r]

/-- What `_reset_ranges` depends on changes with each call, and the ranges only with that. -/
structure Storage where
  disabled : List Bool
  working_ranges : List (List (Range Name))
  ranges : List (Range Name)

/-- What a storage is made with: the lengths of the files, and of a piece. -/
structure Files where
  lengths : List Nat
  piece_length : Nat

namespace Files

variable (F : Files)

def fileRange (f : Nat) : Option (Range Name) := ((file_ranges 0 0 F.lengths)[f]?).join

def total_length : Nat := F.lengths.sum

def init : Storage :=
  let working_ranges := (file_ranges 0 0 F.lengths).map Option.toList
  ⟨List.replicate F.lengths.length false, working_ranges, working_ranges.flatten⟩

def working (f : Nat) (disabled : Bool) : List (Range Name) :=
  working_range F.piece_length F.lengths.length f disabled (F.fileRange f)

/-- `enable_file` and `disable_file`. -/
def set_disabled (s : Storage) (f : Nat) (flag : Bool) : Storage :=
  if s.disabled[f]? = some (!flag) then
    { s with
      disabled := s.disabled.set f flag
      working_ranges := s.working_ranges.set f (F.working f flag) }
  else s

end Files

/-- `reset_file_status`. -/
def Storage.reset (s : Storage) : Storage := { s with ranges := s.working_ranges.flatten }

/-- What the files on the disk hold. -/
abbrev Disk : Type := Stores Name UInt8

def MAXREADSIZE : Nat := 32768

def Storage.read (s : Storage) (disk : Disk) (pos amount : Nat) : Option (List UInt8) :=
  Tiling.read (MAXREADSIZE - 1) s.ranges disk pos amount

/-- `write`, one call after the other. -/
def Storage.writes (s : Storage) (disk : Disk) (ws : List (Nat × List UInt8)) : Option Disk :=
  Tiling.writes 0 s.ranges disk ws

inductive Change where
  | set_disabled (f : Nat) (flag : Bool)
  | reset

/-- Files are enabled and disabled in any order. -/
def storage (F : Files) : System Storage Change where
  start s := s = F.init
  step s c s' :=
    match c with
    | .set_disabled f flag => s' = F.set_disabled s f flag
    | .reset => s' = s.reset

/-! ## One file -/

variable {piece_length numfiles f start stop : Nat}

/-- The pieces of a file that is not empty. -/
theorem pieces_bounds (hpiece : 0 < piece_length) (hne : start < stop) :
    start / piece_length ≤ (stop - 1) / piece_length ∧
      start / piece_length * piece_length ≤ start ∧
      start < (start / piece_length + 1) * piece_length ∧
      (stop - 1) / piece_length * piece_length < stop ∧
      stop ≤ ((stop - 1) / piece_length + 1) * piece_length := by
  have hstart := Nat.div_add_mod start piece_length
  have hmod := Nat.mod_lt start hpiece
  have hstop := Nat.div_add_mod (stop - 1) piece_length
  have hmod' := Nat.mod_lt (stop - 1) hpiece
  rw [Nat.mul_comm] at hstart hstop
  refine ⟨Nat.div_le_div_right (by omega), by omega, ?_, by omega, ?_⟩
  · rw [Nat.add_mul]
    omega
  · rw [Nat.add_mul]
    omega

/-- A range, where there is one. -/
theorem tiles_if {a b offset : Nat} {name : Name} {c : Prop} [Decidable c]
    (hthere : c → a < b) (hgone : ¬c → a = b) :
    Tiles a b (if c then [⟨a, b, offset, name⟩] else []) := by
  split
  · rename_i h
    exact ⟨rfl, hthere h, rfl⟩
  · rename_i h
    exact hgone h

/-- **What takes the place of a file covers it.** The last file of a torrent may be covered up to
the end of its last piece. -/
theorem disabled_range_tiles (hpiece : 0 < piece_length) (hne : start < stop) :
    ∃ stop', Tiles start stop' (disabled_range piece_length numfiles f start stop) ∧
      stop ≤ stop' ∧
      (f ≠ numfiles - 1 → stop' = stop) := by
  obtain ⟨horder, hbefore, hfirst, hlast, hbehind⟩ := pieces_bounds hpiece hne
  unfold disabled_range
  dsimp only
  by_cases hone : start / piece_length = (stop - 1) / piece_length
  · rw [if_pos hone]
    refine ⟨stop, ?_, Nat.le_refl _, fun _ => rfl⟩
    split <;> exact ⟨rfl, hne, rfl⟩
  · rw [if_neg hone]
    generalize hp : start / piece_length = first at *
    generalize hq : (stop - 1) / piece_length = last at *
    have hless : first + 1 ≤ last := by omega
    have hmul := Nat.mul_le_mul_right piece_length hless
    have hlastEnd : (last + 1) * piece_length = last * piece_length + piece_length :=
      Nat.succ_mul ..
    have hfirstEnd : (first + 1) * piece_length = first * piece_length + piece_length :=
      Nat.succ_mul ..
    -- without a beginning the file begins with a piece
    have hbegins : ¬start % piece_length ≠ 0 → start = first * piece_length := by
      intro h
      have hdiv := Nat.div_add_mod start piece_length
      rw [hp, Nat.mul_comm, not_not.mp h] at hdiv
      omega
    have hends : stop % piece_length = 0 → stop = (last + 1) * piece_length := by
      intro h
      have hdvd := Nat.dvd_of_mod_eq_zero h
      obtain ⟨k, rfl⟩ := hdvd
      rw [Nat.mul_comm piece_length k] at hlast hbehind ⊢
      have hlow : last < k := Nat.lt_of_mul_lt_mul_right hlast
      have hhigh : k ≤ last + 1 := Nat.le_of_mul_le_mul_right hbehind hpiece
      rw [show k = last + 1 from by omega]
    let from_ := if start % piece_length ≠ 0 then first + 1 else first
    let to_ := if f ≠ numfiles - 1 ∧ stop % piece_length ≠ 0 then last else last + 1
    have hfrom : from_ ≤ first + 1 := by
      by_cases h : start % piece_length ≠ 0
      · exact Nat.le_of_eq (if_pos h)
      · exact Nat.le_trans (Nat.le_of_eq (if_neg h)) (Nat.le_succ first)
    have hto : last ≤ to_ := by
      by_cases h : f ≠ numfiles - 1 ∧ stop % piece_length ≠ 0
      · exact Nat.le_of_eq (if_pos h).symm
      · exact Nat.le_trans (Nat.le_succ last) (Nat.le_of_eq (if_neg h).symm)
    have hle : from_ ≤ to_ := by omega
    have hfront : Tiles start (from_ * piece_length)
        (if start % piece_length ≠ 0 then
          [⟨start, (first + 1) * piece_length, 0, Name.first f⟩] else []) := by
      by_cases h : start % piece_length ≠ 0
      · rw [if_pos h, show from_ = first + 1 from if_pos h]
        exact ⟨rfl, hfirst, rfl⟩
      · rw [if_neg h, show from_ = first from if_neg h]
        exact hbegins h
    have hmiddle (offset : Nat) : Tiles (from_ * piece_length) (to_ * piece_length)
        (if from_ < to_ then
          [⟨from_ * piece_length, to_ * piece_length, offset, Name.file f⟩] else []) :=
      tiles_if (fun h => Nat.mul_lt_mul_of_pos_right h hpiece)
        (fun h => congrArg (· * piece_length) (show from_ = to_ by omega))
    by_cases h : f ≠ numfiles - 1 ∧ stop % piece_length ≠ 0
    · have hto : to_ = last := if_pos h
      have hback : Tiles (to_ * piece_length) stop
          (if f ≠ numfiles - 1 ∧ stop % piece_length ≠ 0 then
            [⟨last * piece_length, stop, 0, Name.last f⟩] else []) := by
        rw [if_pos h, hto]
        exact ⟨rfl, hlast, rfl⟩
      exact ⟨stop, (hfront.append (hmiddle _)).append hback, Nat.le_refl _, fun _ => rfl⟩
    · have hto : to_ = last + 1 := if_neg h
      have hback : Tiles (to_ * piece_length) (to_ * piece_length)
          (if f ≠ numfiles - 1 ∧ stop % piece_length ≠ 0 then
            [⟨last * piece_length, stop, 0, Name.last f⟩] else []) := by
        rw [if_neg h]
        rfl
      refine ⟨to_ * piece_length, (hfront.append (hmiddle _)).append hback,
        by rw [hto]; exact hbehind,
        fun hnot => ?_⟩
      rw [hto]
      exact (hends (by_contra fun hmod => h ⟨hnot, hmod⟩)).symm

theorem mem_range_if {c : Prop} [Decidable c] {r s : Range Name} (h : r ∈ if c then [s] else []) :
    r = s := by
  split at h
  · exact List.mem_singleton.mp h
  · cases h

/-- It has no name twice, and only names of the file. -/
theorem disabled_range_files (piece_length numfiles f start stop : Nat) :
    ((disabled_range piece_length numfiles f start stop).map Range.file).Nodup ∧
      ∀ r ∈ disabled_range piece_length numfiles f start stop, r.file.number = f := by
  unfold disabled_range
  dsimp only
  constructor
  · split
    · split <;> exact List.nodup_singleton _
    · rw [List.map_append, List.map_append]
      split <;> split <;> split <;> simp
  · intro r hr
    split at hr
    · split at hr <;> (obtain rfl := List.mem_singleton.mp hr; rfl)
    · -- at most three ranges: the first piece, the last one, and what is between
      rcases List.mem_append.mp hr with hr | hr
      · rcases List.mem_append.mp hr with hr | hr
        · rw [mem_range_if hr]
          rfl
        · rw [mem_range_if hr]
          rfl
      · rw [mem_range_if hr]
        rfl

/-! ## All files

The files lie one behind the other, and the disabled ones leave what their neighbours share with
them in buffer files. -/

/-- The working ranges of the files from `f` on are those of enabled or disabled files. -/
def Laid (piece_length numfiles : Nat) : Nat → Nat → List Nat →
    List (List (Range Name)) → Prop
  | _, _, [], [] => True
  | f, total, length :: lengths, w :: ws =>
    (∃ disabled, w = working_range piece_length numfiles f disabled
      (if length = 0 then none else some ⟨total, total + length, 0, .file f⟩)) ∧
      Laid piece_length numfiles (f + 1) (total + length) lengths ws
  | _, _, _, _ => False

theorem file_ranges_cons (f total length : Nat) (lengths : List Nat) :
    file_ranges f total (length :: lengths) =
      (if length = 0 then none else some ⟨total, total + length, 0, .file f⟩) ::
        file_ranges (f + 1) (total + length) lengths := by
  rw [file_ranges]
  split
  · rename_i h
    rw [h]
    rfl
  · rfl

variable {total : Nat} {lengths : List Nat} {ws : List (List (Range Name))}

theorem laid_start (piece_length numfiles f total : Nat) (lengths : List Nat) :
    Laid piece_length numfiles f total lengths
      ((file_ranges f total lengths).map Option.toList) := by
  induction lengths generalizing f total with
  | nil => trivial
  | cons length lengths ih =>
    rw [file_ranges_cons, List.map_cons]
    refine ⟨⟨false, ?_⟩, ih (f + 1) (total + length)⟩
    split <;> rfl

theorem laid_set (h : Laid piece_length numfiles f total lengths ws) {i : Nat}
    (hi : i < lengths.length) (disabled : Bool) :
    Laid piece_length numfiles f total lengths
      (ws.set i (working_range piece_length numfiles (f + i) disabled
        ((file_ranges f total lengths)[i]?).join)) := by
  induction lengths generalizing f total ws i with
  | nil => exact absurd hi (Nat.not_lt_zero i)
  | cons length lengths ih =>
    cases ws with
    | nil => exact h.elim
    | cons w ws =>
      rw [file_ranges_cons]
      cases i with
      | zero => exact ⟨⟨disabled, rfl⟩, h.2⟩
      | succ i =>
        refine ⟨h.1, ?_⟩
        have hrest := ih h.2 (Nat.lt_of_succ_lt_succ hi)
        rw [show f + 1 + i = f + (i + 1) from by omega] at hrest
        exact hrest

/-- The ranges of one file. -/
theorem working_range_tiles (numfiles : Nat) (hpiece : 0 < piece_length) (f total length : Nat)
    (disabled : Bool) :
    ∃ stop, Tiles total stop (working_range piece_length numfiles f disabled
        (if length = 0 then none else some ⟨total, total + length, 0, .file f⟩)) ∧
      total + length ≤ stop ∧ (f ≠ numfiles - 1 → stop = total + length) := by
  by_cases hlength : length = 0
  · rw [if_pos hlength, hlength]
    exact ⟨total, rfl, Nat.le_refl _, fun _ => rfl⟩
  · rw [if_neg hlength]
    have hne : total < total + length := by omega
    cases disabled with
    | true => exact disabled_range_tiles hpiece hne
    | false => exact ⟨total + length, ⟨rfl, hne, rfl⟩, Nat.le_refl _, fun _ => rfl⟩

theorem working_range_files (piece_length numfiles f total length : Nat) (disabled : Bool) :
    let w := working_range piece_length numfiles f disabled
      (if length = 0 then none else some ⟨total, total + length, 0, .file f⟩)
    (w.map Range.file).Nodup ∧ ∀ r ∈ w, r.file.number = f := by
  by_cases hlength : length = 0
  · rw [if_pos hlength]
    exact ⟨List.nodup_nil, fun r hr => absurd hr List.not_mem_nil⟩
  · rw [if_neg hlength]
    cases disabled with
    | true => exact disabled_range_files piece_length numfiles f total (total + length)
    | false =>
      refine ⟨List.nodup_singleton _, fun r hr => ?_⟩
      obtain rfl := List.mem_singleton.mp hr
      rfl

theorem laid_tiles (hpiece : 0 < piece_length)
    (h : Laid piece_length numfiles f total lengths ws) (hnum : numfiles = f + lengths.length) :
    ∃ stop, Tiles total stop ws.flatten ∧ total + lengths.sum ≤ stop := by
  -- by the files; where one ends the next begins
  induction lengths generalizing f total ws with
  | nil =>
    cases ws with
    | nil => exact ⟨total, rfl, Nat.le_refl _⟩
    | cons w ws => exact h.elim
  | cons length lengths ih =>
    cases ws with
    | nil => exact h.elim
    | cons w ws =>
      obtain ⟨⟨disabled, rfl⟩, hrest⟩ := h
      obtain ⟨stop, htiles, hle, hexact⟩ :=
        working_range_tiles numfiles hpiece f total length disabled
      rw [List.length_cons] at hnum
      rw [List.flatten_cons, List.sum_cons]
      cases lengths with
      | nil =>
        -- only the last file may reach further
        cases ws with
        | nil =>
          rw [List.flatten_nil, List.append_nil, List.sum_nil, Nat.add_zero]
          exact ⟨stop, htiles, hle⟩
        | cons w ws => exact hrest.elim
      | cons next lengths =>
        rw [List.length_cons] at hnum
        obtain ⟨stop', htiles', hle'⟩ := ih hrest (by rw [List.length_cons]; omega)
        obtain rfl := hexact (by omega)
        exact ⟨stop', htiles.append htiles', by omega⟩

theorem laid_files (h : Laid piece_length numfiles f total lengths ws) :
    (ws.flatten.map Range.file).Nodup ∧ ∀ r ∈ ws.flatten, f ≤ r.file.number := by
  induction lengths generalizing f total ws with
  | nil =>
    cases ws with
    | nil => exact ⟨List.nodup_nil, fun r hr => absurd hr List.not_mem_nil⟩
    | cons w ws => exact h.elim
  | cons length lengths ih =>
    cases ws with
    | nil => exact h.elim
    | cons w ws =>
      obtain ⟨⟨disabled, rfl⟩, hrest⟩ := h
      obtain ⟨hnodup, hnumber⟩ :=
        working_range_files piece_length numfiles f total length disabled
      obtain ⟨hnodup', hnumber'⟩ := ih hrest
      rw [List.flatten_cons, List.map_append]
      refine ⟨List.nodup_append'.mpr ⟨hnodup, hnodup', ?_⟩, fun r hr => ?_⟩
      · -- a name belongs to one number, and the later numbers are greater
        intro name hname hname'
        obtain ⟨r, hr, rfl⟩ := List.mem_map.mp hname
        obtain ⟨r', hr', hsame⟩ := List.mem_map.mp hname'
        have hfirst := hnumber r hr
        have hlater := hnumber' r' hr'
        rw [hsame] at hlater
        omega
      · rcases List.mem_append.mp hr with hr | hr
        · exact Nat.le_of_eq (hnumber r hr).symm
        · exact Nat.le_of_succ_le (hnumber' r hr)

/-! ## Any changes -/

variable {F : Files} {s : Storage}

/-- The working ranges are those of enabled and disabled files, and the ranges those
of some time. -/
structure Storage.Fine (F : Files) (s : Storage) : Prop where
  flags : s.disabled.length = F.lengths.length
  working : Laid F.piece_length F.lengths.length 0 0 F.lengths s.working_ranges
  ranges : ∃ ws, Laid F.piece_length F.lengths.length 0 0 F.lengths ws ∧ s.ranges = ws.flatten

theorem storage_fine (h : Reachable (storage F) s) : s.Fine F := by
  refine h.invariant (I := Storage.Fine F) ?_ ?_
  · rintro _ rfl
    have hstart := laid_start F.piece_length F.lengths.length 0 0 F.lengths
    exact ⟨List.length_replicate, hstart, _, hstart, rfl⟩
  · rintro s c s' hfine hstep
    cases c with
    | set_disabled f flag =>
      obtain rfl : s' = F.set_disabled s f flag := hstep
      unfold Files.set_disabled
      split
      · rename_i hflag
        have hf : f < F.lengths.length := by
          rw [← hfine.flags]
          exact (List.getElem?_eq_some_iff.mp hflag).1
        -- the flag changes which ranges the file has, and these tile the same part of the torrent
        have hset := laid_set hfine.working hf flag
        rw [Nat.zero_add] at hset
        refine ⟨?_, hset, hfine.ranges⟩
        rw [List.length_set]
        exact hfine.flags
      · exact hfine
    | reset =>
      obtain rfl : s' = s.reset := hstep
      exact ⟨hfine.flags, hfine.working, _, hfine.working, rfl⟩

/-- **In any reachable state the ranges tile the whole space**, and none is kept
where another is. -/
theorem ranges_tile (h : Reachable (storage F) s) (hpiece : 0 < F.piece_length) :
    ∃ stop, Tiles 0 stop s.ranges ∧ F.total_length ≤ stop ∧
      (s.ranges.map Range.file).Nodup := by
  obtain ⟨ws, hlaid, hranges⟩ := (storage_fine h).ranges
  obtain ⟨stop, htiles, hle⟩ := laid_tiles hpiece hlaid (Nat.zero_add _).symm
  rw [Nat.zero_add] at hle
  rw [hranges]
  exact ⟨stop, htiles, hle, (laid_files hlaid).1⟩

/-- **What has been written last is read**, whichever files are enabled, whatever was on the disk,
and however the writes lie over the files. -/
theorem read_written (h : Reachable (storage F) s) (hpiece : 0 < F.piece_length)
    (htotal : 0 < F.total_length) (disk : Disk) (writes : List (Nat × List UInt8))
    (hwrites : ∀ w ∈ writes, w.1 + w.2.length ≤ F.total_length) (pos : Nat)
    (data : List UInt8) (hpos : pos + data.length ≤ F.total_length)
    (hdata : ∀ k, k < data.length → latest writes (pos + k) = data[k]?) :
    ∃ disk', s.writes disk writes = some disk' ∧ s.read disk' pos data.length = some data := by
  obtain ⟨stop, htiles, hle, hfiles⟩ := ranges_tile h hpiece
  have hne : s.ranges ≠ [] := by
    intro hnil
    rw [hnil] at htiles
    have hstop : 0 = stop := htiles
    omega
  exact read_latest 0 disk (MAXREADSIZE - 1) htiles hne hfiles
    (fun w hw => ⟨Nat.zero_le _, Nat.le_trans (hwrites w hw) hle⟩) (Nat.zero_le _)
    (Nat.le_trans hpos hle) hdata

/-- Four files, one of them empty, in three pieces; the third file is not wanted. -/
def fourFiles : Files := ⟨[3, 0, 5, 2], 4⟩

def thirdDisabled : Storage := (fourFiles.set_disabled fourFiles.init 2 true).reset

theorem thirdDisabled_reachable : Reachable (storage fourFiles) thirdDisabled := by
  have hstart : Reachable (storage fourFiles) fourFiles.init := .start rfl
  have hdisabled : Reachable (storage fourFiles) (fourFiles.set_disabled fourFiles.init 2 true) :=
    hstart.step (a := .set_disabled 2 true) rfl
  exact hdisabled.step (a := .reset) rfl

theorem read_written_thirdDisabled :
    ∃ disk', thirdDisabled.writes (fun _ => []) [(1, [1, 2, 3, 4]), (3, [9])] = some disk' ∧
      thirdDisabled.read disk' 1 4 = some [1, 2, 9, 4] :=
  read_written thirdDisabled_reachable (by decide) (by decide) (fun _ => [])
    [(1, [1, 2, 3, 4]), (3, [9])] (by decide) 1 [1, 2, 9, 4] (by decide) (by decide)

end VirtCore.Torrent
