import Mathlib.Data.List.Basic
import Mathlib.Tactic.SplitIfs
import Mathlib.Algebra.Ring.Int.Defs
import Mathlib.Algebra.Ring.Nat

/-!
# VirtCore — `bitfield.py`

The pieces that a peer has, as a list of booleans and as the string of a message.

* **`lookup_table`** / **`reverse_lookup_table`** — eight booleans for a character.
* **`Bitfield`** — the booleans, and how many of them are false.
* **`Bitfield.init_iff`** — a string is accepted where it is what a bitfield is turned into.
* **`Bitfield.run_valid`** — the count is right after any run of assignments.
-/

namespace VirtCore.BitTornado

/-- A `str` of Python. -/
abbrev Str : Type := List UInt8

/-! ## The tables

Eight booleans are one character, and there is a table for each direction. -/

/-- The loop of `_int_to_booleans`. -/
def booleans : Nat → Nat → List Bool
  | 0, _ => []
  | n + 1, x => decide (x &&& 0x80 ≠ 0) :: booleans n (x <<< 1)

/-- The bits of a number, the highest first. -/
def int_to_booleans (x : Nat) : List Bool := booleans 8 x

/-- The booleans of a character. -/
def lookup_table (c : UInt8) : List Bool := int_to_booleans c.toNat

/-- Every eight booleans are in the table. -/
def reverse_lookup_table (x : List Bool) : UInt8 :=
  (((List.range 256).find? fun i => int_to_booleans i = x).map UInt8.ofNat).getD 0

/-- The number that booleans stand for, the highest first. -/
def number (x : List Bool) : Nat := x.foldl (fun n b => 2 * n + b.toNat) 0

/-- As many as were asked for. -/
theorem booleans_length (n x : Nat) : (booleans n x).length = n := by
  induction n generalizing x with
  | zero => rfl
  | succ n ih => rw [booleans, List.length_cons, ih]

/-- Eight for a character. -/
theorem lookup_length (c : UInt8) : (lookup_table c).length = 8 := booleans_length 8 c.toNat

/-- The bits of a number make it again. -/
theorem number_int_to_booleans : ∀ i < 256, number (int_to_booleans i) = i := by
  decide +kernel

/-- And eight booleans are the bits of the number that they make. -/
theorem int_to_booleans_number : ∀ a b c d e f g h : Bool,
    int_to_booleans (number [a, b, c, d, e, f, g, h]) = [a, b, c, d, e, f, g, h] ∧
      number [a, b, c, d, e, f, g, h] < 256 := by
  decide +kernel

/-- Eight booleans, one by one. -/
theorem eight {x : List Bool} (hx : x.length = 8) :
    ∃ a b c d e f g h, x = [a, b, c, d, e, f, g, h] := by
  match x, hx with
  | [a, b, c, d, e, f, g, h], _ => exact ⟨a, b, c, d, e, f, g, h, rfl⟩

/-- The tables are inverse to each other. -/
theorem lookup_reverse {x : List Bool} (hx : x.length = 8) :
    lookup_table (reverse_lookup_table x) = x := by
  obtain ⟨a, b, c, d, e, f, g, h, rfl⟩ := eight hx
  obtain ⟨hnumber, hlt⟩ := int_to_booleans_number a b c d e f g h
  generalize hx' : [a, b, c, d, e, f, g, h] = x at hnumber hlt
  have hfind : (List.range 256).find? (fun i => int_to_booleans i = x) = some (number x) := by
    have hsome : ((List.range 256).find? fun i => int_to_booleans i = x).isSome := by
      rw [List.find?_isSome]
      exact ⟨number x, List.mem_range.mpr hlt, decide_eq_true hnumber⟩
    obtain ⟨i, hi⟩ := Option.isSome_iff_exists.mp hsome
    have hmem := List.mem_range.mp (List.mem_of_find?_eq_some hi)
    have hsame : int_to_booleans i = x := by simpa using List.find?_some hi
    rw [hi, ← hsame, number_int_to_booleans i hmem]
  rw [lookup_table, reverse_lookup_table, hfind, Option.map_some, Option.getD_some,
    UInt8.toNat_ofNat', Nat.mod_eq_of_lt hlt, hnumber]

/-- Two characters with the same bits are one. -/
theorem lookup_injective {c d : UInt8} (h : lookup_table c = lookup_table d) : c = d := by
  have hnumber := congrArg number h
  rw [lookup_table, lookup_table, number_int_to_booleans _ c.toNat_lt,
    number_int_to_booleans _ d.toNat_lt] at hnumber
  exact UInt8.toNat_inj.mp hnumber

/-! ## Strings of booleans

A string has the booleans of its characters, one after the other. -/

/-- The booleans of a string. -/
def unpack (s : Str) : List Bool := s.flatMap lookup_table

/-- Eight times as many as characters. -/
theorem unpack_length (s : Str) : (unpack s).length = 8 * s.length := by
  induction s with
  | nil => rfl
  | cons c s ih =>
    rw [unpack, List.flatMap_cons, List.length_append, lookup_length, List.length_cons]
    unfold unpack at ih
    omega

/-- Which determine it. -/
theorem unpack_injective {a b : Str} (h : unpack a = unpack b) : a = b := by
  induction a generalizing b with
  | nil =>
    have hlength := congrArg List.length h
    rw [unpack_length, unpack_length, List.length_nil] at hlength
    exact (List.length_eq_zero_iff.mp (by omega)).symm
  | cons c a ih =>
    cases b with
    | nil =>
      have hlength := congrArg List.length h
      rw [unpack_length, unpack_length, List.length_nil, List.length_cons] at hlength
      omega
    | cons d b =>
      have h : lookup_table c ++ unpack a = lookup_table d ++ unpack b := h
      have hlengths : (lookup_table c).length = (lookup_table d).length := by
        rw [lookup_length, lookup_length]
      obtain ⟨hc, ha⟩ := List.append_inj h hlengths
      rw [lookup_injective hc, ih ha]

/-! ## The bitfield

Indices are those of Python, so that a negative one counts from the end. An index that is out of
range raises an exception. -/

/-- The pieces of a peer. -/
structure Bitfield where
  length : Nat
  array : List Bool
  numfalse : Int
  deriving DecidableEq

namespace Bitfield

/-- How many are false. -/
def negsum (a : List Bool) : Int := a.length - (a.map Bool.toInt).sum

/-- `none` stands for a `ValueError`. -/
def init (length : Nat) (bitstring : Option Str) : Option Bitfield :=
  match bitstring with
  | none => some ⟨length, List.replicate length false, length⟩
  | some s =>
    let extra : Int := s.length * 8 - length
    if extra < 0 ∨ extra ≥ 8 then none
    else
      let r := unpack s
      if extra > 0 then
        let kept := r.length - extra.toNat
        if r.drop kept ≠ List.replicate extra.toNat false then none
        else some ⟨length, r.take kept, negsum (r.take kept)⟩
      else some ⟨length, r, negsum r⟩

/-- The position that an index stands for; `none` is an `IndexError`. -/
def position (b : Bitfield) (index : Int) : Option Nat :=
  if 0 ≤ index then if index < b.array.length then some index.toNat else none
  else if 0 ≤ index + b.array.length then some (index + b.array.length).toNat
  else none

/-- An assignment moves the count with the value. -/
def setitem (b : Bitfield) (index : Int) (val : Bool) : Option Bitfield := do
  let i ← b.position index
  return { b with
    numfalse := b.numfalse + ((b.array.getD i false).toInt - val.toInt)
    array := b.array.set i val }

/-- Whether the peer has a piece. -/
def getitem (b : Bitfield) (index : Int) : Option Bool := do
  let i ← b.position index
  b.array[i]?

/-- The booleans in characters, the last of which is filled up with zeros. -/
def tostring (b : Bitfield) : Str :=
  let s := b.array.length % 8
  (List.range ((b.array.length - s) / 8)).map (fun k =>
      reverse_lookup_table ((b.array.drop (8 * k)).take 8)) ++
    if s ≠ 0 then
      [reverse_lookup_table (b.array.drop (b.array.length - s) ++ List.replicate (8 - s) false)]
    else []

/-- Whether none is false. -/
def complete (b : Bitfield) : Bool := b.numfalse = 0

/-- The array is as long as it should be, and its false members have been counted. -/
structure Valid (b : Bitfield) : Prop where
  length : b.array.length = b.length
  numfalse : b.numfalse = b.array.count false

/-! ## Turning it into a string

All characters but the last are full. The last has the rest of the booleans, and zeros behind
them. -/

/-- How many booleans are added to the last character. -/
def padding (n : Nat) : Nat := if n % 8 = 0 then 0 else 8 - n % 8

/-- The full characters. -/
theorem unpack_whole (array : List Bool) (n : Nat) (hn : 8 * n ≤ array.length) :
    unpack ((List.range n).map fun k => reverse_lookup_table ((array.drop (8 * k)).take 8)) =
      array.take (8 * n) := by
  -- by the characters that are whole
  induction n with
  | zero => rfl
  | succ n ih =>
    have hlength : ((array.drop (8 * n)).take 8).length = 8 := by
      rw [List.length_take, List.length_drop]
      omega
    have hlast : unpack [reverse_lookup_table ((array.drop (8 * n)).take 8)] =
        (array.drop (8 * n)).take 8 := by
      rw [unpack, List.flatMap_singleton, lookup_reverse hlength]
    rw [List.range_succ, List.map_append, List.map_singleton, unpack, List.flatMap_append]
    show unpack _ ++ unpack _ = _
    rw [ih (by omega), hlast, Nat.mul_succ, List.take_add]

/-- The string has the booleans, and false ones behind them. -/
theorem unpack_tostring (b : Bitfield) :
    unpack b.tostring = b.array ++ List.replicate (padding b.array.length) false := by
  have hwhole := unpack_whole b.array ((b.array.length - b.array.length % 8) / 8) (by omega)
  have height : 8 * ((b.array.length - b.array.length % 8) / 8) =
      b.array.length - b.array.length % 8 := by omega
  rw [height] at hwhole
  rw [tostring, padding]
  by_cases hs : b.array.length % 8 = 0
  · rw [if_neg (not_not.mpr hs), if_pos hs, List.append_nil, hwhole, hs, Nat.sub_zero,
      List.take_length, List.replicate_zero, List.append_nil]
  · have hlength : (b.array.drop (b.array.length - b.array.length % 8) ++
        List.replicate (8 - b.array.length % 8) false).length = 8 := by
      rw [List.length_append, List.length_drop, List.length_replicate]
      omega
    rw [if_pos hs, if_neg hs, unpack, List.flatMap_append, List.flatMap_singleton,
      lookup_reverse hlength]
    show unpack _ ++ _ = _
    rw [hwhole, ← List.append_assoc, List.take_append_drop]

/-! ## Reading it back

Where the zeros behind the last boolean are in place, the string and the booleans determine each
other. -/

/-- The sum counts. -/
theorem negsum_eq (a : List Bool) : negsum a = a.count false := by
  induction a with
  | nil => rfl
  | cons b a ih =>
    unfold negsum at ih ⊢
    cases b with
    | true =>
      rw [List.count_cons_of_ne (by decide), List.map_cons, List.sum_cons, List.length_cons, ← ih]
      simp only [Bool.toInt_true]
      omega
    | false =>
      rw [List.count_cons_self, List.map_cons, List.sum_cons, List.length_cons]
      simp only [Bool.toInt_false]
      omega

/-- Less than a character. -/
theorem padding_lt (n : Nat) : padding n < 8 := by
  unfold padding
  split <;> omega

/-- A bitfield is read back from its string. -/
theorem init_tostring {b : Bitfield} (hb : b.Valid) : init b.length (some b.tostring) = some b := by
  obtain ⟨length, array, numfalse⟩ := b
  obtain ⟨hlength, hfalse⟩ := hb
  dsimp only at hlength hfalse
  subst hlength hfalse
  have hunpack := unpack_tostring ⟨array.length, array, array.count false⟩
  have hcount := congrArg List.length hunpack
  rw [unpack_length, List.length_append, List.length_replicate] at hcount
  dsimp only at hunpack hcount
  have hpad := padding_lt array.length
  unfold init
  simp only [hunpack]
  rw [if_neg (by omega)]
  -- there is padding, or the last character is whole
  by_cases hextra : padding array.length = 0
  · rw [if_neg (by omega), hextra, List.replicate_zero, List.append_nil, negsum_eq]
  · have hnat : (((tostring ⟨array.length, array, array.count false⟩).length : Int) * 8 -
        array.length).toNat = padding array.length := by omega
    have hkept : (array ++ List.replicate (padding array.length) false).length -
        padding array.length = array.length := by
      rw [List.length_append, List.length_replicate]
      omega
    rw [if_pos (by omega), hnat, hkept, List.drop_left, List.take_left, if_neg (by simp), negsum_eq]

/-- What is read is valid, and is written back as it was. -/
theorem init_valid {length : Nat} {s : Str} {b : Bitfield} (h : init length (some s) = some b) :
    b.Valid ∧ b.length = length ∧ b.tostring = s := by
  unfold init at h
  have hcount := unpack_length s
  dsimp only at h
  split_ifs at h with hrange hextra hzero
  · obtain rfl := Option.some.inj h
    -- what is read past the length has been compared with false members
    have hkept :
      ((unpack s).take ((unpack s).length - ((s.length : Int) * 8 - length).toNat)).length
        = length := by
      rw [List.length_take]
      omega
    refine ⟨⟨hkept, negsum_eq _⟩, rfl, ?_⟩
    have hpad : padding length = ((s.length : Int) * 8 - length).toNat := by
      unfold padding
      split <;> omega
    refine unpack_injective ?_
    rw [unpack_tostring, hkept, hpad, ← not_not.mp hzero, List.take_append_drop]
  · obtain rfl := Option.some.inj h
    have hlength : (unpack s).length = length := by omega
    refine ⟨⟨hlength, negsum_eq _⟩, rfl, ?_⟩
    have hpad : padding length = 0 := by
      unfold padding
      split <;> omega
    refine unpack_injective ?_
    rw [unpack_tostring, hlength, hpad, List.replicate_zero, List.append_nil]

/-- **A string is accepted where a bitfield of that length is turned into it**, and as that one. -/
theorem init_iff {length : Nat} {s : Str} {b : Bitfield} :
    init length (some s) = some b ↔ b.Valid ∧ b.length = length ∧ b.tostring = s := by
  constructor
  · exact init_valid
  · rintro ⟨hb, rfl, rfl⟩
    exact init_tostring hb

/-! ## Assignments

Each changes one boolean, and the count with it. -/

/-- An index in range is a place in the list. -/
theorem position_lt {b : Bitfield} {index : Int} {i : Nat} (h : b.position index = some i) :
    i < b.array.length := by
  unfold position at h
  split_ifs at h
  · obtain rfl := Option.some.inj h
    omega
  · obtain rfl := Option.some.inj h
    omega

/-- The count is kept up. -/
theorem setitem_valid {b b' : Bitfield} {index : Int} {val : Bool} (hb : b.Valid)
    (h : b.setitem index val = some b') : b'.Valid ∧ b'.length = b.length := by
  obtain ⟨i, hi, h⟩ := Option.bind_eq_some_iff.mp h
  obtain rfl := Option.some.inj h
  have hlt := position_lt hi
  obtain ⟨hlength, hfalse⟩ := hb
  refine ⟨⟨?_, ?_⟩, rfl⟩
  · show (b.array.set i val).length = b.length
    rw [List.length_set, hlength]
  · have hget : b.array.getD i false = b.array[i] := by
      rw [List.getD_eq_getElem?_getD, List.getElem?_eq_getElem hlt, Option.getD_some]
    show b.numfalse + ((b.array.getD i false).toInt - val.toInt) = _
    rw [hfalse, hget, List.count_set hlt]
    have hpos : b.array[i] = false → 0 < b.array.count false := fun h =>
      List.count_pos_iff.mpr (h ▸ List.getElem_mem hlt)
    -- what was there and what is assigned each count if false
    cases hold : b.array[i] with
    | true => cases val <;> simp
    | false =>
      have hpos := hpos hold
      cases val
      · simp
        omega
      · simp
        omega

/-- Assignments in a row; one that fails changes nothing. -/
def run (b : Bitfield) (writes : List (Int × Bool)) : Bitfield :=
  writes.foldl (fun b w => (b.setitem w.1 w.2).getD b) b

/-- Any number of them. -/
theorem run_valid {b : Bitfield} (hb : b.Valid) (writes : List (Int × Bool)) :
    (b.run writes).Valid ∧ (b.run writes).length = b.length := by
  induction writes generalizing b with
  | nil => exact ⟨hb, rfl⟩
  | cons w writes ih =>
    show (run ((b.setitem w.1 w.2).getD b) writes).Valid ∧
      (run ((b.setitem w.1 w.2).getD b) writes).length = b.length
    cases hset : b.setitem w.1 w.2 with
    | none => exact ih hb
    | some b' =>
      obtain ⟨hvalid, hlength⟩ := setitem_valid hb hset
      obtain ⟨hrun, hsame⟩ := ih hvalid
      exact ⟨hrun, hsame.trans hlength⟩

/-- Without a string, nothing is there yet. -/
theorem init_none_valid (length : Nat) : ∃ b, init length none = some b ∧ b.Valid := by
  refine ⟨_, rfl, List.length_replicate, ?_⟩
  show (length : Int) = _
  rw [List.count_replicate_self]

/-- A valid bitfield is complete where every member is true. -/
theorem complete_iff {b : Bitfield} (hb : b.Valid) :
    b.complete = true ↔ ∀ x ∈ b.array, x = true := by
  rw [complete, decide_eq_true_iff, hb.numfalse]
  constructor
  · intro hzero x hx
    cases x with
    | true => rfl
    | false =>
      have hpos := List.count_pos_iff.mpr hx
      omega
  · intro hall
    have hnone : b.array.count false = 0 :=
      List.count_eq_zero.mpr fun hmem => Bool.noConfusion (hall false hmem)
    omega

/-- **After any run of assignments** a bitfield is complete exactly where all its members are true,
and its string is read back as what it has become. -/
theorem run_complete_iff (length : Nat) (writes : List (Int × Bool)) :
    ∃ start, init length none = some start ∧
      ((start.run writes).complete = true ↔ ∀ x ∈ (start.run writes).array, x = true) ∧
      init length (some (start.run writes).tostring) = some (start.run writes) := by
  obtain ⟨start, hstart, hvalid⟩ := init_none_valid length
  obtain ⟨hrun, hlength⟩ := run_valid hvalid writes
  have hstartLength : start.length = length := by
    obtain rfl := Option.some.inj hstart
    rfl
  refine ⟨start, hstart, complete_iff hrun, ?_⟩
  have hback := init_tostring hrun
  rw [hlength, hstartLength] at hback
  exact hback

end Bitfield

end VirtCore.BitTornado
