import Mathlib.Data.List.TakeWhile
import Mathlib.Data.Nat.Digits.Lemmas

/-!
# PyString — strings of Python 2

A string is a list of characters. An index may be negative, and then counts from the end.

* **`index`** / **`getitem`** / **`slice`** — `s.index(c, f)`, `s[f]` and `s[a:b]`.
* **`str`** / **`long`** — the decimal text of a number, and the number of a text.
* **`long_str`** — one after the other.
-/

namespace PyString

abbrev Str : Type := List UInt8

/-! ## Places in a string -/

/-- `s.index(c, f)`; `none` raises a `ValueError`. -/
def index (s : Str) (c : UInt8) (f : Int) : Option Int :=
  let start := if f < 0 then (f + s.length).toNat else f.toNat
  ((s.drop start).findIdx? (· = c)).map fun i => (start + i : Nat)

/-- `s[f]`; `none` raises an `IndexError`. -/
def getitem (s : Str) (f : Int) : Option UInt8 :=
  let i := if f < 0 then f + s.length else f
  if i < 0 then none else s[i.toNat]?

/-- Where a slice begins or ends. -/
def bound (s : Str) (f : Int) : Nat :=
  min (if f < 0 then f + s.length else f).toNat s.length

/-- `s[a:b]`. -/
def slice (s : Str) (a b : Int) : Str := (s.drop (bound s a)).take (bound s b - bound s a)

variable {before s rest : Str} {c : UInt8}

theorem index_append (h : c ∉ s) :
    index (before ++ (s ++ c :: rest)) c before.length =
      some ((before.length + s.length : Nat) : Int) := by
  have hfind : (s ++ c :: rest).findIdx? (· = c) = some s.length := by
    rw [List.findIdx?_append, List.findIdx?_eq_none_iff.mpr]
    · rw [List.findIdx?_cons, if_pos (decide_eq_true rfl)]
      simp
    · intro x hx
      exact decide_eq_false fun hsame => h (hsame ▸ hx)
  unfold index
  dsimp only
  rw [if_neg (by omega), Int.toNat_natCast, List.drop_left, hfind]
  rfl

theorem getitem_append : getitem (before ++ c :: rest) before.length = some c := by
  unfold getitem
  dsimp only
  rw [if_neg (by omega), if_neg (by omega), Int.toNat_natCast,
    List.getElem?_append_right (Nat.le_refl _), Nat.sub_self]
  rfl

theorem slice_append :
    slice (before ++ (s ++ rest)) before.length (before.length + s.length : Nat) = s := by
  have hbound {n : Nat} (hn : n ≤ (before ++ (s ++ rest)).length) :
      bound (before ++ (s ++ rest)) n = n := by
    rw [bound, if_neg (by omega), Int.toNat_natCast, Nat.min_eq_left hn]
  rw [slice, hbound (by simp), hbound (by simp), List.drop_left, Nat.add_sub_cancel_left,
    List.take_left]

/-! ## Numbers -/

/-- The decimal digits of a number. -/
def digits (n : Nat) : Str :=
  if n = 0 then [48] else (Nat.digits 10 n).reverse.map fun d => UInt8.ofNat (48 + d)

/-- `str(n)`. -/
def str : Int → Str
  | .ofNat n => digits n
  | .negSucc n => 45 :: digits (n + 1)

def isDigit (c : UInt8) : Bool := 48 ≤ c.toNat && c.toNat ≤ 57

def isSpace (c : UInt8) : Bool := c = 32 || (9 ≤ c.toNat && c.toNat ≤ 13)

/-- Digits, and what may come after them: an `L`, and blanks. -/
def number (s : Str) : Option Nat :=
  let ds := s.takeWhile isDigit
  let rest := s.dropWhile isDigit
  let rest := if rest.head? = some 76 ∨ rest.head? = some 108 then rest.tail else rest
  if ds ≠ [] ∧ rest.all isSpace then some (ds.foldl (fun n c => 10 * n + (c.toNat - 48)) 0)
  else none

/-- `int(s)`, or `long(s)` where that raises an exception; `none` raises a `ValueError`. -/
def long (s : Str) : Option Int :=
  match s.dropWhile isSpace with
  | 43 :: s => (number (s.dropWhile isSpace)).map (·)
  | 45 :: s => (number (s.dropWhile isSpace)).map (-·)
  | s => (number s).map (·)

theorem digit_toNat {d : Nat} (hd : d < 10) : (UInt8.ofNat (48 + d)).toNat = 48 + d := by
  rw [UInt8.toNat_ofNat', Nat.mod_eq_of_lt (by omega)]

theorem digits_ne_nil (n : Nat) : digits n ≠ [] := by
  unfold digits
  split
  · exact List.cons_ne_nil _ _
  · rename_i hn
    rw [Ne, List.map_eq_nil_iff, List.reverse_eq_nil_iff]
    exact Nat.digits_ne_nil_iff_ne_zero.mpr hn

theorem digits_isDigit {n : Nat} (hc : c ∈ digits n) : isDigit c = true := by
  unfold digits at hc
  split at hc
  · obtain rfl := List.mem_singleton.mp hc
    rfl
  · obtain ⟨d, hd, rfl⟩ := List.mem_map.mp hc
    have hlt := Nat.digits_lt_base (by decide) (List.mem_reverse.mp hd)
    unfold isDigit
    rw [digit_toNat hlt]
    simp
    omega

/-- Only zero begins with a zero. -/
theorem digits_head {n : Nat} (h : (digits n).head? = some 48) : digits n = [48] := by
  unfold digits at h ⊢
  split at h
  · rename_i hn
    rw [if_pos hn]
  · rename_i hn
    have hne : Nat.digits 10 n ≠ [] := Nat.digits_ne_nil_iff_ne_zero.mpr hn
    have hlast := Nat.getLast_digit_ne_zero 10 hn
    have hmem := List.getLast_mem hne
    have hlt := Nat.digits_lt_base (by decide) hmem
    rw [List.head?_map, List.head?_reverse, List.getLast?_eq_some_getLast hne, Option.map_some] at h
    have hsame := congrArg UInt8.toNat (Option.some.inj h)
    rw [digit_toNat hlt] at hsame
    have hzero : (48 : UInt8).toNat = 48 := rfl
    omega

/-- The digits of a number, read from the front. -/
theorem digits_value (n : Nat) :
    (digits n).foldl (fun n c => 10 * n + (c.toNat - 48)) 0 = n := by
  unfold digits
  split
  · rename_i hn
    rw [hn]
    rfl
  · rw [List.foldl_map, List.foldl_reverse]
    have hfold (l : List Nat) (hl : ∀ d ∈ l, d < 10) :
        l.foldr (fun d n => 10 * n + ((UInt8.ofNat (48 + d)).toNat - 48)) 0 =
          Nat.ofDigits 10 l := by
      induction l with
      | nil => rfl
      | cons d l ih =>
        rw [List.foldr_cons, ih fun x hx => hl x (List.mem_cons_of_mem _ hx), Nat.ofDigits_cons,
          digit_toNat (hl d List.mem_cons_self)]
        omega
    rw [hfold _ fun d hd => Nat.digits_lt_base (by decide) hd, Nat.ofDigits_digits]

theorem number_digits (n : Nat) : number (digits n) = some n := by
  have hall : ∀ c ∈ digits n, isDigit c = true := fun c hc => digits_isDigit hc
  unfold number
  dsimp only
  rw [List.takeWhile_eq_self_iff.mpr hall, List.dropWhile_eq_nil_iff.mpr hall,
    if_pos ⟨digits_ne_nil n, rfl⟩, digits_value]

theorem isSpace_of_isDigit (h : isDigit c = true) :
    isSpace c = false ∧ c ≠ 43 ∧ c ≠ 45 := by
  unfold isDigit at h
  rw [Bool.and_eq_true, decide_eq_true_iff, decide_eq_true_iff] at h
  have hnot (x : UInt8) (hx : x.toNat < 48) : c ≠ x := fun hsame => by
    rw [hsame] at h
    omega
  refine ⟨?_, hnot 43 (by decide), hnot 45 (by decide)⟩
  unfold isSpace
  rw [decide_eq_false (hnot 32 (by decide)), Bool.false_or]
  simp
  omega

/-- **The number of its decimal text.** -/
theorem long_str (n : Int) : long (str n) = some n := by
  -- a number without a sign starts with a digit, which is no blank and no sign
  have hpositive (n : Nat) : long (digits n) = some (n : Int) := by
    obtain ⟨c, s, hs⟩ := List.exists_cons_of_ne_nil (digits_ne_nil n)
    obtain ⟨hspace, hplus, hminus⟩ :=
      isSpace_of_isDigit (digits_isDigit (n := n) (c := c) (by rw [hs]; exact List.mem_cons_self))
    have hdrop : (digits n).dropWhile isSpace = digits n := by
      rw [hs, List.dropWhile_cons, hspace]
      rfl
    have hread := number_digits n
    unfold long
    rw [hdrop]
    rw [hs] at hread ⊢
    split
    · rename_i heq
      exact absurd (List.cons.inj heq).1 hplus
    · rename_i heq
      exact absurd (List.cons.inj heq).1 hminus
    · rw [hread]
      rfl
  cases n with
  | ofNat n => exact hpositive n
  | negSucc n =>
    obtain ⟨c, s, hs⟩ := List.exists_cons_of_ne_nil (digits_ne_nil (n + 1))
    obtain ⟨hspace, -, -⟩ := isSpace_of_isDigit
      (digits_isDigit (n := n + 1) (c := c) (by rw [hs]; exact List.mem_cons_self))
    have hdrop : (digits (n + 1)).dropWhile isSpace = digits (n + 1) := by
      rw [hs, List.dropWhile_cons, hspace]
      rfl
    show (number ((digits (n + 1)).dropWhile isSpace)).map (fun n => -(n : Int)) = _
    rw [hdrop, number_digits]
    rfl

end PyString
