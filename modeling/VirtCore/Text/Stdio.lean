import Mathlib.Data.List.TakeWhile
import Mathlib.Tactic.ByContra
import Mathlib.Algebra.Ring.Int.Defs
import Mathlib.Algebra.Ring.Nat

/-!
# Stdio — lines and decimal numbers

The two functions of the C library with which a program takes a number off a stream: `fgets`, which
stores a part of a line, and `atoi`, which reads the digits in front.

* **`line` / `fgets`** — at most so many characters, up to the first line feed.
* **`fgets_terminated`** — of one terminated line, as many characters as are asked for.
* **`atoi`** — with blanks and a sign before the digits, and the limits of `strtol` and `int`.
* **`atoi_toDigits`** — of the decimal text of a number, with anything but a digit after it.
-/

namespace Stdio

/-! ## Lines -/

/-- The first `n` characters, but none after the first line feed. -/
def line : Nat → List Char → List Char
  | 0, _ => []
  | _, [] => []
  | n + 1, c :: cs => if c = '\n' then [c] else c :: line n cs

/-- `fgets(buf, n, fp)` stores up to `n - 1` characters, and nothing at the end of the stream. -/
def fgets (n : Nat) (fp : List Char) : Option (List Char) :=
  if fp = [] then none else some (line (n - 1) fp)

/-- Nothing is cut at the line feed that ends a line. -/
theorem line_terminated {s : List Char} (hs : '\n' ∉ s) (n : Nat) :
    line n (s ++ ['\n']) = (s ++ ['\n']).take n := by
  induction s generalizing n with
  | nil => cases n <;> simp [line]
  | cons c s ih =>
    have hc : c ≠ '\n' := fun h => hs (h ▸ List.mem_cons_self)
    have hrest : '\n' ∉ s := fun h => hs (List.mem_cons_of_mem c h)
    cases n with
    | zero => rfl
    | succ n =>
      rw [List.cons_append, line, if_neg hc, ih hrest, List.take_succ_cons]

theorem fgets_nil (n : Nat) : fgets n [] = none := rfl

theorem fgets_terminated {s : List Char} (hs : '\n' ∉ s) (n : Nat) :
    fgets n (s ++ ['\n']) = some ((s ++ ['\n']).take (n - 1)) := by
  rw [fgets, if_neg (by simp), line_terminated hs]

/-! ## Decimal numbers -/

/-- `strtol` stops at the limits of `long`, and `atoi` keeps the low half of it. -/
def toInt (n : Int) : Int := (max (-2 ^ 63) (min (2 ^ 63 - 1) n)).bmod (2 ^ 32)

/-- The number that the digits in front write; zero where there is none. -/
def digits (s : List Char) : Nat := Nat.ofDigitChars 10 (s.takeWhile Char.isDigit) 0

/-- `atoi(s)`. -/
def atoi (s : List Char) : Int :=
  match s.dropWhile Char.isWhitespace with
  | '-' :: cs => toInt (-digits cs)
  | '+' :: cs => toInt (digits cs)
  | cs => toInt (digits cs)

theorem toInt_of_lt {n : Nat} (hn : n < 2 ^ 31) : toInt n = n := by
  have hmin : min (2 ^ 63 - 1) (n : Int) = n := by omega
  have hmax : max (-2 ^ 63) (n : Int) = n := by omega
  rw [toInt, hmin, hmax]
  exact Int.bmod_eq_of_le (by omega) (by omega)

theorem isDigit_of_mem {n : Nat} {c : Char} (hc : c ∈ Nat.toDigits 10 n) : c.isDigit = true :=
  Nat.isDigit_of_mem_toDigits (by decide) (by decide) hc

/-- The digits of a number are read to their end. -/
theorem digits_toDigits {n : Nat} {rest : List Char}
    (hrest : ∀ c ∈ rest.head?, c.isDigit = false) : digits (Nat.toDigits 10 n ++ rest) = n := by
  have hstop : rest.takeWhile Char.isDigit = [] := by
    cases rest with
    | nil => rfl
    | cons c cs => exact List.takeWhile_cons_of_neg (by simp [hrest c rfl])
  rw [digits, List.takeWhile_append_of_pos fun c => isDigit_of_mem, hstop, List.append_nil]
  exact Nat.ofDigitChars_ten_toDigits

theorem atoi_toDigits {n : Nat} (hn : n < 2 ^ 31) {rest : List Char}
    (hrest : ∀ c ∈ rest.head?, c.isDigit = false) : atoi (Nat.toDigits 10 n ++ rest) = n := by
  obtain ⟨d, ds, hds⟩ := List.exists_cons_of_ne_nil (Nat.toDigits_ne_nil (n := n) (b := 10))
  have hdigit : d.isDigit = true := isDigit_of_mem (n := n) (by rw [hds]; exact List.mem_cons_self)
  have hread := digits_toDigits hrest (n := n)
  -- a digit is neither a blank nor a sign
  have hblank : d.isWhitespace = false := by
    by_contra h
    simp only [Bool.not_eq_false, Char.isWhitespace, Bool.or_eq_true, decide_eq_true_eq] at h
    rcases h with ((rfl | rfl) | rfl) | rfl <;> exact absurd hdigit (by decide)
  rw [hds, List.cons_append] at hread ⊢
  rw [atoi, List.dropWhile_cons_of_neg (by simp [hblank])]
  split
  · rename_i h
    obtain ⟨rfl, -⟩ := List.cons.inj h
    exact absurd hdigit (by decide)
  · rename_i h
    obtain ⟨rfl, -⟩ := List.cons.inj h
    exact absurd hdigit (by decide)
  · rw [hread, toInt_of_lt hn]

end Stdio
