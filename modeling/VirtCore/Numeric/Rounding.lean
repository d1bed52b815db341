import Mathlib.Data.Nat.Log
import Mathlib.Tactic.Linarith
import Mathlib.Tactic.Ring

/-!
# Rounding — natural numbers to so many digits

A natural number is converted to floating point by rounding it to a number of binary digits, and
shown by rounding that to a number of decimal digits.

* **`roundTo`** — the nearest multiple of a unit, of two the even one.
* **`significant`** — a number rounded to `p` digits in base `b`.
* **`Short`** — the numbers with at most `p` digits before their zeros, which it leaves alone.
* **`decimal_of_binary`** — a short decimal number survives on its way through 53 binary digits.
-/

namespace Rounding

/-! ## Multiples of a unit

Rounding to the nearest, and to the even one of two that are equally near. -/

/-- The multiple of `u` that is nearest to `n`. -/
def roundTo (u n : Nat) : Nat :=
  if 2 * (n % u) < u then n / u * u
  else if u < 2 * (n % u) then (n / u + 1) * u
  else if n / u % 2 = 0 then n / u * u
  else (n / u + 1) * u

/-- A multiple that is nearer than half a unit is the nearest. -/
theorem roundTo_eq {u n m : Nat} (hu : 0 < u) (hm : u ∣ m) (hlow : 2 * (n - m) < u)
    (hhigh : 2 * (m - n) < u) : roundTo u n = m := by
  obtain ⟨k, rfl⟩ := hm
  have hn := Nat.div_add_mod n u
  have hmod := Nat.mod_lt n hu
  rcases Nat.lt_or_ge n (u * k) with hlt | hge
  · -- `n` lies in the unit below
    obtain ⟨k, rfl⟩ := Nat.exists_eq_succ_of_ne_zero
      (show k ≠ 0 by rintro rfl; exact absurd hlt (Nat.not_lt_zero n))
    have hdiv : n / u = k := by
      apply Nat.div_eq_of_lt_le
      · rw [Nat.mul_succ] at hhigh
        rw [Nat.mul_comm]
        omega
      · rw [Nat.mul_comm]
        exact hlt
    rw [hdiv] at hn
    rw [Nat.mul_succ] at hlt hhigh
    rw [roundTo, if_neg (by omega), if_pos (by omega), hdiv, Nat.mul_comm]
  · have hdiv : n / u = k := by
      apply Nat.div_eq_of_lt_le
      · rw [Nat.mul_comm]
        exact hge
      · rw [Nat.succ_mul, Nat.mul_comm]
        omega
    rw [hdiv] at hn
    rw [roundTo, if_pos (by omega), hdiv, Nat.mul_comm]

theorem roundTo_of_dvd {u n : Nat} (hu : 0 < u) (h : u ∣ n) : roundTo u n = n :=
  roundTo_eq hu h (by omega) (by omega)

/-- The nearest multiple is no more than half a unit away. -/
theorem roundTo_near {u : Nat} (hu : 0 < u) (n : Nat) :
    2 * (roundTo u n - n) ≤ u ∧ 2 * (n - roundTo u n) ≤ u := by
  have hn := Nat.div_add_mod n u
  have hmod := Nat.mod_lt n hu
  rw [Nat.mul_comm] at hn
  unfold roundTo
  have hnext : (n / u + 1) * u = n / u * u + u := Nat.add_one_mul _ _
  rw [hnext]
  split_ifs <;> omega

/-- The nearest multiple: the next one below or above. -/
theorem roundTo_mul (u n : Nat) : ∃ k, roundTo u n = k * u ∧ k ≤ n / u + 1 := by
  unfold roundTo
  split_ifs
  · exact ⟨_, rfl, Nat.le_succ _⟩
  · exact ⟨_, rfl, Nat.le_refl _⟩
  · exact ⟨_, rfl, Nat.le_succ _⟩
  · exact ⟨_, rfl, Nat.le_refl _⟩

/-! ## Digits -/

/-- `n` with `p` digits in base `b`, rounded. -/
def significant (b p n : Nat) : Nat := roundTo (b ^ (Nat.log b n + 1 - p)) n

/-- At most `p` digits in base `b`, and then zeros. -/
def Short (b p n : Nat) : Prop := ∃ a e, a < b ^ p ∧ n = a * b ^ e

variable {b p n : Nat}

/-- What has been rounded is short. -/
theorem significant_short (hb : 1 < b) (hp : 0 < p) : Short b p (significant b p n) := by
  obtain ⟨k, hk, hle⟩ := roundTo_mul (b ^ (Nat.log b n + 1 - p)) n
  have hpos : 0 < b := Nat.lt_of_succ_lt hb
  rw [significant, hk]
  rcases Nat.lt_or_ge (Nat.log b n + 1) p with hfew | hmany
  · -- nothing is cut off
    have hunit : Nat.log b n + 1 - p = 0 := by omega
    rw [hunit, Nat.pow_zero, Nat.div_one] at hle
    refine ⟨k, _, ?_, rfl⟩
    calc k ≤ n + 1 := hle
      _ ≤ b ^ (Nat.log b n + 1) := Nat.lt_pow_succ_log_self hb n
      _ < b ^ p := Nat.pow_lt_pow_right hb hfew
  · have hquot : n / b ^ (Nat.log b n + 1 - p) < b ^ p := by
      apply Nat.div_lt_of_lt_mul
      rw [← Nat.pow_add, Nat.sub_add_cancel hmany]
      exact Nat.lt_pow_succ_log_self hb n
    rcases Nat.lt_or_ge k (b ^ p) with hlt | hge
    · exact ⟨k, _, hlt, rfl⟩
    · -- rounded up to the next power
      obtain rfl : k = b ^ p := by omega
      refine ⟨1, p + (Nat.log b n + 1 - p), ?_, ?_⟩
      · exact Nat.one_lt_pow (Nat.ne_of_gt hp) hb
      · rw [Nat.one_mul, Nat.pow_add]

theorem significant_of_few {b p n : Nat} (hn : n < b ^ p) (hn0 : n ≠ 0) :
    significant b p n = n := by
  have hlog : Nat.log b n < p := Nat.log_lt_of_lt_pow hn0 hn
  have hunit : Nat.log b n + 1 - p = 0 := by omega
  rw [significant, hunit, Nat.pow_zero]
  exact roundTo_of_dvd Nat.one_pos (Nat.one_dvd n)

/-- What is short is left alone. -/
theorem significant_of_short (hb : 1 < b) (h : Short b p n) : significant b p n = n := by
  obtain ⟨a, e, ha, rfl⟩ := h
  have hpos : 0 < b := Nat.lt_of_succ_lt hb
  refine roundTo_of_dvd (Nat.pow_pos hpos) ?_
  rcases Nat.eq_zero_or_pos a with rfl | hapos
  · rw [Nat.zero_mul]
    exact Nat.dvd_zero _
  · have hlt : a * b ^ e < b ^ (p + e) := by
      rw [Nat.pow_add]
      exact Nat.mul_lt_mul_of_pos_right ha (Nat.pow_pos hpos)
    have hne : a * b ^ e ≠ 0 := Nat.ne_of_gt (Nat.mul_pos hapos (Nat.pow_pos hpos))
    have hlog := Nat.log_lt_of_lt_pow hne hlt
    exact Nat.dvd_mul_left_of_dvd (Nat.pow_dvd_pow b (by omega)) a

/-! ## From decimal to binary and back

A number with few digits has a binary neighbour that is read back as the same number. -/

/-- Rounding to 53 binary digits is off by one part in `2 ^ 53` at most. -/
theorem binary_near (n : Nat) :
    (significant 2 53 n - n) * 2 ^ 53 ≤ n ∧ (n - significant 2 53 n) * 2 ^ 53 ≤ n := by
  rcases Nat.eq_zero_or_pos n with rfl | hpos
  · decide
  · have hlow : 2 ^ Nat.log 2 n ≤ n := Nat.pow_log_le_self 2 (Nat.ne_of_gt hpos)
    rcases Nat.lt_or_ge (Nat.log 2 n) 53 with hfew | hmany
    · have hn : n < 2 ^ 53 := Nat.lt_pow_of_log_lt (by decide) hfew
      rw [significant_of_few hn (Nat.ne_of_gt hpos), Nat.sub_self]
      omega
    · -- half a unit is `2 ^ 53` times smaller than the leading digit
      obtain ⟨k, hk⟩ := Nat.exists_eq_add_of_le hmany
      have hunit : Nat.log 2 n + 1 - 53 = k + 1 := by omega
      have hnear := roundTo_near (u := 2 ^ (k + 1)) (Nat.two_pow_pos _) n
      rw [hk, Nat.pow_add] at hlow
      rw [significant, hunit]
      rw [Nat.pow_succ] at hnear ⊢
      omega

/-- A number of twelve decimal digits survives on its way through 53 binary digits. -/
theorem decimal_of_binary {n : Nat} (h : Short 10 12 n) :
    significant 10 12 (significant 2 53 n) = n := by
  obtain ⟨hhigh, hlow⟩ := binary_near n
  rcases Nat.lt_or_ge n (2 ^ 53) with hsmall | hlarge
  · rcases Nat.eq_zero_or_pos n with rfl | hpos
    · decide
    · rw [significant_of_few hsmall (Nat.ne_of_gt hpos)]
      exact significant_of_short (by decide) h
  · generalize hd : significant 2 53 n = d at hhigh hlow ⊢
    have hdpos : d ≠ 0 := by omega
    have hbelow := Nat.lt_pow_succ_log_self (b := 10) (by decide) d
    have habove := Nat.pow_log_le_self 10 hdpos
    obtain ⟨k, hk⟩ : ∃ k, Nat.log 10 d = 11 + k := by
      apply Nat.exists_eq_add_of_le
      by_contra hfew
      have hpow : 10 ^ (Nat.log 10 d + 1) ≤ 10 ^ 11 :=
        Nat.pow_le_pow_right (by decide) (by omega)
      omega
    have hunit : Nat.log 10 d + 1 - 12 = k := by omega
    rw [hk, Nat.pow_add] at habove
    rw [hk, show (11 + k).succ = 12 + k by omega, Nat.pow_add] at hbelow
    rw [significant, hunit]
    refine roundTo_eq (Nat.pow_pos (by decide)) ?_ (by omega) (by omega)
    obtain ⟨a, e, ha, rfl⟩ := h
    refine Nat.dvd_mul_left_of_dvd (Nat.pow_dvd_pow 10 ?_) a
    -- a unit greater than that of the zeros would leave the binary number too far off
    by_contra hgreater
    have hunits : 10 * 10 ^ e ≤ 10 ^ k := by
      rw [Nat.mul_comm, ← Nat.pow_succ]
      exact Nat.pow_le_pow_right (by decide) (by omega)
    have hdigits : (a + 1) * 10 ^ e ≤ 10 ^ 12 * 10 ^ e := Nat.mul_le_mul_right _ ha
    rw [Nat.add_one_mul] at hdigits
    omega

end Rounding
