import VirtCore.Numeric.Rounding
import Mathlib.Algebra.Order.Field.Rat
import Mathlib.Tactic.NormNum

/-!
# VirtCore — the usage of the disk, the memory and the swap space

Three functions of Python report how much of something is in use, or raise an alarm where it is
nearly all. They are copies of each other, but for one comparison.

* **`Usage`** — what `psutil` reads.
* **`Rate`** — the dict that is returned, with the numbers that its texts show.
* **`fun_disk` / `fun_memory` / `fun_swap`** — the functions.
* **`Consistent`** — what two results are to say, each for itself and together.
* **`usage_consistent_iff`** — they do where nothing is quite full and every figure can be shown.
-/

namespace VirtCore

namespace UsageRates

open Rounding

/-- What `psutil` reads: three numbers of bytes and a percentage. The percentage is a float
already, by its exact value, so that `float()` leaves it as it is; the numbers of bytes are
integers. -/
structure Usage where
  total : Nat
  used : Nat
  free : Nat
  percent : ℚ
  nonneg : 0 ≤ percent
  le_hundred : percent ≤ 100

/-- The dict that is returned, with the numbers that its texts show. -/
structure Rate where
  code : Int
  total : Nat
  used : Nat
  free : Nat
  percent : ℚ
  obj : String
  deriving DecidableEq

/-- The number of bytes is too large for a float. -/
inductive OverflowError where
  | tooLarge
  deriving DecidableEq

/-! ## The functions

What a function shows of a number is twelve digits of the nearest float. Before that the number is
divided, and rounded down. -/

def divisor (unit : String) : Nat :=
  let unit := unit.toUpper
  if unit = "B" then 1
  else if unit = "KB" then 1024
  else if unit = "MB" then 1024 ^ 2
  else if unit = "GB" then 1024 ^ 3
  else if unit = "TB" then 1024 ^ 4
  else if unit = "PB" then 1024 ^ 5
  else 1024 ^ 6

/-- The largest floats are below `2 ^ 1024`. -/
def InRange (n : Nat) : Prop := significant 2 53 n < 2 ^ 1024

instance (n : Nat) : Decidable (InRange n) :=
  inferInstanceAs (Decidable (significant 2 53 n < 2 ^ 1024))

/-- The number that `str(float(n))` shows: twelve digits of the nearest float. -/
def shown (n : Nat) : Except OverflowError Nat :=
  if InRange n then .ok (significant 10 12 (significant 2 53 n)) else .error .tooLarge

/-- The last branch of the functions. The quotients are of integers, and rounded down. -/
def reading (obj unit : String) (u : Usage) : Except OverflowError Rate := do
  let total ← shown (u.total / divisor unit)
  let used ← shown (u.used / divisor unit)
  let free ← shown (u.free / divisor unit)
  return { code := 1, total, used, free, percent := u.percent, obj }

def alarm (obj : String) : Rate :=
  { code := -1, total := 0, used := 0, free := 0, percent := 0, obj }

/-- `none` where `psutil` raises an exception. -/
def fun_disk (unit : String) (disk_mem : Option Usage) : Except OverflowError Rate :=
  match disk_mem with
  | none => .ok { code := -2, total := 0, used := 0, free := 0, percent := 0, obj := "disk" }
  | some u =>
    -- nothing is said of a full disk
    if 90 ≤ u.percent ∧ u.percent < 100 then .ok (alarm "disk")
    else reading "disk" unit u

def fun_memory (unit : String) (mem : Usage) : Except OverflowError Rate :=
  if 100 ≤ mem.percent then .ok (alarm "memory")
  else if 90 ≤ mem.percent ∧ mem.percent < 100 then .ok (alarm "memory")
  else reading "memory" unit mem

def fun_swap (unit : String) (swap_mem : Usage) : Except OverflowError Rate :=
  if 100 ≤ swap_mem.percent then .ok (alarm "swap")
  else if 90 ≤ swap_mem.percent ∧ swap_mem.percent < 100 then .ok (alarm "swap")
  else reading "swap" unit swap_mem

/-- The three functions. -/
inductive Resource where
  | disk
  | memory
  | swap
  deriving DecidableEq

def Resource.rate (unit : String) (u : Usage) : Resource → Except OverflowError Rate
  | .disk => fun_disk unit (some u)
  | .memory => fun_memory unit u
  | .swap => fun_swap unit u

/-! ## What is to be reported

Exact figures, an alarm from 90 percent on, and the same verdict from all functions. -/

/-- The figures are the readings in the unit, rounded down, and what is used and what is free is
not more than there is. -/
structure Exact (unit : String) (u : Usage) (rate : Rate) : Prop where
  total : rate.total = u.total / divisor unit
  used : rate.used = u.used / divisor unit
  free : rate.free = u.free / divisor unit
  fits : u.used + u.free ≤ u.total → rate.used + rate.free ≤ rate.total

/-- The function returns; it raises an alarm from 90 percent on, and its figures are exact. -/
def Reports (f : Resource) (unit : String) (u : Usage) : Prop :=
  ∃ rate, f.rate unit u = .ok rate ∧ (rate.code = -1 ↔ 90 ≤ u.percent) ∧
    (rate.code = 1 → Exact unit u rate)

def Alarmed (f : Resource) (unit : String) (u : Usage) : Prop :=
  ∃ rate, f.rate unit u = .ok rate ∧ rate.code = -1

/-- The functions report two readings, more usage turns no alarm off, and none is silent where
another raises an alarm. -/
structure Consistent (unit unit' : String) (u u' : Usage) : Prop where
  reports : ∀ f, Reports f unit u ∧ Reports f unit' u'
  monotone : ∀ f, u.percent ≤ u'.percent → Alarmed f unit u → Alarmed f unit' u'
  agree : ∀ f f', Alarmed f unit u ↔ Alarmed f' unit u

/-- The quotients have at most twelve digits before their zeros, and are in the range of a float. -/
def Legible (unit : String) (u : Usage) : Prop :=
  ∀ n ∈ [u.total, u.used, u.free], Short 10 12 (n / divisor unit) ∧ InRange (n / divisor unit)

/-! ## What the functions report

A figure is exact where twelve digits are enough for it. The functions agree below 90 percent and
above, except about a full disk. -/

variable {unit : String} {u : Usage}

theorem shown_eq_iff (n : Nat) : shown n = .ok n ↔ Short 10 12 n ∧ InRange n := by
  unfold shown
  by_cases hrange : InRange n
  · rw [if_pos hrange, Except.ok.injEq]
    constructor
    · intro h
      rw [← h]
      exact ⟨significant_short (by decide) (by decide), h.symm ▸ hrange⟩
    · exact fun h => decimal_of_binary h.1
  · rw [if_neg hrange]
    exact iff_of_false nofun fun h => hrange h.2

/-- What the last branch returns. -/
theorem reading_ok_iff {obj : String} {rate : Rate} : reading obj unit u = .ok rate ↔
    rate.code = 1 ∧ shown (u.total / divisor unit) = .ok rate.total ∧
      shown (u.used / divisor unit) = .ok rate.used ∧
      shown (u.free / divisor unit) = .ok rate.free ∧ rate.percent = u.percent ∧
      rate.obj = obj := by
  obtain ⟨code, total, used, free, percent, obj'⟩ := rate
  simp only [reading, bind, Except.bind, pure, Except.pure]
  cases shown (u.total / divisor unit) <;> cases shown (u.used / divisor unit) <;>
    cases shown (u.free / divisor unit) <;> simp [eq_comm]

/-- The last branch is exact where the figures are legible. -/
theorem reading_exact_iff (obj : String) :
    (∃ rate, reading obj unit u = .ok rate ∧ Exact unit u rate) ↔ Legible unit u := by
  simp only [Legible, List.forall_mem_cons, ← shown_eq_iff]
  constructor
  · rintro ⟨rate, hrate, hexact⟩
    obtain ⟨-, htotal, hused, hfree, -⟩ := reading_ok_iff.mp hrate
    rw [hexact.total] at htotal
    rw [hexact.used] at hused
    rw [hexact.free] at hfree
    exact ⟨htotal, hused, hfree, nofun⟩
  · rintro ⟨htotal, hused, hfree, -⟩
    refine ⟨⟨1, _, _, _, u.percent, obj⟩,
      reading_ok_iff.mpr ⟨rfl, htotal, hused, hfree, rfl, rfl⟩,
      rfl, rfl, rfl, fun hfits => ?_⟩
    calc u.used / divisor unit + u.free / divisor unit
      _ ≤ (u.used + u.free) / divisor unit := Nat.div_add_div_le_add_div
      _ ≤ u.total / divisor unit := Nat.div_le_div_right hfits

/-- Two alarms, of which one begins where the other ends, are one. -/
theorem two_alarms {a b : Except OverflowError Rate} :
    (if 100 ≤ u.percent then a else if 90 ≤ u.percent ∧ u.percent < 100 then a else b) =
      if 90 ≤ u.percent then a else b := by
  by_cases h100 : 100 ≤ u.percent
  · have h90 : 90 ≤ u.percent := by linarith
    rw [if_pos h100, if_pos h90]
  · rw [if_neg h100]
    simp only [not_le.mp h100, and_true]

/-- Which branch a function takes. -/
theorem rate_eq (f : Resource) : ∃ obj, f.rate unit u =
    if 90 ≤ u.percent ∧ (f = .disk → u.percent ≠ 100) then .ok (alarm obj)
    else reading obj unit u := by
  have hle := u.le_hundred
  have hfull : u.percent ≠ 100 ↔ u.percent < 100 := ⟨hle.lt_of_ne, ne_of_lt⟩
  cases f with
  | disk =>
    refine ⟨"disk", ?_⟩
    simp only [Resource.rate, fun_disk, forall_const, hfull]
  | memory =>
    refine ⟨"memory", ?_⟩
    simp only [Resource.rate, fun_memory, reduceCtorEq, false_implies, and_true]
    exact two_alarms
  | swap =>
    refine ⟨"swap", ?_⟩
    simp only [Resource.rate, fun_swap, reduceCtorEq, false_implies, and_true]
    exact two_alarms

/-- **When a function reports a reading**: where `fun_disk` does not meet a full disk, and the
figures are legible if there is no alarm. -/
theorem reports_iff (f : Resource) : Reports f unit u ↔
    (f = .disk → u.percent ≠ 100) ∧ (u.percent < 90 → Legible unit u) := by
  obtain ⟨obj, hrate⟩ : ∃ obj, f.rate unit u = _ := rate_eq f
  rw [Reports, hrate]
  by_cases h90 : 90 ≤ u.percent
  · -- an alarm, which a full disk does not get
    by_cases hfull : f = .disk → u.percent ≠ 100
    · rw [if_pos ⟨h90, hfull⟩]
      refine iff_of_true ⟨_, rfl, iff_of_true rfl h90, ?_⟩ ⟨hfull, fun h => ?_⟩
      · exact fun h => absurd (show (-1 : Int) = 1 from h) (by decide)
      · exact absurd h90 (not_le.mpr h)
    · rw [if_neg fun h => hfull h.2]
      refine iff_of_false ?_ fun h => hfull h.1
      rintro ⟨rate, hreading, halarm, -⟩
      have hcode := (reading_ok_iff.mp hreading).1
      rw [halarm.mpr h90] at hcode
      exact absurd hcode (by decide)
  · have hfull : f = .disk → u.percent ≠ 100 := by
      rintro - h
      rw [h] at h90
      exact h90 (by norm_num)
    -- no alarm, and the rate itself is read
    rw [if_neg fun h => h90 h.1, ← reading_exact_iff obj]
    constructor
    · rintro ⟨rate, hreading, -, hexact⟩
      exact ⟨hfull, fun _ => ⟨rate, hreading, hexact (reading_ok_iff.mp hreading).1⟩⟩
    · rintro ⟨-, hlegible⟩
      obtain ⟨rate, hreading, hexact⟩ := hlegible (not_le.mp h90)
      have hcode := (reading_ok_iff.mp hreading).1
      refine ⟨rate, hreading, iff_of_false ?_ h90, fun _ => hexact⟩
      rw [hcode]
      decide

theorem alarmed_iff {f : Resource} (h : Reports f unit u) :
    Alarmed f unit u ↔ 90 ≤ u.percent := by
  obtain ⟨rate, hrate, hcode, -⟩ := h
  rw [← hcode]
  constructor
  · rintro ⟨rate', hrate', halarm⟩
    obtain rfl := Except.ok.inj (hrate.symm.trans hrate')
    exact halarm
  · exact fun halarm => ⟨rate, hrate, halarm⟩

/-- **When usage is reported consistently**: nothing is quite full, and where there is no alarm
every figure is legible. -/
theorem usage_consistent_iff (unit unit' : String) (u u' : Usage) :
    Consistent unit unit' u u' ↔ (u.percent ≠ 100 ∧ (u.percent < 90 → Legible unit u)) ∧
      (u'.percent ≠ 100 ∧ (u'.percent < 90 → Legible unit' u')) := by
  constructor
  · intro h
    obtain ⟨hu, hu'⟩ := h.reports .disk
    rw [reports_iff] at hu hu'
    exact ⟨⟨hu.1 rfl, hu.2⟩, ⟨hu'.1 rfl, hu'.2⟩⟩
  · rintro ⟨hu, hu'⟩
    have hreports (f : Resource) : Reports f unit u := (reports_iff f).mpr ⟨fun _ => hu.1, hu.2⟩
    have hreports' (f : Resource) : Reports f unit' u' :=
      (reports_iff f).mpr ⟨fun _ => hu'.1, hu'.2⟩
    refine ⟨fun f => ⟨hreports f, hreports' f⟩, fun f hle => ?_, fun f f' => ?_⟩
    · rw [alarmed_iff (hreports f), alarmed_iff (hreports' f)]
      exact fun h => h.trans hle
    · rw [alarmed_iff (hreports f), alarmed_iff (hreports f')]

/-- A reading of a disk, a memory or a swap space that is full. -/
def full : Usage := ⟨2, 2, 0, 100, by norm_num, by norm_num⟩

/-- **A full disk raises no alarm.** -/
theorem full_silent : ¬∀ (unit unit' : String) (u u' : Usage), Consistent unit unit' u u' := by
  intro hclaim
  obtain ⟨-, rate, hrate, hcode, -⟩ := (hclaim "MB" "MB" full full).reports .disk
  have hsilent : Resource.disk.rate "MB" full = .ok ⟨1, 0, 0, 0, 100, "disk"⟩ :=
    by decide +kernel
  obtain rfl := Except.ok.inj (hsilent.symm.trans hrate)
  exact absurd (hcode.mpr (by decide +kernel)) (by decide)

end UsageRates

end VirtCore
