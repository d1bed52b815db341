import VirtCore.Text.Stdio
import Mathlib.Data.Char
import Mathlib.Data.List.Lex
import Mathlib.Data.List.MinMax
import Mathlib.Algebra.Order.Field.Rat
import Mathlib.Tactic.NormNum
import Mathlib.Tactic.Linarith

/-!
# VirtCore — the temperature of the processor

`cpu_temperature.py` reads one temperature for each core from a pipeline that starts with
`sensors`, and raises an alarm where a core is hot.

* **`float`** — a decimal number.
* **`get_cpuT`** — the function on the output of the pipeline.
* **`Reading`** — the text of a number, as the pipeline can cut it out.
* **`FollowsHottest`** — what the answer is to say of the highest reading.
* **`get_cpuT_iff`** — it does where the first reading in an alarm band is in the band of the
  highest, and the order of texts agrees with the order of numbers where there is no alarm.
-/

namespace VirtCore

namespace CpuTemperature

abbrev Text : Type := List Char

/-- `float(s)` of a decimal number; `none` raises a `ValueError`. -/
def float (s : Text) : Option ℚ :=
  let whole := s.takeWhile Char.isDigit
  match s.dropWhile Char.isDigit with
  | [] => if whole = [] then none else some (Nat.ofDigitChars 10 whole 0)
  | '.' :: fraction =>
    if fraction.all Char.isDigit ∧ ¬(whole = [] ∧ fraction = []) then
      some (Nat.ofDigitChars 10 whole 0 +
        Nat.ofDigitChars 10 fraction 0 / 10 ^ fraction.length)
    else none
  | _ => none

/-- The dict of an answer, but for the `obj`, which is always `cputemp`. -/
structure Answer where
  code : Int
  value : Text
  deriving DecidableEq

/-- What ends a call without an answer. -/
inductive PyError where
  | valueError
  deriving DecidableEq

/-- The loop over the readings, which returns at the first that is in an alarm band. -/
def alarm : List Text → Except PyError (Option Answer)
  | [] => .ok none
  | cpu_T :: cpu_Ts =>
    match float cpu_T with
    | none => .error .valueError
    | some t =>
      if 100 ≤ t then .ok (some ⟨-1, "100".toList⟩)
      else if 90 ≤ t ∧ t < 100 then .ok (some ⟨-1, "90".toList⟩)
      else if 80 ≤ t ∧ t < 90 then .ok (some ⟨-1, "80".toList⟩)
      else alarm cpu_Ts

/-- The call on what the pipeline prints, `none` where it cannot be started. -/
def get_cpuT (popen : Option Text) : Except PyError Answer :=
  match popen with
  | none => .ok ⟨-1, "100".toList⟩
  | some output =>
    let cpu_Ts := output.splitOn '\n'
    -- `remove` raises where there is nothing to remove, and removes one line only
    if [] ∉ cpu_Ts then .error .valueError
    else
      let cpu_Ts := cpu_Ts.erase []
      match alarm cpu_Ts with
      | .error e => .error e
      | .ok (some answer) => .ok answer
      | .ok none =>
        -- the greatest of the texts; `max` of an empty list raises
        match cpu_Ts.maximum with
        | none => .error .valueError
        | some value => .ok ⟨1, value⟩

/-! ## Readings

What a sensor prints and what it is to mean: the hottest core, and the band its temperature falls
into. -/

/-- A decimal number of four characters at most, as `cut -c2-5` leaves it. `float` rounds it to a
double, which is on the same side of 80, of 90 and of 100. -/
structure Reading where
  text : Text
  value : ℚ
  reads : float text = some value
  short : text.length ≤ 4

/-- What the pipeline prints: a line for each core. -/
def printed : List Reading → Text
  | [] => []
  | r :: rs => r.text ++ '\n' :: printed rs

/-- The highest reading. -/
def Hottest (rs : List Reading) (r : Reading) : Prop :=
  r ∈ rs ∧ ∀ s ∈ rs, s.value ≤ r.value

/-- The bands of the alarm. -/
def band (t : ℚ) : Option Text :=
  if 100 ≤ t then some "100".toList
  else if 90 ≤ t then some "90".toList
  else if 80 ≤ t then some "80".toList
  else none

/-- The answer for the highest reading: the alarm of its band, or the reading itself. -/
def Tells (rs : List Reading) (r : Reading) (a : Answer) : Prop :=
  match band r.value with
  | some value => a = ⟨-1, value⟩
  | none => a.code = 1 ∧ ∃ s ∈ rs, a.value = s.text ∧ s.value = r.value

/-- The call answers, and what the highest reading asks for. -/
def FollowsHottest (rs : List Reading) : Prop :=
  ∃ a, get_cpuT (some (printed rs)) = .ok a ∧ ∀ r, Hottest rs r → Tells rs r a

/-! ## The output -/

theorem float_spec {s : Text} {t : ℚ} (h : float s = some t) : s ≠ [] ∧ '\n' ∉ s := by
  -- the digits up to the first other character, and then a fraction or nothing
  have hsplit := (List.takeWhile_append_dropWhile (p := Char.isDigit) (l := s)).symm
  have hwhole : '\n' ∉ s.takeWhile Char.isDigit := fun hmem =>
    absurd (List.mem_takeWhile_imp hmem) (by decide)
  constructor
  · rintro rfl
    cases h
  · rw [hsplit, List.mem_append, not_or]
    refine ⟨hwhole, ?_⟩
    simp only [float] at h
    split at h
    · rename_i hrest
      rw [hrest]
      exact List.not_mem_nil
    · rename_i fraction hrest
      by_cases hfraction : fraction.all Char.isDigit = true
      · rw [hrest, List.mem_cons, not_or]
        exact ⟨by decide, fun hmem => absurd (List.all_eq_true.mp hfraction _ hmem) (by decide)⟩
      · rw [if_neg fun hand => hfraction hand.1] at h
        cases h
    · cases h

/-- The lines are the texts of the readings, and an empty one. -/
theorem printed_splitOn (rs : List Reading) :
    (printed rs).splitOn '\n' = rs.map Reading.text ++ [[]] := by
  induction rs with
  | nil => rfl
  | cons r rs ih =>
    rw [printed, List.splitOn_append_cons_self_of_not_mem (float_spec r.reads).2, ih]
    rfl

/-- The empty line is removed. -/
theorem printed_lines (rs : List Reading) :
    ((printed rs).splitOn '\n').erase [] = rs.map Reading.text := by
  have hne : [] ∉ rs.map Reading.text := by
    intro hmem
    obtain ⟨r, -, hr⟩ := List.mem_map.mp hmem
    exact (float_spec r.reads).1 hr
  rw [printed_splitOn, List.erase_append_right _ hne, List.erase_cons_head, List.append_nil]

/-- The loop stops at the first reading that is in a band. -/
theorem alarm_readings (rs : List Reading) : alarm (rs.map Reading.text) =
    .ok ((rs.find? fun r => 80 ≤ r.value).bind fun r => (band r.value).map (Answer.mk (-1))) := by
  induction rs with
  | nil => rfl
  | cons r rs ih =>
    rw [List.map_cons, alarm, r.reads]
    dsimp only
    by_cases hhot : 80 ≤ r.value
    · rw [List.find?_cons_of_pos (by simpa using hhot), Option.bind_some, band]
      by_cases h100 : 100 ≤ r.value
      · rw [if_pos h100, if_pos h100, Option.map_some]
      · by_cases h90 : 90 ≤ r.value
        · rw [if_neg h100, if_neg h100, if_pos h90, if_pos ⟨h90, not_le.mp h100⟩,
            Option.map_some]
        · rw [if_neg h100, if_neg h100, if_neg fun h => h90 h.1, if_neg h90, if_pos hhot,
            if_pos ⟨hhot, not_le.mp h90⟩, Option.map_some]
    · rw [List.find?_cons_of_neg (by simpa using hhot), ← ih]
      rw [if_neg (show ¬100 ≤ r.value by linarith),
        if_neg (show ¬(90 ≤ r.value ∧ r.value < 100) from fun h => hhot (by linarith [h.1])),
        if_neg fun h => hhot h.1]

/-! ## The answer

The maximum is taken over texts. So it is the hottest only where the order of the texts is that of
the numbers. -/

variable {rs : List Reading} {r x : Reading}

theorem band_eq_none_iff {t : ℚ} : band t = none ↔ t < 80 := by
  unfold band
  split_ifs with h100 h90 h80
  · exact iff_of_false nofun (by linarith)
  · exact iff_of_false nofun (by linarith)
  · exact iff_of_false nofun (by linarith)
  · exact iff_of_true rfl (by linarith)

/-- What is answered where a reading is in a band: the band of the first. -/
theorem get_cpuT_hot (hx : rs.find? (fun r => 80 ≤ r.value) = some x) :
    ∃ value, band x.value = some value ∧
      get_cpuT (some (printed rs)) = .ok ⟨-1, value⟩ := by
  have hhot : 80 ≤ x.value := by simpa using List.find?_some hx
  obtain ⟨value, hvalue⟩ := Option.ne_none_iff_exists'.mp
    (mt band_eq_none_iff.mp (not_lt.mpr hhot))
  refine ⟨value, hvalue, ?_⟩
  have hempty : [] ∈ (printed rs).splitOn '\n' := by
    rw [printed_splitOn]
    exact List.mem_append_right _ List.mem_cons_self
  rw [get_cpuT]
  dsimp only
  rw [if_neg (not_not_intro hempty), printed_lines, alarm_readings, hx, Option.bind_some, hvalue]
  rfl

/-- What is answered where none is: the greatest text, and there must be one. -/
theorem get_cpuT_cool (hx : rs.find? (fun r => 80 ≤ r.value) = none) :
    get_cpuT (some (printed rs)) = match (rs.map Reading.text).maximum with
      | none => .error .valueError
      | some value => .ok ⟨1, value⟩ := by
  have hempty : [] ∈ (printed rs).splitOn '\n' := by
    rw [printed_splitOn]
    exact List.mem_append_right _ List.mem_cons_self
  rw [get_cpuT]
  dsimp only
  rw [if_neg (not_not_intro hempty), printed_lines, alarm_readings, hx]
  rfl

/-- The text that is greatest as a text is that of a highest reading. -/
def OrdersAgree (rs : List Reading) (r : Reading) : Prop :=
  ∃ s ∈ rs, s.value = r.value ∧ ∀ s' ∈ rs, s'.text ≤ s.text

/-- The band of the first hot reading is answered where the highest is in the same. -/
theorem tells_hot_iff (hx : rs.find? (fun r => 80 ≤ r.value) = some x) (hr : Hottest rs r)
    {value : Text} (hvalue : band x.value = some value) :
    Tells rs r ⟨-1, value⟩ ↔ band x.value = band r.value := by
  have hhot : 80 ≤ x.value := by simpa using List.find?_some hx
  have hle : x.value ≤ r.value := hr.2 x (List.mem_of_find?_eq_some hx)
  obtain ⟨value', hvalue'⟩ := Option.ne_none_iff_exists'.mp
    (mt band_eq_none_iff.mp (not_lt.mpr (hhot.trans hle)))
  rw [Tells, hvalue', hvalue]
  dsimp only
  rw [Option.some.injEq, Answer.mk.injEq]
  exact and_iff_right rfl

theorem maximum_spec {l : List Text} {value : Text} (h : l.maximum = value) :
    value ∈ l ∧ ∀ s ∈ l, s ≤ value := by
  -- the order of lists is decided in two ways
  have hmax : @List.maximum Text _ LinearOrder.toDecidableLT l = value := by
    convert h
  exact List.maximum_eq_coe_iff.mp hmax

/-- The greatest text is answered where it is that of a highest reading. -/
theorem tells_cool_iff (hcool : r.value < 80) {value : Text}
    (hmax : (rs.map Reading.text).maximum = value) :
    Tells rs r ⟨1, value⟩ ↔ OrdersAgree rs r := by
  obtain ⟨hmem, hle⟩ := maximum_spec hmax
  rw [Tells, band_eq_none_iff.mpr hcool]
  constructor
  · rintro ⟨-, s, hs, rfl, hvalue⟩
    exact ⟨s, hs, hvalue, fun s' hs' => hle _ (List.mem_map_of_mem hs')⟩
  · rintro ⟨s, hs, hvalue, hgreatest⟩
    -- two greatest texts are one
    obtain ⟨s', hs', rfl⟩ := List.mem_map.mp hmem
    have htext : s'.text = s.text := le_antisymm (hgreatest s' hs') (hle _ (List.mem_map_of_mem hs))
    exact ⟨rfl, s, hs, htext, hvalue⟩

/-- **When the alarm follows the hottest core**: there is a reading; the first that is in an alarm
band is in the band of the highest; and where none is, the greatest text is that of a highest
reading. -/
theorem get_cpuT_iff (rs : List Reading) :
    FollowsHottest rs ↔ rs ≠ [] ∧ ∀ r, Hottest rs r →
      (∀ x ∈ rs.find? fun r => 80 ≤ r.value, band x.value = band r.value) ∧
        (r.value < 80 → OrdersAgree rs r) := by
  cases hfind : rs.find? fun r => 80 ≤ r.value with
  | some x =>
    -- the first core at 80 or above ends the loop, and tells its band
    obtain ⟨value, hvalue, hanswer⟩ := get_cpuT_hot hfind
    have hmem : x ∈ rs := List.mem_of_find?_eq_some hfind
    have hhot : 80 ≤ x.value := by simpa using List.find?_some hfind
    constructor
    · rintro ⟨a, ha, hall⟩
      obtain rfl := Except.ok.inj (hanswer.symm.trans ha)
      refine ⟨List.ne_nil_of_mem hmem, fun r hr => ⟨?_, ?_⟩⟩
      · intro y hy
        obtain rfl := Option.some.inj hy
        exact (tells_hot_iff hfind hr hvalue).mp (hall r hr)
      · intro hcool
        exact absurd (hhot.trans (hr.2 x hmem)) (not_le.mpr hcool)
    · rintro ⟨-, hall⟩
      exact ⟨_, hanswer, fun r hr => (tells_hot_iff hfind hr hvalue).mpr ((hall r hr).1 x rfl)⟩
  | none =>
    -- no core is hot, and the largest text is taken
    have hcool : ∀ r ∈ rs, r.value < 80 := fun r hr => by
      simpa using List.find?_eq_none.mp hfind r hr
    have hanswer := get_cpuT_cool hfind
    cases hmax : (rs.map Reading.text).maximum with
    | bot =>
      obtain rfl : rs = [] := by simpa [List.maximum_eq_bot] using hmax
      refine iff_of_false ?_ fun h => h.1 rfl
      rintro ⟨a, ha, -⟩
      rw [hanswer] at ha
      cases ha
    | coe value =>
      rw [hmax] at hanswer
      have hne : rs ≠ [] := by
        rintro rfl
        cases hmax
      constructor
      · rintro ⟨a, ha, hall⟩
        obtain rfl := Except.ok.inj (hanswer.symm.trans ha)
        exact ⟨hne, fun r hr =>
          ⟨nofun, fun hlt => (tells_cool_iff hlt hmax).mp (hall r hr)⟩⟩
      · rintro ⟨-, hall⟩
        refine ⟨_, hanswer, fun r hr => ?_⟩
        have hlt := hcool r hr.1
        exact (tells_cool_iff hlt hmax).mpr ((hall r hr).2 hlt)

/-- Two cores, of which the second is the hotter. -/
def twoCores : List Reading :=
  [⟨"81.0".toList, 81, by decide +kernel, by decide⟩,
    ⟨"95.0".toList, 95, by decide +kernel, by decide⟩]

/-- **The alarm is that of the first hot core.** -/
theorem first_hot_core : ¬∀ rs : List Reading, FollowsHottest rs := by
  intro hclaim
  obtain ⟨a, ha, hall⟩ := hclaim twoCores
  have hfirst : get_cpuT (some (printed twoCores)) = .ok ⟨-1, "80".toList⟩ := by decide +kernel
  obtain rfl := Except.ok.inj (hfirst.symm.trans ha)
  have hhottest : Hottest twoCores ⟨"95.0".toList, 95, by decide +kernel, by decide⟩ :=
    ⟨List.mem_cons_of_mem _ List.mem_cons_self, by decide +kernel⟩
  have htells := hall _ hhottest
  have hband : band 95 = some "90".toList := by decide +kernel
  rw [Tells, hband] at htells
  exact absurd htells (by decide)

end CpuTemperature

end VirtCore
