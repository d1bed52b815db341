/-!
# Unicode — the encodings of a text

A text is a list of scalar values, `Char`. UTF-8 is the encoding of `String`; UTF-16 is defined
here.

* **`utf16`** — the code units of a text.
* **`utf16Char_bmp`** / **`utf16Char_pair`** — one unit within the basic plane, a high and a low
  surrogate beyond it.
* **`utf8Decode?_toByteArray`** — the bytes of a string decode to its text.
-/

namespace Unicode

/-- The UTF-16 code units of a scalar value. -/
def utf16Char (c : Char) : List UInt16 :=
  if c.toNat < 0x10000 then [.ofNat c.toNat]
  else [.ofNat (0xD800 + (c.toNat - 0x10000) / 0x400),
    .ofNat (0xDC00 + (c.toNat - 0x10000) % 0x400)]

/-- The UTF-16 code units of a text. -/
def utf16 (cs : List Char) : List UInt16 := cs.flatMap utf16Char

/-- The units are those of a text. -/
def WellFormed16 (units : List UInt16) : Prop := ∃ cs, utf16 cs = units

/-- The scalar value of a number. -/
def scalar? (n : UInt32) : Option Char := if h : n.isValidChar then some ⟨n, h⟩ else none

variable {c : Char} {cs : List Char}

@[simp] theorem utf16_nil : utf16 [] = [] := rfl

@[simp] theorem utf16_cons : utf16 (c :: cs) = utf16Char c ++ utf16 cs := rfl

@[simp] theorem scalar?_val : scalar? c.val = some c := dif_pos c.valid

theorem toNat_lt : c.toNat < 0x110000 := by
  rcases c.valid with h | h
  · exact Nat.lt_trans h (by decide)
  · exact h.2

/-- Within the basic plane a scalar value is its unit, and no surrogate. -/
theorem utf16Char_bmp (h : c.toNat < 0x10000) :
    ∃ u : UInt16, utf16Char c = [u] ∧ u.toNat = c.toNat ∧
      ¬(0xD800 ≤ u.toNat ∧ u.toNat ≤ 0xDFFF) := by
  have hu : (UInt16.ofNat c.toNat).toNat = c.toNat := by
    rw [UInt16.toNat_ofNat']
    exact Nat.mod_eq_of_lt h
  refine ⟨.ofNat c.toNat, if_pos h, hu, ?_⟩
  rw [hu]
  rcases c.valid with hc | hc
  · intro hs
    exact absurd hs.1 (Nat.not_le.mpr hc)
  · intro hs
    exact absurd hs.2 (Nat.not_le.mpr hc.1)

/-- Beyond it a scalar value is a high and a low surrogate. -/
theorem utf16Char_pair (h : 0x10000 ≤ c.toNat) :
    ∃ hi lo : UInt16, utf16Char c = [hi, lo] ∧
      (0xD800 ≤ hi.toNat ∧ hi.toNat < 0xDC00) ∧
      (0xDC00 ≤ lo.toNat ∧ lo.toNat ≤ 0xDFFF) ∧
      c.toNat = 0x10000 + (hi.toNat - 0xD800) * 0x400 + (lo.toNat - 0xDC00) := by
  have hlt : c.toNat < 0x110000 := toNat_lt
  have hhi : (UInt16.ofNat (0xD800 + (c.toNat - 0x10000) / 0x400)).toNat =
      0xD800 + (c.toNat - 0x10000) / 0x400 := by
    rw [UInt16.toNat_ofNat']
    exact Nat.mod_eq_of_lt (by omega)
  have hlo : (UInt16.ofNat (0xDC00 + (c.toNat - 0x10000) % 0x400)).toNat =
      0xDC00 + (c.toNat - 0x10000) % 0x400 := by
    rw [UInt16.toNat_ofNat']
    exact Nat.mod_eq_of_lt (by omega)
  refine ⟨_, _, if_neg (Nat.not_lt.mpr h), ?_⟩
  rw [hhi, hlo]
  omega

/-- The bytes of a string decode to its text. -/
theorem utf8Decode?_toByteArray (s : String) :
    s.toByteArray.utf8Decode? = some s.toList.toArray := by
  rw [← String.ofList_toList (s := s), String.toByteArray_ofList, List.utf8Decode?_utf8Encode,
    String.toList_ofList]

end Unicode
