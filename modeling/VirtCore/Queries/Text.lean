import VirtCore.Unicode.Encode

/-!
# VirtCore — the encodings of a name

A name is UTF-16 in libvbox, and a `std::string` of UTF-8 in the service. `listVMs` takes each
through `COM_ToWString` of `comstring.cpp`, where `wchar_t` has four bytes, and the two conversions
of `vca_toCode.cpp`; `none` is an exception.

* **`to_utf16_listed`** — from UTF-16 and back, a well-formed name stays what it was.
-/

namespace VirtCore


open Unicode

/-- `COM_ToWString`. A surrogate without its other half takes the next unit with it. -/
def COM_ToWString : List UInt16 → List UInt32
  | [] => []
  | [u] => if 0xD800 ≤ u.toNat ∧ u.toNat ≤ 0xDFFF then [0xFFFD] else [.ofNat u.toNat]
  | u :: v :: rest =>
    if 0xD800 ≤ u.toNat ∧ u.toNat ≤ 0xDFFF then
      (if u.toNat < 0xDC00 then
        if 0xDC00 ≤ v.toNat ∧ v.toNat ≤ 0xDFFF then
          .ofNat (0x10000 + ((u.toNat &&& 0x3FF) <<< 10) + (v.toNat &&& 0x3FF))
        else 0xFFFD
      else if 0xD800 ≤ v.toNat ∧ v.toNat ≤ 0xDBFF then
        .ofNat (0x10000 + (u.toNat &&& 0x3FF) + ((v.toNat &&& 0x3FF) <<< 10))
      else 0xFFFD) :: COM_ToWString rest
    else .ofNat u.toNat :: COM_ToWString (v :: rest)

/-- `VBox::utf16ToWide`. -/
def utf16ToWide (text : List UInt16) : List UInt32 := COM_ToWString text

/-- `vca_toCode::to_utf8` of a `std::wstring`: the bytes of its text in UTF-8. -/
def to_utf8 (wstr : List UInt32) : Option ByteArray :=
  (wstr.mapM scalar?).map fun cs => (String.ofList cs).toByteArray

/-- `vca_toCode::to_utf16`: the units of the text of a `std::string` in UTF-16. -/
def to_utf16 (str : ByteArray) : Option (List UInt16) :=
  str.utf8Decode?.map fun cs => utf16 cs.toList

variable {c : Char} {cs : List Char}

theorem COM_ToWString_char (rest : List UInt16) :
    COM_ToWString (utf16Char c ++ rest) = c.val :: COM_ToWString rest := by
  by_cases h : c.toNat < 0x10000
  · -- one unit, which is no surrogate
    obtain ⟨u, hu, hval, hplain⟩ := utf16Char_bmp h
    have hc : UInt32.ofNat u.toNat = c.val := by
      rw [hval]
      exact UInt32.ofNat_toNat
    rw [hu]
    cases rest with
    | nil => simp [COM_ToWString, hplain, hc]
    | cons v rest => simp [COM_ToWString, hplain, hc]
  · -- a surrogate pair
    obtain ⟨hi, lo, hpair, hhi, hlo, hval⟩ := utf16Char_pair (Nat.not_lt.mp h)
    have hc : UInt32.ofNat (0x10000 + ((hi.toNat &&& 0x3FF) <<< 10) + (lo.toNat &&& 0x3FF)) =
        c.val := by
      rw [Nat.and_two_pow_sub_one_eq_mod _ 10, Nat.and_two_pow_sub_one_eq_mod _ 10,
        Nat.shiftLeft_eq]
      have hsum : 0x10000 + hi.toNat % 2 ^ 10 * 2 ^ 10 + lo.toNat % 2 ^ 10 = c.toNat := by omega
      rw [hsum]
      exact UInt32.ofNat_toNat
    rw [hpair]
    have hsurrogate : 0xD800 ≤ hi.toNat ∧ hi.toNat ≤ 0xDFFF := by omega
    simp [COM_ToWString, hsurrogate, hhi, hlo, hc]

/-- `COM_ToWString` gives the scalar values of a well-formed text. -/
theorem COM_ToWString_utf16 (cs : List Char) : COM_ToWString (utf16 cs) = cs.map Char.val := by
  induction cs with
  | nil => rfl
  | cons c cs ih => rw [utf16_cons, COM_ToWString_char, ih, List.map_cons]

/-- A text is known by its units. -/
theorem utf16_injective {cs cs' : List Char} (h : utf16 cs = utf16 cs') : cs = cs' := by
  have hvals : cs.map Char.val = cs'.map Char.val := by
    rw [← COM_ToWString_utf16, h, COM_ToWString_utf16]
  exact (List.map_inj_right fun _ _ => Char.ext).mp hvals

theorem mapM_scalar? : (cs.map Char.val).mapM scalar? = some cs := by
  induction cs with
  | nil => rfl
  | cons c cs ih => simp [ih]

/-- The name of a machine in the service. -/
theorem to_utf8_utf16ToWide :
    to_utf8 (utf16ToWide (utf16 cs)) = some (String.ofList cs).toByteArray := by
  rw [to_utf8, utf16ToWide, COM_ToWString_utf16, mapM_scalar?, Option.map_some]

theorem to_utf16_toByteArray (s : String) : to_utf16 s.toByteArray = some (utf16 s.toList) := by
  rw [to_utf16, utf8Decode?_toByteArray, Option.map_some]

/-- **From UTF-16 and back.** The chain from a name in UTF-16 over wide characters and UTF-8 to
UTF-16 is the identity. -/
theorem to_utf16_listed {units : List UInt16} (h : WellFormed16 units) :
    ∃ s : String, to_utf8 (utf16ToWide units) = some s.toByteArray ∧
      to_utf16 s.toByteArray = some units ∧ utf16 s.toList = units := by
  obtain ⟨cs, rfl⟩ := h
  refine ⟨String.ofList cs, to_utf8_utf16ToWide, ?_, ?_⟩
  · rw [to_utf16_toByteArray, String.toList_ofList]
  · rw [String.toList_ofList]

end VirtCore
