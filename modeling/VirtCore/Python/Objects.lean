import VirtCore.VBox.Types
import Mathlib.Data.List.TakeWhile
import Mathlib.Algebra.Ring.Int.Defs

/-!
# VirtCore — Python objects seen from C

What the hooks use of the Python interface: a dict, the objects it holds with their reference
counts, and the pointers into them that C code borrows.

* **`Dict`** — a dict that was handed over, which owns a reference to each key and each value.
* **`CharPtr`** — a `const char *`, with what it points to.
* **`Memory.read`** — the string behind a pointer, or the fault that reading it is.
* **`Py_DECREF`** — the last reference to a dict gone, its keys and values lose one each.
* **`refs_pos_iff`** — which objects live on after that.
-/

namespace VirtCore

/-- What C leaves undefined, and what the hooks can run into. -/
inductive Fault where
  /-- `Py_DECREF` of a null pointer. -/
  | nullDecref
  /-- A string is read from a null pointer. -/
  | nullRead
  /-- A string is read from an object that has been freed. -/
  | freedRead
  /-- A variable is read that has not been assigned. -/
  | unsetRead
  /-- A string is stored into an array that is too short. -/
  | overflow
  deriving DecidableEq

namespace Python

/-- The address of an object. -/
abbrev Ref : Type := Nat

/-- An object that is no container. -/
inductive Obj where
  | int (n : Int)
  | str (s : String)
  deriving DecidableEq

/-- The references that a dict with these items owns. -/
def owned (items : List (Ref × Ref)) : List Ref := items.flatMap fun e => [e.1, e.2]

/-- A dict that a function of Python has returned: its items, the objects, how many references
there are to each object, and how many to the dict. -/
structure Dict where
  items : List (Ref × Ref)
  object : Ref → Obj
  refs : Ref → Nat
  self : Nat
  held : 0 < self
  owns : ∀ r, (owned items).count r ≤ refs r
  distinct : (items.map fun e => object e.1).Nodup

/-- The objects of Python. One without references has been freed. -/
structure Memory where
  object : Ref → Obj
  refs : Ref → Nat

/-- A `const char *`: to a literal, to an array of the stack, into a string of Python, null, or
never assigned. -/
inductive CharPtr where
  | literal (s : String)
  | buffer (i : Nat)
  | object (r : Ref)
  | null
  | unset
  deriving DecidableEq

/-- The arrays of the stack, `none` before they are written. -/
abbrev Stack : Type := Nat → Option String

/-- The string behind a pointer. -/
def Memory.read (m : Memory) (stack : Stack) : CharPtr → Except Fault String
  | .literal s => .ok s
  | .buffer i =>
    match stack i with
    | some s => .ok s
    | none => .error .unsetRead
  | .object r =>
    if m.refs r = 0 then .error .freedRead
    else
      match m.object r with
      | .str s => .ok (String.ofList (cstr s))
      | .int _ => .error .unsetRead
  | .null => .error .nullRead
  | .unset => .error .unsetRead

/-! ## The interface

As documented: which functions return a borrowed reference, and which raise. -/

variable (d : Dict)

def PyDict_Size : Nat := d.items.length

/-- The value of a key, borrowed. -/
def PyDict_GetItemString (key : String) : Option Ref :=
  (d.items.find? fun e => d.object e.1 = .str key).map Prod.snd

/-- `PyArg_Parse(o, "i", &n)`: an `int` in the range of the type; else `n` stays as it was. -/
def PyArg_Parse_i : Option Ref → Option Int
  | some r =>
    match d.object r with
    | .int n => if -2 ^ 31 ≤ n ∧ n < 2 ^ 31 then some n else none
    | .str _ => none
  | none => none

/-- A string that C can hold. -/
def NoNul (s : String) : Prop := '\x00' ∉ s.toList

instance (s : String) : Decidable (NoNul s) := inferInstanceAs (Decidable ('\x00' ∉ s.toList))

/-- `PyArg_Parse(o, "s", &s)`: a pointer into a string without a NUL; else `s` stays as it was. -/
def PyArg_Parse_s : Option Ref → CharPtr
  | some r =>
    match d.object r with
    | .str s => if NoNul s then .object r else .unset
    | .int _ => .unset
  | none => .unset

/-- A pointer into a string, null where the object is none. -/
def PyString_AsString (r : Ref) : CharPtr :=
  match d.object r with
  | .str _ => .object r
  | .int _ => .null

/-- `Py_DECREF(pDict)`: with its last reference, the dict drops those it owns. -/
def Py_DECREF : Memory where
  object := d.object
  refs r := if d.self = 1 then d.refs r - (owned d.items).count r else d.refs r

/-! ## What can be read -/

variable {d} {r : Ref}

/-- An object lives on where the dict does, or where somebody else refers to it. -/
theorem refs_pos_iff (hr : r ∈ owned d.items) :
    0 < (Py_DECREF d).refs r ↔ d.self ≠ 1 ∨ (owned d.items).count r < d.refs r := by
  have hcount : 0 < (owned d.items).count r := List.count_pos_iff.mpr hr
  have howns := d.owns r
  show 0 < (if d.self = 1 then _ else _) ↔ _
  by_cases hself : d.self = 1
  · rw [if_pos hself]
    simp only [hself, ne_eq, not_true_eq_false, false_or]
    omega
  · rw [if_neg hself]
    exact iff_of_true (by omega) (.inl hself)

theorem cstr_noNul {s : String} (hs : NoNul s) : String.ofList (cstr s) = s := by
  have hall : ∀ c ∈ s.toList, decide (c ≠ '\x00') = true := by
    intro c hc
    apply decide_eq_true
    rintro rfl
    exact hs hc
  rw [cstr, List.takeWhile_eq_self_iff.mpr hall, String.ofList_toList]

/-- The value of a key is one of the references that the dict owns. -/
theorem getItem_owned {key : String} (h : PyDict_GetItemString d key = some r) :
    r ∈ owned d.items := by
  obtain ⟨e, he, rfl⟩ := Option.map_eq_some_iff.mp h
  exact List.mem_flatMap.mpr
    ⟨e, List.mem_of_find?_eq_some he, List.mem_cons_of_mem _ List.mem_cons_self⟩

end Python

end VirtCore
