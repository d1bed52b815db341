import Mathlib.Data.List.Basic
import VirtCore.Python.Strings

/-!
# VirtCore — `bencode.py`

Values as strings, and strings as values.

* **`Value`** — a constructor for each row of `encode_func`; a dictionary by its items, in any
  order.
* **`bencode`** — the items of a dictionary go by their keys.
* **`bdecode`** — which reads at a place, and says where the value ends. It makes integers,
  strings, lists and dictionaries only, so that the format does not tell a tuple from a list, a
  boolean from a number or a text from its bytes.
-/

namespace VirtCore.Bencode

open PyString

/-- What has a row in `encode_func`. `IntType` and `LongType` are one here; a text is one of scalar
values; a `Bencached` holds any string, with the marker that is asserted. -/
inductive Value where
  | int (n : Int)
  | bool (b : Bool)
  | str (s : Str)
  | unicode (s : String)
  | list (l : List Value)
  | tuple (l : List Value)
  | dict (d : List (Str × Value))
  | bencached (bencoded : Str)

/-! ## Encoding

Every function appends to `r`, and what it appends is the value of its definition here. -/

def encode_int (n : Int) : Str := 105 :: (str n ++ [101])

/-- `int(x)` of a boolean is `0` or `1`. -/
def encode_bool (b : Bool) : Str := encode_int b.toInt

def encode_string (s : Str) : Str := str s.length ++ 58 :: s

/-- `x.encode('UTF-8')`. -/
def utf8 (s : String) : Str := s.toByteArray.data.toList

def encode_unicode (s : String) : Str := encode_string (utf8 s)

/-- `a <= b`: strings are compared character by character. -/
def before : Str → Str → Bool
  | [], _ => true
  | _ :: _, [] => false
  | c :: a, d :: b => c.toNat < d.toNat || (c.toNat = d.toNat && before a b)

/-- The order of `ilist.sort()`, where no two keys are the same. -/
def byKey {α : Type} (d : List (Str × α)) : List (Str × α) :=
  d.mergeSort fun a b => before a.1 b.1

mutual

/-- `encode_func[type(x)](x, r)`, and what it has appended. -/
def bencode : Value → Str
  | .int n => encode_int n
  | .bool b => encode_bool b
  | .str s => encode_string s
  | .unicode s => encode_unicode s
  | .list l | .tuple l => 108 :: (encode_list l ++ [101])
  | .dict d =>
    100 :: ((byKey (encode_items d)).flatMap (fun e => encode_string e.1 ++ e.2) ++ [101])
  | .bencached s => s

/-- The loop of `encode_list`. -/
def encode_list : List Value → Str
  | [] => []
  | v :: l => bencode v ++ encode_list l

/-- The items of a dictionary, each with what its value is encoded as. -/
def encode_items : List (Str × Value) → List (Str × Str)
  | [] => []
  | (k, v) :: d => (k, bencode v) :: encode_items d

end

/-! ## Decoding

Each function is given the string and a place in it, and answers with the place behind what it has
read. A length may be negative, so that the place behind a string lies before it; nothing then
bounds the number of calls, which is why they are counted. -/

/-- `ValueError`, `IndexError` or `KeyError`, which are caught, or the end of what was given. -/
inductive Failure where
  | bad
  | fuel

/-- `x[f]` is the `i`; the number ends at the next `e`. -/
def decode_int (x : Str) (f : Int) : Except Failure (Int × Int) :=
  let f := f + 1
  match index x 101 f with
  | none => .error .bad
  | some newf =>
    match long (slice x f newf), getitem x f with
    | some n, some c =>
      if c = 45 then
        match getitem x (f + 1) with
        | none => .error .bad
        | some c => if c = 48 then .error .bad else .ok (n, newf + 1)
      else if c = 48 ∧ newf ≠ f + 1 then .error .bad
      else .ok (n, newf + 1)
    | _, _ => .error .bad

/-- `x[f]` is the first digit of the length. -/
def decode_string (x : Str) (f : Int) : Except Failure (Str × Int) :=
  match index x 58 f with
  | none => .error .bad
  | some colon =>
    match long (slice x f colon), getitem x f with
    | some n, some c =>
      if c = 48 ∧ colon ≠ f + 1 then .error .bad
      else .ok (slice x (colon + 1) (colon + 1 + n), colon + 1 + n)
    | _, _ => .error .bad

mutual

/-- `decode_func[x[f]](x, f)`. -/
def decode : Nat → Str → Int → Except Failure (Value × Int)
  | 0, _, _ => .error .fuel
  | n + 1, x, f =>
    match getitem x f with
    | none => .error .bad
    | some c =>
      if c = 108 then
        match decode_list n x (f + 1) with
        | .error e => .error e
        | .ok (r, f) => .ok (.list r, f)
      else if c = 100 then
        match decode_dict n x (f + 1) none with
        | .error e => .error e
        | .ok (r, f) => .ok (.dict r, f)
      else if c = 105 then
        match decode_int x f with
        | .error e => .error e
        | .ok (r, f) => .ok (.int r, f)
      else if isDigit c then
        match decode_string x f with
        | .error e => .error e
        | .ok (r, f) => .ok (.str r, f)
      else .error .bad

/-- The loop of `decode_list`, and its return. -/
def decode_list : Nat → Str → Int → Except Failure (List Value × Int)
  | 0, _, _ => .error .fuel
  | n + 1, x, f =>
    match getitem x f with
    | none => .error .bad
    | some c =>
      if c = 101 then .ok ([], f + 1)
      else
        match decode n x f with
        | .error e => .error e
        | .ok (v, f) =>
          match decode_list n x f with
          | .error e => .error e
          | .ok (r, f) => .ok (v :: r, f)

/-- The loop of `decode_dict`; `None` comes before every key. -/
def decode_dict : Nat → Str → Int → Option Str → Except Failure (List (Str × Value) × Int)
  | 0, _, _, _ => .error .fuel
  | n + 1, x, f, lastkey =>
    match getitem x f with
    | none => .error .bad
    | some c =>
      if c = 101 then .ok ([], f + 1)
      else
        match decode_string x f with
        | .error e => .error e
        | .ok (k, f) =>
          if lastkey.any (before k) then .error .bad
          else
            match decode n x f with
            | .error e => .error e
            | .ok (v, f) =>
              match decode_dict n x f (some k) with
              | .error e => .error e
              | .ok (r, f) => .ok ((k, v) :: r, f)

end

/-- With as many calls and rounds as are given. -/
def bdecode (fuel : Nat) (x : Str) (sloppy : Bool) : Except Failure Value :=
  match decode fuel x 0 with
  | .error e => .error e
  | .ok (r, l) => if ¬sloppy ∧ l ≠ x.length then .error .bad else .ok r

end VirtCore.Bencode
