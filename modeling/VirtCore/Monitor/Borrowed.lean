import VirtCore.Monitor.Collectors
import Mathlib.Data.List.Forall2
import Mathlib.Algebra.Ring.Int.Defs

/-!
# VirtCore — the strings that a collector borrows

A collector keeps pointers into the strings of its dict, and releases the dict before the map is
read.

* **`Shape.reported`** — the members that a well-formed dict stands for.
* **`Shape.strings`** — the strings that are read when the map is written.
* **`PointsTo`** — a pointer to the text of an object, or to a literal.
* **`run_wellFormed`** — what a collector makes of a well-formed dict.
* **`strings_alive_iff`** — no string is read after it has been freed, just where the dict or the
  string is referred to from elsewhere.
-/

namespace VirtCore

open Python

/-! ## Well-formed dicts

A dict that has the right objects under the right names, which is all that a collector counts on. -/

namespace Python.Dict

variable (d : Dict)

/-- The text of an object that is a string for C. -/
def text (r : Ref) : Option String :=
  match d.object r with
  | .str s => if NoNul s then some s else none
  | .int _ => none

def number (r : Ref) : Option Int :=
  match d.object r with
  | .int n => some n
  | .str _ => none

/-- The code of a dict, where it is an `int`. -/
def code : Option Int := (PyDict_GetItemString d "code").bind d.number

/-- The texts under these names. -/
def fieldsOf : List String → Option (List (String × String))
  | [] => some []
  | name :: names => do
    let r ← PyDict_GetItemString d name
    let value ← d.text r
    let members ← fieldsOf names
    return (name, value) :: members

/-- The texts of the keys and of the values. -/
def pairsOf : List (Ref × Ref) → Option (List (String × String))
  | [] => some []
  | e :: es => do
    let key ← d.text e.1
    let value ← d.text e.2
    let members ← pairsOf es
    return (key, value) :: members

end Python.Dict

namespace Monitor.Collector.Shape

/-- The members of a well-formed dict: of the right size, with the code an `int` and everything else
a string without a NUL. -/
def reported (d : Dict) : Shape → Option (List (String × String))
  | .fields _ size names =>
    if PyDict_Size d = size then do
      let code ← d.code
      let members ← d.fieldsOf names
      return ("code", toString code) :: members
    else none
  | .whole => if d.items = [] then none else d.pairsOf d.items

/-- The strings that are read when the map is written. -/
def strings (d : Dict) : Shape → List Ref
  | .fields _ _ names => names.filterMap (PyDict_GetItemString d)
  | .whole => owned d.items

/-- The code is written with nine characters at most. -/
def CodeFits (d : Dict) : Shape → Prop
  | .fields _ _ _ => ∀ code ∈ d.code, (toString code).length ≤ 9
  | .whole => True

end Monitor.Collector.Shape

/-! ## Reading the pointers

A pointer is read as long as its object is alive. That is why the dict's reference count decides
about all of them. -/

namespace Monitor

open Collector

variable {J : Jsoncpp} {d : Dict} {m : Memory} {stack : Stack} {p : CharPtr} {s : String}

/-- What the pointer points to has not been freed. -/
def Alive (m : Memory) : CharPtr → Prop
  | .object r => 0 < m.refs r
  | _ => True

/-- No entry of the map points to what has been freed. -/
def Collected.Alive (map_info : Collected) : Prop :=
  ∀ e ∈ map_info.entries, Monitor.Alive map_info.memory e.1 ∧
    Monitor.Alive map_info.memory e.2

/-- A pointer to a literal, or to the text of an object of the dict. -/
def PointsTo (d : Dict) : CharPtr → String → Prop
  | .literal s, t => s = t
  | .object r, t => d.text r = some t
  | _, _ => False

theorem text_eq_some {r : Ref} (h : d.text r = some s) : d.object r = .str s ∧ NoNul s := by
  unfold Dict.text at h
  split at h
  · split at h
    · rename_i hobject hnul
      obtain rfl := Option.some.inj h
      exact ⟨hobject, hnul⟩
    · cases h
  · cases h

/-- Reading what lives gives its text. -/
theorem read_of_alive (hobject : m.object = d.object) (hp : PointsTo d p s) (halive : Alive m p) :
    m.read stack p = .ok s := by
  cases p with
  | literal t => exact congrArg Except.ok hp
  | object r =>
    obtain ⟨htext, hnul⟩ := text_eq_some hp
    have hrefs : m.refs r ≠ 0 := Nat.ne_of_gt halive
    rw [Memory.read, if_neg hrefs, hobject, htext]
    exact congrArg Except.ok (cstr_noNul hnul)
  | buffer | null | unset => exact hp.elim

/-- What could be read was alive. -/
theorem alive_of_read (h : m.read stack p = .ok s) : Alive m p := by
  cases p with
  | object r =>
    by_contra hdead
    have hrefs : m.refs r = 0 := by
      have : ¬0 < m.refs r := hdead
      omega
    rw [Memory.read, if_pos hrefs] at h
    cases h
  | literal | buffer | null | unset => trivial

theorem readAll_cons_ok {e : CharPtr × CharPtr} {es : List (CharPtr × CharPtr)}
    {x : List (String × String)} :
    readAll m stack (e :: es) = .ok x ↔ ∃ key value members, m.read stack e.1 = .ok key ∧
      m.read stack e.2 = .ok value ∧ readAll m stack es = .ok members ∧
        x = (key, value) :: members := by
  simp only [readAll, bind, Except.bind, pure, Except.pure]
  cases m.read stack e.1 <;> cases m.read stack e.2 <;> cases readAll m stack es <;>
    simp [eq_comm]

/-- Pointers to what lives are read back. -/
theorem readAll_of_alive (hobject : m.object = d.object) {es : List (CharPtr × CharPtr)}
    {members : List (String × String)}
    (hpoints : List.Forall₂ (fun e x => PointsTo d e.1 x.1 ∧ PointsTo d e.2 x.2) es members)
    (halive : ∀ e ∈ es, Alive m e.1 ∧ Alive m e.2) : readAll m stack es = .ok members := by
  induction hpoints with
  | nil => rfl
  | cons hhead _ ih =>
    obtain ⟨hkey, hvalue⟩ := halive _ List.mem_cons_self
    exact readAll_cons_ok.mpr ⟨_, _, _, read_of_alive hobject hhead.1 hkey,
      read_of_alive hobject hhead.2 hvalue,
      ih fun e he => halive e (List.mem_cons_of_mem _ he), rfl⟩

/-- A map that was written had no dead pointer. -/
theorem alive_of_readAll {es : List (CharPtr × CharPtr)} {members : List (String × String)}
    (h : readAll m stack es = .ok members) : ∀ e ∈ es, Alive m e.1 ∧ Alive m e.2 := by
  induction es generalizing members with
  | nil => exact nofun
  | cons e es ih =>
    obtain ⟨_, _, _, hkey, hvalue, hrest, -⟩ := readAll_cons_ok.mp h
    intro e' he'
    rcases List.mem_cons.mp he' with rfl | he'
    · exact ⟨alive_of_read hkey, alive_of_read hvalue⟩
    · exact ih hrest e' he'

theorem Collected.alive_of_written {map_info : Collected} {text : String}
    (h : mapTojsonstr J map_info stack = .ok text) : Collected.Alive map_info := by
  unfold mapTojsonstr at h
  cases hread : readAll map_info.memory stack map_info.entries with
  | error e =>
    rw [hread] at h
    cases h
  | ok members => exact alive_of_readAll hread

/-! ## What a collector makes of its dict -/

/-- The pointer that a collector takes for a name. -/
theorem parse_of_text {r : Ref} (h : d.text r = some s) :
    PyArg_Parse_s d (some r) = .object r ∧ PyString_AsString d r = .object r := by
  obtain ⟨hobject, hnul⟩ := text_eq_some h
  simp [PyArg_Parse_s, PyString_AsString, hobject, hnul]

/-- The items under the names: where they are, and that the pointers are to them. -/
theorem fieldsOf_points {names : List String} {members : List (String × String)}
    (h : d.fieldsOf names = some members) :
    List.Forall₂ (fun e x => PointsTo d e.1 x.1 ∧ PointsTo d e.2 x.2)
        (names.map fun name =>
          (CharPtr.literal name, PyArg_Parse_s d (PyDict_GetItemString d name))) members ∧
      ((∀ e ∈ names.map fun name =>
          (CharPtr.literal name, PyArg_Parse_s d (PyDict_GetItemString d name)),
          Alive m e.1 ∧ Alive m e.2) ↔
        ∀ r ∈ names.filterMap (PyDict_GetItemString d), 0 < m.refs r) := by
  induction names generalizing members with
  | nil =>
    obtain rfl := Option.some.inj h
    exact ⟨.nil, iff_of_true nofun nofun⟩
  | cons name names ih =>
    simp only [Dict.fieldsOf, Option.bind_eq_bind, Option.bind_eq_some_iff, Option.pure_def,
      Option.some.injEq] at h
    obtain ⟨r, hr, value, hvalue, rest, hrest, rfl⟩ := h
    obtain ⟨hpoints, halive⟩ := ih hrest
    -- the value that was looked up is a string of its own
    have hptr : PyArg_Parse_s d (PyDict_GetItemString d name) = .object r := by
      rw [hr]
      exact (parse_of_text hvalue).1
    constructor
    · rw [List.map_cons, hptr]
      exact .cons ⟨rfl, hvalue⟩ hpoints
    · rw [List.map_cons, List.filterMap_cons_some hr, List.forall_mem_cons, List.forall_mem_cons,
        halive, hptr]
      exact and_congr_left' (and_iff_right trivial)

theorem pairsOf_points {items : List (Ref × Ref)} {members : List (String × String)}
    (h : d.pairsOf items = some members) :
    List.Forall₂ (fun e x => PointsTo d e.1 x.1 ∧ PointsTo d e.2 x.2)
        (items.map fun e => (PyString_AsString d e.1, PyString_AsString d e.2)) members ∧
      ((∀ e ∈ items.map fun e => (PyString_AsString d e.1, PyString_AsString d e.2),
          Alive m e.1 ∧ Alive m e.2) ↔ ∀ r ∈ owned items, 0 < m.refs r) := by
  induction items generalizing members with
  | nil =>
    obtain rfl := Option.some.inj h
    exact ⟨.nil, iff_of_true nofun nofun⟩
  | cons e items ih =>
    simp only [Dict.pairsOf, Option.bind_eq_bind, Option.bind_eq_some_iff, Option.pure_def,
      Option.some.injEq] at h
    obtain ⟨key, hkey, value, hvalue, rest, hrest, rfl⟩ := h
    obtain ⟨hpoints, halive⟩ := ih hrest
    rw [List.map_cons, (parse_of_text hkey).2, (parse_of_text hvalue).2]
    constructor
    · exact .cons ⟨hkey, hvalue⟩ hpoints
    · -- the list of items owns the key and the value of each
      have howned : owned (e :: items) = e.1 :: e.2 :: owned items := rfl
      rw [howned, List.forall_mem_cons, List.forall_mem_cons, List.forall_mem_cons, halive,
        and_assoc]
      rfl

/-- A code that is written with nine characters is in the range of `int`. -/
theorem code_in_range {n : Int} (h : (toString n).length ≤ 9) : -2 ^ 31 ≤ n ∧ n < 2 ^ 31 := by
  have hnat {k : Nat} (hk : (toString k).length ≤ 9) : k < 10 ^ 9 := by
    rw [Nat.toString_eq_ofList_toDigits, String.length_ofList] at hk
    exact (Nat.length_toDigits_le_iff (by decide) (by decide)).mp hk
  cases n with
  | ofNat k =>
    have hk := hnat (k := k) h
    show -2 ^ 31 ≤ (k : Int) ∧ (k : Int) < 2 ^ 31
    omega
  | negSucc k =>
    have hlength : (toString (Int.negSucc k)).length = 1 + (toString (k + 1)).length := by
      show ("-" ++ (k + 1).repr).length = _
      exact String.length_append _ _
    have hk := hnat (k := k + 1) (by omega)
    omega

/-- What is parsed of a code: the code, where it is in the range of `int`. -/
theorem parse_code {code : Int} (hcode : code ∈ d.code) :
    PyArg_Parse_i d (PyDict_GetItemString d "code") =
      if -2 ^ 31 ≤ code ∧ code < 2 ^ 31 then some code else none := by
  obtain ⟨r, hr, hnumber⟩ := Option.bind_eq_some_iff.mp hcode
  unfold Dict.number at hnumber
  split at hnumber
  · rename_i hobject
    obtain rfl := Option.some.inj hnumber
    rw [hr, PyArg_Parse_i, hobject]
  · cases hnumber

/-- A code that does not fit ends in a fault. -/
theorem run_of_not_codeFits {shape : Shape} {members : List (String × String)}
    (h : shape.reported d = some members) (hcode : ¬shape.CodeFits d) (stack : Stack) :
    ∃ e, shape.run (.dict d) stack = .error e := by
  cases shape with
  | whole => exact (hcode trivial).elim
  | fields c size names =>
    -- the dictionary has the right size, or nothing is reported
    have hsize : PyDict_Size d = size := by
      by_contra hne
      rw [Shape.reported, if_neg hne] at h
      cases h
    simp only [Shape.CodeFits, not_forall, not_le] at hcode
    obtain ⟨code, hmem, hlong⟩ := hcode
    show ∃ e, collect c size names (.dict d) stack = .error e
    rw [collect, if_neg (not_not_intro hsize.symm)]
    rw [parse_code hmem]
    -- a code that is an `int` is too long for the buffer, and one that is not leaves the variable
    -- unset
    by_cases hrange : -2 ^ 31 ≤ code ∧ code < 2 ^ 31
    · rw [if_pos hrange]
      exact ⟨.overflow, if_pos (by omega)⟩
    · rw [if_neg hrange]
      exact ⟨.unsetRead, rfl⟩

/-- **What a collector makes of a well-formed dict**: pointers to its strings, which are read back
as they were where none has been freed. -/
theorem run_wellFormed {shape : Shape} {members : List (String × String)}
    (h : shape.reported d = some members) (hcode : shape.CodeFits d) (stack : Stack) :
    ∃ map_info stack', shape.run (.dict d) stack = .ok (some map_info, stack') ∧
      (Collected.Alive map_info ↔ ∀ r ∈ shape.strings d, 0 < (Py_DECREF d).refs r) ∧
      (Collected.Alive map_info → ∀ J : Jsoncpp, mapTojsonstr J map_info stack' =
        .ok (J.mapTojsonstr Json.string members)) := by
  cases shape with
  | whole =>
    have hne : d.items ≠ [] := by
      intro hnil
      rw [Shape.reported, if_pos hnil] at h
      cases h
    rw [Shape.reported, if_neg hne] at h
    have hsize : ¬PyDict_Size d < 1 := by
      have := List.length_pos_iff.mpr hne
      rw [PyDict_Size]
      omega
    obtain ⟨hpoints, halive⟩ := pairsOf_points (m := Py_DECREF d) h
    refine ⟨_, stack, if_neg hsize, halive, fun hall J => ?_⟩
    rw [mapTojsonstr, readAll_of_alive rfl hpoints hall]
    rfl
  | fields c size names =>
    have hsize : PyDict_Size d = size := by
      by_contra hne
      rw [Shape.reported, if_neg hne] at h
      cases h
    rw [Shape.reported, if_pos hsize] at h
    simp only [Option.bind_eq_bind, Option.bind_eq_some_iff, Option.pure_def,
      Option.some.injEq] at h
    obtain ⟨code, hmem, rest, hrest, rfl⟩ := h
    have hshort : (toString code).length ≤ 9 := hcode code hmem
    have hparse := (parse_code hmem).trans (if_pos (code_in_range hshort))
    obtain ⟨hpoints, halive⟩ := fieldsOf_points (m := Py_DECREF d) hrest
    refine ⟨⟨Py_DECREF d, (.literal "code", .buffer c) :: names.map fun name =>
      (.literal name, PyArg_Parse_s d (PyDict_GetItemString d name))⟩,
      stack.strcpy c (toString code), ?_, ?_, fun hall J => ?_⟩
    · show collect c size names (.dict d) stack = _
      rw [collect, if_neg (not_not_intro hsize.symm), hparse]
      exact if_neg (by omega)
    · rw [Shape.strings, ← halive, Collected.Alive, List.forall_mem_cons]
      exact and_iff_right ⟨trivial, trivial⟩
    · have hread : readAll _ (stack.strcpy c (toString code)) _ = _ :=
        readAll_of_alive rfl hpoints (List.forall_mem_cons.mp hall).2
      -- the code is read back from the array that it has been copied to
      have hbuffer : (Py_DECREF d).read (stack.strcpy c (toString code)) (.buffer c) =
          .ok (toString code) := by
        rw [Memory.read, Stack.strcpy, if_pos rfl]
      rw [mapTojsonstr, readAll_cons_ok.mpr ⟨_, _, _, rfl, hbuffer, hread, rfl⟩]
      rfl

/-! ## Borrowed strings -/

/-- The strings that are read belong to the dict. -/
theorem strings_owned (shape : Shape) : ∀ r ∈ shape.strings d, r ∈ owned d.items := by
  intro r hr
  cases shape with
  | whole => exact hr
  | fields c size names =>
    obtain ⟨name, -, hname⟩ := List.mem_filterMap.mp hr
    exact getItem_owned hname

/-- The dict outlives the collector, or each string that is read does. -/
def Survives (d : Dict) (shape : Shape) : Prop :=
  d.self ≠ 1 ∨ ∀ r ∈ shape.strings d, (owned d.items).count r < d.refs r

theorem survives_iff (shape : Shape) :
    (∀ r ∈ shape.strings d, 0 < (Py_DECREF d).refs r) ↔ Survives d shape := by
  have hrefs : (∀ r ∈ shape.strings d, 0 < (Py_DECREF d).refs r) ↔
      ∀ r ∈ shape.strings d, d.self ≠ 1 ∨ (owned d.items).count r < d.refs r :=
    forall₂_congr fun r hr => refs_pos_iff (strings_owned shape r hr)
  rw [hrefs, Survives]
  by_cases hself : d.self = 1 <;> simp [hself]

/-- The collector returns a map of which every string is alive when `getHostInfo` writes it, which
it does at once. -/
def BorrowsAlive (c : Collector) (d : Dict) (stack : Stack) : Prop :=
  ∃ map_info stack', c.run (.dict d) stack = .ok (some map_info, stack') ∧
    Collected.Alive map_info

/-- Strings that are all alive have outlived the dict. -/
theorem survives_of_borrowsAlive {c : Collector} {members : List (String × String)}
    (h : c.shape.reported d = some members) {stack : Stack} (halive : BorrowsAlive c d stack) :
    c.shape.CodeFits d ∧ Survives d c.shape := by
  obtain ⟨map_info, stack', hrun, hall⟩ := halive
  rw [c.run_eq] at hrun
  by_cases hcode : c.shape.CodeFits d
  · obtain ⟨map_info', stack'', hrun', hiff, -⟩ := run_wellFormed h hcode stack
    obtain ⟨rfl, rfl⟩ : map_info' = map_info ∧ stack'' = stack' := by
      rw [hrun] at hrun'
      simpa [eq_comm] using hrun'
    exact ⟨hcode, (survives_iff _).mp (hiff.mp hall)⟩
  · obtain ⟨e, herror⟩ := run_of_not_codeFits h hcode stack
    rw [herror] at hrun
    cases hrun

/-- **When no string is read after it has been freed**: where the code fits its array, and the dict
or each of the strings is referred to from elsewhere. -/
theorem strings_alive_iff {c : Collector} {members : List (String × String)}
    (h : c.shape.reported d = some members) (stack : Stack) :
    BorrowsAlive c d stack ↔ c.shape.CodeFits d ∧ Survives d c.shape := by
  constructor
  · exact survives_of_borrowsAlive h
  · rintro ⟨hcode, hsurvives⟩
    obtain ⟨map_info, stack', hrun, hiff, -⟩ := run_wellFormed h hcode stack
    rw [← c.run_eq] at hrun
    exact ⟨map_info, stack', hrun, hiff.mpr ((survives_iff _).mpr hsurvives)⟩

/-- The keys and values of a dict, one after the other. -/
def objectOf (members : List (String × Obj)) (r : Ref) : Obj :=
  match members[r / 2]? with
  | some member => if r % 2 = 0 then .str member.1 else member.2
  | none => .int 0

/-- A dict to which there is one reference, and as many to each object besides its own. -/
def returned (members : List (String × Obj)) (elsewhere : Nat)
    (distinct : (((List.range members.length).map fun i => (2 * i, 2 * i + 1)).map fun e =>
      objectOf members e.1).Nodup) : Dict where
  items := (List.range members.length).map fun i => (2 * i, 2 * i + 1)
  object := objectOf members
  refs r := (owned ((List.range members.length).map fun i => (2 * i, 2 * i + 1))).count
    r + elsewhere
  self := 1
  held := Nat.one_pos
  owns _ := Nat.le_add_right _ _
  distinct

/-- What `get_cpurate` returns of a host that is not busy. -/
def cpuRate (elsewhere : Nat) : Dict :=
  returned [("code", .int 1), ("value", .str "12.5"), ("obj", .str "cpupress")] elsewhere
    (by decide)

theorem cpuRate_reported (elsewhere : Nat) :
    Collector.cpuPressure.shape.reported (cpuRate elsewhere) =
      some [("code", "1"), ("value", "12.5"), ("obj", "cpupress")] := rfl

/-- Strings that are constants of the function as well outlive the dict. -/
theorem strings_alive_iff_constants : BorrowsAlive .cpuPressure (cpuRate 1) fun _ => none :=
  (strings_alive_iff (cpuRate_reported 1) _).mpr
    ⟨fun code hcode => by obtain rfl : 1 = code := Option.some.inj hcode; decide,
      .inr fun _ _ => Nat.lt_succ_self _⟩

/-- **A value that has been computed is read after it has been freed.** -/
theorem computed_freed : ¬∀ (c : Collector) (d : Dict) (members : List (String × String))
    (stack : Stack), c.shape.reported d = some members → BorrowsAlive c d stack := by
  intro hclaim
  have halive := hclaim .cpuPressure (cpuRate 0) _ (fun _ => none) (cpuRate_reported 0)
  obtain ⟨-, hself | hrefs⟩ := survives_of_borrowsAlive (cpuRate_reported 0) halive
  · exact hself rfl
  · have hvalue : (owned (cpuRate 0).items).count 3 < (cpuRate 0).refs 3 := hrefs 3 (by decide)
    exact Nat.lt_irrefl _ hvalue

end Monitor

end VirtCore
