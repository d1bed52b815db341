import Mathlib.Data.List.Permutation
import VirtCore.Queries.Report
import VirtCore.Queries.Text
import VirtCore.VBox.Calm

/-!
# VirtCore — the machine list

`listVMs` reads the name of each machine, and looks the machine up again under it for its state.

* **`NamedHost`** — the machines of a host, with their UTF-16 names and their states.
* **`listsAs`** — the answers of such a host: a machine is found by its exact name.
* **`Listing`** — one member for each machine with a name.
* **`listVMs_complete`** — the list is complete.
-/

namespace VirtCore


open Interact Unicode

structure NamedHost where
  machines : List IMachine
  name : Nat → List UInt16
  state : Nat → MachineState

/-- What such a host answers. A name that is no UUID is looked up as it is; no call fails, and
no state changes. -/
def listsAs (H : NamedHost) (isUuid : List UInt16 → Prop) : (a : Act) → a.Ans → Prop
  | .val (.getMachineStates _), x => ∃ states, x = .ok states
  | .val (.machineName m), x =>
    ∃ s : String, to_utf8 (utf16ToWide (H.name m.vm)) = some s.toByteArray ∧ x = .ok s
  | .ptr (.findMachine s), x => ∀ m ∈ H.machines, to_utf16 s.toByteArray =
      some (H.name m.vm) →
    ¬isUuid (H.name m.vm) → ∃ m' : IMachine, x = .ok (some m') ∧ m'.vm = m.vm
  | .val (.state m), x => x = .ok (H.state m.vm)
  | _, _ => True

attribute [simp] listsAs

variable {H : NamedHost} {isUuid : List UInt16 → Prop} {J : Jsoncpp}

/-- One member for each machine with a name: its name in UTF-8, and the number of its state. -/
structure Listing (H : NamedHost) (members : List (String × Int)) : Prop where
  distinct : (members.map Prod.fst).Nodup
  lists : ∀ key value, (key, value) ∈ members ↔
    ∃ m ∈ H.machines, H.name m.vm ≠ [] ∧ utf16 key.toList = H.name m.vm ∧
      value = (H.state m.vm).toInt

/-- What can be said of the names: each is well formed, no UUID, and that of one machine. -/
structure Named (H : NamedHost) (isUuid : List UInt16 → Prop) : Prop where
  wellFormed : ∀ m ∈ H.machines, WellFormed16 (H.name m.vm)
  noUuid : ∀ m ∈ H.machines, ¬isUuid (H.name m.vm)
  distinct : H.machines.Pairwise fun m m' => H.name m.vm ≠ H.name m'.vm

/-- The texts of the names. -/
def Texts (H : NamedHost) (text : Nat → String) : Prop :=
  ∀ m ∈ H.machines, utf16 (text m.vm).toList = H.name m.vm

variable {text : Nat → String}

/-- A well-formed name has a text. -/
theorem Named.texts (h : Named H isUuid) : ∃ text, Texts H text := by
  have hex (vm : Nat) : ∃ s : String, WellFormed16 (H.name vm) →
    utf16 s.toList = H.name vm := by
    by_cases hw : WellFormed16 (H.name vm)
    · obtain ⟨s, -, -, hs⟩ := to_utf16_listed hw
      exact ⟨s, fun _ => hs⟩
    · exact ⟨"", fun h => (hw h).elim⟩
  exact ⟨fun vm => Classical.choose (hex vm), fun m hm =>
    Classical.choose_spec (hex m.vm) (h.wellFormed m hm)⟩

/-- What `machineName` answers is the text of the name. -/
theorem Texts.eq {m : IMachine} (h : Texts H text) (hm : m ∈ H.machines) {s : String}
    (hs : to_utf8 (utf16ToWide (H.name m.vm)) = some s.toByteArray) : s = text m.vm := by
  rw [← h m hm, to_utf8_utf16ToWide, String.ofList_toList] at hs
  exact (String.toByteArray_inj.mp (Option.some.inj hs)).symm

/-- Only an empty name has an empty text. -/
theorem Texts.empty {m : IMachine} (h : Texts H text) (hm : m ∈ H.machines) :
    text m.vm = "" ↔ H.name m.vm = [] := by
  rw [← h m hm]
  refine ⟨fun he => by rw [he]; rfl, fun he => ?_⟩
  have hmap := COM_ToWString_utf16 (text m.vm).toList
  rw [he] at hmap
  exact String.toList_eq_nil_iff.mp (List.map_eq_nil_iff.mp hmap.symm)

theorem Texts.distinct (h : Texts H text) (hn : Named H isUuid) :
    H.machines.Pairwise fun m m' => text m.vm ≠ text m'.vm := by
  refine hn.distinct.imp_of_mem fun hm hm' hne heq => hne ?_
  rw [← h _ hm, ← h _ hm', heq]

/-! ## The map of the states

A `map` keeps its keys in order and one value for each; names that are distinct lose nothing. -/

/-- The map after a machine. -/
def insertState (H : NamedHost) (text : Nat → String) (map : List (String × Int))
    (m : IMachine) : List (String × Int) :=
  if text m.vm ≠ "" then mapInsert map (text m.vm) (H.state m.vm).toInt else map

/-- Machines of distinct texts are entered one after the other. -/
theorem insertStates {l : List IMachine} (hl : l.Pairwise fun m m' => text m.vm ≠ text m'.vm)
    {map : List (String × Int)} (hmap : ∀ e ∈ map, ∀ m ∈ l, e.1 ≠ text m.vm) :
    l.foldl (insertState H text) map =
      map ++ (l.filter fun m => text m.vm ≠ "").map fun m =>
        (text m.vm, (H.state m.vm).toInt) := by
  induction l generalizing map with
  | nil => simp
  | cons m l ih =>
    obtain ⟨hm, hl⟩ := List.pairwise_cons.mp hl
    rw [List.foldl_cons, insertState]
    have hrest (e : String × Int) (he : e ∈ map) (m' : IMachine) (hm' : m' ∈ l) :
        e.1 ≠ text m'.vm := hmap e he m' (List.mem_cons_of_mem m hm')
    split
    · next hne =>
      -- no machine before it has the same name, so that it gets an entry of its own
      rw [mapInsert_new fun e he => hmap e he m List.mem_cons_self, ih hl ?_]
      · simp [hne]
      · intro e he m' hm'
        rcases List.mem_append.mp he with he | he
        · exact hrest e he m' hm'
        · obtain rfl := List.mem_singleton.mp he
          exact hm m' hm'
    · next hempty =>
      rw [ih hl hrest]
      simp [Decidable.not_not.mp hempty]

/-- The map of all machines. -/
def stateMap (H : NamedHost) (text : Nat → String) : List (String × Int) :=
  H.machines.foldl (insertState H text) []

theorem stateMap_listing (h : Texts H text) (hn : Named H isUuid) :
    Listing H (stateMap H text) := by
  have hmap : stateMap H text = (H.machines.filter fun m => text m.vm ≠ "").map fun m =>
      (text m.vm, (H.state m.vm).toInt) :=
    insertStates (h.distinct hn) nofun
  constructor
  · rw [hmap, List.map_map]
    exact List.pairwise_map.mpr ((h.distinct hn).sublist List.filter_sublist)
  · intro key value
    rw [hmap]
    simp only [List.mem_map, List.mem_filter, decide_eq_true_eq, Prod.mk.injEq]
    constructor
    · rintro ⟨m, ⟨hm, hne⟩, rfl, rfl⟩
      exact ⟨m, hm, fun he => hne ((h.empty hm).mpr he), h m hm, rfl⟩
    · rintro ⟨m, hm, hne, hkey, rfl⟩
      refine ⟨m, ⟨hm, fun he => hne ((h.empty hm).mp he)⟩, ?_, rfl⟩
      rw [← h m hm] at hkey
      exact String.toList_inj.mp (utf16_injective hkey).symm

/-! ## The two loops -/

/-- The names are read one after the other. -/
theorem names_read (h : Texts H text) {l : List IMachine} (hl : ∀ m ∈ l, m ∈ H.machines)
    (names : List String) :
    Reads (listsAs H isUuid) (Prog.fold (fun names (machine : COMPtr IMachine) => do
      return names ++ [← via machine fun m => val (.machineName m)]) names (l.map some))
      (names ++ l.map fun m => text m.vm) := by
  induction l generalizing names with
  | nil =>
    show Reads _ (.ret names) (names ++ [])
    rw [List.append_nil]
    exact reads_ret names
  | cons m l ih =>
    have hname : Reads (listsAs H isUuid) (val (.machineName m)) (text m.vm) := by
      rintro _ st rfl
      simp
      exact fun s hs => h.eq (hl m List.mem_cons_self) hs
    refine reads_bind (reads_bind hname (reads_ret _)) ?_
    have hrest := ih (fun m' hm' => hl m' (List.mem_cons_of_mem m hm')) (names ++ [text m.vm])
    rwa [List.append_assoc] at hrest

/-- Each machine is found again, and its state is read. -/
theorem states_read (h : Texts H text) (hn : Named H isUuid) {l : List IMachine}
    (hl : ∀ m ∈ l, m ∈ H.machines) (map : List (String × Int)) :
    Reads (listsAs H isUuid) (Prog.fold (fun map vmdata => do
      if vmdata ≠ "" then
        let machine ← ptr (.findMachine vmdata)
        let state ← via machine fun m => val (.state m)
        return mapInsert map vmdata state.toInt
      else
        return map) map (l.map fun m => text m.vm))
      (l.foldl (insertState H text) map) := by
  induction l generalizing map with
  | nil => exact reads_ret map
  | cons m l ih =>
    have hm := hl m List.mem_cons_self
    refine reads_bind ?_ (ih (fun m' hm' => hl m' (List.mem_cons_of_mem m hm')) _)
    have hunits : to_utf16 (text m.vm).toByteArray = some (H.name m.vm) := by
      rw [to_utf16_toByteArray, h m hm]
    -- the name is converted back, and is found as no id
    have hfound : ∃ m' ∈ H.machines, to_utf16 (text m.vm).toByteArray = some (H.name m'.vm) ∧
        ¬isUuid (H.name m'.vm) := ⟨m, hm, hunits, hn.noUuid m hm⟩
    by_cases hempty : text m.vm = ""
    · rintro _ st rfl
      simp [insertState, hempty]
    · rintro _ st rfl
      simp [insertState, hempty, hfound]
      intro m' hm'
      -- only the machine itself has the name
      rw [hm' m hm hunits (hn.noUuid m hm)]

/-- The report that lists `members`. -/
def listReport (J : Jsoncpp) (members : List (String × Int)) : String :=
  J.write (.array [.string (J.mapTojsonstr Json.int members)])

theorem listVMs_lists (h : Texts H text) (hn : Named H isUuid) :
    Triple (reportView (listsAs H isUuid)) (fun st => ∀ text', ¬st text')
      (QiVCA.listVMs J (H.machines.map some))
      (fun b st => (b = true ↔ stateMap H text ≠ []) ∧
        (b = true → ∀ text', st text' ↔ text' = listReport J (stateMap H text)))
      fun _ _ => False := by
  intro st hst
  unfold QiVCA.listVMs
  rw [wp_bind, wp_val]
  refine ⟨fun states _ => ?_, fun err herr => absurd herr.2 fun ⟨_, h⟩ => nomatch h⟩
  rw [wp_bind]
  -- the first loop reads the names, and the second the states
  refine (names_read h (fun _ hm => hm) [] _).use rfl ?_ fun _ _ h => h.elim
  rintro _ _ ⟨rfl, rfl⟩
  dsimp only
  rw [wp_bind]
  refine (states_read h hn (fun _ hm => hm) [] _).use rfl ?_ fun _ _ h => h.elim
  rintro _ st' ⟨rfl, rfl⟩
  rw [← stateMap]
  by_cases hmap : stateMap H text = []
  · simp [hmap]
  · simp [hmap, hst, listReport, Json.append]
    exact fun _ => eq_comm

/-! ## The list

From the names and states to the text and back, through the conversions of the strings and those
of JSON. -/

/-- The members of an object whose values are numbers. -/
def numbers (members : List (String × Int)) : List (String × Json) :=
  members.map fun e => (e.1, .int e.2)

/-- What jsoncpp writes of an object of numbers, and of an array of that one text, `parse` reads
back; the members of an object have no order. -/
structure Jsoncpp.ReadBy (J : Jsoncpp) (parse : String → Option Json)
    (members : List (String × Int)) : Prop where
  object : ∃ members', members'.Perm members ∧
    parse (J.toStyledString (.object (numbers members))) = some (.object (numbers members'))
  array : parse (J.write (.array [.string (J.toStyledString (.object (numbers members)))])) =
    some (.array [.string (J.toStyledString (.object (numbers members)))])

theorem mapTojsonstr_numbers {members : List (String × Int)} (h : members ≠ []) :
    J.mapTojsonstr Json.int members = J.toStyledString (.object (numbers members)) := by
  cases members with
  | nil => exact (h rfl).elim
  | cons e members => rfl

theorem Listing.perm {members members' : List (String × Int)} (h : Listing H members)
    (hp : members'.Perm members) : Listing H members' :=
  ⟨(hp.map _).nodup_iff.mpr h.distinct, fun key value => by rw [hp.mem_iff, h.lists]⟩

/-- There is a member where a machine has a name. -/
theorem Listing.ne_nil {members : List (String × Int)} (h : Listing H members)
    (ht : Texts H text) : members ≠ [] ↔ ∃ m ∈ H.machines, H.name m.vm ≠ [] := by
  constructor
  · intro hne
    obtain ⟨⟨key, value⟩, he⟩ := List.exists_mem_of_ne_nil _ hne
    obtain ⟨m, hm, hname, -, -⟩ := (h.lists key value).mp he
    exact ⟨m, hm, hname⟩
  · rintro ⟨m, hm, hname⟩
    exact List.ne_nil_of_mem ((h.lists _ _).mpr ⟨m, hm, hname, ht m hm, rfl⟩)

/-- **The machine list is complete.** Where the machines have distinct well-formed names that are
no UUIDs, each name survives the chain of conversions; `listVMs` returns `true` exactly where some
machine has a name that is not empty, and what it puts out then parses to one text, which parses to
an object with one member for each such machine, under its name in UTF-8 with its state. -/
theorem listVMs_complete {r : OpRun J} (parse : String → Option Json) (hn : Named H isUuid)
    (hop : r.op = .listVMs (H.machines.map some))
    (hhost : ∀ e ∈ r.trace, listsAs H isUuid e.1 e.2)
    (hjson : ∀ members, Listing H members → J.ReadBy parse members) :
    (∀ m ∈ H.machines, ∃ s : String,
      to_utf8 (utf16ToWide (H.name m.vm)) = some s.toByteArray ∧
        to_utf16 s.toByteArray = some (H.name m.vm)) ∧
    (r.result = .ok (some true) ↔ ∃ m ∈ H.machines, H.name m.vm ≠ []) ∧
    (r.result = .ok (some true) → ∃ vms s members,
      (∀ text, (⟨.put .result text, ()⟩ : Event vboxSig) ∈ r.trace ↔ text = vms) ∧
      parse vms = some (.array [.string s]) ∧ parse s = some (.object (numbers members)) ∧
      Listing H members) := by
  obtain ⟨text, ht⟩ := hn.texts
  have hlisting := stateMap_listing ht hn
  have hadmits : (reportView (listsAs H isUuid)).Admits (fun _ => False) r.trace :=
    View.only_admits (View.noting_admits _ _) hhost
  have hrun := (triple_some (listVMs_lists (J := J) ht hn)).runs (fun _ => id) (r.runs_of hop)
    hadmits
  rw [View.only_after] at hrun
  cases hresult : r.result with
  | error e =>
    rw [hresult] at hrun
    exact hrun.elim
  | ok o =>
    rw [hresult] at hrun
    obtain ⟨b, rfl, hb, hreport⟩ := hrun
    have hb' : (Except.ok (some b) : Except Exit (Option Bool)) = .ok (some true) ↔ b = true := by
      simp
    refine ⟨fun m hm => ?_, ?_, fun htrue => ?_⟩
    · obtain ⟨s, hs, hback, -⟩ := to_utf16_listed (hn.wellFormed m hm)
      exact ⟨s, hs, hback⟩
    · rw [hb', hb, hlisting.ne_nil ht]
    · have hne := hb.mp (hb'.mp htrue)
      -- the parser reads the object, which is written as a string in an array
      obtain ⟨⟨members, hperm, hobject⟩, harray⟩ := hjson _ hlisting
      refine ⟨listReport J (stateMap H text), _, members, fun text' => ?_, ?_, hobject,
        hlisting.perm hperm⟩
      · rw [← noting_puts]
        exact hreport (hb'.mp htrue) text'
      · rw [listReport, mapTojsonstr_numbers hne, harray]

/-- The two names as they are read. -/
def nameOf (vm : Nat) : String := if vm = 0 then "vm" else "𝄞"

/-- A machine that runs, and one that does not, whose name is a character of two units. -/
def twoNamed : NamedHost where
  machines := [⟨0, .host⟩, ⟨1, .host⟩]
  name vm := utf16 (nameOf vm).toList
  state vm := if vm = 0 then .Running else .PoweredOff

/-- What jsoncpp writes of the two, with the second name in escapes, and of the list of that. -/
def pairText : String := "\x7b\n   \"vm\" : 5,\n   \"\\ud834\\udd1e\" : 1\n\x7d\n"

def pairArray : String :=
  "[\"\x7b\\n   \\\"vm\\\" : 5,\\n   \\\"\\\\ud834\\\\udd1e\\\" : 1\\n\x7d\\n\"]\n"

/-- The members are written by their keys. -/
def pairWriter : Jsoncpp where
  toStyledString
    | .object [("vm", .int 5), ("𝄞", .int 1)] |
        .object [("𝄞", .int 1), ("vm", .int 5)] => pairText
    | _ => ""
  write
    | .array [.string s] => if s = pairText then pairArray else ""
    | _ => ""

def pairParser (s : String) : Option Json :=
  if s = pairText then some (.object [("vm", .int 5), ("𝄞", .int 1)])
  else if s = pairArray then some (.array [.string pairText])
  else none

/-- The machines have their names and states, and each is found. -/
def twoListed : OpRun pairWriter :=
  Op.play pairWriter 0 (fun h a => match a with
    | .val (.machineName m) => .ok (nameOf m.vm)
    | .val (.state m) => .ok (twoNamed.state m.vm)
    | .ptr (.findMachine s) => .ok (some ⟨if s = "vm" then 0 else 1, .host⟩)
    | a => calm .Running h a) (.listVMs [some ⟨0, .host⟩, some ⟨1, .host⟩])

theorem twoNamed_named : Named twoNamed fun _ => False where
  wellFormed _ _ := ⟨_, rfl⟩
  noUuid _ _ := id
  distinct := by decide +kernel

theorem nameOf_inj {s : String} {vm : Nat} (h : utf16 s.toList = twoNamed.name vm) :
    s = nameOf vm :=
  String.toList_inj.mp (utf16_injective h)

theorem twoNamed_machine {m : IMachine} (h : m ∈ twoNamed.machines) :
    m = ⟨0, .host⟩ ∨ m = ⟨1, .host⟩ := by
  simpa [twoNamed] using h

theorem twoNamed_listing {members : List (String × Int)} (h : Listing twoNamed members) :
    members = [("vm", 5), ("𝄞", 1)] ∨ members = [("𝄞", 1), ("vm", 5)] := by
  have hnodup : members.Nodup :=
    List.Pairwise.of_map _ (fun _ _ hne he => hne (by rw [he])) h.distinct
  have hperm : members.Perm [("vm", 5), ("𝄞", 1)] := by
    refine (List.perm_ext_iff_of_nodup hnodup (by decide)).mpr ?_
    rintro ⟨key, value⟩
    rw [h.lists]
    constructor
    · rintro ⟨m, hm, -, hkey, rfl⟩
      rw [nameOf_inj hkey]
      rcases twoNamed_machine hm with rfl | rfl <;> decide
    · intro he
      rcases List.mem_cons.mp he with he | he
      · obtain ⟨rfl, rfl⟩ := Prod.mk.inj he
        exact ⟨⟨0, .host⟩, List.mem_cons_self, by decide, rfl, rfl⟩
      · obtain ⟨rfl, rfl⟩ := Prod.mk.inj (List.mem_singleton.mp he)
        exact ⟨⟨1, .host⟩, List.mem_of_getLast? rfl, by decide, rfl, rfl⟩
  exact List.perm_pair.mp hperm

/-- The list of the two machines. -/
theorem listVMs_complete_one : twoListed.result = .ok (some true) := by
  have hname (vm : Nat) : to_utf8 (utf16ToWide (twoNamed.name vm)) =
      some (nameOf vm).toByteArray := by
    show to_utf8 (utf16ToWide (utf16 (nameOf vm).toList)) = _
    rw [to_utf8_utf16ToWide, String.ofList_toList]
  refine (listVMs_complete pairParser twoNamed_named rfl ?_ fun members h => ?_).2.1.mpr
    ⟨⟨0, .host⟩, ?_, ?_⟩
  · unfold twoListed Op.play
    refine exec_answers (h := []) (fun h a => ?_) _ fun e he => absurd he List.not_mem_nil
    cases a with
    | ptr c =>
      cases c <;> try trivial
      -- a machine is looked up under its own name only
      intro m hm hfind _
      rw [to_utf16_toByteArray] at hfind
      obtain rfl := nameOf_inj (Option.some.inj hfind)
      rcases twoNamed_machine hm with rfl | rfl
      · exact ⟨⟨0, .host⟩, rfl, rfl⟩
      · exact ⟨⟨1, .host⟩, rfl, rfl⟩
    | val c =>
      cases c <;> try trivial
      · exact ⟨_, rfl⟩
      · exact ⟨_, hname _, rfl⟩
    | _ => trivial
  · rcases twoNamed_listing h with rfl | rfl
    · exact ⟨⟨[("vm", 5), ("𝄞", 1)], .refl _, rfl⟩, rfl⟩
    · exact ⟨⟨[("vm", 5), ("𝄞", 1)], .swap _ _ _, rfl⟩, rfl⟩
  · exact List.mem_cons_self
  · decide

end VirtCore
