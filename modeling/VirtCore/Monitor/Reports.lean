import VirtCore.Monitor.Borrowed

/-!
# VirtCore — the report on the host

`getHostInfo` puts the maps of the collectors into one array and tells its caller whether it could.

* **`Collector.reported`** — what a collector that succeeds reports.
* **`HonestReport`** — what the result, the array and the message of `getHostInfo` are to say.
* **`Reportable`** — an outcome that a collector reports without running into a fault.
* **`gather_reportable` / `reportable_of_gather`** — one collector.
* **`getHostInfo_honest_iff`** — the report is honest where there is nothing but success to
  report.
-/

namespace VirtCore

open Python

namespace Monitor

/-- The members that a collector reports: those of a well-formed dict. -/
def Collector.reported (c : Collector) : Outcome → Option (List (String × String))
  | .dict d => c.shape.reported d
  | _ => none

variable (J : Jsoncpp) (o : Collector → Outcome)

/-- An entry for each collector that succeeds, in order. -/
def reports (cs : List Collector) : List Json :=
  cs.filterMap fun c => (c.reported (o c)).map fun members =>
    .string (J.mapTojsonstr Json.string members)

/-- An honest report: every success is in the array and no failure is, the return value tells
whether all of them succeeded, and if not, the message names one that did not. -/
structure HonestReport (ret : Bool) (hostmes data : String) : Prop where
  array : hostmes = J.write (.array (reports J o Collector.all))
  returns : ret = true ↔ ∀ c : Collector, c.reported (o c) ≠ none
  names : (∃ c : Collector, c.reported (o c) = none) →
    ∃ c : Collector, c.reported (o c) = none ∧ data = c.message

/-- A well-formed dict with a short code, which outlives the collector or whose strings do. -/
def Reportable (c : Collector) (o : Outcome) : Prop :=
  ∃ d members, o = .dict d ∧ c.shape.reported d = some members ∧ c.shape.CodeFits d ∧
    Survives d c.shape

/-! ## One collector

A collector of a well-formed dict adds a member to the report; one that fails leaves it as it was.
-/

variable {J o} {c : Collector} {s s' : Gathered}

/-- A reportable outcome becomes an entry, and nothing is said to have failed. -/
theorem gather_reportable {out : Outcome} (h : Reportable c out) (s : Gathered) :
    ∃ members stack, c.reported out = some members ∧ gather J c.run c.message out s =
      .ok ⟨stack, s.jsonarray.append (.string (J.mapTojsonstr Json.string members)),
        s.data⟩ := by
  obtain ⟨d, members, rfl, hreported, hcode, hsurvives⟩ := h
  obtain ⟨map_info, stack, hrun, halive, hwritten⟩ := run_wellFormed hreported hcode s.stack
  have htext := hwritten (halive.mpr ((survives_iff _).mpr hsurvives)) J
  refine ⟨members, stack, hreported, ?_⟩
  rw [gather, c.run_eq, hrun]
  show (mapTojsonstr J map_info stack >>= _) = _
  rw [htext]
  rfl

/-- A well-formed dict that has been gathered without a fault was reportable. -/
theorem reportable_of_gather {out : Outcome} {members : List (String × String)}
    (hreported : c.reported out = some members)
    (h : gather J c.run c.message out s = .ok s') : Reportable c out := by
  cases out with
  | missing | notCallable | raised | noDict => cases hreported
  | dict d =>
    rw [gather, c.run_eq] at h
    by_cases hcode : c.shape.CodeFits d
    · obtain ⟨map_info, stack, hrun, halive, -⟩ := run_wellFormed hreported hcode s.stack
      rw [hrun] at h
      cases htext : mapTojsonstr J map_info stack with
      | error e =>
        change (mapTojsonstr J map_info stack >>= _) = _ at h
        rw [htext] at h
        cases h
      | ok text =>
        -- the text has been written, so that every string of it was alive
        have hall := halive.mp (Collected.alive_of_written htext)
        exact ⟨d, members, rfl, hreported, hcode, (survives_iff _).mp hall⟩
    · obtain ⟨e, herror⟩ := run_of_not_codeFits hreported hcode s.stack
      rw [herror] at h
      cases h

/-! ## All of them

The report is that of the collectors that succeeded, in order. -/

/-- The array with these elements, null as long as there is none. -/
def elements : List Json → Json
  | [] => .null
  | elems => .array elems

theorem elements_append (elems : List Json) (x : Json) :
    (elements elems).append x = elements (elems ++ [x]) := by
  cases elems <;> rfl

/-- Reportable outcomes are gathered in order. -/
theorem gatherAll_reportable {cs : List Collector} (h : ∀ c ∈ cs, Reportable c (o c))
    {elems : List Json} (hs : s.jsonarray = elements elems) :
    ∃ s', gatherAll J o cs s = .ok s' ∧ s'.jsonarray = elements (elems ++ reports J o cs) := by
  induction cs generalizing s elems with
  | nil => exact ⟨s, rfl, by rw [hs, reports, List.filterMap_nil, List.append_nil]⟩
  | cons c cs ih =>
    obtain ⟨members, stack, hreported, hgather⟩ :=
      gather_reportable (J := J) (h c List.mem_cons_self) s
    rw [hs, elements_append] at hgather
    obtain ⟨s', hrest, harray⟩ := ih (s := ⟨stack, _, s.data⟩)
      (fun c' hc' => h c' (List.mem_cons_of_mem c hc')) rfl
    refine ⟨s', ?_, ?_⟩
    · rw [gatherAll, hgather]
      exact hrest
    · rw [harray, List.append_assoc]
      simp [reports, hreported]

/-- Where all of them have been gathered, so has each. -/
theorem gather_of_gatherAll {cs : List Collector} (h : gatherAll J o cs s = .ok s') :
    ∀ c ∈ cs, ∃ s₁ s₂, gather J c.run c.message (o c) s₁ = .ok s₂ := by
  induction cs generalizing s with
  | nil => exact nofun
  | cons c cs ih =>
    rw [gatherAll] at h
    cases hgather : gather J c.run c.message (o c) s with
    | error e =>
      rw [hgather] at h
      cases h
    | ok s₁ =>
      rw [hgather] at h
      intro c' hc'
      rcases List.mem_cons.mp hc' with rfl | hc'
      · exact ⟨s, s₁, hgather⟩
      · exact ih h c' hc'

/-- **When the report on the host is honest**: every collector gets a well-formed dict with a short
code, which outlives it or whose strings do. -/
theorem getHostInfo_honest_iff (hwrite : ∀ v, J.write v ≠ "") :
    (∃ ret hostmes data, getHostInfo J o = .ok (ret, hostmes, data) ∧
      HonestReport J o ret hostmes data) ↔ ∀ c, Reportable c (o c) := by
  rw [getHostInfo_eq]
  constructor
  · rintro ⟨ret, hostmes, data, hinfo, hhonest⟩ c
    cases hgathered : gatherAll J o Collector.all .start with
    | error e =>
      rw [hgathered] at hinfo
      cases hinfo
    | ok s =>
      -- the text of an array is never empty, so success is what is returned
      rw [hgathered] at hinfo
      have hret : decide (J.write s.jsonarray ≠ "") = ret :=
        congrArg Prod.fst (Except.ok.inj hinfo)
      rw [decide_eq_true (hwrite _)] at hret
      obtain ⟨members, hreported⟩ :=
        Option.ne_none_iff_exists'.mp (hhonest.returns.mp hret.symm c)
      obtain ⟨s₁, s₂, hgather⟩ := gather_of_gatherAll hgathered c c.mem_all
      exact reportable_of_gather hreported hgather
  · intro hall
    have hreported (c : Collector) : c.reported (o c) ≠ none := by
      obtain ⟨d, members, hout, hmembers, -⟩ := hall c
      rw [hout]
      exact Option.ne_none_iff_exists'.mpr ⟨members, hmembers⟩
    have hstart : Gathered.start.jsonarray = elements [] := rfl
    have hreportable : ∀ c ∈ Collector.all, Reportable c (o c) := fun c _ => hall c
    obtain ⟨s, hgathered, harray⟩ := gatherAll_reportable (J := J) hreportable hstart
    rw [hgathered]
    refine ⟨_, _, _, rfl, ?_, ?_, ?_⟩
    · rw [harray, List.nil_append]
      obtain ⟨members, hfirst⟩ := Option.ne_none_iff_exists'.mp (hreported .cpuPressure)
      simp [reports, Collector.all, hfirst, elements]
    · exact iff_of_true (decide_eq_true (hwrite _)) hreported
    · rintro ⟨c, hnone⟩
      exact (hreported c hnone).elim

/-! ## A host that can be reported, and one that cannot -/

/-- A string between quotes, with what has to be escaped escaped. -/
def quoted (s : String) : String :=
  "\"" ++ String.join (s.toList.map fun c =>
    if c = '"' then "\\\"" else if c = '\\' then "\\\\" else if c = '\n' then "\\n"
    else if c = '\t' then "\\t" else c.toString) ++ "\""

/-- What the writers make of a value without elements. -/
def leaf : Json → String
  | .int n => toString n
  | .string s => quoted s
  | _ => "null"

/-- `FastWriter` and `StyledWriter`, on arrays and objects whose elements have none themselves. The
members of an object are sorted. -/
def flatWriter : Jsoncpp where
  write v := (match v with
    | .array elems => "[" ++ ",".intercalate (elems.map leaf) ++ "]"
    | .object members => "\x7b" ++ ",".intercalate
        ((members.mergeSort fun a b => a.1 ≤ b.1).map fun e => quoted e.1 ++ ":" ++
          leaf e.2) ++ "\x7d"
    | v => leaf v) ++ "\n"
  toStyledString v := (match v with
    | .object members => "\x7b\n" ++
        ",\n".intercalate ((members.mergeSort fun a b => a.1 ≤ b.1).map
        fun e => "   " ++ quoted e.1 ++ " : " ++ leaf e.2) ++ "\n\x7d"
    | .array elems => "[ " ++ ", ".intercalate (elems.map leaf) ++ " ]"
    | v => leaf v) ++ "\n"

theorem flatWriter_write (v : Json) : flatWriter.write v ≠ "" := by
  intro h
  have hlength := congrArg String.length h
  rw [flatWriter, String.length_append] at hlength
  have hfeed : "\n".length = 1 := rfl
  have hempty : "".length = 0 := rfl
  omega

/-- Dicts whose strings are constants of the functions that return them. -/
def constants : Collector → Dict
  | .cpuPressure => returned
      [("code", .int (-1)), ("value", .str "100"), ("obj", .str "cpupress")] 1 (by decide)
  | .cpuTemperature => returned
      [("code", .int (-1)), ("value", .str "100"), ("obj", .str "cputemp")] 1 (by decide)
  | .diskIo => returned
      [("code", .int (-1)), ("read", .str "0"), ("write", .str "0"), ("obj", .str "IO")] 1
      (by decide)
  | .diskRate => returned
      [("code", .int (-2)), ("total", .str "0"), ("used", .str "0"), ("free", .str "0"),
        ("percent", .str "0"), ("obj", .str "disk")] 1 (by decide)
  | .swapRate => returned
      [("code", .int (-1)), ("total", .str "0"), ("used", .str "0"), ("free", .str "0"),
        ("percent", .str "0"), ("obj", .str "swap")] 1 (by decide)
  | .memoryRate => returned
      [("code", .int (-1)), ("total", .str "0"), ("used", .str "0"), ("free", .str "0"),
        ("percent", .str "0"), ("obj", .str "memory")] 1 (by decide)
  | .netCount => returned [("code", .str "-1"), ("msg", .str "0")] 1 (by decide)
  | .netInfo => returned
      [("code", .int (-1)), ("send", .str "0"), ("recv", .str "0"), ("obj", .str "netinfo")] 1
      (by decide)
  | .rangeLoad => returned
      [("code", .int (-1)), ("obj", .str "load"), ("lavg_1", .str "0"), ("lavg_5", .str "0"),
        ("lavg_15", .str "0")] 1 (by decide)
  | .uptime => returned
      [("code", .int (-1)), ("obj", .str "uptime"), ("value", .str "0")] 1 (by decide)
  | .hardware => returned
      [("code", .int 1), ("obj", .str "node"), ("cpumodel", .str ""), ("osversion", .str ""),
        ("kernel", .str ""), ("sockets", .str "1"), ("cpus", .str "4")] 1 (by decide)

theorem constants_reportable (c : Collector) : Reportable c (.dict (constants c)) := by
  have hsurvives : Survives (constants c) c.shape := by
    refine .inr fun r _ => ?_
    cases c <;> exact Nat.lt_succ_self _
  have hreported : ∃ members, c.shape.reported (constants c) = some members := by
    cases c <;> exact ⟨_, rfl⟩
  have hcode : c.shape.CodeFits (constants c) := by
    cases c
    case netCount => trivial
    all_goals
      intro code hcode
      obtain rfl := Option.some.inj hcode
      decide
  obtain ⟨members, hmembers⟩ := hreported
  exact ⟨_, members, rfl, hmembers, hcode, hsurvives⟩

theorem getHostInfo_honest_iff_constants : ∃ ret hostmes data,
    getHostInfo flatWriter (fun c => .dict (constants c)) = .ok (ret, hostmes, data) ∧
      HonestReport flatWriter (fun c => .dict (constants c)) ret hostmes data :=
  (getHostInfo_honest_iff flatWriter_write).mpr constants_reportable

/-- **A function that raises an exception** ends the service. -/
theorem raised_decrements_null : ¬∀ (J : Jsoncpp) (o : Collector → Outcome),
    (∀ v, J.write v ≠ "") → ∃ ret hostmes data,
      getHostInfo J o = .ok (ret, hostmes, data) ∧ HonestReport J o ret hostmes data := by
  intro hclaim
  obtain ⟨ret, hostmes, data, hinfo, -⟩ := hclaim flatWriter (fun _ => .raised) flatWriter_write
  have hfault : getHostInfo flatWriter (fun _ => .raised) = .error .nullDecref := rfl
  rw [hfault] at hinfo
  cases hinfo

end Monitor

end VirtCore
