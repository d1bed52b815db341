import VirtCore.Protocol.Controller
import VirtCore.Text.Stdio
import Mathlib.Algebra.Ring.Int.Defs
import Mathlib.Algebra.Ring.Nat

/-!
# VirtCore — the health check

`Test` looks for the two daemons of VirtualBox with `getProcessPidByName`, which reads the output
of `pidof` into a buffer.

* **`PidLookup`** — what a call of `getProcessPidByName` returns, stores and closes.
* **`PidofHost`** — what `pidof` finds for a command, and the line it prints.
* **`FaithfulTest`** — what a reply of `Test` is to say, and what the look-ups leave alone.
* **`test_faithful_iff`** — it does so where both daemons run and both lines fit.
-/

namespace VirtCore

open Interact VcaController Stdio

/-! ## The look-up -/

/-- The bytes stored into an array of the stack, and how many it holds. -/
structure Store where
  bytes : Nat
  capacity : Nat

/-- A call of `getProcessPidByName`: the process id, what was stored, and the stream handed to
`pclose`, where `none` is the null pointer. -/
structure PidLookup where
  pid : Int
  stores : List Store
  closed : Option (List Char)

/-- `popen` gives the output of a command, and nothing where it fails. -/
def getProcessPidByName (popen : String → Option (List Char)) (proc_name : String) : PidLookup :=
  let cmd := "pidof " ++ proc_name
  let sprintf : Store := ⟨cmd.length + 1, 200⟩
  match popen cmd with
  -- the stream is closed whether or not it has been opened
  | none => ⟨-1, [sprintf], none⟩
  | some fp =>
    match fgets 255 fp with
    | none => ⟨-1, [sprintf], some fp⟩
    -- `fgets` is told 255, of a buffer of 100
    | some buf => ⟨atoi buf, [sprintf, ⟨buf.length + 1, 100⟩], some fp⟩

/-- Nothing is stored past the end of an array. -/
def PidLookup.Fits (l : PidLookup) : Prop := ∀ w ∈ l.stores, w.bytes ≤ w.capacity

/-! ## `pidof` -/

/-- The ids, with a blank between two of them. -/
def pidofText : List Nat → List Char
  | [] => []
  | [pid] => Nat.toDigits 10 pid
  | pid :: pids => Nat.toDigits 10 pid ++ ' ' :: pidofText pids

/-- The output of `pidof`: one line, or nothing where there is no such process. -/
def pidofOutput (pids : List Nat) : List Char :=
  if pids = [] then [] else pidofText pids ++ ['\n']

/-- The ids that a command lists, and `none` where it cannot be started. -/
structure PidofHost where
  pids : String → Option (List Nat)
  positive : ∀ cmd l, pids cmd = some l → ∀ pid ∈ l, 0 < pid ∧ pid < 2 ^ 31

namespace PidofHost

variable (h : PidofHost)

def popen (cmd : String) : Option (List Char) := (h.pids cmd).map pidofOutput

/-- `pidof` lists at least one id. -/
def Lists (name : String) : Prop := ∃ l, h.pids ("pidof " ++ name) = some l ∧ l ≠ []

/-- The line fits into the buffer, with the terminator. -/
def ShortLine (name : String) : Prop :=
  ∀ l, h.pids ("pidof " ++ name) = some l → (pidofOutput l).length ≤ 99

/-- The look-ups of `Test` are answered by the host. -/
def pidAnswers : (c : ServerCall) → c.Ans → Prop
  | .getProcessPidByName name, pid => pid = (getProcessPidByName h.popen name).pid
  | _, _ => True

end PidofHost

/-- The daemons that `Test` looks for. -/
def daemons : List String := ["VBoxXPCOMIPCD", "VBoxSVC"]

/-- A faithful health check: the reply tells whether both daemons run, nothing is stored past the
end of an array, and only what has been opened is closed. -/
structure FaithfulTest (h : PidofHost) (o : Except Exit VcaReply) : Prop where
  code : (∃ reply, o = .ok reply ∧ reply.code = 1) ↔ ∀ name ∈ daemons, h.Lists name
  fits : ∀ name ∈ daemons, (getProcessPidByName h.popen name).Fits
  closes : ∀ name ∈ daemons, (getProcessPidByName h.popen name).closed ≠ none

/-! ## What a look-up does -/

variable {h : PidofHost} {name : String}

theorem pidofText_cons (pid : Nat) (pids : List Nat) : ∃ rest,
    pidofText (pid :: pids) = Nat.toDigits 10 pid ++ rest ∧ ∀ c ∈ rest.head?, c = ' ' := by
  cases pids with
  | nil => exact ⟨[], (List.append_nil _).symm, nofun⟩
  | cons p ps => exact ⟨' ' :: pidofText (p :: ps), rfl, fun c hc => (Option.some.inj hc).symm⟩

/-- The line feed comes last. -/
theorem pidofText_no_lineFeed (pids : List Nat) : '\n' ∉ pidofText pids := by
  have hdigits (pid : Nat) : '\n' ∉ Nat.toDigits 10 pid := fun hmem =>
    absurd (isDigit_of_mem hmem) (by decide)
  induction pids with
  | nil => exact List.not_mem_nil
  | cons pid pids ih =>
    cases pids with
    | nil => exact hdigits pid
    | cons p ps =>
      show '\n' ∉ Nat.toDigits 10 pid ++ ' ' :: pidofText (p :: ps)
      simp only [List.mem_append, List.mem_cons, not_or]
      exact ⟨hdigits pid, by decide, ih⟩

/-- The digits of a process id are far from the limit of `fgets`. -/
theorem toDigits_length {pid : Nat} (hpid : pid < 2 ^ 31) : (Nat.toDigits 10 pid).length ≤ 10 :=
  (Nat.length_toDigits_le_iff (by decide) (by decide)).mpr (by omega)

/-- What is read where there are processes: the first of them. -/
theorem lookup_lists {pid : Nat} {pids : List Nat}
    (hpids : h.pids ("pidof " ++ name) = some (pid :: pids)) :
    getProcessPidByName h.popen name =
      ⟨pid, [⟨("pidof " ++ name).length + 1, 200⟩,
        ⟨min 254 (pidofOutput (pid :: pids)).length + 1, 100⟩],
        some (pidofOutput (pid :: pids))⟩ := by
  have hpid := (h.positive _ _ hpids pid List.mem_cons_self).2
  have hopen : h.popen ("pidof " ++ name) = some (pidofOutput (pid :: pids)) := by
    rw [PidofHost.popen, hpids, Option.map_some]
  have houtput : pidofOutput (pid :: pids) = pidofText (pid :: pids) ++ ['\n'] :=
    if_neg (List.cons_ne_nil pid pids)
  have hread : fgets 255 (pidofOutput (pid :: pids)) =
      some ((pidofOutput (pid :: pids)).take 254) := by
    rw [houtput, fgets_terminated (pidofText_no_lineFeed _)]
  -- the first id is among the 254 characters, and a blank or the line feed follows it
  have hfirst : atoi ((pidofOutput (pid :: pids)).take 254) = pid := by
    obtain ⟨rest, hrest, hblank⟩ := pidofText_cons pid pids
    have hlength := toDigits_length hpid
    rw [houtput, hrest, List.append_assoc, List.take_append, List.take_of_length_le (by omega)]
    apply atoi_toDigits hpid
    intro c hc
    obtain ⟨n, hn⟩ := Nat.exists_eq_add_of_lt
      (show 0 < 254 - (Nat.toDigits 10 pid).length by omega)
    rw [hn] at hc
    cases rest with
    | nil =>
      obtain rfl : '\n' = c := Option.some.inj hc
      rfl
    | cons d ds =>
      obtain rfl : d = c := Option.some.inj hc
      rw [hblank d rfl]
      rfl
  simp only [getProcessPidByName, hopen, hread, hfirst, List.length_take]

/-- What is read where there is none. -/
theorem lookup_none (hpids : h.pids ("pidof " ++ name) = some []) :
    getProcessPidByName h.popen name =
      ⟨-1, [⟨("pidof " ++ name).length + 1, 200⟩], some []⟩ := by
  have hopen : h.popen ("pidof " ++ name) = some [] := by
    rw [PidofHost.popen, hpids]
    rfl
  simp only [getProcessPidByName, hopen, fgets_nil]

theorem lookup_failed (hpids : h.pids ("pidof " ++ name) = none) :
    getProcessPidByName h.popen name =
      ⟨-1, [⟨("pidof " ++ name).length + 1, 200⟩], none⟩ := by
  have hopen : h.popen ("pidof " ++ name) = none := by
    rw [PidofHost.popen, hpids]
    rfl
  simp only [getProcessPidByName, hopen]

/-- No look-up gives a process id that is zero. -/
theorem lookup_ne_zero (h : PidofHost) (name : String) :
    (getProcessPidByName h.popen name).pid ≠ 0 := by
  cases hpids : h.pids ("pidof " ++ name) with
  | none =>
    rw [lookup_failed hpids]
    show (-1 : Int) ≠ 0
    decide
  | some l =>
    cases l with
    | nil =>
      rw [lookup_none hpids]
      show (-1 : Int) ≠ 0
      decide
    | cons pid pids =>
      have hpos := (h.positive _ _ hpids pid List.mem_cons_self).1
      rw [lookup_lists hpids]
      show (pid : Int) ≠ 0
      omega

/-- A look-up of a process that runs stores what fits just where the line does. -/
theorem lookup_fits_iff (hname : ("pidof " ++ name).length ≤ 199) (hlists : h.Lists name) :
    (getProcessPidByName h.popen name).Fits ↔ h.ShortLine name := by
  obtain ⟨l, hpids, hne⟩ := hlists
  obtain ⟨pid, pids, rfl⟩ := List.exists_cons_of_ne_nil hne
  rw [lookup_lists hpids, PidLookup.Fits, PidofHost.ShortLine]
  constructor
  · intro hfits l' hl'
    obtain rfl := Option.some.inj (hpids.symm.trans hl')
    have hbuffer : min 254 (pidofOutput (pid :: pids)).length + 1 ≤ 100 :=
      hfits _ (List.mem_cons_of_mem _ List.mem_cons_self)
    omega
  · intro hshort w hw
    have hlength := hshort _ hpids
    simp only [List.mem_cons, List.not_mem_nil, or_false] at hw
    rcases hw with rfl | rfl
    · show ("pidof " ++ name).length + 1 ≤ 200
      omega
    · show min 254 (pidofOutput (pid :: pids)).length + 1 ≤ 100
      omega

theorem lookup_closes (hlists : h.Lists name) :
    (getProcessPidByName h.popen name).closed ≠ none := by
  obtain ⟨l, hpids, hne⟩ := hlists
  obtain ⟨pid, pids, rfl⟩ := List.exists_cons_of_ne_nil hne
  rw [lookup_lists hpids]
  exact Option.some_ne_none _

/-! ## The reply -/

variable {t : ServerTrace} {o : Except Exit VcaReply}

/-- `Test` always answers 1. -/
theorem test_code (hr : Runs (controller .Test ()) t o)
    (hhost : ∀ e ∈ t, h.pidAnswers e.1 e.2) : ∃ reply, o = .ok reply ∧ reply.code = 1 := by
  obtain ⟨pid, t₁, rfl, hpid⟩ := runs_call.mp hr
  obtain ⟨pid', t₂, rfl, hreply⟩ := runs_call.mp hpid
  obtain ⟨rfl, rfl⟩ := runs_ret.mp hreply
  have hxpcom : pid ≠ 0 := by
    rw [show pid = _ from hhost _ List.mem_cons_self]
    exact lookup_ne_zero h _
  have hsvc : pid' ≠ 0 := by
    rw [show pid' = _ from hhost _ (List.mem_cons_of_mem _ List.mem_cons_self)]
    exact lookup_ne_zero h _
  exact ⟨_, rfl, if_pos ⟨hxpcom, hsvc⟩⟩

/-- **When the health check is faithful**: both daemons run, and the lines with their process ids
are of 99 bytes at most. -/
theorem test_faithful_iff (hr : Runs (controller .Test ()) t o)
    (hhost : ∀ e ∈ t, h.pidAnswers e.1 e.2) :
    FaithfulTest h o ↔ ∀ name ∈ daemons, h.Lists name ∧ h.ShortLine name := by
  have hcode := test_code hr hhost
  have hcmd : ∀ name ∈ daemons, ("pidof " ++ name).length ≤ 199 := by decide
  constructor
  · intro hfaithful name hname
    have hlists := hfaithful.code.mp hcode name hname
    exact ⟨hlists, (lookup_fits_iff (hcmd name hname) hlists).mp (hfaithful.fits name hname)⟩
  · intro hruns
    constructor
    · exact iff_of_true hcode fun name hname => (hruns name hname).1
    · intro name hname
      obtain ⟨hlists, hshort⟩ := hruns name hname
      exact (lookup_fits_iff (hcmd name hname) hlists).mpr hshort
    · intro name hname
      exact lookup_closes (hruns name hname).1

/-- The look-ups of a `Test`, as the host answers. -/
def PidofHost.trace (h : PidofHost) : ServerTrace :=
  daemons.map fun name => ⟨.getProcessPidByName name, (getProcessPidByName h.popen name).pid⟩

theorem PidofHost.runs (h : PidofHost) :
    ∃ reply, Runs (controller .Test ()) h.trace (.ok reply) :=
  ⟨_, runs_call.mpr ⟨_, _, rfl, runs_call.mpr ⟨_, _, rfl, runs_ret.mpr ⟨rfl, rfl⟩⟩⟩⟩

theorem PidofHost.trace_answers (h : PidofHost) : ∀ e ∈ h.trace, h.pidAnswers e.1 e.2 := by
  intro e he
  obtain ⟨name, -, rfl⟩ := List.mem_map.mp he
  rfl

/-- A host where every process of any name has the ids `l`. -/
def PidofHost.listing (l : List Nat) (hl : ∀ pid ∈ l, 0 < pid ∧ pid < 2 ^ 31) :
    PidofHost where
  pids _ := some l
  positive _ _ h := Option.some.inj h ▸ hl

/-- A host with both daemons. -/
theorem test_faithful_iff_running :
    ∃ o, FaithfulTest (.listing [812] (by decide)) o := by
  obtain ⟨reply, hr⟩ := (PidofHost.listing [812] (by decide)).runs
  refine ⟨_, (test_faithful_iff hr (PidofHost.trace_answers _)).mpr ?_⟩
  intro name _
  refine ⟨⟨[812], rfl, by decide⟩, fun l hl => ?_⟩
  obtain rfl := Option.some.inj hl
  decide

/-- **A host without the daemons is reported healthy.** -/
theorem stopped_reported : ¬∀ (h : PidofHost) (t : ServerTrace) (o : Except Exit VcaReply),
    Runs (controller .Test ()) t o → (∀ e ∈ t, h.pidAnswers e.1 e.2) →
      FaithfulTest h o := by
  intro hclaim
  let h : PidofHost := .listing [] nofun
  obtain ⟨reply, hr⟩ := h.runs
  have hfaithful := hclaim h _ _ hr h.trace_answers
  obtain ⟨l, hl, hne⟩ :=
    hfaithful.code.mp (test_code hr h.trace_answers) "VBoxSVC" (by decide)
  exact hne (Option.some.inj hl).symm

end VirtCore
