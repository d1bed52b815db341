import VirtCore.Murder.Commands

/-!
# VirtCore — what becomes of a failure in `P2P`

The status of a command passes through a test in Python, a dict or `None`, and the checks of
`vca_murderHook` before it is the code of a reply.

* **`P2pRun`** — a request, the commands executed for it, and the reply.
* **`TellsSuccess`** — the reply tells whether every command that was needed has returned 0.
* **`P2pRun.cases`** — what can be executed, and what is returned then.
* **`p2p_tells_iff`** — the reply tells, unless a command fails with a positive status.
-/

namespace VirtCore

open Interact VcaController P2pCommand

/-- A request for an operation of the hook: the commands that have been executed with what they
returned, the return value and the reply. -/
structure P2pRun (h : P2pHost) where
  request : RequestP2P
  hook : Hook
  trace : SystemTrace
  ret : Bool
  reply : VcaReply
  runs : Runs (hook.prog h) trace (.ok ret)
  replies : Runs (controller .P2P request) [⟨.newMurderHook, ()⟩, ⟨.hook hook, ret⟩]
    (.ok reply)

/-- The commands that an operation needs. A tracker or a share is started in the background, and its
status says nothing. -/
def Hook.commands (h : P2pHost) : Hook → Option (List Text)
  | .produceSeed sourceFilePath sourceSeedPath localHost targetHost targetSeedPath =>
    some [produceCommand h (cstr sourceFilePath) (cstr localHost) (cstr sourceSeedPath),
      copyCommand (cstr targetHost) (cstr sourceSeedPath) (cstr targetSeedPath)]
  | .downloadFile downloadPath localSeedPath localHost =>
    some [downloadCommand h (cstr downloadPath) (cstr localSeedPath) (cstr localHost)]
  | .stopShare => some [stopShareCommand]
  | .stopTracker => some [stopTrackerCommand]
  | .startTracker | .startShare _ _ _ => none

/-- What a command returned. -/
def status : Event systemSig → Int
  | ⟨.system _, result⟩ => result
  | _ => 0

variable {h : P2pHost}

/-- Every command that was needed has been executed, and returned 0. -/
def P2pRun.Succeeded (r : P2pRun h) (needed : List Text) : Prop :=
  r.trace = needed.map fun line => ⟨.system line, (0 : Int)⟩

/-- The return value and the code of the reply tell whether the operation succeeded, and a command
follows another only where that returned 0. -/
structure TellsSuccess (r : P2pRun h) (needed : List Text) : Prop where
  returns : r.ret = true ↔ r.Succeeded needed
  code : r.reply.code = 1 ↔ r.Succeeded needed
  follows : ∀ e ∈ r.trace.dropLast, status e = 0

/-! ## The reply -/

/-- The code of the reply is the return value. -/
theorem P2pRun.code_eq (r : P2pRun h) : r.reply.code = code r.ret := by
  obtain ⟨request, hook, trace, ret, reply, runs, replies⟩ := r
  have hanswer {name : String} {hook' : Hook} {o : Except Exit VcaReply}
      (hr : Runs (answerHook name hook') [⟨.hook hook, ret⟩] o) :
      o = .ok { vcamethod := name, data := "", code := code ret } := by
    obtain ⟨ret', t'', hevents, hend⟩ := runs_call.mp hr
    obtain ⟨hevent, rfl⟩ := List.cons.inj hevents
    obtain ⟨hcall, hret⟩ := Sigma.mk.inj hevent
    obtain rfl : hook = hook' := ServerCall.hook.inj hcall
    obtain rfl : ret = ret' := eq_of_heq hret
    exact (runs_ret.mp hend).2
  change Runs (P2P request) _ _ at replies
  unfold P2P at replies
  obtain ⟨x, t', htrace, hrest⟩ := runs_call.mp replies
  obtain ⟨-, rfl⟩ := List.cons.inj htrace
  dsimp only at hrest
  split at hrest
  case h_7 => exact absurd (runs_ret.mp hrest).1 (List.cons_ne_nil _ _)
  all_goals exact congrArg VcaReply.code (Except.ok.inj (hanswer hrest))

theorem P2pRun.code_eq_one (r : P2pRun h) : r.reply.code = 1 ↔ r.ret = true := by
  rw [r.code_eq]
  cases r.ret <;> decide

/-! ## What is executed -/

variable {t : SystemTrace} {b : Bool} {line : Text}

/-- The two ends of a function, by the sign of a status. -/
theorem ended_runs {result : Int} {d d' : Text}
    (hr : Runs (PyAnswer.accepted <$> (if 0 ≤ result then return some ⟨1, d⟩
      else return some ⟨-1, d'⟩ : PyProg (Option PyAnswer))) t (.ok b)) :
    t = [] ∧ b = decide (0 ≤ result) := by
  by_cases hresult : 0 ≤ result
  · rw [if_pos hresult] at hr
    obtain ⟨rfl, hb⟩ := runs_ret.mp hr
    exact ⟨rfl, (Except.ok.inj hb).trans (decide_eq_true hresult).symm⟩
  · rw [if_neg hresult] at hr
    obtain ⟨rfl, hb⟩ := runs_ret.mp hr
    exact ⟨rfl, (Except.ok.inj hb).trans (decide_eq_false hresult).symm⟩

/-- A command that is checked counts as a success where its status is not negative. -/
theorem checked_runs (hr : Runs (PyAnswer.accepted <$> checked line) t (.ok b)) :
    ∃ result : Int, t = [⟨.system line, result⟩] ∧ b = decide (0 ≤ result) := by
  obtain ⟨result, t', rfl, hrest⟩ := runs_call.mp hr
  obtain ⟨rfl, rfl⟩ := ended_runs hrest
  exact ⟨result, rfl, rfl⟩

/-- The copy is attempted where the status of the first command is not negative, and is a success
where its own is not. -/
theorem produce_runs {file seedpath ip cip dest : Text}
    (hr : Runs (PyAnswer.accepted <$> produce_seed h file seedpath ip cip dest) t (.ok b)) :
    ∃ result : Int,
      (result < 0 ∧ b = false ∧
        t = [⟨.system (produceCommand h file ip seedpath), result⟩]) ∨
      (0 ≤ result ∧ ∃ result' : Int, b = decide (0 ≤ result') ∧
        t = [⟨.system (produceCommand h file ip seedpath), result⟩,
          ⟨.system (copyCommand cip seedpath dest), result'⟩]) := by
  obtain ⟨result, t', rfl, hrest⟩ := runs_call.mp hr
  have hrest : Runs (PyAnswer.accepted <$> (if (0 : Int) ≤ result then
      copy_seed cip seedpath dest >>= fun ret =>
        if ret then (return some ⟨1, "1".toList⟩ : PyProg (Option PyAnswer)) else return none
      else return some ⟨-1, "0".toList⟩)) t' (.ok b) := hrest
  refine ⟨result, ?_⟩
  by_cases hresult : (0 : Int) ≤ result
  · -- the torrent file has been made, and is copied
    rw [if_pos hresult] at hrest
    obtain ⟨result', t'', rfl, hcopy⟩ := runs_call.mp hrest
    have hcopy : Runs (PyAnswer.accepted <$> (if decide ((0 : Int) ≤ result') = true then
        (return some ⟨1, "1".toList⟩ : PyProg (Option PyAnswer)) else return none)) t''
          (.ok b) :=
      hcopy
    refine .inr ⟨hresult, result', ?_⟩
    cases hdecide : decide ((0 : Int) ≤ result') with
    | true =>
      rw [hdecide, if_pos rfl] at hcopy
      obtain ⟨rfl, hb⟩ := runs_ret.mp hcopy
      exact ⟨Except.ok.inj hb, rfl⟩
    | false =>
      rw [hdecide, if_neg Bool.false_ne_true] at hcopy
      obtain ⟨rfl, hb⟩ := runs_ret.mp hcopy
      exact ⟨Except.ok.inj hb, rfl⟩
  · rw [if_neg hresult] at hrest
    obtain ⟨rfl, hb⟩ := runs_ret.mp hrest
    exact .inl ⟨by omega, Except.ok.inj hb, rfl⟩

/-! ## The result

The code of the reply is that of the last line, where the operation looks at it. -/

/-- What can have been executed for an operation: all its commands, or the first of two, where that
failed to start. -/
theorem P2pRun.cases (r : P2pRun h) {needed : List Text}
    (hneeded : r.hook.commands h = some needed) :
    (∃ line, ∃ result : Int, needed = [line] ∧ r.trace = [⟨.system line, result⟩] ∧
      r.ret = decide (0 ≤ result)) ∨
    ∃ line line', ∃ result : Int, needed = [line, line'] ∧
      ((result < 0 ∧ r.ret = false ∧ r.trace = [⟨.system line, result⟩]) ∨
        (0 ≤ result ∧ ∃ result' : Int, r.ret = decide (0 ≤ result') ∧
          r.trace = [⟨.system line, result⟩, ⟨.system line', result'⟩])) := by
  obtain ⟨request, hook, trace, ret, reply, hruns, replies⟩ := r
  cases hook with
  | startTracker | startShare => cases hneeded
  | produceSeed =>
    obtain rfl := Option.some.inj hneeded
    obtain ⟨result, hresult⟩ := produce_runs hruns
    exact .inr ⟨_, _, result, rfl, hresult⟩
  | stopTracker | downloadFile | stopShare =>
    obtain rfl := Option.some.inj hneeded
    obtain ⟨result, htrace, hret⟩ := checked_runs hruns
    exact .inl ⟨_, result, rfl, htrace, hret⟩

/-- **When the reply tells success from failure**: no command that is executed fails with a positive
status. -/
theorem p2p_tells_iff (r : P2pRun h) {needed : List Text}
    (hneeded : r.hook.commands h = some needed) :
    TellsSuccess r needed ↔ ∀ e ∈ r.trace, status e ≤ 0 := by
  have hcode := r.code_eq_one
  obtain ⟨line, result, rfl, htrace, hret⟩ |
    ⟨line, line', result, rfl, ⟨hneg, hret, htrace⟩ | ⟨hpos, result', hret, htrace⟩⟩ :=
      r.cases hneeded
  · -- one command: its status is the result, and only a positive one is misread
    have hsucceeded : r.Succeeded [line] ↔ result = 0 := by
      simp [P2pRun.Succeeded, htrace]
    have hstatus : (∀ e ∈ r.trace, status e ≤ 0) ↔ result ≤ 0 := by
      simp [htrace, status]
    rw [hstatus]
    constructor
    · intro htells
      have hreturns := htells.returns
      rw [hret, decide_eq_true_iff, hsucceeded] at hreturns
      omega
    · intro hresult
      have hreturns : r.ret = true ↔ r.Succeeded [line] := by
        rw [hret, decide_eq_true_iff, hsucceeded]
        omega
      exact ⟨hreturns, hcode.trans hreturns, by simp [htrace]⟩
  · -- the first of two was not started
    have hfailed : ¬r.Succeeded [line, line'] := by
      simp [P2pRun.Succeeded, htrace]
    have hreturns : r.ret = true ↔ r.Succeeded [line, line'] :=
      iff_of_false (by rw [hret]; decide) hfailed
    refine iff_of_true ⟨hreturns, hcode.trans hreturns, by simp [htrace]⟩ ?_
    simp [htrace, status, Int.le_of_lt hneg]
  · have hsucceeded : r.Succeeded [line, line'] ↔ result = 0 ∧ result' = 0 := by
      simp [P2pRun.Succeeded, htrace]
    have hstatus : (∀ e ∈ r.trace, status e ≤ 0) ↔ result ≤ 0 ∧ result' ≤ 0 := by
      simp [htrace, status]
    have hfollows : (∀ e ∈ r.trace.dropLast, status e = 0) ↔ result = 0 := by
      simp [htrace, status]
    rw [hstatus]
    constructor
    · intro htells
      have hfirst := hfollows.mp htells.follows
      have hreturns := htells.returns
      rw [hret, decide_eq_true_iff, hsucceeded] at hreturns
      omega
    · rintro ⟨hresult, hresult'⟩
      have hreturns : r.ret = true ↔ r.Succeeded [line, line'] := by
        rw [hret, decide_eq_true_iff, hsucceeded]
        omega
      exact ⟨hreturns, hcode.trans hreturns, hfollows.mpr (by omega)⟩

/-- A download of which the command returned `result`. -/
def downloadRun (result : Int) (hresult : 0 ≤ result) : P2pRun ⟨"Linux", []⟩ where
  request := ⟨Method.downloadFile.id, "", "", "", "10.0.0.2", "/t", "/f"⟩
  hook := .downloadFile "/f" "/t" "10.0.0.2"
  trace :=
    [⟨.system (downloadCommand ⟨"Linux", []⟩ (cstr "/f") (cstr "/t") (cstr "10.0.0.2")),
    result⟩]
  ret := true
  reply := { vcamethod := "downloadFile", data := "", code := 1 }
  runs := by
    refine runs_call.mpr ⟨result, [], rfl, ?_⟩
    show Runs (PyAnswer.accepted <$> (if (0 : Int) ≤ result then
      (return some ⟨1, "1".toList⟩ : PyProg (Option PyAnswer))
      else return some ⟨-1, "0".toList⟩)) [] _
    rw [if_pos hresult]
    exact runs_ret.mpr ⟨rfl, rfl⟩
  replies :=
    runs_call.mpr ⟨(), _, rfl, runs_call.mpr ⟨true, [], rfl, runs_ret.mpr ⟨rfl, rfl⟩⟩⟩

/-- A download that has worked. -/
theorem p2p_tells_iff_downloaded : TellsSuccess (downloadRun 0 (by decide))
    [downloadCommand ⟨"Linux", []⟩ (cstr "/f") (cstr "/t") (cstr "10.0.0.2")] :=
  (p2p_tells_iff _ rfl).mpr fun e he => by
    obtain rfl := List.mem_singleton.mp he
    decide

/-- **A command that exits with 1** is a success. -/
theorem failed_succeeds : ¬∀ (h : P2pHost) (r : P2pRun h) (needed : List Text),
    r.hook.commands h = some needed → TellsSuccess r needed := by
  intro hclaim
  have htells := hclaim _ (downloadRun 256 (by decide)) _ rfl
  have hsucceeded := htells.returns.mp rfl
  obtain ⟨hevent, -⟩ := List.cons.inj hsucceeded
  have hresult : (256 : Int) = 0 := eq_of_heq (Sigma.mk.inj hevent).2
  exact absurd hresult (by decide)

end VirtCore
