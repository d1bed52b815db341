import VirtCore.Murder.Stopping
import VirtCore.Murder.Results
import VirtCore.Shell.Reading

/-!
# VirtCore — fields in command lines

The fields of a request are put into command lines that a shell reads.

* **`Hook.intended`** — the tokens of the lines, with the fields as they are.
* **`ReadsLiterally`** — the shell finds these tokens in every line that is handed to it.
* **`Hook.Fits`** — the fields are bare words, and there is no quote in a quoted one.
* **`p2p_literal_iff`** — the lines of a request are read literally where its fields fit.
-/

namespace VirtCore

open Interact VcaController P2pCommand
open Shell hiding Text

/-- The line that a call hands to a shell. -/
def handed : Event systemSig → Option Text
  | ⟨.system line, _⟩ | ⟨.thread line, _⟩ => some line
  | ⟨.getpid, _⟩ => none

/-- The tokens of the lines of an operation, in the order of the lines: the words of a format with
the fields put into them, and what sends a share to the background. The lines of the other
operations have no fields. -/
def Hook.intended (h : P2pHost) : Hook → List (List Token)
  | .produceSeed sourceFilePath sourceSeedPath localHost targetHost targetSeedPath =>
    [["python".toList, h.makeTorrent, cstr sourceFilePath, cstr localHost ++ ":9998".toList,
        cstr sourceSeedPath].map .word,
      ["ansible".toList, cstr targetHost, "-m".toList, "synchronize".toList, "-a".toList,
        "src=".toList ++ cstr sourceSeedPath ++ " dest=".toList ++ cstr targetSeedPath].map .word]
  | .startShare sourceFilePath sourceSeedPath localHost =>
    [["nohup".toList, "python".toList, h.client, "seed".toList, cstr sourceSeedPath,
        cstr sourceFilePath, cstr localHost].map .word ++ discarded]
  | .downloadFile downloadPath localSeedPath localHost =>
    [["python".toList, h.client, "peer".toList, cstr localSeedPath, cstr downloadPath,
        cstr localHost].map .word]
  | .startTracker | .stopTracker | .stopShare => []

/-- Each line is read as the tokens that belong to it. -/
def ReadsLiterally (t : SystemTrace) (intended : List (List Token)) : Prop :=
  ∀ p ∈ (t.filterMap handed).zip intended, lex p.1 = some p.2

/-- The path of the script and the fields of an operation can stand where they are put. -/
def Hook.Fits (h : P2pHost) : Hook → Prop
  | .produceSeed sourceFilePath sourceSeedPath localHost targetHost targetSeedPath =>
    (∀ w ∈ [h.makeTorrent, cstr sourceFilePath, cstr localHost ++ ":9998".toList,
      cstr sourceSeedPath, cstr targetHost], Bare w) ∧ quote ∉ cstr targetSeedPath
  | .startShare sourceFilePath sourceSeedPath localHost =>
    ∀ w ∈ [h.client, cstr sourceSeedPath, cstr sourceFilePath, cstr localHost], Bare w
  | .downloadFile downloadPath localSeedPath localHost =>
    ∀ w ∈ [h.client, cstr localSeedPath, cstr downloadPath, cstr localHost], Bare w
  | .startTracker | .stopTracker | .stopShare => True

/-! ## The lines

Each line is a list of words with blanks in between. The shell reads them back as they are where
no word has a character that it takes otherwise. -/

variable {h : P2pHost} {file seedpath ip src dest : Text}

theorem lex_produceCommand_iff :
    lex (produceCommand h file ip seedpath) =
        some (["python".toList, h.makeTorrent, file, ip ++ ":9998".toList, seedpath].map .word) ↔
      ∀ w ∈ [h.makeTorrent, file, ip ++ ":9998".toList, seedpath], Bare w := by
  have hline : produceCommand h file ip seedpath =
      spaced ["python".toList, h.makeTorrent, file, ip ++ ":9998".toList] ++ seedpath := by
    unfold produceCommand
    simp only [spaced, List.flatMap_cons, List.flatMap_nil, List.append_assoc]
    rfl
  have hpython : Bare "python".toList := by decide
  rw [hline]
  refine (lex_words_iff ["python".toList, h.makeTorrent, file, ip ++ ":9998".toList]
    seedpath).trans ?_
  simp only [List.cons_append, List.nil_append, List.forall_mem_cons, hpython, true_and]

theorem lex_copyCommand_iff :
    lex (copyCommand ip src dest) =
        some (["ansible".toList, ip, "-m".toList, "synchronize".toList, "-a".toList,
          "src=".toList ++ src ++ " dest=".toList ++ dest].map .word) ↔
      Bare ip ∧ quote ∉ src ∧ quote ∉ dest := by
  have hline : copyCommand ip src dest =
      spaced ["ansible".toList, ip, "-m".toList, "synchronize".toList, "-a".toList] ++
        quote :: ("src=".toList ++ src ++ " dest=".toList ++ dest ++ [quote]) := by
    unfold copyCommand
    simp only [spaced, List.flatMap_cons, List.flatMap_nil, List.append_assoc]
    rfl
  rw [hline]
  refine (lex_quoted_iff ["ansible".toList, ip, "-m".toList, "synchronize".toList, "-a".toList]
    ("src=".toList ++ src ++ " dest=".toList ++ dest)).trans ?_
  have hfixed : Bare "ansible".toList ∧ Bare "-m".toList ∧ Bare "synchronize".toList ∧
      Bare "-a".toList := by decide
  -- between the quotes only a quote can do harm
  have hquotes : quote ∉ "src=".toList ∧ quote ∉ " dest=".toList := by decide
  obtain ⟨hansible, hmodule, hsynchronize, hargs⟩ := hfixed
  obtain ⟨hsrc, hdest⟩ := hquotes
  simp only [List.forall_mem_cons, List.not_mem_nil, List.mem_append, not_or, hansible, hmodule,
    hsynchronize, hargs, hsrc, hdest, not_false_eq_true, true_and, and_true, false_imp_iff,
    implies_true]

theorem lex_shareCommand_iff :
    lex (shareCommand h file seedpath ip) =
        some (["nohup".toList, "python".toList, h.client, "seed".toList, seedpath, file, ip].map
          .word ++ discarded) ↔
      ∀ w ∈ [h.client, seedpath, file, ip], Bare w := by
  -- words with single blanks between them, sent to the background
  have hline : shareCommand h file seedpath ip =
      spaced ["nohup".toList, "python".toList, h.client, "seed".toList, seedpath, file, ip] ++
        background := by
    unfold shareCommand
    simp only [spaced, List.flatMap_cons, List.flatMap_nil, List.append_assoc]
    rfl
  have hfixed : Bare "nohup".toList ∧ Bare "python".toList ∧ Bare "seed".toList := by decide
  obtain ⟨hnohup, hpython, hseed⟩ := hfixed
  have hlength : [("nohup".toList : Text), "python".toList, h.client, "seed".toList, seedpath, file,
      ip].length < 16 := by
    simp only [List.length_cons, List.length_nil]
    omega
  rw [hline]
  refine (lex_background_iff hlength).trans ?_
  simp only [List.forall_mem_cons, hnohup, hpython, hseed, true_and]

theorem lex_downloadCommand_iff :
    lex (downloadCommand h file seedpath ip) =
        some (["python".toList, h.client, "peer".toList, seedpath, file, ip].map .word) ↔
      ∀ w ∈ [h.client, seedpath, file, ip], Bare w := by
  have hline : downloadCommand h file seedpath ip =
      spaced ["python".toList, h.client, "peer".toList, seedpath, file] ++ ip := by
    unfold downloadCommand
    simp only [spaced, List.flatMap_cons, List.flatMap_nil, List.append_assoc]
    rfl
  have hfixed : Bare "python".toList ∧ Bare "peer".toList := by decide
  obtain ⟨hpython, hpeer⟩ := hfixed
  rw [hline]
  refine (lex_words_iff ["python".toList, h.client, "peer".toList, seedpath, file] ip).trans ?_
  simp only [List.cons_append, List.nil_append, List.forall_mem_cons, hpython, hpeer, true_and]

/-! ## The operations

An operation may give the shell several lines, and the first that fails may be the last. Each line
that can be reached has to be literal. -/

/-- Every line that is handed over in a run is read literally. -/
def Hook.Literal (h : P2pHost) (hook : Hook) : Prop :=
  ∀ t b, Runs (hook.prog h) t (.ok b) → ReadsLiterally t (hook.intended h)

theorem distribute_runs {t : SystemTrace} {b : Bool}
    (hr : Runs (PyAnswer.accepted <$> distribute_seed h file seedpath ip) t (.ok b)) :
    ∃ name : Text, t = [⟨.thread (shareCommand h file seedpath ip), name⟩] := by
  obtain ⟨name, t', rfl, hrest⟩ := runs_call.mp hr
  have hrest : Runs (PyAnswer.accepted <$> (if name ≠ [] then return some ⟨1, name⟩
      else return some ⟨-1, "0".toList⟩ : PyProg (Option PyAnswer))) t' (.ok b) := hrest
  split_ifs at hrest
  · obtain ⟨rfl, -⟩ := runs_ret.mp hrest
    exact ⟨name, rfl⟩
  · obtain ⟨rfl, -⟩ := runs_ret.mp hrest
    exact ⟨name, rfl⟩

theorem reads_nil (intended : List (List Token)) : ReadsLiterally [] intended := nofun

theorem reads_cons {e : Event systemSig} {line : Text} {t : SystemTrace} {tokens : List Token}
    {intended : List (List Token)} (he : handed e = some line) :
    ReadsLiterally (e :: t) (tokens :: intended) ↔
      lex line = some tokens ∧ ReadsLiterally t intended := by
  unfold ReadsLiterally
  rw [List.filterMap_cons_some he, List.zip_cons_cons, List.forall_mem_cons]

/-- The two lines of a production are both handed over where the first is executed. -/
theorem produce_reaches (file seedpath ip cip dest : Text) :
    Runs (PyAnswer.accepted <$> produce_seed h file seedpath ip cip dest)
      [⟨.system (produceCommand h file ip seedpath), (0 : Int)⟩,
        ⟨.system (copyCommand cip seedpath dest), (0 : Int)⟩] (.ok true) :=
  runs_call.mpr ⟨(0 : Int), _, rfl,
    runs_call.mpr ⟨(0 : Int), _, rfl, runs_ret.mpr ⟨rfl, rfl⟩⟩⟩

theorem distribute_reaches (file seedpath ip : Text) :
    Runs (PyAnswer.accepted <$> distribute_seed h file seedpath ip)
      [⟨.thread (shareCommand h file seedpath ip), ['T']⟩] (.ok true) :=
  runs_call.mpr ⟨['T'], _, rfl, runs_ret.mpr ⟨rfl, rfl⟩⟩

theorem download_reaches (file seedpath ip : Text) :
    Runs (PyAnswer.accepted <$> download_file h file seedpath ip)
      [⟨.system (downloadCommand h file seedpath ip), (0 : Int)⟩] (.ok true) :=
  runs_call.mpr ⟨(0 : Int), _, rfl, runs_ret.mpr ⟨rfl, rfl⟩⟩

/-- **When the lines of an operation are read literally**: the fields can stand where they are
put. -/
theorem hook_literal_iff (h : P2pHost) (hook : Hook) : hook.Literal h ↔ hook.Fits h := by
  cases hook with
  | produceSeed sourceFilePath sourceSeedPath localHost targetHost targetSeedPath =>
    constructor
    · intro hliteral
      obtain ⟨hproduce, hrest⟩ := (reads_cons rfl).mp (hliteral _ _ (produce_reaches _ _ _ _ _))
      obtain ⟨hcopy, -⟩ := (reads_cons rfl).mp hrest
      have hfields := lex_produceCommand_iff.mp hproduce
      obtain ⟨hip, -, hdest⟩ := lex_copyCommand_iff.mp hcopy
      simp only [List.forall_mem_cons] at hfields
      obtain ⟨hscript, hfile, haddress, hseed, -⟩ := hfields
      refine ⟨?_, hdest⟩
      simp only [List.forall_mem_cons]
      exact ⟨hscript, hfile, haddress, hseed, hip, nofun⟩
    · rintro ⟨hfields, hdest⟩ t b hr
      simp only [List.forall_mem_cons] at hfields
      obtain ⟨hscript, hfile, haddress, hseed, hip, -⟩ := hfields
      have hproduce := lex_produceCommand_iff.mpr fun w hw => by
        simp only [List.mem_cons, List.not_mem_nil, or_false] at hw
        rcases hw with rfl | rfl | rfl | rfl
        · exact hscript
        · exact hfile
        · exact haddress
        · exact hseed
      -- a bare word has no quote in it
      have hquote : quote ∉ cstr sourceSeedPath := fun hmem => (hseed.plain _ hmem).2.2.1 rfl
      have hcopy := lex_copyCommand_iff.mpr ⟨hip, hquote, hdest⟩
      obtain ⟨result, ⟨-, -, rfl⟩ | ⟨-, result', -, rfl⟩⟩ := produce_runs hr
      · exact (reads_cons rfl).mpr ⟨hproduce, reads_nil _⟩
      · exact (reads_cons rfl).mpr ⟨hproduce, (reads_cons rfl).mpr ⟨hcopy, reads_nil _⟩⟩
  | startShare sourceFilePath sourceSeedPath localHost =>
    constructor
    · intro hliteral
      have hline := ((reads_cons rfl).mp (hliteral _ _ (distribute_reaches _ _ _))).1
      exact lex_shareCommand_iff.mp hline
    · intro hfits t b hr
      obtain ⟨name, rfl⟩ := distribute_runs hr
      exact (reads_cons rfl).mpr ⟨lex_shareCommand_iff.mpr hfits, reads_nil _⟩
  | downloadFile downloadPath localSeedPath localHost =>
    constructor
    · intro hliteral
      have hline := ((reads_cons rfl).mp (hliteral _ _ (download_reaches _ _ _))).1
      exact lex_downloadCommand_iff.mp hline
    · intro hfits t b hr
      obtain ⟨result, rfl, -⟩ := checked_runs hr
      exact (reads_cons rfl).mpr ⟨lex_downloadCommand_iff.mpr hfits, reads_nil _⟩
  | startTracker | stopTracker | stopShare =>
    refine iff_of_true (fun t b _ p hp => ?_) trivial
    rw [Hook.intended, List.zip_nil_right] at hp
    cases hp

/-! ## The requests -/

/-- The operation that `P2P` calls. -/
def RequestP2P.hook (request : RequestP2P) : Option Hook :=
  match Method.ofId request.vcamethod with
  | some .startTracker => some .startTracker
  | some .stopTracker => some .stopTracker
  | some .produceSeed =>
    some (.produceSeed request.sharefilepath request.shareseedpath request.shareip
      request.downloadip request.downloadseedpath)
  | some .startShare =>
    some (.startShare request.sharefilepath request.shareseedpath request.shareip)
  | some .downloadFile =>
    some (.downloadFile request.downloadfilepath request.downloadseedpath request.downloadip)
  | some .stopShare => some .stopShare
  | _ => none

theorem answerHook_runs_iff {name : String} {hook hook' : Hook} {ret : Bool}
    {o : Except Exit VcaReply} : Runs (answerHook name hook') [⟨.hook hook, ret⟩] o ↔
      hook = hook' ∧ o = .ok { vcamethod := name, data := "", code := code ret } := by
  constructor
  · intro hr
    obtain ⟨ret', t', hevents, hend⟩ := runs_call.mp hr
    obtain ⟨hevent, rfl⟩ := List.cons.inj hevents
    obtain ⟨hcall, hret⟩ := Sigma.mk.inj hevent
    obtain rfl : hook = hook' := ServerCall.hook.inj hcall
    obtain rfl : ret = ret' := eq_of_heq hret
    exact ⟨rfl, (runs_ret.mp hend).2⟩
  · rintro ⟨rfl, rfl⟩
    exact runs_call.mpr ⟨ret, [], rfl, runs_ret.mpr ⟨rfl, rfl⟩⟩

/-- The operation of a run is the one that was asked for. -/
theorem P2pRun.hook_eq (r : P2pRun h) : r.request.hook = some r.hook := by
  obtain ⟨request, hook, trace, ret, reply, runs, replies⟩ := r
  change Runs (P2P request) _ _ at replies
  unfold P2P at replies
  obtain ⟨x, t', htrace, hrest⟩ := runs_call.mp replies
  obtain ⟨-, rfl⟩ := List.cons.inj htrace
  dsimp only at hrest
  show RequestP2P.hook request = some hook
  unfold RequestP2P.hook
  split at hrest
  case h_7 => exact absurd (runs_ret.mp hrest).1 (List.cons_ne_nil _ _)
  all_goals
    rename_i hmethod
    obtain ⟨rfl, -⟩ := answerHook_runs_iff.mp hrest
    simp only [hmethod]

/-- Whatever can happen in an operation can happen for a request for it. -/
theorem p2pRun_exists {request : RequestP2P} {hook : Hook} {t : SystemTrace} {b : Bool}
    (hhook : request.hook = some hook) (hr : Runs (hook.prog h) t (.ok b)) :
    ∃ r : P2pRun h, r.request = request ∧ r.hook = hook ∧ r.trace = t := by
  have hreplies : ∃ reply, Runs (P2P request) [⟨.newMurderHook, ()⟩, ⟨.hook hook, b⟩]
      (.ok reply) := by
    unfold RequestP2P.hook at hhook
    split at hhook
    case h_7 => cases hhook
    all_goals
      rename_i hmethod
      obtain rfl := Option.some.inj hhook
      apply Exists.intro
      apply runs_call.mpr
      refine ⟨(), [_], rfl, ?_⟩
      dsimp only [bind, Prog.bind]
      rw [hmethod]
      exact answerHook_runs_iff.mpr ⟨rfl, rfl⟩
  obtain ⟨reply, hreplies⟩ := hreplies
  exact ⟨⟨request, hook, t, b, reply, hr, hreplies⟩, rfl, rfl, rfl⟩

/-- Every line that is handed to a shell for a request is read literally. -/
def RequestP2P.Literal (h : P2pHost) (request : RequestP2P) : Prop :=
  ∀ r : P2pRun h, r.request = request → ReadsLiterally r.trace (r.hook.intended h)

/-- **When no field of a request changes what a shell does**: each bare one is a bare word, and
there is no quote in the quoted one. -/
theorem p2p_literal_iff (h : P2pHost) (request : RequestP2P) :
    request.Literal h ↔ ∀ hook ∈ request.hook, hook.Fits h := by
  constructor
  · intro hliteral hook hhook
    refine (hook_literal_iff h hook).mp fun t b hr => ?_
    obtain ⟨r, hrequest, rfl, rfl⟩ := p2pRun_exists hhook hr
    exact hliteral r hrequest
  · rintro hfits r rfl
    exact (hook_literal_iff h r.hook).mpr (hfits _ r.hook_eq) _ _ r.runs

/-- A download into a path with a command behind it. -/
def injection : RequestP2P := ⟨Method.downloadFile.id, "", "", "", "10.0.0.2", "/t",
    "/f;reboot"⟩

/-- **A field adds a command.** -/
theorem command_injected : ¬∀ (h : P2pHost) (request : RequestP2P), request.Literal h := by
  intro hclaim
  have hruns :
    Runs (Hook.prog ⟨"Linux", "/p".toList⟩ (.downloadFile "/f;reboot" "/t" "10.0.0.2"))
      _ (.ok true) := download_reaches _ _ _
  have hasked : injection.hook = some (.downloadFile "/f;reboot" "/t" "10.0.0.2") := rfl
  obtain ⟨r, hrequest, hhook, htrace⟩ := p2pRun_exists hasked hruns
  have hread := hclaim _ _ r hrequest
  rw [hhook, htrace] at hread
  have hline := ((reads_cons rfl).mp hread).1
  revert hline
  decide

end VirtCore
