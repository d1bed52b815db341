import VirtCore.Murder.Commands
import VirtCore.Text.Words
import Mathlib.Data.List.Nodup

/-!
# VirtCore — stopping the share

`stop_share` kills what `pgrep -f seed` finds.

* **`Origin`** — where a process comes from, and its command line.
* **`ProcessTable`** — the processes that run when `stop_share` is called.
* **`killed`** — what `stop_share` kills, its own shell among them.
* **`Mentions`** — where a process that is no share has the pattern from.
* **`killed_iff`** — which processes are killed.
* **`stop_share_iff`** — only shares are killed where no other process mentions the pattern.
-/

namespace VirtCore

open P2pCommand Words

/-- Where a process comes from. -/
inductive Origin where
  | share (file seedpath ip : Text)
  | download (file seedpath ip : Text)
  | production (file ip seedpath : Text)
  | tracker
  | other (cmdline : Text)

def Origin.IsShare : Origin → Prop
  | .share _ _ _ => True
  | _ => False

instance (o : Origin) : Decidable o.IsShare :=
  match o with
  | .share _ _ _ => .isTrue trivial
  | .download _ _ _ | .production _ _ _ | .tracker | .other _ => .isFalse nofun

variable (h : P2pHost)

/-- The command line, with the fields as the shell passes them on. -/
def Origin.cmdline : Origin → Text
  | .share file seedpath ip => unwords ["python".toList, h.client, "seed".toList, seedpath,
      file, ip]
  | .download file seedpath ip => downloadCommand h file seedpath ip
  | .production file ip seedpath => produceCommand h file ip seedpath
  | .tracker => unwords ["python".toList, h.tracker]
  | .other cmdline => cmdline

structure Process where
  pid : Nat
  origin : Origin

/-- The processes that run when `stop_share` is called, and the id of the shell that it starts. -/
structure ProcessTable where
  procs : List Process
  shell : Nat
  distinct : (shell :: procs.map Process.pid).Nodup

/-- `pgrep -f`: the processes other than itself whose command line contains the pattern. -/
def pgrep (pattern : Text) (procs : List Process) : List Nat :=
  (procs.filter fun p => pattern <:+: p.origin.cmdline h).map Process.pid

/-- What `os.system` starts. -/
def shellProcess (t : ProcessTable) : Process :=
  ⟨t.shell, .other ("sh -c ".toList ++ stopShareCommand)⟩

/-- The ids that `stop_share` hands to `kill -9`. -/
def killed (t : ProcessTable) : List Nat := pgrep h "seed".toList (shellProcess t :: t.procs)

/-- Of the processes that run, the shares are killed and no others. Nothing is said of the shell. -/
def StopsOnlyShares (t : ProcessTable) : Prop :=
  ∀ p ∈ t.procs, p.pid ∈ killed h t ↔ p.origin.IsShare

/-- The pattern occurs in the command line of a process: in the directory of the scripts, in a
field, or anywhere. -/
def Origin.Mentions (pattern : Text) : Origin → Prop
  | .share _ _ _ => True
  | .download file seedpath ip =>
    pattern <:+: h.basedir ∨ pattern <:+: seedpath ∨ pattern <:+: file ∨ pattern <:+: ip
  | .production file ip seedpath =>
    pattern <:+: h.basedir ∨ pattern <:+: file ∨ pattern <:+: ip ∨ pattern <:+: seedpath
  | .tracker => pattern <:+: h.basedir
  | .other cmdline => pattern <:+: cmdline

/-! ## The pattern in a command line

The pattern is a text within the command line. So another process with such an argument is hit as
well. -/

variable {h}

theorem downloadCommand_eq (file seedpath ip : Text) : downloadCommand h file seedpath ip =
    unwords ["python".toList, h.client, "peer".toList, seedpath, file, ip] := by
  unfold downloadCommand
  simp only [unwords, List.append_assoc]
  rfl

theorem produceCommand_eq (file ip seedpath : Text) : produceCommand h file ip seedpath =
    unwords ["python".toList, h.makeTorrent, file, ip ++ ":9998".toList, seedpath] := by
  unfold produceCommand
  simp only [unwords, List.append_assoc]
  rfl

/-- In a path, the pattern occurs in the directory. -/
theorem infix_script_iff {windows posix : String} {a b : Text}
    (hwindows : windows.toList = '\\' :: a) (hposix : posix.toList = '/' :: b)
    (ha : ¬"seed".toList <:+: a) (hb : ¬"seed".toList <:+: b) :
    "seed".toList <:+: h.script windows posix ↔ "seed".toList <:+: h.basedir := by
  unfold P2pHost.script
  split_ifs
  · rw [hwindows, infix_append_cons_iff (by decide)]
    exact or_iff_left ha
  · rw [hposix, infix_append_cons_iff (by decide)]
    exact or_iff_left hb

theorem infix_client_iff : "seed".toList <:+: h.client ↔ "seed".toList <:+: h.basedir :=
  infix_script_iff rfl rfl (by decide) (by decide)

theorem infix_tracker_iff : "seed".toList <:+: h.tracker ↔ "seed".toList <:+: h.basedir :=
  infix_script_iff rfl rfl (by decide) (by decide)

theorem infix_makeTorrent_iff : "seed".toList <:+: h.makeTorrent ↔ "seed".toList <:+: h.basedir :=
  infix_script_iff rfl rfl (by decide) (by decide)

/-- Where the pattern of `stop_share` occurs. -/
theorem infix_cmdline_iff (o : Origin) :
    "seed".toList <:+: o.cmdline h ↔ o.Mentions h "seed".toList := by
  -- `seed` has no blank, so that it lies within one of the words
  have hwords := @infix_unwords_iff "seed".toList (by decide) (by decide)
  have hpython : ¬"seed".toList <:+: "python".toList := by decide
  cases o with
  | share file seedpath ip =>
    show "seed".toList <:+: unwords ["python".toList, h.client, "seed".toList, seedpath, file,
      ip] ↔ _
    rw [hwords]
    exact iff_of_true ⟨_, by simp, List.infix_refl _⟩ trivial
  | download file seedpath ip =>
    have hpeer : ¬"seed".toList <:+: "peer".toList := by decide
    show "seed".toList <:+: downloadCommand h file seedpath ip ↔ _
    rw [downloadCommand_eq, hwords]
    simp only [List.exists_mem_cons_iff, hpython, hpeer, infix_client_iff, false_or,
      List.not_mem_nil, false_and, exists_false, or_false]
    rfl
  | production file ip seedpath =>
    -- the port is appended to the address, and does not matter
    have hip : "seed".toList <:+: ip ++ ":9998".toList ↔ "seed".toList <:+: ip := by
      rw [show ":9998".toList = ':' :: "9998".toList from rfl, infix_append_cons_iff (by decide)]
      exact or_iff_left (by decide)
    show "seed".toList <:+: produceCommand h file ip seedpath ↔ _
    rw [produceCommand_eq, hwords]
    simp only [List.exists_mem_cons_iff, hpython, hip, infix_makeTorrent_iff, false_or,
      List.not_mem_nil, false_and, exists_false, or_false]
    rfl
  | tracker =>
    show "seed".toList <:+: unwords ["python".toList, h.tracker] ↔ _
    rw [hwords]
    simp only [List.exists_mem_cons_iff, hpython, infix_tracker_iff, false_or,
      List.not_mem_nil, false_and, exists_false, or_false]
    rfl
  | other cmdline => rfl

/-! ## What is killed

Of the processes in the table those whose command line has the pattern; the shell that runs the
pipe starts later and is not among them. -/

variable {t : ProcessTable}

/-- The shell that `os.system` starts for `stop_share` is killed as well. -/
theorem shell_killed (h : P2pHost) (t : ProcessTable) : t.shell ∈ killed h t := by
  have hmem : shellProcess t ∈ (shellProcess t :: t.procs).filter fun p =>
      "seed".toList <:+: p.origin.cmdline h := by
    refine List.mem_filter.mpr ⟨List.mem_cons_self, decide_eq_true ?_⟩
    show "seed".toList <:+: "sh -c ".toList ++ stopShareCommand
    decide
  exact List.mem_map_of_mem hmem

/-- What `stop_share` kills: its own shell, and the processes whose command lines contain the
pattern. -/
theorem killed_iff {pid : Nat} : pid ∈ killed h t ↔
    pid = t.shell ∨ ∃ p ∈ t.procs, p.pid = pid ∧ p.origin.Mentions h "seed".toList := by
  constructor
  · intro hkilled
    obtain ⟨q, hq, rfl⟩ := List.mem_map.mp hkilled
    obtain ⟨hmem, hpattern⟩ := List.mem_filter.mp hq
    rcases List.mem_cons.mp hmem with rfl | hmem
    · exact .inl rfl
    · exact .inr ⟨q, hmem, rfl, (infix_cmdline_iff _).mp (of_decide_eq_true hpattern)⟩
  · rintro (rfl | ⟨p, hp, rfl, hmentions⟩)
    · exact shell_killed h t
    · exact List.mem_map_of_mem (List.mem_filter.mpr
        ⟨List.mem_cons_of_mem _ hp, decide_eq_true ((infix_cmdline_iff _).mpr hmentions)⟩)

/-- A process that runs is killed where its command line contains the pattern. -/
theorem mem_killed_iff {p : Process} (hp : p ∈ t.procs) :
    p.pid ∈ killed h t ↔ p.origin.Mentions h "seed".toList := by
  obtain ⟨hshell, hnodup⟩ := List.nodup_cons.mp t.distinct
  rw [killed_iff]
  constructor
  · -- no other process has the id, and the shell has one of its own
    rintro (hpid | ⟨q, hq, hpid, hmentions⟩)
    · exact absurd (hpid ▸ List.mem_map_of_mem hp) hshell
    · rwa [← List.inj_on_of_nodup_map hnodup hq hp hpid]
  · exact fun hmentions => .inr ⟨p, hp, rfl, hmentions⟩

/-- **When stopping the share stops only the share**: no other process has the pattern in its
command line. The shell of the call is started later and is no process of the table; it does not
outlive the call, by `killed_iff`. -/
theorem stop_share_iff (h : P2pHost) (t : ProcessTable) : StopsOnlyShares h t ↔
    ∀ p ∈ t.procs, ¬p.origin.IsShare → ¬p.origin.Mentions h "seed".toList := by
  refine forall₂_congr fun p hp => ?_
  rw [mem_killed_iff hp]
  cases p.origin with
  | share => exact iff_of_true (iff_of_true trivial trivial) fun hshare => (hshare trivial).elim
  | download | production | tracker | other => simp [Origin.IsShare]

/-- A download into a directory of that name. -/
def seedDownload : ProcessTable :=
  ⟨[⟨12, .download "/seed/f".toList "/t".toList "10.0.0.2".toList⟩], 13, by decide⟩

/-- **A download is killed** for the name of its file. -/
theorem download_killed : ¬∀ (h : P2pHost) (t : ProcessTable), StopsOnlyShares h t := by
  intro hclaim
  have hkilled : 12 ∈ killed ⟨"Linux", []⟩ seedDownload := by decide
  exact (hclaim ⟨"Linux", []⟩ seedDownload _ List.mem_cons_self).mp hkilled

end VirtCore
