import VirtCore.Protocol.Controller

/-!
# VirtCore — sharing files with murder

`p2p_command.py` puts the fields of a request into command lines and hands them to the shell; the
methods of `vca_murderHook` call it and turn its answer into a `bool`.

* **`SystemCall`** — what the functions of Python call.
* **`P2pHost`** — what they read of the host: the system, and where the module is.
* **`copyCommand`**, … — the command lines.
* **`produce_seed`**, … — the functions.
* **`Hook.prog`** — the method of `vca_murderHook` for each of them.
-/

namespace VirtCore

open Interact

namespace P2pCommand

/-- What a command line is made of. -/
abbrev Text : Type := List Char

/-! ## Command lines

The texts are those of `p2p_command.py` with the field in the middle of them, as it is: nothing is
quoted. -/

/-- `platform.system()`, and the directory of the module. -/
structure P2pHost where
  OS : String
  basedir : Text

/-- The path of a script, with the separators of the system. -/
def P2pHost.script (h : P2pHost) (windows posix : String) : Text :=
  if h.OS = "Windows" then h.basedir ++ windows.toList else h.basedir ++ posix.toList

/-- The tracker script, by its path. -/
def P2pHost.tracker (h : P2pHost) : Text :=
  h.script "\\dist\\murder_tracker.py" "/dist/murder_tracker.py"

/-- The script that makes a torrent file. -/
def P2pHost.makeTorrent (h : P2pHost) : Text :=
  h.script "\\dist\\murder_make_torrent.py" "/dist/murder_make_torrent.py"

/-- The client script. -/
def P2pHost.client (h : P2pHost) : Text :=
  h.script "\\dist\\murder_client.py" "/dist/murder_client.py"

variable (h : P2pHost)

/-- Starting the tracker, in the background. -/
def trackerCommand : Text :=
  "nohup python ".toList ++ h.tracker ++ " 1>/dev/null 2>&1 &".toList

/-- Copying a file to another host, by the `synchronize` module of ansible. -/
def copyCommand (ip src dest : Text) : Text :=
  "ansible ".toList ++ ip ++ " -m synchronize -a 'src=".toList ++ src ++ " dest=".toList ++ dest ++
    "'".toList

/-- Making the torrent file. -/
def produceCommand (file ip seedpath : Text) : Text :=
  "python ".toList ++ h.makeTorrent ++ " ".toList ++ file ++ " ".toList ++ ip ++
    ":9998 ".toList ++ seedpath

/-- Sharing a file, in the background. -/
def shareCommand (file seedpath ip : Text) : Text :=
  "nohup python ".toList ++ h.client ++ " seed ".toList ++ seedpath ++ " ".toList ++ file ++
    " ".toList ++ ip ++ " 1>/dev/null 2>&1 &".toList

/-- Fetching one. -/
def downloadCommand (file seedpath ip : Text) : Text :=
  "python ".toList ++ h.client ++ " peer ".toList ++ seedpath ++ " ".toList ++ file ++ " ".toList ++
    ip

/-- Ending every process with `seed` in its command line. -/
def stopShareCommand : Text := "pgrep -f seed|xargs kill -9".toList

/-- And every one with the name of the tracker's script. -/
def stopTrackerCommand : Text := "pgrep -f murder_tracker.py|xargs kill -9".toList

/-! ## The functions

Each function answers with a number and a text, or with nothing where the source returns without a
value. The exit status of a command is the only thing they look at. -/

/-- What the functions call: `os.system` answers with a wait status, or with -1; a thread that
executes a command line has a name. -/
inductive SystemCall where
  | system (line : Text)
  | thread (line : Text)
  | getpid

/-- `os.system` answers with an exit status, and a thread with nothing that is looked at. -/
@[reducible] def SystemCall.Ans : SystemCall → Type
  | .system _ | .getpid => Int
  | .thread _ => Text

/-- The signature of the Python functions. -/
abbrev systemSig : Sig := ⟨SystemCall, SystemCall.Ans⟩

/-- The programs of the functions. None of the calls raises an exception. -/
abbrev PyProg (α : Type) : Type := Prog systemSig Empty α

/-- What they called, with the answers. -/
abbrev SystemTrace : Type := Trace systemSig

/-- The dict of an answer. -/
structure PyAnswer where
  code : Int
  data : Text

/-- `os.system`, which hands its line to the shell. -/
def system (line : Text) : PyProg Int := Prog.call (.system line) Prog.ret

/-- The status of the command is not looked at; the process id of Python itself decides. -/
def start_tracker : PyProg (Option PyAnswer) := do
  let _ ← system (trackerCommand h)
  let pid ← (Prog.call .getpid Prog.ret : PyProg Int)
  if 0 ≤ pid then return some ⟨1, "1".toList⟩
  else return some ⟨-1, "0".toList⟩

/-- A negative status is the only failure. -/
def copy_seed (ip src dest : Text) : PyProg Bool := do
  let result ← system (copyCommand ip src dest)
  return 0 ≤ result

/-- There is no answer where the copy fails. -/
def produce_seed (file seedpath ip cip dest : Text) : PyProg (Option PyAnswer) := do
  let result ← system (produceCommand h file ip seedpath)
  if 0 ≤ result then
    let ret ← copy_seed cip seedpath dest
    if ret then return some ⟨1, "1".toList⟩
    else return none
  else return some ⟨-1, "0".toList⟩

/-- The thread executes `start_share`. -/
def distribute_seed (file seedpath ip : Text) : PyProg (Option PyAnswer) := do
  let data ← (Prog.call (.thread (shareCommand h file seedpath ip)) Prog.ret : PyProg Text)
  if data ≠ [] then return some ⟨1, data⟩
  else return some ⟨-1, "0".toList⟩

/-- A command of which nothing but the status matters. -/
def checked (line : Text) : PyProg (Option PyAnswer) := do
  let result ← system line
  if 0 ≤ result then return some ⟨1, "1".toList⟩
  else return some ⟨-1, "0".toList⟩

/-- The status of the client decides. -/
def download_file (file seedpath ip : Text) : PyProg (Option PyAnswer) :=
  checked (downloadCommand h file seedpath ip)

/-- The status of the pipeline decides. -/
def stop_share : PyProg (Option PyAnswer) := checked stopShareCommand

/-- So it does here. -/
def stop_tracker : PyProg (Option PyAnswer) := checked stopTrackerCommand

end P2pCommand

open P2pCommand

/-! ## The hook

The C++ side hands the fields to the function as C strings, and makes a `bool` of its answer. -/

/-- The `bool` of a method: `PyDict_Size` of `None` is -1, and a code below 1 is a failure. -/
def PyAnswer.accepted : Option PyAnswer → Bool
  | none => false
  | some d => ¬d.code < 1

/-- The methods of `vca_murderHook`. The strings go to Python up to their first NUL. -/
def Hook.prog (h : P2pHost) : Hook → PyProg Bool
  | .startTracker => PyAnswer.accepted <$> start_tracker h
  | .stopTracker => PyAnswer.accepted <$> stop_tracker
  | .produceSeed sourceFilePath sourceSeedPath localHost targetHost targetSeedPath =>
    PyAnswer.accepted <$> produce_seed h (cstr sourceFilePath) (cstr sourceSeedPath)
      (cstr localHost) (cstr targetHost) (cstr targetSeedPath)
  | .startShare sourceFilePath sourceSeedPath localHost =>
    PyAnswer.accepted <$> distribute_seed h (cstr sourceFilePath) (cstr sourceSeedPath)
      (cstr localHost)
  | .downloadFile downloadPath localSeedPath localHost =>
    PyAnswer.accepted <$> download_file h (cstr downloadPath) (cstr localSeedPath)
      (cstr localHost)
  | .stopShare => PyAnswer.accepted <$> stop_share

end VirtCore
