import Mathlib.Data.List.Infix

/-!
# Shell — the tokens of a command line

How a POSIX shell cuts a command line into tokens: blanks between words, three ways of quoting,
operators, comments and numbers in front of a redirection. A text with a parameter or a command that
would be replaced has no tokens here; a `$` that stands alone, of which POSIX does not say what it
means, counts as one. What is done with a word after that, where it is a pattern or
names a home directory, is not followed.

* **`Token`** — a word without its quotes, a number of a redirection, or an operator.
* **`State`** — where the reader stands, and the tokens it has found.
* **`step` / `run`** — one character, and all of them.
* **`lex`** — the tokens of a text.
* **`Bare`** — a word that can stand without quotes.
* **`run_spaced`** — bare words are read as they are.
-/

namespace Shell

abbrev Text : Type := List Char

inductive Token where
  | word (text : Text)
  | ioNumber (text : Text)
  | op (text : Text)
  deriving DecidableEq

def Token.text : Token → Text
  | .word text | .ioNumber text | .op text => text

/-- The backslash and the quotes, by their codes. -/
def backslash : Char := '\x5c'

def quote : Char := '\x27'

def doubleQuote : Char := '\x22'

def backquote : Char := '\x60'

def isBlank (c : Char) : Bool := c = ' ' || c = '\t'

def isOperatorChar (c : Char) : Bool := ['|', '&', ';', '<', '>', '(', ')'].contains c

/-- The operators of two characters and more. -/
def operators : List Text :=
  [['&', '&'], ['|', '|'], [';', ';'], ['<', '<'], ['>', '>'], ['<', '&'], ['>', '&'], ['<', '>'],
    ['>', '|'], ['<', '<', '-']]

def isOperator (s : Text) : Bool := operators.contains s

/-- What begins a parameter or a command that is replaced, or may. -/
def isExpansion (c : Char) : Bool := c = '$' || c = backquote

/-- Where the reader stands. -/
inductive Mode where
  | unquoted
  | escaped
  | single
  | double
  | doubleEscaped
  | operator
  | comment
  deriving DecidableEq

/-- The token that has been begun, whether nothing of it was quoted, and the tokens before it. -/
structure State where
  mode : Mode
  token : Option Text
  plain : Bool
  done : List Token
  deriving DecidableEq

namespace State

def emit (s : State) (t : Token) : State :=
  { s with token := none, plain := true, done := s.done ++ [t] }

def endWord (s : State) : State :=
  match s.token with
  | none => s
  | some w => s.emit (.word w)

/-- A word of digits in front of a redirection is its number. -/
def endBefore (s : State) (c : Char) : State :=
  match s.token with
  | none => s
  | some w =>
    if (c = '<' || c = '>') && s.plain && w.all Char.isDigit then s.emit (.ioNumber w)
    else s.emit (.word w)

def push (s : State) (c : Char) : State := { s with token := some (s.token.getD [] ++ [c]) }

/-- A quote begins a word, or goes on with one. -/
def enter (s : State) (mode : Mode) : State :=
  { s with mode, token := some (s.token.getD []), plain := false }

end State

/-! ## The reader

One character at a time, with the mode it is in, the token under way and the tokens before it. -/

/-- A character outside quotes; `none` where the shell would replace something. -/
def unquoted (s : State) (c : Char) : Option State :=
  if isBlank c then some s.endWord
  else if c = '\n' then some (s.endWord.emit (.op [c]))
  else if c = quote then some (s.enter .single)
  else if c = doubleQuote then some (s.enter .double)
  else if c = backslash then some { s with mode := .escaped }
  else if isOperatorChar c then some { s.endBefore c with mode := .operator, token := some [c] }
  else if isExpansion c then none
  else if s.token = none && c = '#' then some { s with mode := .comment }
  else some (s.push c)

def step (s : State) (c : Char) : Option State :=
  match s.mode with
  | .unquoted => unquoted s c
  | .escaped =>
    -- a line that goes on
    if c = '\n' then some { s with mode := .unquoted }
    else some { s.push c with mode := .unquoted, plain := false }
  | .single => if c = quote then some { s with mode := .unquoted } else some (s.push c)
  | .double =>
    if c = doubleQuote then some { s with mode := .unquoted }
    else if c = backslash then some { s with mode := .doubleEscaped }
    else if isExpansion c then none
    else some (s.push c)
  | .doubleEscaped =>
    if c = '\n' then some { s with mode := .double }
    else if isExpansion c || c = doubleQuote || c = backslash then
      some { s.push c with mode := .double }
    else some { (s.push backslash).push c with mode := .double }
  | .operator =>
    if isOperator (s.token.getD [] ++ [c]) then some (s.push c)
    else unquoted { s.emit (.op (s.token.getD [])) with mode := .unquoted } c
  | .comment => if c = '\n' then some { s.emit (.op [c]) with mode := .unquoted } else some s

def run : State → Text → Option State
  | s, [] => some s
  | s, c :: cs => (step s c).bind fun s' => run s' cs

/-- The tokens at the end of the text; `none` where a quote is left open. -/
def finish (s : State) : Option (List Token) :=
  match s.mode with
  | .unquoted => some s.endWord.done
  | .operator => some (s.done ++ [.op (s.token.getD [])])
  | .comment => some s.done
  | .escaped | .single | .double | .doubleEscaped => none

/-- Between two tokens. -/
def between (done : List Token) : State := ⟨.unquoted, none, true, done⟩

def lex (text : Text) : Option (List Token) := (run (between []) text).bind finish

theorem run_append (s : State) (a b : Text) :
    run s (a ++ b) = (run s a).bind fun s' => run s' b := by
  induction a generalizing s with
  | nil => rfl
  | cons c a ih =>
    rw [List.cons_append, run, run]
    cases step s c with
    | none => rfl
    | some s' => exact ih s'

theorem run_concat {s s' : State} {a : Text} {c : Char} :
    run s (a ++ [c]) = some s' ↔ ∃ t, run s a = some t ∧ step t c = some s' := by
  rw [run_append, Option.bind_eq_some_iff]
  refine exists_congr fun t => and_congr_right fun _ => ?_
  show (step t c).bind some = some s' ↔ _
  cases step t c <;> rfl

/-! ## Bare words -/

/-- A character that stands for itself. -/
def Plain (c : Char) : Prop :=
  isBlank c = false ∧ c ≠ '\n' ∧ c ≠ quote ∧ c ≠ doubleQuote ∧ c ≠ backslash ∧
    isOperatorChar c = false ∧ isExpansion c = false

instance (c : Char) : Decidable (Plain c) :=
  inferInstanceAs (Decidable (_ ∧ _ ∧ _ ∧ _ ∧ _ ∧ _ ∧ _))

/-- A word that stands for itself: not empty, of plain characters, and no comment. -/
structure Bare (w : Text) : Prop where
  ne_nil : w ≠ []
  plain : ∀ c ∈ w, Plain c
  head : w.head? ≠ some '#'

instance (w : Text) : Decidable (Bare w) :=
  decidable_of_iff (w ≠ [] ∧ (w.all fun c => decide (Plain c)) = true ∧ w.head? ≠ some '#')
    ⟨fun h => ⟨h.1, fun c hc => of_decide_eq_true (List.all_eq_true.mp h.2.1 c hc), h.2.2⟩,
      fun h => ⟨h.ne_nil, List.all_eq_true.mpr fun c hc => decide_eq_true (h.plain c hc),
        h.head⟩⟩

/-- Outside quotes, a plain character is put to the word. -/
theorem unquoted_plain {s : State} {c : Char} (hc : Plain c)
    (hbegun : s.token = none → c ≠ '#') : unquoted s c = some (s.push c) := by
  obtain ⟨hblank, hfeed, hquote, hdouble, hback, hop, hexp⟩ := hc
  unfold unquoted
  rw [if_neg (by simp [hblank]), if_neg hfeed, if_neg hquote, if_neg hdouble, if_neg hback,
    if_neg (by simp [hop]), if_neg (by simp [hexp])]
  cases htoken : s.token with
  | none =>
    have hcomment := hbegun htoken
    rw [if_neg (by simp [hcomment])]
  | some w => rw [if_neg (by simp)]

theorem run_plain {v w : Text} (hw : ∀ c ∈ w, Plain c) (done : List Token) :
    run ⟨.unquoted, some v, true, done⟩ w =
      some ⟨.unquoted, some (v ++ w), true, done⟩ := by
  induction w generalizing v with
  | nil => rw [List.append_nil]; rfl
  | cons c w ih =>
    have hstep : step ⟨.unquoted, some v, true, done⟩ c =
        some ⟨.unquoted, some (v ++ [c]), true, done⟩ :=
      unquoted_plain (hw c List.mem_cons_self) nofun
    rw [run, hstep, Option.bind_some, ih fun d hd => hw d (List.mem_cons_of_mem c hd),
      List.append_assoc]
    rfl

/-- A bare word is begun as it is. -/
theorem run_bare {w : Text} (hw : Bare w) (done : List Token) :
    run (between done) w = some ⟨.unquoted, some w, true, done⟩ := by
  obtain ⟨hne, hplain, hhead⟩ := hw
  cases w with
  | nil => exact (hne rfl).elim
  | cons c w =>
    have hstep : step (between done) c = some ⟨.unquoted, some [c], true, done⟩ :=
      unquoted_plain (hplain c List.mem_cons_self) fun _ hc => hhead (congrArg some hc)
    rw [run, hstep, Option.bind_some, run_plain fun d hd => hplain d (List.mem_cons_of_mem c hd)]
    rfl

/-- The words with a blank after each. -/
def spaced (ws : List Text) : Text := ws.flatMap fun w => w ++ [' ']

theorem spaced_cons (w : Text) (ws : List Text) : spaced (w :: ws) = w ++ ' ' :: spaced ws := by
  rw [spaced, List.flatMap_cons, List.append_assoc]
  rfl

/-- Bare words are read as they are. -/
theorem run_spaced {ws : List Text} (hws : ∀ w ∈ ws, Bare w) (done : List Token) :
    run (between done) (spaced ws) = some (between (done ++ ws.map .word)) := by
  induction ws generalizing done with
  | nil => rw [List.map_nil, List.append_nil]; rfl
  | cons w ws ih =>
    have hblank : step ⟨.unquoted, some w, true, done⟩ ' ' =
      some (between (done ++ [.word w])) :=
      rfl
    rw [spaced_cons, run_append, run_bare (hws w List.mem_cons_self), Option.bind_some, run, hblank,
      Option.bind_some, ih fun v hv => hws v (List.mem_cons_of_mem w hv), List.append_assoc]
    rfl

/-- Between quotes, everything but a quote is put to the word. -/
theorem run_single {text v : Text} (htext : quote ∉ text) (plain : Bool) (done : List Token) :
    run ⟨.single, some v, plain, done⟩ text =
      some ⟨.single, some (v ++ text), plain, done⟩ := by
  induction text generalizing v with
  | nil => rw [List.append_nil]; rfl
  | cons c text ih =>
    have hc : c ≠ quote := fun h => htext (h ▸ List.mem_cons_self)
    have hstep : step ⟨.single, some v, plain, done⟩ c =
        some ⟨.single, some (v ++ [c]), plain, done⟩ := if_neg hc
    rw [run, hstep, Option.bind_some, ih fun h => htext (List.mem_cons_of_mem c h),
      List.append_assoc]
    rfl

end Shell
