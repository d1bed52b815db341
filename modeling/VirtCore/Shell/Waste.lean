import VirtCore.Shell.Lexer
import Mathlib.Tactic.SplitIfs
import Mathlib.Algebra.Ring.Nat

/-!
# Shell — characters that are lost

A token shows fewer characters than have been read for it where something was quoted. A text of
which every character can be found again, but for one blank after each word, has been read as it
stands.

* **`kept`** — the characters that the reader still has; it gains one with each that it reads.
* **`cost`** — the same with a blank for each word that has ended.
* **`OnlyWords`** — the reader has found no operator.
* **`Mode.lost` / `Mode.owed`** — how many characters a mode shows to have been lost, and how
  many it can still lose before it can end; in both ways a character read is at most one gained.
* **`run_tight`** — where nothing was lost, the words are bare.
-/

namespace Shell

variable {s s' : State} {c : Char} {text : Text}

/-! ## Characters that are kept

The reader keeps a character or loses it, but never makes one. So what it has found is no longer
than what it has read. -/

/-- The characters of a list of tokens. -/
def total (ts : List Token) : Nat := (ts.map fun t => t.text.length).sum

/-- A backslash between double quotes is kept until the next character decides about it. -/
def pending : Mode → Nat
  | .doubleEscaped => 1
  | _ => 0

def kept (s : State) : Nat := total s.done + (s.token.getD []).length + pending s.mode

@[simp] theorem total_nil : total [] = 0 := rfl

@[simp] theorem total_append (a b : List Token) : total (a ++ b) = total a + total b := by
  rw [total, List.map_append, List.sum_append]
  rfl

@[simp] theorem total_singleton (t : Token) : total [t] = t.text.length := Nat.add_zero _

theorem kept_endWord (s : State) : kept s.endWord = kept s := by
  unfold State.endWord
  split
  · rfl
  · rename_i w htoken
    simp [kept, State.emit, htoken, Token.text]

theorem kept_endBefore (s : State) (c : Char) : kept (s.endBefore c) = kept s := by
  unfold State.endBefore
  split
  · rfl
  · rename_i w htoken
    split_ifs <;> simp [kept, State.emit, htoken, Token.text]

/-- What a character outside quotes can do. -/
theorem unquoted_cases (h : unquoted s c = some s') :
    (isBlank c = true ∧ s' = s.endWord) ∨ s' = s.endWord.emit (.op [c]) ∨
      (c = quote ∧ s' = s.enter .single) ∨ s' = s.enter .double ∨
      s' = { s with mode := .escaped } ∨
      s' = { s.endBefore c with mode := .operator, token := some [c] } ∨
      (s.token = none ∧ s' = { s with mode := .comment }) ∨
      (Plain c ∧ (s.token = none → c ≠ '#') ∧ s' = s.push c) := by
  unfold unquoted at h
  -- in the order in which the character is looked at
  split_ifs at h with hblank hfeed hquote hdouble hback hop hexp hcomment
  · exact .inl ⟨hblank, (Option.some.inj h).symm⟩
  · exact .inr (.inl (Option.some.inj h).symm)
  · exact .inr (.inr (.inl ⟨hquote, (Option.some.inj h).symm⟩))
  · exact .inr (.inr (.inr (.inl (Option.some.inj h).symm)))
  · exact .inr (.inr (.inr (.inr (.inl (Option.some.inj h).symm))))
  · exact .inr (.inr (.inr (.inr (.inr (.inl (Option.some.inj h).symm)))))
  · have hnone : s.token = none := by simp_all
    exact .inr (.inr (.inr (.inr (.inr (.inr (.inl ⟨hnone, (Option.some.inj h).symm⟩))))))
  · refine .inr (.inr (.inr (.inr (.inr (.inr (.inr ⟨?_, ?_, (Option.some.inj h).symm⟩))))))
    · simp_all [Plain]
    · intro hnone
      simp_all

theorem total_done_le (s : State) : total s.done ≤ kept s := by
  unfold kept
  omega

theorem kept_emit_le (s : State) (t : Token) : kept (s.emit t) ≤ kept s + t.text.length := by
  simp [kept, State.emit]
  omega

theorem kept_push (s : State) (c : Char) : kept (s.push c) = kept s + 1 := by
  simp [kept, State.push]
  omega

/-- A character outside quotes is kept or lost. -/
theorem unquoted_kept (h : unquoted s c = some s') (hmode : s.mode = .unquoted) :
    kept s' ≤ kept s + 1 := by
  have hend := kept_endWord s
  have hbefore := kept_endBefore s c
  rcases unquoted_cases h with ⟨-, rfl⟩ | rfl | ⟨-, rfl⟩ | rfl | rfl | rfl | ⟨-, rfl⟩ |
    ⟨-, -, rfl⟩
  · omega
  · have hemit := kept_emit_le s.endWord (.op [c])
    rw [hend] at hemit
    exact hemit
  · simp [kept, State.enter, hmode, pending]
  · simp [kept, State.enter, hmode, pending]
  · simp [kept, hmode, pending]
  · have hdone := total_done_le (s.endBefore c)
    show total (s.endBefore c).done + 1 + 0 ≤ kept s + 1
    omega
  · simp [kept, hmode, pending]
  · exact (kept_push s c).le

/-- A character that is read is kept or lost. -/
theorem step_kept (h : step s c = some s') : kept s' ≤ kept s + 1 := by
  obtain ⟨mode, token, plain, done⟩ := s
  cases mode with
  | unquoted => exact unquoted_kept h rfl
  | escaped =>
    simp only [step] at h
    -- at most the character itself is kept, in every mode
    split_ifs at h <;> obtain rfl :=
      Option.some.inj h <;> simp [kept, State.push, pending] <;> omega
  | single =>
    simp only [step] at h
    split_ifs at h <;> obtain rfl :=
      Option.some.inj h <;> simp [kept, State.push, pending] <;> omega
  | double =>
    simp only [step] at h
    split_ifs at h <;> obtain rfl :=
      Option.some.inj h <;> simp [kept, State.push, pending] <;> omega
  | doubleEscaped =>
    simp only [step] at h
    split_ifs at h <;> obtain rfl :=
      Option.some.inj h <;> simp [kept, State.push, pending] <;> omega
  | operator =>
    simp only [step] at h
    split_ifs at h
    · obtain rfl := Option.some.inj h
      exact (kept_push _ c).le
    · have hemit : kept _ ≤ _ := unquoted_kept h rfl
      refine hemit.trans (Nat.succ_le_succ ?_)
      simp [kept, State.emit, Token.text, pending]
  | comment =>
    simp only [step] at h
    split_ifs at h <;> obtain rfl := Option.some.inj h
    · exact kept_emit_le _ _
    · exact Nat.le_succ _

/-- No more is kept than has been read. -/
theorem run_kept (h : run s text = some s') : kept s' ≤ kept s + text.length := by
  induction text generalizing s with
  | nil =>
    obtain rfl := Option.some.inj h
    exact Nat.le_refl _
  | cons c text ih =>
    obtain ⟨t, hstep, hrest⟩ := Option.bind_eq_some_iff.mp h
    have hread := step_kept hstep
    have hall := ih hrest
    rw [List.length_cons]
    omega

/-! ## Texts without operators -/

/-- The reader has found words only, and stands in no operator. -/
structure OnlyWords (s : State) : Prop where
  mode : s.mode ≠ .operator
  words : ∀ t ∈ s.done, ∃ w, t = .word w

/-- The steps between such states. -/
inductive Move : State → Char → State → Prop where
  | blank {token plain done c} (hc : isBlank c = true) :
    Move ⟨.unquoted, token, plain, done⟩ c (State.endWord ⟨.unquoted, token, plain, done⟩)
  | openSingle {token plain done} :
    Move ⟨.unquoted, token, plain, done⟩ quote ⟨.single, some (token.getD []), false, done⟩
  | openDouble {token plain done c} :
    Move ⟨.unquoted, token, plain, done⟩ c ⟨.double, some (token.getD []), false, done⟩
  | escape {token plain done c} :
    Move ⟨.unquoted, token, plain, done⟩ c ⟨.escaped, token, plain, done⟩
  | hash {plain done c} :
    Move ⟨.unquoted, none, plain, done⟩ c ⟨.comment, none, plain, done⟩
  | plain {token plain done c} (hc : Plain c) (hhead : token = none → c ≠ '#') :
    Move ⟨.unquoted, token, plain, done⟩ c
      ⟨.unquoted, some (token.getD [] ++ [c]), plain, done⟩
  | continued {token plain done c} :
    Move ⟨.escaped, token, plain, done⟩ c ⟨.unquoted, token, plain, done⟩
  | escaped {token plain done c} :
    Move ⟨.escaped, token, plain, done⟩ c
      ⟨.unquoted, some (token.getD [] ++ [c]), false, done⟩
  | closeSingle {token plain done} :
    Move ⟨.single, token, plain, done⟩ quote ⟨.unquoted, token, plain, done⟩
  | inSingle {token plain done c} (hc : c ≠ quote) :
    Move ⟨.single, token, plain, done⟩ c ⟨.single, some (token.getD [] ++ [c]), plain, done⟩
  | closeDouble {token plain done c} :
    Move ⟨.double, token, plain, done⟩ c ⟨.unquoted, token, plain, done⟩
  | escapeDouble {token plain done c} :
    Move ⟨.double, token, plain, done⟩ c ⟨.doubleEscaped, token, plain, done⟩
  | inDouble {token plain done c} :
    Move ⟨.double, token, plain, done⟩ c ⟨.double, some (token.getD [] ++ [c]), plain, done⟩
  | continuedDouble {token plain done c} :
    Move ⟨.doubleEscaped, token, plain, done⟩ c ⟨.double, token, plain, done⟩
  | escapedDouble {token plain done c} :
    Move ⟨.doubleEscaped, token, plain, done⟩ c
      ⟨.double, some (token.getD [] ++ [c]), plain, done⟩
  | keptDouble {token plain done c} :
    Move ⟨.doubleEscaped, token, plain, done⟩ c
      ⟨.double, some (token.getD [] ++ [backslash] ++ [c]), plain, done⟩
  | comment {token plain done c} :
    Move ⟨.comment, token, plain, done⟩ c ⟨.comment, token, plain, done⟩

/-- What has been found stays found. -/
theorem endWord_words (h : OnlyWords s.endWord) : OnlyWords s := by
  unfold State.endWord at h
  split at h
  · exact h
  · exact ⟨h.mode, fun t ht => h.words t (List.mem_append_left _ ht)⟩

theorem not_onlyWords_op {done : List Token} {text : Text} (hdone : Token.op text ∈ done)
    (hs : s.done = done) : ¬OnlyWords s := by
  intro h
  obtain ⟨w, hw⟩ := h.words _ (hs ▸ hdone)
  cases hw

/-- Between states with words only, the reader makes a move. -/
theorem unquoted_move (h : unquoted s c = some s') (hmode : s.mode = .unquoted)
    (hs' : OnlyWords s') : OnlyWords s ∧ Move s c s' := by
  obtain ⟨mode, token, plain, done⟩ := s
  obtain rfl : mode = .unquoted := hmode
  have hsame (hwords : ∀ t ∈ done, ∃ w, t = .word w) :
      OnlyWords ⟨.unquoted, token, plain, done⟩ := ⟨nofun, hwords⟩
  rcases unquoted_cases h with ⟨hc, rfl⟩ | rfl | ⟨rfl, rfl⟩ | rfl | rfl | rfl |
    ⟨hnone, rfl⟩ |
    ⟨hc, hhead, rfl⟩
  · exact ⟨endWord_words hs', .blank hc⟩
  · exact (not_onlyWords_op (List.mem_append_right _ List.mem_cons_self) rfl hs').elim
  · exact ⟨hsame hs'.words, .openSingle⟩
  · exact ⟨hsame hs'.words, .openDouble⟩
  · exact ⟨hsame hs'.words, .escape⟩
  · exact (hs'.mode rfl).elim
  · obtain rfl : token = none := hnone
    exact ⟨hsame hs'.words, .hash⟩
  · exact ⟨hsame hs'.words, .plain hc hhead⟩

theorem unquoted_done {text : Text} (h : unquoted s c = some s') (hop : Token.op text ∈ s.done) :
    Token.op text ∈ s'.done := by
  -- no case takes a token away again
  have hend : Token.op text ∈ s.endWord.done := by
    unfold State.endWord
    split
    · exact hop
    · exact List.mem_append_left _ hop
  have hbefore : Token.op text ∈ (s.endBefore c).done := by
    unfold State.endBefore
    split
    · exact hop
    · split_ifs
      · exact List.mem_append_left _ hop
      · exact List.mem_append_left _ hop
  rcases unquoted_cases h with ⟨-, rfl⟩ | rfl | ⟨-, rfl⟩ | rfl | rfl | rfl | ⟨-, rfl⟩ |
    ⟨-, -, rfl⟩
  · exact hend
  · exact List.mem_append_left _ hend
  · exact hop
  · exact hop
  · exact hop
  · exact hbefore
  · exact hop
  · exact hop

theorem step_move (h : step s c = some s') (hs' : OnlyWords s') : OnlyWords s ∧ Move s c s' := by
  obtain ⟨mode, token, plain, done⟩ := s
  cases mode with
  | unquoted => exact unquoted_move h rfl hs'
  | escaped =>
    simp only [step] at h
    split_ifs at h
    · obtain rfl := Option.some.inj h
      exact ⟨⟨nofun, hs'.words⟩, .continued⟩
    · obtain rfl := Option.some.inj h
      exact ⟨⟨nofun, hs'.words⟩, .escaped⟩
  | single =>
    simp only [step] at h
    split_ifs at h with hc
    · obtain rfl := Option.some.inj h
      subst hc
      exact ⟨⟨nofun, hs'.words⟩, .closeSingle⟩
    · obtain rfl := Option.some.inj h
      exact ⟨⟨nofun, hs'.words⟩, .inSingle hc⟩
  | double =>
    simp only [step] at h
    split_ifs at h <;> obtain rfl := Option.some.inj h
    · exact ⟨⟨nofun, hs'.words⟩, .closeDouble⟩
    · exact ⟨⟨nofun, hs'.words⟩, .escapeDouble⟩
    · exact ⟨⟨nofun, hs'.words⟩, .inDouble⟩
  | doubleEscaped =>
    simp only [step] at h
    split_ifs at h <;> obtain rfl := Option.some.inj h
    · exact ⟨⟨nofun, hs'.words⟩, .continuedDouble⟩
    · exact ⟨⟨nofun, hs'.words⟩, .escapedDouble⟩
    · exact ⟨⟨nofun, hs'.words⟩, .keptDouble⟩
  | operator =>
    simp only [step] at h
    split_ifs at h
    · obtain rfl := Option.some.inj h
      exact (hs'.mode rfl).elim
    · -- an operator that has been read stays, so that there were not only words
      have hop := unquoted_done h (List.mem_append_right done List.mem_cons_self)
      exact (not_onlyWords_op hop rfl hs').elim
  | comment =>
    simp only [step] at h
    split_ifs at h <;> obtain rfl := Option.some.inj h
    · exact (not_onlyWords_op (List.mem_append_right _ List.mem_cons_self) rfl hs').elim
    · exact ⟨⟨nofun, hs'.words⟩, .comment⟩

/-! ## What words cost

Each word that ends costs a blank. Where words fill a text to the last character no quote, escape
or comment can have been read. -/

/-- The characters that are kept, and a blank for each word that has ended. -/
def cost (s : State) : Nat := kept s + s.done.length

/-- A mode that shows that a character has been lost. -/
def Mode.lost : Mode → Nat
  | .unquoted => 0
  | _ => 1

/-- What a mode still has to lose before it can be left, weighed against what it shows to have been
lost. -/
def Mode.owed : Mode → Nat
  | .unquoted => 1
  | .single | .escaped => 2
  | .double | .doubleEscaped | .comment | .operator => 0

theorem cost_endWord_le (token : Option Text) (plain : Bool) (done : List Token) :
    cost (State.endWord ⟨.unquoted, token, plain, done⟩) ≤
      cost ⟨.unquoted, token, plain, done⟩ + 1 := by
  cases token with
  | none => exact Nat.le_succ _
  | some w =>
    simp [cost, kept, State.endWord, State.emit, Token.text, pending]
    omega

theorem mode_endWord (s : State) : s.endWord.mode = s.mode := by
  unfold State.endWord
  split <;> rfl

theorem move_lost (h : Move s c s') : cost s' + s'.mode.lost ≤ cost s + s.mode.lost + 1 := by
  cases h with
  | blank =>
    rw [mode_endWord]
    exact cost_endWord_le _ _ _
  | _ => simp [cost, kept, pending, Mode.lost] <;> omega

theorem move_owed (h : Move s c s') : cost s' + s'.mode.owed ≤ cost s + s.mode.owed + 1 := by
  cases h with
  | blank =>
    rw [mode_endWord]
    exact Nat.add_le_add_right (cost_endWord_le _ _ _) 1
  | _ => simp [cost, kept, pending, Mode.owed] <;> omega

/-- What a text without operators costs. -/
theorem run_cost (h : run s text = some s') (hs' : OnlyWords s') : OnlyWords s ∧
    cost s' + s'.mode.lost ≤ cost s + s.mode.lost + text.length ∧
      cost s' + s'.mode.owed ≤ cost s + s.mode.owed + text.length := by
  induction text generalizing s with
  | nil =>
    obtain rfl := Option.some.inj h
    exact ⟨hs', Nat.le_refl _, Nat.le_refl _⟩
  | cons c text ih =>
    obtain ⟨t, hstep, hrest⟩ := Option.bind_eq_some_iff.mp h
    obtain ⟨ht, hlost, howed⟩ := ih hrest
    obtain ⟨hs, hmove⟩ := step_move hstep ht
    have hlost' := move_lost hmove
    have howed' := move_owed hmove
    rw [List.length_cons]
    exact ⟨hs, by omega, by omega⟩

/-- Every word found is bare, and so is what has been begun. -/
structure Tight (s : State) : Prop where
  mode : s.mode = .unquoted
  done : ∀ w, Token.word w ∈ s.done → Bare w
  token : ∀ w ∈ s.token, Bare w

/-- **Where nothing was lost, the words are bare.** -/
theorem run_tight (h : run (between []) text = some s) (hs : OnlyWords s)
    (hcost : cost s = text.length) : Tight s := by
  induction text using List.reverseRecOn generalizing s with
  | nil =>
    obtain rfl := Option.some.inj h
    exact ⟨rfl, nofun, nofun⟩
  | append_singleton text c ih =>
    obtain ⟨t, hrun, hstep⟩ := run_concat.mp h
    obtain ⟨ht, hmove⟩ := step_move hstep hs
    -- so far no character has been wasted, and this one must not be either
    have hread : cost t + t.mode.lost ≤ 0 + text.length := (run_cost hrun ht).2.1
    rw [List.length_append, List.length_singleton] at hcost
    have htight (hcost : cost t = text.length) := ih hrun ht hcost
    cases hmove with
    | @blank token plain done c hc =>
      cases token with
      | none =>
        have : cost (State.endWord ⟨.unquoted, none, plain, done⟩) =
          cost ⟨.unquoted, none, plain, done⟩ := rfl
        omega
      | some w =>
        have hle := cost_endWord_le (some w) plain done
        obtain ⟨-, hdone, htoken⟩ := htight (by omega)
        refine ⟨rfl, fun v hv => ?_, nofun⟩
        rcases List.mem_append.mp hv with hv | hv
        · exact hdone v hv
        · obtain rfl : v = w := Token.word.inj (List.mem_singleton.mp hv)
          exact htoken _ rfl
    | @plain token plain done c hc hhead =>
      have heq : cost ⟨.unquoted, some (token.getD [] ++ [c]), plain, done⟩ =
          cost ⟨.unquoted, token, plain, done⟩ + 1 := by
        simp [cost, kept, pending]
        omega
      obtain ⟨-, hdone, htoken⟩ := htight (by omega)
      refine ⟨rfl, hdone, fun w hw => ?_⟩
      obtain rfl := Option.some.inj hw
      cases token with
      | none => exact ⟨nofun, by simpa using hc, by simpa using hhead rfl⟩
      | some v =>
        obtain ⟨hne, hplain, hfirst⟩ := htoken v rfl
        refine ⟨by simp, fun d hd => ?_, ?_⟩
        · rcases List.mem_append.mp hd with hd | hd
          · exact hplain d hd
          · exact List.mem_singleton.mp hd ▸ hc
        · obtain ⟨d, v, rfl⟩ := List.exists_cons_of_ne_nil hne
          exact hfirst
    -- every other move loses a character
    | _ => simp [cost, kept, pending, Mode.lost] at hcost hread <;> omega

end Shell
