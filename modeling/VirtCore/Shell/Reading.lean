import VirtCore.Shell.Waste

/-!
# Shell — lines that are read as they are written

Three shapes of a command line, each read as the words that were put into it exactly where each word
could stand where it was put.

* **`lex_words_iff`** — words and nothing else.
* **`lex_background_iff`** — words, the output thrown away, in the background.
* **`lex_quoted_iff`** — words, and a last one between quotes.
-/

namespace Shell

variable {ws : List Text} {w text : Text} {s : State}

theorem spaced_length (ws : List Text) :
    (spaced ws).length = total (ws.map .word) + ws.length := by
  induction ws with
  | nil => rfl
  | cons w ws ih =>
    rw [spaced_cons, List.length_append, List.length_cons, ih, List.map_cons, List.length_cons]
    show _ = w.length + total (ws.map .word) + _
    omega

theorem map_word_onlyWords {ts : List Token} (h : ts = ws.map .word) :
    ∀ t ∈ ts, ∃ w, t = .word w := by
  rintro t ht
  rw [h] at ht
  obtain ⟨w, -, rfl⟩ := List.mem_map.mp ht
  exact ⟨w, rfl⟩

/-- How a text of words can end: with a word that has been begun, or with nothing left to end. -/
theorem finish_words (h : finish s = some (ws.map .word)) : OnlyWords s ∧
    ((s.mode = .unquoted ∧ ∃ v, s.token = some v ∧ s.done ++ [.word v] = ws.map .word) ∨
      s.done = ws.map .word) := by
  obtain ⟨mode, token, plain, done⟩ := s
  cases mode with
  | unquoted =>
    cases token with
    | none =>
      have hdone : done = ws.map .word := Option.some.inj h
      exact ⟨⟨nofun, map_word_onlyWords hdone⟩, .inr hdone⟩
    | some v =>
      have hdone : done ++ [.word v] = ws.map .word := Option.some.inj h
      refine ⟨⟨nofun, fun t ht => ?_⟩, .inl ⟨rfl, v, rfl, hdone⟩⟩
      exact map_word_onlyWords hdone t (List.mem_append_left _ ht)
  | operator =>
    have hdone : done ++ [.op (token.getD [])] = ws.map .word := Option.some.inj h
    -- an operator at the end is no word
    obtain ⟨v, hv⟩ := map_word_onlyWords hdone _ (List.mem_append_right _ List.mem_cons_self)
    cases hv
  | comment =>
    have hdone : done = ws.map .word := Option.some.inj h
    exact ⟨⟨nofun, map_word_onlyWords hdone⟩, .inr hdone⟩
  | escaped | single | double | doubleEscaped => cases h

/-! ## Words and nothing else

That the reader finds certain words in a text means that the text is these words with blanks in
between. -/

theorem lex_words_iff (ws : List Text) (w : Text) :
    lex (spaced ws ++ w) = some ((ws ++ [w]).map .word) ↔ ∀ v ∈ ws ++ [w], Bare v := by
  constructor
  · intro h
    obtain ⟨s, hrun, hfinish⟩ := Option.bind_eq_some_iff.mp h
    obtain ⟨hwords, hend⟩ := finish_words hfinish
    have hcost : cost s + s.mode.lost ≤ 0 + _ := (run_cost hrun hwords).2.1
    have hlength : (spaced ws ++ w).length + 1 = total ((ws ++ [w]).map .word) +
      (ws.length + 1) := by
      rw [List.length_append, spaced_length, List.map_append, total_append]
      show _ = _ + w.length + _
      omega
    rcases hend with ⟨hmode, v, htoken, hdone⟩ | hdone
    · -- nothing was lost
      have hcosts : cost s + 1 = total ((ws ++ [w]).map .word) + (ws.length + 1) := by
        have hcount := congrArg List.length hdone
        rw [← hdone, total_append]
        simp only [List.length_append, List.length_map, List.length_singleton] at hcount
        simp only [cost, kept, hmode, htoken, pending, Option.getD_some, total_singleton,
          Token.text]
        omega
      obtain ⟨-, hbare, hlast⟩ := run_tight hrun hwords (by omega)
      intro u hu
      have hmem : Token.word u ∈ s.done ++ [.word v] := hdone ▸ List.mem_map_of_mem hu
      rcases List.mem_append.mp hmem with hmem | hmem
      · exact hbare u hmem
      · obtain rfl := Token.word.inj (List.mem_singleton.mp hmem)
        exact hlast u htoken
    · -- the line would have ended with a blank
      have hcosts : total ((ws ++ [w]).map .word) + (ws.length + 1) ≤ cost s := by
        rw [cost, ← hdone]
        have hkept := total_done_le s
        have hcount := congrArg List.length hdone
        simp only [List.length_append, List.length_map, List.length_singleton] at hcount
        omega
      omega
  · intro hbare
    have hws : ∀ v ∈ ws, Bare v := fun v hv => hbare v (List.mem_append_left _ hv)
    have hw : Bare w := hbare w (List.mem_append_right _ List.mem_cons_self)
    rw [lex, run_append, run_spaced hws, Option.bind_some, run_bare hw, Option.bind_some,
      List.map_append]
    rfl

/-! ## After a blank -/

theorem spaced_concat (ws : List Text) (w : Text) :
    spaced (ws ++ [w]) = spaced ws ++ w ++ [' '] := by
  rw [spaced, List.flatMap_append, List.flatMap_singleton, ← List.append_assoc]
  rfl

theorem not_isOperator_blank (v : Text) : isOperator (v ++ [' ']) = false := by
  have hends : ∀ o ∈ operators, o.getLast? ≠ some ' ' := by decide
  rw [isOperator, List.contains_eq_mem, decide_eq_false_iff_not]
  intro hmem
  exact hends _ hmem List.getLast?_concat

/-- Where the reader can stand after a blank. -/
theorem after_blank {t : State} (h : step s ' ' = some t) : (∃ done, t = between done) ∨
    (t.mode = .unquoted ∧ t.plain = false) ∨ t.mode = .single ∨ t.mode = .double ∨
      t.mode = .comment := by
  obtain ⟨mode, token, plain, done⟩ := s
  cases mode with
  | unquoted =>
    obtain rfl := Option.some.inj h
    cases token with
    | some w => exact .inl ⟨_, rfl⟩
    | none =>
      cases plain with
      | true => exact .inl ⟨_, rfl⟩
      | false => exact .inr (.inl ⟨rfl, rfl⟩)
  | escaped =>
    obtain rfl := Option.some.inj h
    exact .inr (.inl ⟨rfl, rfl⟩)
  | single =>
    obtain rfl := Option.some.inj h
    exact .inr (.inr (.inl rfl))
  | double =>
    obtain rfl := Option.some.inj h
    exact .inr (.inr (.inr (.inl rfl)))
  | doubleEscaped =>
    obtain rfl := Option.some.inj h
    exact .inr (.inr (.inr (.inl rfl)))
  | operator =>
    -- no operator has a blank in it
    have h : (if isOperator (token.getD [] ++ [' ']) = true then
        some (State.push ⟨.operator, token, plain, done⟩ ' ')
      else some (between (done ++ [.op (token.getD [])]))) = some t := h
    rw [not_isOperator_blank, if_neg Bool.false_ne_true] at h
    obtain rfl := Option.some.inj h
    exact .inl ⟨_, rfl⟩
  | comment =>
    obtain rfl := Option.some.inj h
    exact .inr (.inr (.inr (.inr rfl)))

/-- Where the reader can stand after words with blanks. -/
theorem after_spaced (h : run (between []) (spaced ws) = some s) : (∃ done, s = between done) ∨
    (s.mode = .unquoted ∧ s.plain = false) ∨ s.mode = .single ∨ s.mode = .double ∨
      s.mode = .comment := by
  rcases List.eq_nil_or_concat ws with rfl | ⟨ws, w, rfl⟩
  · obtain rfl := Option.some.inj h
    exact .inl ⟨[], rfl⟩
  · rw [List.concat_eq_append, spaced_concat] at h
    obtain ⟨t, -, hstep⟩ := run_concat.mp h
    exact after_blank hstep

/-- Between words that have been found in a text as long as they are, the words are bare. -/
theorem spaced_tight (h : run (between []) (spaced ws) = some s) (hmode : s.mode = .unquoted)
    (hdone : s.done = ws.map .word) : ∀ w ∈ ws, Bare w := by
  have hwords : OnlyWords s := ⟨by rw [hmode]; nofun, map_word_onlyWords hdone⟩
  have hread : cost s + s.mode.lost ≤ 0 + _ := (run_cost h hwords).2.1
  have hcost : cost s = (spaced ws).length := by
    have hkept := total_done_le s
    have hcosts : cost s = kept s + ws.length := by rw [cost, hdone, List.length_map]
    rw [hdone] at hkept
    have hlength := spaced_length ws
    omega
  intro w hw
  exact (run_tight h hwords hcost).done w (hdone ▸ List.mem_map_of_mem hw)

/-! ## In the background

The end of a line that is started and forgotten: its output goes to `/dev/null`, and a single
ampersand. -/

/-- What comes after the number of the first redirection. -/
def devNull : Text := ['/', 'd', 'e', 'v', '/', 'n', 'u', 'l', 'l']

/-- The output of a command is thrown away, and nobody waits for it. -/
def background : Text := ['1', '>'] ++ (devNull ++ ([' ', '2', '>', '&'] ++ ['1', ' ', '&']))

/-- The tokens of `background`. -/
def discarded : List Token :=
  [.ioNumber ['1'], .op ['>'], .word devNull, .ioNumber ['2'], .op ['>', '&'], .word ['1'],
    .op ['&']]

/-- The tokens after the first. -/
theorem finish_redirection (done : List Token) (t : Token) :
    (run ⟨.operator, some ['>'], true, done ++ [t]⟩
      (devNull ++ ([' ', '2', '>', '&'] ++ ['1', ' ', '&']))).bind finish =
        some (done ++ t :: discarded.tail) := by
  have hfile : run ⟨.operator, some ['>'], true, done ++ [t]⟩ devNull =
      some ⟨.unquoted, some devNull, true, done ++ [t] ++ [.op ['>']]⟩ := by
    have hslash : step ⟨.operator, some ['>'], true, done ++ [t]⟩ '/' =
        some ⟨.unquoted, some ['/'], true, done ++ [t] ++ [.op ['>']]⟩ := rfl
    have hplain : ∀ c ∈ devNull.tail, Plain c := List.forall_iff_forall_mem.mp (by decide)
    rw [devNull, run, hslash, Option.bind_some]
    exact run_plain hplain _
  have hcopy (done : List Token) : run ⟨.unquoted, some devNull, true, done⟩
    [' ', '2', '>', '&'] =
      some ⟨.operator, some ['>', '&'], true, done ++ [.word devNull] ++
        [.ioNumber ['2']]⟩ := rfl
  have hend (done : List Token) :
      (run ⟨.operator, some ['>', '&'], true, done⟩ ['1', ' ', '&']).bind finish =
        some (done ++ [.op ['>', '&']] ++ [.word ['1']] ++ [.op ['&']]) := rfl
  rw [run_append, hfile, Option.bind_some, run_append, hcopy, Option.bind_some, hend]
  simp only [List.append_assoc]
  rfl

theorem finish_background (done : List Token) :
    (run (between done) background).bind finish = some (done ++ discarded) := by
  have hnumber : run (between done) ['1', '>'] =
      some ⟨.operator, some ['>'], true, done ++ [.ioNumber ['1']]⟩ := rfl
  rw [background, run_append, hnumber, Option.bind_some]
  exact finish_redirection done (.ioNumber ['1'])

/-- Where something was quoted, the number in front of the redirection is put to that word. -/
theorem finish_background_quoted (token : Option Text) (done : List Token) :
    (run ⟨.unquoted, token, false, done⟩ background).bind finish =
      some (done ++ .word (token.getD [] ++ ['1']) :: discarded.tail) := by
  have hword : run ⟨.unquoted, token, false, done⟩ ['1', '>'] =
      some ⟨.operator, some ['>'], true, done ++ [.word (token.getD [] ++ ['1'])]⟩ := by
    cases token with
    | none => rfl
    | some w => rfl
  rw [background, run_append, hword, Option.bind_some]
  exact finish_redirection done (.word (token.getD [] ++ ['1']))

theorem lex_background_iff {ws : List Text} (hlength : ws.length < 16) :
    lex (spaced ws ++ background) = some (ws.map .word ++ discarded) ↔ ∀ w ∈ ws, Bare w := by
  constructor
  · intro h
    rw [lex, run_append, Option.bind_assoc] at h
    obtain ⟨s, hrun, hend⟩ := Option.bind_eq_some_iff.mp h
    have hplace := after_spaced hrun
    obtain ⟨mode, token, plain, done⟩ := s
    rcases hplace with ⟨done', hbetween⟩ | ⟨hmode, hplain⟩ | hmode | hmode | hmode
    · rw [hbetween] at hrun hend
      rw [finish_background] at hend
      have hdone : done' = ws.map .word := List.append_cancel_right (Option.some.inj hend)
      exact spaced_tight hrun rfl hdone
    · obtain rfl : mode = .unquoted := hmode
      obtain rfl : plain = false := hplain
      rw [finish_background_quoted] at hend
      have htails := List.append_inj_right' (Option.some.inj hend) rfl
      cases (List.cons.inj htails).1
    · obtain rfl : mode = .single := hmode
      have hopen : (run ⟨.single, token, plain, done⟩ background).bind finish = none := rfl
      cases hopen.symm.trans hend
    · obtain rfl : mode = .double := hmode
      have hopen : (run ⟨.double, token, plain, done⟩ background).bind finish = none := rfl
      cases hopen.symm.trans hend
    · -- all the tokens would have been found before the end
      obtain rfl : mode = .comment := hmode
      have hdone : done = ws.map .word ++ discarded := Option.some.inj hend
      have hread : kept _ ≤ 0 + _ := run_kept hrun
      have hkept := total_done_le ⟨.comment, token, plain, done⟩
      have htotal : total done = total (ws.map .word) + 16 := by
        rw [hdone, total_append]
        rfl
      have hwhole := spaced_length ws
      dsimp only at hkept
      omega
  · intro hbare
    rw [lex, run_append, run_spaced hbare, Option.bind_some, List.nil_append]
    exact finish_background _

/-! ## A last word between quotes

Quotes hold together what is between them. Where a quote is within the word, they end early. -/

/-- How many characters are kept at the end of a text of words. -/
theorem finish_cost (h : finish s = some (ws.map .word)) :
    total (ws.map .word) + ws.length ≤ cost s + 1 := by
  obtain ⟨-, ⟨hmode, v, htoken, hdone⟩ | hdone⟩ := finish_words h
  · have hcount := congrArg List.length hdone
    rw [← hdone, total_append]
    simp only [List.length_append, List.length_map, List.length_singleton] at hcount
    simp only [cost, kept, hmode, htoken, pending, Option.getD_some, total_singleton, Token.text]
    omega
  · have hkept := total_done_le s
    have hcount := congrArg List.length hdone
    rw [← hdone, cost]
    simp only [List.length_map] at hcount
    omega

/-- A comment comes after the blanks of all the words. -/
theorem comment_late (h : run (between []) text = some s) (hs : OnlyWords s)
    (hmode : s.mode = .comment) (hend : finish s = some (ws.map .word)) :
    total (ws.map .word) + ws.length < text.length := by
  have hread : cost s + s.mode.lost ≤ 0 + text.length := (run_cost h hs).2.1
  have hlost : s.mode.lost = 1 := by rw [hmode]; rfl
  have hdone : s.done = ws.map .word := by
    rw [finish, hmode] at hend
    exact Option.some.inj hend
  have hkept := total_done_le s
  rw [cost, hdone, List.length_map] at hread
  rw [hdone] at hkept
  omega

/-- How a text can end with a quote that closes it: the quote ends a quotation, is escaped, or is
not read. -/
theorem before_quote {t : State} (hs : OnlyWords s) (h : step s quote = some t)
    (hend : finish t ≠ none) : (s.mode = .single ∧ t = { s with mode := .unquoted }) ∨
      (s.mode = .escaped ∧ cost t = cost s + 1) ∨ (s.mode = .comment ∧ t = s) := by
  obtain ⟨mode, token, plain, done⟩ := s
  cases mode with
  | unquoted =>
    obtain rfl := Option.some.inj h
    -- the quote opens a quotation, at whose end the line does not finish
    exact (hend rfl).elim
  | escaped =>
    obtain rfl := Option.some.inj h
    refine .inr (.inl ⟨rfl, ?_⟩)
    simp [cost, kept, State.push, pending]
    omega
  | single =>
    obtain rfl := Option.some.inj h
    exact .inl ⟨rfl, rfl⟩
  | double =>
    obtain rfl := Option.some.inj h
    exact (hend rfl).elim
  | doubleEscaped =>
    obtain rfl := Option.some.inj h
    exact (hend rfl).elim
  | operator => exact (hs.mode rfl).elim
  | comment =>
    obtain rfl := Option.some.inj h
    exact .inr (.inr ⟨rfl, rfl⟩)

/-- What has been read before the quotation: where too much would have been lost otherwise, the
quote begins it. -/
theorem at_quote {t : State} (hrun : run (between []) (spaced ws) = some s) (hs : OnlyWords s)
    (h : step s quote = some t) (hcost : (spaced ws).length + 1 ≤ cost t + t.mode.owed) :
    s.mode = .unquoted ∧ t = s.enter .single := by
  have hread : cost s + s.mode.lost ≤ 0 + _ := (run_cost hrun hs).2.1
  have hplace : s.mode = .unquoted ∨ s.mode = .single ∨ s.mode = .double ∨
    s.mode = .comment := by
    rcases after_spaced hrun with ⟨done, rfl⟩ | ⟨hmode, -⟩ | hmode
    · exact .inl rfl
    · exact .inl hmode
    · exact .inr hmode
  obtain ⟨mode, token, plain, done⟩ := s
  rcases hplace with hmode | hmode | hmode | hmode <;> dsimp only at hmode <;> subst hmode <;>
    obtain rfl := Option.some.inj h
  · exact ⟨rfl, rfl⟩
  · simp [cost, kept, pending, Mode.lost, Mode.owed] at hcost hread
    omega
  · simp [cost, kept, pending, Mode.lost, Mode.owed, State.push] at hcost hread
    omega
  · simp [cost, kept, pending, Mode.lost, Mode.owed] at hcost hread
    omega

/-- A quotation is read to its first quote. -/
theorem run_quotation {a t : State} {u v : Text} (hu : quote ∉ u)
    (h : run (a.enter .single) (u ++ quote :: v) = some t) (ht : OnlyWords t) :
    cost t + t.mode.owed ≤ cost a + (u ++ quote :: v).length := by
  rw [run_append] at h
  have hread : run (a.enter .single) u =
      some ⟨.single, some (a.token.getD [] ++ u), false, a.done⟩ := run_single hu false a.done
  rw [hread, Option.bind_some] at h
  have hrest : run ⟨.unquoted, some (a.token.getD [] ++ u), false, a.done⟩ v = some t := h
  have howed := (run_cost hrest ht).2.2
  simp only [cost, kept, pending, Mode.owed, Option.getD_some, List.length_append,
    List.length_cons] at howed ⊢
  omega

theorem lex_quoted_iff (ws : List Text) (text : Text) :
    lex (spaced ws ++ quote :: (text ++ [quote])) = some ((ws ++ [text]).map .word) ↔
      (∀ w ∈ ws, Bare w) ∧ quote ∉ text := by
  constructor
  · intro h
    obtain ⟨s, hrun, hfinish⟩ := Option.bind_eq_some_iff.mp h
    rw [← List.cons_append, ← List.append_assoc] at hrun
    obtain ⟨t, hrun, hlast⟩ := run_concat.mp hrun
    have hwhole := hrun
    rw [run_append] at hrun
    obtain ⟨a, hspaced, hquote⟩ := Option.bind_eq_some_iff.mp hrun
    obtain ⟨b, hfirst, htext⟩ := Option.bind_eq_some_iff.mp hquote
    -- no operator is found on the way
    obtain ⟨ht, -⟩ := step_move hlast (finish_words hfinish).1
    obtain ⟨hb, -, hread⟩ := run_cost htext ht
    obtain ⟨ha, -⟩ := step_move hfirst hb
    have hbefore : cost a + a.mode.lost ≤ 0 + _ := (run_cost hspaced ha).2.1
    have hcost : (spaced ws).length + text.length ≤ cost s := by
      have hkept := finish_cost hfinish
      have hlength := spaced_length ws
      rw [List.map_append, total_append, List.length_append, List.length_singleton] at hkept
      have htotal : total ([text].map .word) = text.length := total_singleton (.word text)
      omega
    -- more would be lost in any way to the last quote but that of a quotation
    have howed : (spaced ws).length + text.length + 1 ≤ cost t + t.mode.owed := by
      rcases before_quote ht hlast (by rw [hfinish]; nofun) with ⟨hmode, rfl⟩ |
        ⟨hmode, hkept⟩ |
        ⟨hmode, rfl⟩
      · have hsame : cost { t with mode := .unquoted } = cost t :=
          by simp [cost, kept, hmode, pending]
        rw [hmode, Mode.owed]
        omega
      · rw [hmode, Mode.owed]
        omega
      · have hlate := comment_late hwhole ht hmode hfinish
        simp only [List.map_append, total_append, List.length_append, List.length_cons,
          List.length_nil] at hlate
        have htotal : total ([text].map .word) = text.length := total_singleton (.word text)
        have hlength := spaced_length ws
        omega
    obtain ⟨hmode, rfl⟩ := at_quote hspaced ha hfirst (by omega)
    have hnone : quote ∉ text := by
      intro hmem
      obtain ⟨u, v, rfl, hu⟩ := List.eq_append_cons_of_mem hmem
      have hquotation := run_quotation hu htext ht
      omega
    have hsame : run (a.enter .single) text =
        some ⟨.single, some (a.token.getD [] ++ text), false, a.done⟩ :=
      run_single hnone false a.done
    obtain rfl := Option.some.inj (htext.symm.trans hsame)
    obtain rfl := Option.some.inj hlast
    have htokens : a.done ++ [.word (a.token.getD [] ++ text)] = (ws ++ [text]).map .word :=
      Option.some.inj hfinish
    rw [List.map_append] at htokens
    exact ⟨spaced_tight hspaced hmode (List.append_inj_left' htokens rfl), hnone⟩
  · rintro ⟨hbare, htext⟩
    have hread : run (between (ws.map .word)) (quote :: (text ++ [quote])) =
        some ⟨.unquoted, some text, false, ws.map .word⟩ := by
      have hsingle : run ⟨.single, some [], false, ws.map .word⟩ text =
          some ⟨.single, some text, false, ws.map .word⟩ := run_single htext false _
      show run ⟨.single, some [], false, ws.map .word⟩ (text ++ [quote]) = _
      rw [run_append, hsingle]
      rfl
    rw [lex, run_append, run_spaced hbare, Option.bind_some, List.nil_append, hread,
      List.map_append]
    rfl

end Shell
