import Mathlib.Data.List.Basic

/-!
# Framing — reading a stream in stages

A reader waits for a number of symbols, takes them, and says for how many it waits next. The stream
comes in chunks that have nothing to do with the stages.

* **`Reader`** — the stages, what each of them takes, and what becomes of it.
* **`Reader.loop`** — one chunk: as many stages as it completes.
* **`Reader.Keeps.feed`** — what the stages keep, a chunk keeps.
* **`Reader.feed_append`** — two chunks are read as one, so that what is read does not depend on
  how the stream was cut.
-/

namespace Framing

/-- After a stage: the next one, the end, or a failure, which loses the rest of the chunk. -/
inductive Next (σ : Type) where
  | go (s : σ)
  | stop
  | fail

/-- A stage may wait for nothing, but not two of them in a row. -/
structure Reader (α σ ω : Type) where
  need : σ → Nat
  take : σ → List α → List ω × Next σ
  progress : ∀ s m out s', take s m = (out, .go s') → need s = 0 → 0 < need s'

/-- Between two chunks: a stage and what has been buffered for it, or no stage any more. A reader
that has failed stops with the next symbol. -/
inductive State (α σ : Type) where
  | at (stage : σ) (buffer : List α)
  | failed
  | stopped

variable {α σ ω : Type}

/-- What can still be read. -/
def State.view : State α σ → Option (σ × List α)
  | .at s buffer => some (s, buffer)
  | .failed | .stopped => none

namespace Reader

variable (R : Reader α σ ω)

/-- The stages that a chunk completes; each round takes symbols, or follows one that did. -/
def loop : Nat → State α σ → List α → List ω × State α σ
  | 0, st, _ => ([], st)
  | _ + 1, .stopped, _ => ([], .stopped)
  | _ + 1, .failed, chunk => ([], if chunk = [] then .failed else .stopped)
  | fuel + 1, .at s buffer, chunk =>
    let i := R.need s - buffer.length
    if chunk.length < i then ([], .at s (buffer ++ chunk))
    else
      match R.take s (buffer ++ chunk.take i) with
      | (out, .stop) => (out, .stopped)
      | (out, .fail) => (out, .failed)
      | (out, .go s') =>
        let rest := loop fuel (.at s' []) (chunk.drop i)
        (out ++ rest.1, rest.2)

/-- Enough rounds for a chunk. -/
def feed (st : State α σ) (chunk : List α) : List ω × State α σ :=
  R.loop (2 * chunk.length + 2) st chunk

/-- The buffer never holds what a stage waits for. -/
def Settled : State α σ → Prop
  | .at s buffer => buffer.length < R.need s
  | .failed | .stopped => True

/-- In the loop a stage may have what it waits for, if that is nothing. -/
def Sound : State α σ → Prop
  | .at s buffer => buffer = [] ∨ buffer.length < R.need s
  | .failed | .stopped => True

/-- Twice the symbols, and one more where nothing is waited for. -/
def measure (st : State α σ) (chunk : List α) : Nat :=
  match st with
  | .at s buffer => 2 * chunk.length + if R.need s ≤ buffer.length then 1 else 0
  | .failed | .stopped => 0

variable {R} {s s' : σ} {st : State α σ} {buffer chunk a b : List α} {out : List ω}

theorem Settled.sound (h : R.Settled st) : R.Sound st := by
  cases st with
  | «at» s buffer => exact .inr h
  | failed => trivial
  | stopped => trivial

theorem sound_next : R.Sound (.at s []) := .inl rfl

/-- Each round brings the measure down. -/
theorem measure_next (hsound : R.Sound (.at s buffer))
    (hlong : ¬chunk.length < R.need s - buffer.length)
    (htake : R.take s (buffer ++ chunk.take (R.need s - buffer.length)) = (out, .go s')) :
    R.measure (.at s' []) (chunk.drop (R.need s - buffer.length)) <
      R.measure (.at s buffer) chunk := by
  simp only [measure, List.length_drop, List.length_nil, Nat.le_zero]
  by_cases hready : R.need s ≤ buffer.length
  · -- nothing was waited for, so that the next stage waits for something
    have hnone : R.need s = 0 := by
      rcases hsound with rfl | hshort
      · exact Nat.le_zero.mp hready
      · omega
    have hpos := R.progress s _ _ _ htake hnone
    rw [if_pos hready, if_neg (by omega)]
    omega
  · rw [if_neg hready]
    split <;> omega

/-- More rounds than enough change nothing. -/
theorem loop_stable {n m : Nat} (hsound : R.Sound st) (hn : R.measure st chunk < n) (hm : n ≤ m) :
    R.loop m st chunk = R.loop n st chunk := by
  induction n generalizing m st chunk with
  | zero => omega
  | succ n ih =>
    obtain ⟨m, rfl⟩ : ∃ k, m = k + 1 := ⟨m - 1, by omega⟩
    cases st with
    | failed => rfl
    | stopped => rfl
    | «at» s buffer =>
      rw [loop, loop]
      split
      · rfl
      · rename_i hlong
        split
        · rfl
        · rfl
        · rename_i out s' htake
          -- each round either takes some of the chunk or comes nearer to its own end
          have hnext := measure_next hsound hlong htake
          rw [ih sound_next (by omega) (by omega)]

theorem measure_lt (st : State α σ) (chunk : List α) :
    R.measure st chunk < 2 * chunk.length + 2 := by
  unfold measure
  split
  · split <;> omega
  · omega
  · omega

theorem loop_eq_feed {n : Nat} (hsound : R.Sound st) (hn : R.measure st chunk < n) :
    R.loop n st chunk = R.feed st chunk := by
  rcases Nat.le_total n (2 * chunk.length + 2) with hle | hle
  · exact (loop_stable hsound hn hle).symm
  · exact loop_stable hsound (measure_lt st chunk) hle

theorem feed_failed : R.feed .failed chunk = ([], if chunk = [] then .failed else .stopped) := rfl

theorem feed_stopped : R.feed .stopped chunk = ([], .stopped) := rfl

/-- The loop, round by round. -/
theorem feed_at (hsound : R.Sound (.at s buffer)) : R.feed (.at s buffer) chunk =
    if chunk.length < R.need s - buffer.length then ([], .at s (buffer ++ chunk))
    else
      match R.take s (buffer ++ chunk.take (R.need s - buffer.length)) with
      | (out, .stop) => (out, .stopped)
      | (out, .fail) => (out, .failed)
      | (out, .go s') =>
        (out ++ (R.feed (.at s' []) (chunk.drop (R.need s - buffer.length))).1,
          (R.feed (.at s' []) (chunk.drop (R.need s - buffer.length))).2) := by
  rw [feed, loop]
  split
  · rfl
  · rename_i hlong
    split
    · rfl
    · rfl
    · rename_i out s' htake
      -- behind a take the loop has fuel enough for what is left
      have hnext := measure_next hsound hlong htake
      have hmeasure := R.measure_lt (.at s buffer) chunk
      rw [loop_eq_feed sound_next (by omega)]

theorem feed_short (hshort : chunk.length < R.need s - buffer.length) :
    R.feed (.at s buffer) chunk = ([], .at s (buffer ++ chunk)) := by
  rw [feed_at (.inr (by omega)), if_pos hshort]

theorem feed_stop (hsound : R.Sound (.at s buffer))
    (hlong : ¬chunk.length < R.need s - buffer.length)
    (htake : R.take s (buffer ++ chunk.take (R.need s - buffer.length)) = (out, .stop)) :
    R.feed (.at s buffer) chunk = (out, .stopped) := by
  rw [feed_at hsound, if_neg hlong, htake]

theorem feed_fail (hsound : R.Sound (.at s buffer))
    (hlong : ¬chunk.length < R.need s - buffer.length)
    (htake : R.take s (buffer ++ chunk.take (R.need s - buffer.length)) = (out, .fail)) :
    R.feed (.at s buffer) chunk = (out, .failed) := by
  rw [feed_at hsound, if_neg hlong, htake]

theorem feed_go (hsound : R.Sound (.at s buffer))
    (hlong : ¬chunk.length < R.need s - buffer.length)
    (htake : R.take s (buffer ++ chunk.take (R.need s - buffer.length)) = (out, .go s')) :
    R.feed (.at s buffer) chunk =
      (out ++ (R.feed (.at s' []) (chunk.drop (R.need s - buffer.length))).1,
        (R.feed (.at s' []) (chunk.drop (R.need s - buffer.length))).2) := by
  rw [feed_at hsound, if_neg hlong, htake]

/-- A stage that has all it waits for, and more behind it. -/
theorem feed_take (hlength : a.length = R.need s) (htake : R.take s a = (out, .go s')) :
    R.feed (.at s []) (a ++ b) = (out ++ (R.feed (.at s' []) b).1, (R.feed (.at s' []) b).2) := by
  have hlong : ¬(a ++ b).length < R.need s - ([] : List α).length := by
    rw [List.length_append, List.length_nil]
    omega
  have hall : (a ++ b).take (R.need s - ([] : List α).length) = a := by
    rw [List.length_nil, Nat.sub_zero, ← hlength, List.take_left]
  have hrest : (a ++ b).drop (R.need s - ([] : List α).length) = b := by
    rw [List.length_nil, Nat.sub_zero, ← hlength, List.drop_left]
  rw [feed_go sound_next hlong (by rw [hall]; exact htake), hrest]

/-- What a stage takes that ends the reading. -/
theorem feed_take_stop (hlength : a.length = R.need s) (htake : R.take s a = (out, .stop)) :
    R.feed (.at s []) (a ++ b) = (out, .stopped) := by
  have hlong : ¬(a ++ b).length < R.need s - ([] : List α).length := by
    rw [List.length_append, List.length_nil]
    omega
  refine feed_stop sound_next hlong ?_
  rw [List.length_nil, Nat.sub_zero, ← hlength, List.take_left]
  exact htake

theorem feed_take_fail (hlength : a.length = R.need s) (htake : R.take s a = (out, .fail)) :
    R.feed (.at s []) (a ++ b) = (out, .failed) := by
  have hlong : ¬(a ++ b).length < R.need s - ([] : List α).length := by
    rw [List.length_append, List.length_nil]
    omega
  refine feed_fail sound_next hlong ?_
  rw [List.length_nil, Nat.sub_zero, ← hlength, List.take_left]
  exact htake

/-- What the stages keep, a chunk keeps. -/
structure Keeps (R : Reader α σ ω) (I : Option σ → List ω → Prop) : Prop where
  go : ∀ s m out o s', I (some s) out → R.take s m = (o, .go s') → I (some s') (out ++ o)
  stop : ∀ s m out o, I (some s) out → R.take s m = (o, .stop) → I none (out ++ o)
  fail : ∀ s m out o, I (some s) out → R.take s m = (o, .fail) → I none (out ++ o)

/-- **The rule of invariants for a chunk.** -/
theorem Keeps.feed {I : Option σ → List ω → Prop} (hkeeps : R.Keeps I) {before : List ω}
    (hsound : R.Sound st) (hst : I (st.view.map Prod.fst) before) (chunk : List α) :
    I ((R.feed st chunk).2.view.map Prod.fst) (before ++ (R.feed st chunk).1) := by
  generalize hn : R.measure st chunk = n
  -- by the measure: a stage that reads nothing has to come to one that reads
  induction n using Nat.strongRecOn generalizing st chunk before with
  | ind n ih =>
    cases st with
    | failed =>
      rw [feed_failed, List.append_nil]
      split <;> exact hst
    | stopped =>
      rw [feed_stopped, List.append_nil]
      exact hst
    | «at» s buffer =>
      by_cases hshort : chunk.length < R.need s - buffer.length
      · rw [feed_short hshort, List.append_nil]
        exact hst
      · generalize htake : R.take s (buffer ++ chunk.take (R.need s - buffer.length)) = taken
        obtain ⟨out, next⟩ := taken
        cases next with
        | stop =>
          rw [feed_stop hsound hshort htake]
          exact hkeeps.stop s _ before out hst htake
        | fail =>
          rw [feed_fail hsound hshort htake]
          exact hkeeps.fail s _ before out hst htake
        | go s' =>
          rw [feed_go hsound hshort htake, ← List.append_assoc]
          exact ih _ (hn ▸ measure_next hsound hshort htake) sound_next
            (hkeeps.go s _ before out s' hst htake) _ rfl

/-- After a chunk the buffer is short again. -/
theorem feed_settled (hsound : R.Sound st) (chunk : List α) : R.Settled (R.feed st chunk).2 := by
  generalize hn : R.measure st chunk = n
  -- by the same measure
  induction n using Nat.strongRecOn generalizing st chunk with
  | ind n ih =>
    cases st with
    | failed =>
      rw [feed_failed]
      split <;> trivial
    | stopped => trivial
    | «at» s buffer =>
      by_cases hshort : chunk.length < R.need s - buffer.length
      · rw [feed_short hshort]
        show (buffer ++ chunk).length < R.need s
        rw [List.length_append]
        omega
      · generalize htake : R.take s (buffer ++ chunk.take (R.need s - buffer.length)) = taken
        obtain ⟨out, next⟩ := taken
        cases next with
        | stop =>
          rw [feed_stop hsound hshort htake]
          trivial
        | fail =>
          rw [feed_fail hsound hshort htake]
          trivial
        | go s' =>
          rw [feed_go hsound hshort htake]
          exact ih _ (hn ▸ measure_next hsound hshort htake) sound_next _ rfl

/-! ## Chunks

A stream may be cut anywhere: what is read of its chunks one after another is what is read of the
whole. -/

/-- What is buffered from a first chunk is read with the second. -/
theorem feed_buffered (hshort : a.length < R.need s - buffer.length) :
    R.feed (.at s buffer) (a ++ b) = R.feed (.at s (buffer ++ a)) b := by
  have hsound : R.Sound (.at s buffer) := .inr (by omega)
  have hsound' : R.Sound (.at s (buffer ++ a)) := .inr (by rw [List.length_append]; omega)
  have hneed : R.need s - (buffer ++ a).length = R.need s - buffer.length - a.length := by
    rw [List.length_append]
    omega
  have htake : buffer ++ (a ++ b).take (R.need s - buffer.length) =
      buffer ++ a ++ b.take (R.need s - (buffer ++ a).length) := by
    rw [List.take_append, List.take_of_length_le (by omega), hneed, List.append_assoc]
  have hdrop : (a ++ b).drop (R.need s - buffer.length) =
      b.drop (R.need s - (buffer ++ a).length) := by
    rw [List.drop_append, List.drop_of_length_le (by omega), hneed, List.nil_append]
  have hlength : ((a ++ b).length < R.need s - buffer.length) =
      (b.length < R.need s - (buffer ++ a).length) := by
    rw [List.length_append, hneed]
    exact propext (by omega)
  rw [feed_at hsound, feed_at hsound', htake, hdrop, ← List.append_assoc]
  simp only [hlength]

/-- **Two chunks are read as one**, but that a failure is noticed with the next symbol. -/
theorem feed_append (hsound : R.Sound st) (a b : List α) :
    (R.feed st (a ++ b)).1 = (R.feed st a).1 ++ (R.feed (R.feed st a).2 b).1 ∧
      (R.feed st (a ++ b)).2.view = (R.feed (R.feed st a).2 b).2.view := by
  generalize hn : R.measure st a = n
  induction n using Nat.strongRecOn generalizing st a with
  | ind n ih =>
    cases st with
    | failed =>
      -- a reader that has failed notices it with the next symbol, of either chunk
      simp only [feed_failed]
      split <;> split <;> exact ⟨rfl, by simp_all [feed_failed, feed_stopped, State.view]⟩
    | stopped => exact ⟨rfl, rfl⟩
    | «at» s buffer =>
      by_cases hshort : a.length < R.need s - buffer.length
      · -- the first chunk ends before the stage does, and is buffered
        rw [feed_buffered hshort, feed_short hshort]
        exact ⟨rfl, rfl⟩
      · -- the stage ends within the first chunk
        have hlong : ¬(a ++ b).length < R.need s - buffer.length := by
          rw [List.length_append]
          omega
        have hsame : (a ++ b).take (R.need s - buffer.length) =
            a.take (R.need s - buffer.length) := List.take_append_of_le_length (by omega)
        have hrest : (a ++ b).drop (R.need s - buffer.length) =
            a.drop (R.need s - buffer.length) ++ b := List.drop_append_of_le_length (by omega)
        generalize htake : R.take s (buffer ++ a.take (R.need s - buffer.length)) = taken
        obtain ⟨out, next⟩ := taken
        cases next with
        | stop =>
          rw [feed_stop hsound hshort htake, feed_stop hsound hlong (by rw [hsame]; exact htake)]
          exact ⟨(List.append_nil out).symm, rfl⟩
        | fail =>
          rw [feed_fail hsound hshort htake, feed_fail hsound hlong (by rw [hsame]; exact htake),
            feed_failed]
          refine ⟨(List.append_nil out).symm, ?_⟩
          split <;> rfl
        | go s' =>
          rw [feed_go hsound hshort htake, feed_go hsound hlong (by rw [hsame]; exact htake), hrest]
          obtain ⟨hout, hview⟩ :=
            ih _ (hn ▸ measure_next hsound hshort htake) sound_next _ rfl
          refine ⟨?_, hview⟩
          rw [hout, List.append_assoc]

/-- More of a stream adds to what is read. -/
theorem feed_prefix (hsound : R.Sound st) (h : a <+: b) : (R.feed st a).1 <+: (R.feed st b).1 := by
  obtain ⟨rest, rfl⟩ := h
  exact ⟨_, (feed_append hsound a rest).1.symm⟩

theorem view_feed {st st' : State α σ} (hview : st.view = st'.view) (chunk : List α) :
    (R.feed st chunk).1 = (R.feed st' chunk).1 ∧
      (R.feed st chunk).2.view = (R.feed st' chunk).2.view := by
  cases st with
  | «at» s buffer =>
    cases st' with
    | «at» s' buffer' =>
      obtain ⟨rfl, rfl⟩ := Prod.mk.inj (Option.some.inj hview)
      exact ⟨rfl, rfl⟩
    | failed | stopped => cases hview
  | failed | stopped =>
    cases st' with
    | «at» s' buffer' => cases hview
    | failed | stopped =>
      refine ⟨rfl, ?_⟩
      by_cases hchunk : chunk = [] <;> simp [feed_failed, feed_stopped, hchunk, State.view]

end Reader

end Framing
