/-!
# Interact — programs that call an environment

A program here is a finitely-deep tree: it returns, leaves abnormally, or makes one *call*
and goes on according to the answer. Nothing is said about what answers: the answers come
from an environment the program does not control, so every fact about a program is a fact
about all the answers it may be given.

* **`Prog`** — the trees, with `bind` (sequencing) and `handle` (an exception handler).
* **`Runs`** — the relational reading: a program, the answered calls of one execution in
  order (its `Trace`), and how it ended.
* **`exec`** — the functional reading: the same execution against an `Oracle` that answers
  each call from the history so far. `exec_runs` connects the two.
* **`forEach` / `fold` / `iterate`** — the loop shapes: over a list with an early return,
  over a list with a carried value, and an unbounded `while` cut off after a given number
  of rounds.
-/

namespace Interact

/-- An interface: the calls a program may make and the type of each call's answer. -/
structure Sig where
  Call : Type
  Ans : Call → Type

/-- A call together with the answer it got. -/
abbrev Event (σ : Sig) : Type := (c : σ.Call) × σ.Ans c

/-- The answered calls of one execution, oldest first. -/
abbrev Trace (σ : Sig) : Type := List (Event σ)

/-- A program over the interface `σ`: it returns an `α`, leaves abnormally with an `ε`, or
makes a call and continues with the answer. -/
inductive Prog (σ : Sig) (ε α : Type) where
  | ret (a : α)
  | exit (e : ε)
  | call (c : σ.Call) (k : σ.Ans c → Prog σ ε α)

namespace Prog

variable {σ : Sig} {ε α β : Type}

/-- Sequencing: an abnormal exit of the first program skips the second. -/
def bind : Prog σ ε α → (α → Prog σ ε β) → Prog σ ε β
  | .ret a, f => f a
  | .exit e, _ => .exit e
  | .call c k, f => .call c fun x => (k x).bind f

/-- Run `p`; where it leaves abnormally, go on with the handler. -/
def handle : Prog σ ε α → (ε → Prog σ ε α) → Prog σ ε α
  | .ret a, _ => .ret a
  | .exit e, h => h e
  | .call c k, h => .call c fun x => (k x).handle h

instance : Monad (Prog σ ε) where
  pure := .ret
  bind := .bind

/-! ## The loop shapes

A loop over a list, the same with an accumulator, and one that goes on for as long as its body
says so, which needs fuel. -/

/-- A loop over a list whose body may return from the enclosing function (`some b`). -/
def forEach (body : α → Prog σ ε (Option β)) : List α → Prog σ ε (Option β)
  | [] => .ret none
  | x :: xs => body x >>= fun r => match r with
      | none => forEach body xs
      | some b => .ret (some b)

/-- A loop over a list that carries a value. -/
def fold (body : β → α → Prog σ ε β) : β → List α → Prog σ ε β
  | b, [] => .ret b
  | b, x :: xs => body b x >>= fun b' => fold body b' xs

/-- An unbounded loop, cut off with the exit `spin` once `fuel` rounds have not ended it. A
round either goes on with a new loop state (`inl`) or leaves the loop (`inr`). -/
def iterate (spin : ε) (body : β → Prog σ ε (β ⊕ α)) : Nat → β → Prog σ ε α
  | 0, _ => .exit spin
  | fuel + 1, b => body b >>= fun r => match r with
      | .inl b' => iterate spin body fuel b'
      | .inr a => .ret a

/-- A program that is followed by nothing is itself. -/
theorem bind_ret (p : Prog σ ε α) : p >>= .ret = p := by
  induction p with
  | ret a => rfl
  | exit e => rfl
  | call c k ih => exact congrArg (Prog.call c) (funext ih)

/-- A loop that does `p` in the rounds that match, when at most one does. -/
theorem forEach_unique {M : α → Bool} {p : Prog σ ε (Option β)} {l : List α}
    (h : l.Pairwise fun x y => ¬(M x ∧ M y)) :
    forEach (fun x => if M x then p else .ret none) l = if l.any M then p else .ret none := by
  induction l with
  | nil => rfl
  | cons x xs ih =>
    obtain ⟨hx, hxs⟩ := List.pairwise_cons.mp h
    cases hm : M x with
    | false =>
      rw [List.any_cons, hm, Bool.false_or, ← ih hxs, forEach, hm]
      rfl
    | true =>
      -- whatever the match returns, none of the others does anything
      have hrest : xs.any M = false := by
        simpa [hm] using hx
      have hnone := ih hxs
      rw [hrest] at hnone
      rw [List.any_cons, hm, Bool.true_or, forEach, hm, hnone, if_pos rfl]
      refine Eq.trans ?_ (bind_ret p)
      congr 1
      funext r
      cases r <;> rfl

end Prog

/-! ## Executions

A run of a program is a trace and an outcome. An oracle, which answers by what has been asked so
far, picks out one of the runs. -/

variable {σ : Sig} {ε α β : Type}

/-- `Runs p t o`: one execution of `p` made the answered calls `t` and ended with `o`. -/
inductive Runs : Prog σ ε α → Trace σ → Except ε α → Prop where
  | ret (a : α) : Runs (.ret a) [] (.ok a)
  | exit (e : ε) : Runs (.exit e) [] (.error e)
  | call (c : σ.Call) (k : σ.Ans c → Prog σ ε α) (x : σ.Ans c) {t : Trace σ}
      {o : Except ε α} (h : Runs (k x) t o) : Runs (.call c k) (⟨c, x⟩ :: t) o

/-- A program that returns makes no calls. -/
@[simp] theorem runs_ret {a : α} {t : Trace σ} {o : Except ε α} :
    Runs (.ret a) t o ↔ t = [] ∧ o = .ok a := by
  constructor
  · rintro ⟨⟩
    exact ⟨rfl, rfl⟩
  · rintro ⟨rfl, rfl⟩
    exact .ret a

/-- Nor does one that leaves. -/
@[simp] theorem runs_exit {e : ε} {t : Trace σ} {o : Except ε α} :
    Runs (.exit e) t o ↔ t = [] ∧ o = .error e := by
  constructor
  · rintro ⟨⟩
    exact ⟨rfl, rfl⟩
  · rintro ⟨rfl, rfl⟩
    exact .exit e

/-- A call is answered first, and the rest runs on from the answer. -/
theorem runs_call {c : σ.Call} {k : σ.Ans c → Prog σ ε α} {t : Trace σ} {o : Except ε α} :
    Runs (.call c k) t o ↔ ∃ x t', t = ⟨c, x⟩ :: t' ∧ Runs (k x) t' o := by
  constructor
  · intro h
    cases h with
    | call _ _ x h => exact ⟨x, _, rfl, h⟩
  · rintro ⟨x, t', rfl, h⟩
    exact .call c k x h

/-- An execution of a sequence: one of its first part, and where that returns, one of the rest. -/
theorem runs_bind {p : Prog σ ε α} {f : α → Prog σ ε β} {t : Trace σ} {o : Except ε β} :
    Runs (p >>= f) t o ↔ (∃ t₁ t₂ a, t = t₁ ++ t₂ ∧ Runs p t₁ (.ok a) ∧
      Runs (f a) t₂ o) ∨
      ∃ e, Runs p t (.error e) ∧ o = .error e := by
  induction p generalizing t with
  | ret a =>
    refine ⟨fun h => .inl ⟨[], t, a, rfl, .ret a, h⟩, ?_⟩
    rintro (⟨_, t₂, _, rfl, ⟨⟩, hf⟩ | ⟨e, ⟨⟩, -⟩)
    exact hf
  -- an exit leaves the second program unrun
  | exit e =>
    refine ⟨fun h => .inr ⟨e, ?_⟩, ?_⟩
    · obtain ⟨rfl, rfl⟩ := runs_exit.mp h
      exact ⟨.exit e, rfl⟩
    · rintro (⟨_, t₂, a, rfl, ⟨⟩, hf⟩ | ⟨_, ⟨⟩, rfl⟩)
      exact .exit e
  | call c k ih =>
    rw [show Prog.call c k >>= f = .call c fun x => k x >>= f from rfl]
    simp only [runs_call, ih]
    constructor
    · rintro ⟨x, t', rfl, ⟨t₁, t₂, a, rfl, hp, hf⟩ | ⟨e, hp, rfl⟩⟩
      · exact .inl ⟨⟨c, x⟩ :: t₁, t₂, a, rfl, ⟨x, t₁, rfl, hp⟩, hf⟩
      · exact .inr ⟨e, ⟨x, t', rfl, hp⟩, rfl⟩
    · rintro (⟨_, t₂, a, rfl, ⟨x, t₁, rfl, hp⟩, hf⟩ |
        ⟨e, ⟨x, t', rfl, hp⟩, rfl⟩)
      · exact ⟨x, t₁ ++ t₂, rfl, .inl ⟨t₁, t₂, a, rfl, hp, hf⟩⟩
      · exact ⟨x, t', rfl, .inr ⟨e, hp, rfl⟩⟩

/-- An environment: what it answers to a call, given everything answered before. -/
abbrev Oracle (σ : Sig) : Type := Trace σ → (c : σ.Call) → σ.Ans c

/-- The execution of a program against an oracle: its trace, appended to the history `h`, and
how it ended. -/
def exec (ω : Oracle σ) : Trace σ → Prog σ ε α → Trace σ × Except ε α
  | h, .ret a => (h, .ok a)
  | h, .exit e => (h, .error e)
  | h, .call c k => exec ω (h ++ [⟨c, ω h c⟩]) (k (ω h c))

/-- What an oracle produces is an execution: the history grows by a trace of the program. -/
theorem exec_runs (ω : Oracle σ) (p : Prog σ ε α) (h : Trace σ) :
    ∃ t, (exec ω h p).1 = h ++ t ∧ Runs p t (exec ω h p).2 := by
  induction p generalizing h with
  | ret a => exact ⟨[], by simp [exec], .ret a⟩
  | exit e => exact ⟨[], by simp [exec], .exit e⟩
  | call c k ih =>
    obtain ⟨t, ht, hr⟩ := ih (ω h c) (h ++ [⟨c, ω h c⟩])
    refine ⟨⟨c, ω h c⟩ :: t, ?_, .call c k (ω h c) hr⟩
    show (exec ω (h ++ [⟨c, ω h c⟩]) (k (ω h c))).1 = _
    rw [ht, List.append_assoc]
    rfl

/-- Where an oracle gives answers of one kind only, so does every execution against it. -/
theorem exec_answers {ω : Oracle σ} {K : (c : σ.Call) → σ.Ans c → Prop}
    (hω : ∀ h c, K c (ω h c)) (p : Prog σ ε α) {h : Trace σ} (hh : ∀ e ∈ h, K e.1 e.2) :
    ∀ e ∈ (exec ω h p).1, K e.1 e.2 := by
  induction p generalizing h with
  | ret a => exact hh
  | exit e => exact hh
  | call c k ih =>
    refine ih (ω h c) fun e he => ?_
    rcases List.mem_append.mp he with he | he
    · exact hh e he
    · obtain rfl := List.mem_singleton.mp he
      exact hω h c

end Interact
