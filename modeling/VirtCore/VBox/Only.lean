import VirtCore.VBox.Rules

/-!
# VirtCore — programs that make calls of one kind only

* **`onlyView`** — the view that remembers whether every call so far was of a given kind.
* **`Only`** — a program all of whose calls are of the kind, however it ends.
* **`Only.runs`** — then so are the calls of its executions.
-/

namespace VirtCore

open Interact

/-- The view whose state says that every call so far was of the kind. -/
def onlyView (P : Act → Prop) : View vboxSig Prop where
  next s a _ := s ∧ P a
  ok _ _ _ := True

/-- A program that makes calls of the kind `P` only. -/
abbrev Only {α : Type} (P : Act → Prop) (p : Vb α) : Prop :=
  Triple (onlyView P) (fun s => s) p (fun _ s => s) fun _ s => s

variable {α β γ Ifc : Type} {P : Act → Prop}

@[simp] theorem onlyView_next (s : Prop) (a : Act) (x : a.Ans) :
    (onlyView P).next s a x = (s ∧ P a) := rfl

@[simp] theorem onlyView_ok (s : Prop) (a : Act) (x : a.Ans) : (onlyView P).ok s a x = True := rfl

/-- A program that is run through once. -/
theorem only_of {p : Vb α}
    (h : wp (onlyView P) p (outcome (fun _ s => s) fun _ s => s) True) : Only P p := by
  intro s hs
  obtain rfl : s = True := eq_true hs
  exact h

/-- Use such a program in the middle of a weakest precondition. -/
theorem Only.seq {p : Vb α} (h : Only P p) {Q : Prop → Except Exit α → Prop}
    (ok : ∀ a, Q True (.ok a)) (error : ∀ e, Q True (.error e)) : wp (onlyView P) p Q True := by
  refine Triple.use h trivial (fun a s hs => ?_) fun e s hs => ?_
  · obtain rfl : s = True := eq_true hs
    exact ok a
  · obtain rfl : s = True := eq_true hs
    exact error e

/-- The end of a program. -/
theorem only_ret (a : α) : Only P (.ret a) := Triple.ret fun _ hs => hs

/-- An abnormal end. -/
theorem only_exit (e : Exit) : Only P (.exit e : Vb α) := Triple.exit fun _ hs => hs

/-- Two programs one after the other. -/
theorem only_bind {p : Vb α} {f : α → Vb β} (hp : Only P p) (hf : ∀ a, Only P (f a)) :
    Only P (p >>= f) :=
  Triple.bind hp hf

/-- What is made of a result. -/
theorem only_map {f : α → β} {p : Vb α} (hp : Only P p) : Only P (f <$> p) :=
  Triple.map hp

/-- A program on a pointer. -/
theorem only_via {o : COMPtr Ifc} {f : Ifc → Vb α} (hf : ∀ x, Only P (f x)) :
    Only P (via o f) :=
  triple_via (fun _ hs => hs) hf

/-- A program with its handler. -/
theorem only_catchCOM {body : Vb α} {handler : COMError → Vb α} (h : Only P body)
    (hhandler : ∀ err, Only P (handler err)) : Only P (catchCOM body handler) := by
  refine Triple.handle h fun e => ?_
  cases e with
  | threw err => exact hhandler err
  | nullUse => exact only_exit _
  | noReturn => exact only_exit _
  | spin => exact only_exit _

/-- A loop with an early return. -/
theorem only_forEach {body : γ → Vb (Option β)} {l : List γ}
    (round : ∀ x ∈ l, Only P (body x)) : Only P (Prog.forEach body l) := by
  have hround : ∀ x ∈ l, Triple (onlyView P) (fun s => s) (body x)
      (fun r s => r.elim s fun _ => s) fun _ s => s := fun x hx =>
    (round x hx).conseq (fun _ h => h) (fun r _ h => by cases r <;> exact h) fun _ _ h => h
  exact (Triple.forEach (R := fun _ s => s) (fun s => s) hround).conseq (fun _ h => h)
    (fun r _ h => by cases r <;> exact h) fun _ _ h => h

/-- A loop with a carried value. -/
theorem only_fold {body : β → γ → Vb β} {l : List γ}
    (round : ∀ x ∈ l, ∀ b, Only P (body b x)) (b : β) : Only P (Prog.fold body b l) :=
  Triple.fold (fun _ s => s) round b

/-- A loop that is cut off. -/
theorem only_iterate {body : β → Vb (β ⊕ α)} (fuel : Nat) (round : ∀ b, Only P (body b))
    (b : β) : Only P (Prog.iterate .spin body fuel b) := by
  refine Triple.iterate (fun _ _ s => s) fuel (fun _ _ hs => hs) (fun _ b => ?_) b
  exact (round b).conseq (fun _ h => h) (fun r _ h => by cases r <;> exact h) fun _ _ h => h

/-- Waiting for a task. -/
theorem only_pollCompleted (hP : ∀ p, P (.val (.completed p))) (fuel : Nat)
    (progress : COMPtr IProgress) : Only P (pollCompleted fuel progress) :=
  only_via fun p => only_iterate fuel (fun _ => only_of (by simp [hP])) ()

/-- The view asks nothing of the environment. -/
theorem onlyView_admits (s : Prop) (t : VbTrace) : (onlyView P).Admits s t := by
  induction t generalizing s with
  | nil => trivial
  | cons e t ih => exact ⟨trivial, ih _⟩

/-- Behind a trace its state says what all calls were. -/
theorem onlyView_after (s : Prop) (t : VbTrace) :
    (onlyView P).after s t ↔ s ∧ ∀ e ∈ t, P e.1 := by
  induction t generalizing s with
  | nil => simp
  | cons e t ih => rw [View.after_cons, ih, onlyView_next, List.forall_mem_cons, and_assoc]

/-- Every call of an execution of such a program is of the kind. -/
theorem Only.runs {p : Vb α} (h : Only P p) {t : VbTrace} {o : Except Exit α}
    (hr : Runs p t o) : ∀ e ∈ t, P e.1 := by
  have hout := Triple.runs h (s := True) trivial hr (onlyView_admits _ t)
  have hafter : (onlyView P).after True t := by
    cases o <;> exact hout
  exact ((onlyView_after True t).mp hafter).2

/-- A kind that has more calls. -/
theorem Only.mono {P' : Act → Prop} {p : Vb α} (h : Only P p) (hP : ∀ a, P a → P' a) :
    Only P' p := by
  intro s hs
  refine (wp_iff_runs p _ s).mpr fun t o hr _ => ?_
  have hafter : (onlyView P').after s t :=
    (onlyView_after s t).mpr ⟨hs, fun e he => hP e.1 (h.runs hr e he)⟩
  cases o <;> exact hafter

section

variable (reports : ∀ a, Reporting a → P a)

include reports

/-- An error report, where reporting calls are of the kind. -/
theorem only_reportError (fuel : Nat) (err : COMError) : Only P (reportError fuel err) :=
  Triple.of_calls (fun _ a _ ha hs _ => ⟨hs, reports a ha⟩) (reportError_calls fuel err)

/-- A `try` around the whole body of a function. -/
theorem only_tryReport {fuel : Nat} {body : Vb Bool} (h : Only P body) :
    Only P (tryReport fuel body) :=
  only_catchCOM h fun err => only_bind (only_reportError reports fuel err) fun _ => only_exit _

end

end VirtCore
