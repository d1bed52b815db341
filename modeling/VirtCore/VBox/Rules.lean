import VirtCore.Interact.Triple
import VirtCore.VBox.Call

/-!
# VirtCore — weakest preconditions of the libvbox calls

One rule for each way an operation's program goes on: after a call, the answers are split
into the shapes the operations distinguish (thrown, null, a pointer, a value). Together with
`wp_bind` they run an operation symbolically under any view.
-/

namespace VirtCore

open Interact

variable {α Ifc S : Type} {v : View vboxSig S}

attribute [simp] callbackdata

/-- A method without a result returns or throws. -/
@[simp ↓] theorem wp_cmd (c : Cmd) (Q : S → Except Exit Unit → Prop) (s : S) :
    wp v (cmd c) Q s ↔
      (v.ok s (.cmd c) (.ok ()) → Q (v.next s (.cmd c) (.ok ())) (.ok ())) ∧
      ∀ err, v.ok s (.cmd c) (.error err) →
        Q (v.next s (.cmd c) (.error err)) (.error (.threw err)) := by
  refine ⟨fun h => ⟨h (.ok ()), fun err => h (.error err)⟩, ?_⟩
  rintro ⟨hok, herr⟩ (err | _) hx
  · exact herr err hx
  · exact hok hx

/-- A method with a pointer returns null, returns a pointer or throws. -/
@[simp ↓] theorem wp_ptr (c : PtrCall) (Q : S → Except Exit (COMPtr c.Ifc) → Prop) (s : S) :
    @wp vboxSig Exit (no_index (COMPtr c.Ifc)) S v (ptr c) Q s ↔
      (v.ok s (.ptr c) (.ok none) → Q (v.next s (.ptr c) (.ok none)) (.ok none)) ∧
      (∀ o, v.ok s (.ptr c) (.ok (some o)) →
        Q (v.next s (.ptr c) (.ok (some o))) (.ok (some o))) ∧
      ∀ err, v.ok s (.ptr c) (.error err) →
        Q (v.next s (.ptr c) (.error err)) (.error (.threw err)) := by
  refine ⟨fun h => ⟨h (.ok none), fun o => h (.ok (some o)), fun err => h (.error err)⟩, ?_⟩
  rintro ⟨hnull, hsome, herr⟩ (err | _ | o) hx
  · exact herr err hx
  · exact hnull hx
  · exact hsome o hx

/-- A method with a value returns some value or throws. -/
@[simp ↓] theorem wp_val (c : ValCall) (Q : S → Except Exit c.Val → Prop) (s : S) :
    @wp vboxSig Exit (no_index c.Val) S v (val c) Q s ↔
      (∀ a, v.ok s (.val c) (.ok a) → Q (v.next s (.val c) (.ok a)) (.ok a)) ∧
      ∀ err, v.ok s (.val c) (.error err) →
        Q (v.next s (.val c) (.error err)) (.error (.threw err)) := by
  refine ⟨fun h => ⟨fun a => h (.ok a), fun err => h (.error err)⟩, ?_⟩
  rintro ⟨hok, herr⟩ (err | a) hx
  · exact herr err hx
  · exact hok a hx

@[simp] theorem via_none (f : Ifc → Vb α) : via none f = .exit .nullUse := rfl

@[simp] theorem via_some (o : Ifc) (f : Ifc → Vb α) : via (some o) f = f o := rfl

@[simp ↓] theorem wp_via_none (f : Ifc → Vb α) (Q : S → Except Exit α → Prop) (s : S) :
    wp v (via none f) Q s = Q s (.error .nullUse) := rfl

@[simp ↓] theorem wp_via_some (o : Ifc) (f : Ifc → Vb α) (Q : S → Except Exit α → Prop)
    (s : S) : wp v (via (some o) f) Q s = wp v (f o) Q s := rfl

/-- An assignment has one answer. -/
@[simp ↓] theorem wp_put (x : OutParam) (value : String) (Q : S → Except Exit Unit → Prop)
    (s : S) : wp v (put x value) Q s ↔
      (v.ok s (.put x value) () → Q (v.next s (.put x value) ()) (.ok ())) :=
  ⟨fun h => h (), fun h _ => h⟩

@[simp ↓] theorem wp_putData (value : Int) (Q : S → Except Exit Unit → Prop) (s : S) :
    wp v (putData value) Q s ↔
      (v.ok s (.putData value) () → Q (v.next s (.putData value) ()) (.ok ())) :=
  ⟨fun h => h (), fun h _ => h⟩

@[simp ↓] theorem wp_print (text : String) (Q : S → Except Exit Unit → Prop) (s : S) :
    wp v (print text) Q s ↔
      (v.ok s (.print text) () → Q (v.next s (.print text) ()) (.ok ())) :=
  ⟨fun h => h (), fun h _ => h⟩

@[simp ↓] theorem wp_time (Q : S → Except Exit Int → Prop) (s : S) :
    wp v time Q s ↔ ∀ now, v.ok s .time now → Q (v.next s .time now) (.ok now) := Iff.rfl

/-- The current error is there or is not. -/
@[simp ↓] theorem wp_currentError (Q : S → Except Exit (COMPtr COMErrorInfo) → Prop) (s : S) :
    wp v currentError Q s ↔
      (v.ok s .currentError none → Q (v.next s .currentError none) (.ok none)) ∧
      ∀ info, v.ok s .currentError (some info) →
        Q (v.next s .currentError (some info)) (.ok (some info)) := by
  refine ⟨fun h => ⟨h none, fun info => h (some info)⟩, ?_⟩
  rintro ⟨hnull, hsome⟩ (_ | info) hx
  · exact hnull hx
  · exact hsome info hx

/-- Releasing a machine that is there has one answer. -/
@[simp ↓] theorem wp_releaseMachine (m : IMachine) (Q : S → Except Exit Unit → Prop) (s : S) :
    wp v (releaseMachine (some m)) Q s ↔ (v.ok s (.release (.machine m)) () →
      Q (v.next s (.release (.machine m)) ()) (.ok ())) :=
  ⟨fun h => h (), fun h _ => h⟩

@[simp] theorem releaseMachine_none : releaseMachine none = .exit .nullUse := rfl

/-- And so has releasing a disk. -/
@[simp ↓] theorem wp_releaseMedium (d : IMedium) (Q : S → Except Exit Unit → Prop) (s : S) :
    wp v (releaseMedium (some d)) Q s ↔ (v.ok s (.release (.medium d)) () →
      Q (v.next s (.release (.medium d)) ()) (.ok ())) :=
  ⟨fun h => h (), fun h _ => h⟩

@[simp] theorem releaseMedium_none : releaseMedium none = .exit .nullUse := rfl

/-- The end of a body without a return statement. -/
@[simp ↓] theorem wp_flowOff (Q : S → Except Exit α → Prop) (s : S) :
    wp v flowOff Q s = Q s (.error .noReturn) := rfl

/-- A branch of the source, by its condition. -/
@[simp ↓] theorem wp_ite (c : Prop) [Decidable c] (p q : Vb α)
    (Q : S → Except Exit α → Prop) (s : S) :
    wp v (if c then p else q) Q s ↔ (c → wp v p Q s) ∧ (¬c → wp v q Q s) := by
  by_cases h : c <;> simp [h]

@[simp ↓ high] theorem wp_ite_some (o : Ifc) (p q : Vb α) (Q : S → Except Exit α → Prop)
    (s : S) : wp v (if (some o).isSome then p else q) Q s = wp v p Q s := rfl

@[simp ↓ high] theorem wp_ite_none (p q : Vb α) (Q : S → Except Exit α → Prop) (s : S) :
    wp v (if (none : COMPtr Ifc).isSome then p else q) Q s = wp v q Q s := rfl

@[simp ↓] theorem wp_callbackdata (value : String) (Q : S → Except Exit Unit → Prop) (s : S) :
    wp v (callbackdata value) Q s ↔ (v.ok s (.put .callbackdata value) () →
      Q (v.next s (.put .callbackdata value) ()) (.ok ())) :=
  wp_put _ _ Q s

/-- The rule of `try`: only a thrown `COMError` reaches the handler. -/
theorem wp_catchCOM (body : Vb α) (handler : COMError → Vb α)
    (Q : S → Except Exit α → Prop)
    (s : S) : wp v (catchCOM body handler) Q s = wp v body (fun s o => match o with
      | .error (.threw err) => wp v (handler err) Q s
      | o => Q s o) s := by
  rw [catchCOM, wp_handle]
  congr 1
  funext s o
  rcases o with (_ | _ | _ | _) | _ <;> rfl

/-- The rule of `via`: a null receiver is an exit. -/
theorem triple_via {P : S → Prop} {R : α → S → Prop} {E : Exit → S → Prop}
    {p : COMPtr Ifc}
    {f : Ifc → Vb α} (null : ∀ s, P s → E .nullUse s) (h : ∀ o, Triple v P (f o) R E) :
    Triple v P (via p f) R E := by
  cases p with
  | none => exact Triple.exit null
  | some o => exact h o

/-- The rule of a statement under a condition. -/
theorem triple_when {c : Prop} [Decidable c] {P : S → Prop} {R : α → S → Prop}
    {E : Exit → S → Prop} {p : Vb Unit} {k : Unit → Vb α}
    (hp : c → Triple v P p (fun _ => P) E) (hk : Triple v P (k ()) R E) :
    Triple v P (if c then p >>= k else k ()) R E := by
  split
  · exact (hp ‹_›).bind fun _ => hk
  · exact hk

@[simp] theorem pollCompleted_none (fuel : Nat) : pollCompleted fuel none = .exit .nullUse := rfl

/-- The rule of the poll loop. The precondition counts the polls answered "not yet". -/
theorem triple_pollCompleted {P : Nat → S → Prop} {E : Exit → S → Prop}
    {R : Unit → S → Prop} {p : IProgress} (fuel : Nat) (stop : ∀ s, P fuel s → E .spin s)
    (again : ∀ k s, P k s → P (k + 1) (v.next s (.val (.completed p)) (.ok false)))
    (done : ∀ k s, P k s → v.ok s (.val (.completed p)) (.ok true) →
      R () (v.next s (.val (.completed p)) (.ok true)))
    (threw : ∀ err k s, P k s → v.ok s (.val (.completed p)) (.error err) →
      E (.threw err) (v.next s (.val (.completed p)) (.error err))) :
    Triple v (P 0) (pollCompleted fuel (some p)) R E := by
  refine Triple.iterate (fun k _ => P k) fuel (fun _ => stop) (fun k _ s hs => ?_) ()
  rw [wp_bind, wp_val]
  refine ⟨fun b hb => ?_, fun err => threw err k s hs⟩
  cases b with
  | true => exact done k s hs hb
  | false => exact again k s hs

/-- The program of an operation that returns a `bool`. -/
theorem triple_some {P : S → Prop} {p : Vb Bool} {R : Bool → S → Prop}
    {E : Exit → S → Prop}
    (h : Triple v P p R E) : Triple v P (some <$> p) (fun r s => ∃ b, r = some b ∧ R b s) E :=
  Triple.map (h.conseq (fun _ hs => hs) (fun b _ hs => ⟨b, rfl, hs⟩) fun _ _ hs => hs)

/-! ## Error reports

Reporting an error makes calls of its own, in a loop over the chain of errors. That they are of
these kinds is all that most views have to know. -/

/-- The calls that a catch block makes to describe the error. -/
def Reporting : Act → Prop
  | .currentError => True
  | .ptr (.queryVirtualBoxErrorInfo _) => True
  | .ptr (.nextError _) => True
  | .val (.text _) => True
  | .print _ => True
  | _ => False

/-- A single call of a kind. -/
theorem calls_ptr {P : Act → Prop} {c : PtrCall} (h : P (.ptr c)) :
    Prog.Calls (σ := vboxSig) P (ptr c) := by
  refine ⟨h, fun x => ?_⟩
  cases x <;> trivial

/-- A single question of a kind. -/
theorem calls_val {P : Act → Prop} {c : ValCall} (h : P (.val c)) :
    Prog.Calls (σ := vboxSig) P (val c) := by
  refine ⟨h, fun x => ?_⟩
  cases x <;> trivial

/-- Following the chain of errors prints, and asks for texts and for the next error. -/
theorem printErrors_calls (fuel : Nat) (vboxError : COMPtr IVirtualBoxErrorInfo) :
    (printErrors fuel vboxError).Calls Reporting := by
  refine Prog.calls_iterate (fun error => ?_) fuel vboxError
  cases error with
  | none => trivial
  | some error =>
    refine Prog.calls_bind (calls_val trivial) fun text => ?_
    refine Prog.calls_bind ⟨trivial, fun _ => trivial⟩ fun _ => ?_
    exact Prog.calls_bind (calls_ptr trivial) fun _ => trivial

/-- The whole report makes reporting calls only. -/
theorem reportError_calls (fuel : Nat) (err : COMError) :
    (reportError fuel err).Calls Reporting := by
  refine Prog.calls_bind ⟨trivial, fun _ => trivial⟩ fun errorInfo => ?_
  refine Prog.calls_bind ?_ fun vboxError => ?_
  · cases errorInfo with
    | none => trivial
    | some info => exact calls_ptr trivial
  · cases vboxError with
    | none => trivial
    | some error =>
      refine Prog.calls_bind ⟨trivial, fun _ => trivial⟩ fun _ => ?_
      exact Prog.calls_bind (printErrors_calls fuel _) fun _ => trivial

/-- **The rule of a `try` whose catch block describes the error.** What describing it does not
disturb carries over from the point where it was thrown to the rest of the catch block. -/
theorem triple_catchReport {P : S → Prop} {R : α → S → Prop} {E D : Exit → S → Prop}
    {I : S → Prop} (step : ∀ s a x, Reporting a → I s → v.ok s a x → I (v.next s a x))
    (threw : ∀ err s, D (.threw err) s → I s) (exits : ∀ e s, D e s ∨ I s → E e s)
    {fuel : Nat} {body : Vb α} {k : COMError → Bool → Vb α} (h : Triple v P body R D)
    (hk : ∀ err r, Triple v I (k err r) R E) :
    Triple v P (catchCOM body fun err => reportError fuel err >>= k err) R E := by
  refine Triple.handle h fun e => ?_
  cases e with
  | threw err =>
    have hreport : Triple v I (reportError fuel err) (fun _ => I) E :=
      (Triple.of_calls step (reportError_calls fuel err)).conseq (fun _ h => h)
        (fun _ _ h => h) fun e s h => exits e s (.inr h)
    exact (hreport.bind (hk err)).conseq (threw err) (fun _ _ h => h) fun _ _ h => h
  | nullUse => exact Triple.exit fun s h => exits _ s (.inl h)
  | noReturn => exact Triple.exit fun s h => exits _ s (.inl h)
  | spin => exact Triple.exit fun s h => exits _ s (.inl h)

end VirtCore
