import VirtCore.VBox.Rules
import VirtCore.VBox.Kinds
import VirtCore.Operation

/-!
# VirtCore — session locks

A session holds the lock of a machine from a successful `lockMachine` or `launchVMProcess` to a
successful `unlockMachine`. The view counts, for each session, how many more locks than unlocks
there were, so that both a forgotten and a doubled unlock show.

* **`lockNext`** — the count after an answered call.
* **`strands`** — the answers that, while a lock is held, send an operation out without its
  unlock: almost every error, and some results of some operations.
* **`lockView`** — the environment that gives no such answer while a lock is held.
-/

namespace VirtCore


open Interact

/-- Locks minus unlocks, by session. -/
abbrev Balance : Type := ISession → Int

namespace Balance

/-- No session is locked. -/
def free : Balance := fun _ => 0

/-- One more lock of a session. -/
def acquire (b : Balance) (s : ISession) : Balance := fun x => if x = s then b x + 1 else b x

/-- One more unlock of a session. -/
def release (b : Balance) (s : ISession) : Balance := fun x => if x = s then b x - 1 else b x

/-- An unlock undoes a lock. -/
@[simp] theorem release_acquire (b : Balance) (s : ISession) : (b.acquire s).release s = b := by
  funext x
  by_cases h : x = s <;> simp [acquire, release, h]

/-- A session that has just locked holds something. -/
@[simp] theorem acquire_free_ne (s : ISession) : free.acquire s ≠ free := by
  intro h
  have hs : free.acquire s s = free s := congrFun h s
  simp [acquire, free] at hs

end Balance

/-- What an answered call does to the locks. -/
def lockNext (b : Balance) : (a : Act) → a.Ans → Balance
  | .cmd (.lockMachine _ (some s) _), .ok _ => b.acquire s
  | .cmd (.unlockMachine s), .ok _ => b.release s
  | .ptr (.launchVMProcess _ (some s) _ _), .ok _ => b.acquire s
  | _, _ => b

/-! ## What strands an operation

An error between a lock and its unlock leaves the machine locked, since no handler unlocks. Beside
errors there are a few results after which an operation returns early; each kind of operation has
its own. -/

/-- The operations that change a network adapter: there may be no adapter. -/
def adapterStrands (a : Act) (x : a.Ans) : Prop := threwError a x ∨ noAdapter a x

/-- The operations that unlock only where there is a mutable machine. -/
def mutableStrands (a : Act) (x : a.Ans) : Prop := threwError a x ∨ noMutable a x

/-- `createVMfromISO`: the DVD may not open. -/
def isoStrands (a : Act) (x : a.Ans) : Prop := threwError a x ∨ noMedium a x

/-- `getRdpInfo`: the connection may be inactive. -/
def rdpStrands (a : Act) (x : a.Ans) : Prop := threwError a x ∨ inactive a x

/-- `addDiskToVm`: its inner `try` catches some errors, and leaves where one is described. The
disk may not open, and once it is open the controller name may turn out to be unknown. -/
def attachStrands (storagecontroller : String) (a : Act) (x : a.Ans) : Prop :=
  (threwError a x ∧ ¬attachError a x) ∨ describedError a x ∨ noMedium a x ∨
    (storagecontroller ∉ QiVCA.storageBus ∧ openedMedium a x)

/-- The answers after which an operation that holds a lock leaves without its unlock. -/
def Op.strands : Op → (a : Act) → a.Ans → Prop
  | .setBridge .. | .addBridge .. | .setNat .. | .addNat .. | .setAdaptorMAC ..
  | .disableAdaptor .. => adapterStrands
  | .resetGraphics .. | .setRecordingScreenConfig .. | .switchRecordingScreen .. =>
    mutableStrands
  | .createVMfromISO .. => isoStrands
  | .getRdpInfo .. => rdpStrands
  | .addDiskToVm _ _ _ c _ _ => attachStrands c
  | _ => threwError

/-- Locks under an environment that gives no answer of `strands` while a lock is held. -/
def lockView (strands : (a : Act) → a.Ans → Prop) : View vboxSig Balance where
  next := lockNext
  ok b a x := b ≠ .free → ¬strands a x

/-- How an operation may leave: without a lock, unless it does not end, or ends by using a null
pointer. -/
def Settled (e : Exit) (b : Balance) : Prop :=
  match e with
  | .nullUse => True
  | .spin => True
  | _ => b = .free

/-- From a state without locks, a program ends in one. -/
abbrev Settles {α : Type} (strands : (a : Act) → a.Ans → Prop) (p : Vb α) : Prop :=
  Triple (lockView strands) (· = .free) p (fun _ b => b = .free) Settled

@[simp] theorem settled_threw (err : COMError) (b : Balance) :
    Settled (.threw err) b = (b = .free) := rfl

@[simp] theorem settled_nullUse (b : Balance) : Settled .nullUse b = True := rfl

@[simp] theorem settled_noReturn (b : Balance) : Settled .noReturn b = (b = .free) := rfl

@[simp] theorem settled_spin (b : Balance) : Settled .spin b = True := rfl

attribute [simp] lockNext adapterStrands mutableStrands isoStrands rdpStrands attachStrands

variable {α : Type} {strands : (a : Act) → a.Ans → Prop}

@[simp] theorem lockView_next : (lockView strands).next = lockNext := rfl

@[simp] theorem lockView_ok (b : Balance) (a : Act) (x : a.Ans) :
    (lockView strands).ok b a x = (b ≠ .free → ¬strands a x) := rfl

/-- Describing an error touches no lock. -/
theorem lockNext_reporting (b : Balance) (a : Act) (x : a.Ans) (h : Reporting a) :
    lockNext b a x = b := by
  cases a with
  | cmd c => exact h.elim
  | ptr c => cases c <;> first | exact h.elim | rfl
  | val c => rfl
  | _ => rfl

/-- A handler that reports runs with no lock held, and settles if what follows the report does. -/
theorem settles_catchReport {fuel : Nat} {body : Vb α} {k : COMError → Bool → Vb α}
    (h : Settles strands body) (hk : ∀ err r, Settles strands (k err r)) :
    Settles strands (catchCOM body fun err => reportError fuel err >>= k err) := by
  refine triple_catchReport (fun b a x ha hb _ => ?_) (fun _ _ hb => hb) ?_ h hk
  · rw [lockView_next, lockNext_reporting b a x ha]
    exact hb
  · rintro (_ | _ | _ | _) b (hb | hb) <;> first | exact hb | trivial

/-- A `try` around the body of an operation. -/
theorem settles_tryReport {body : Vb Bool} (h : Settles strands body) (fuel : Nat) :
    Settles strands (tryReport fuel body) :=
  settles_catchReport h fun _ _ => Triple.exit fun _ hb => hb

/-- Two parts one after the other; between them no lock is held. -/
theorem settles_bind {β : Type} {p : Vb α} {f : α → Vb β} (hp : Settles strands p)
    (hf : ∀ a, Settles strands (f a)) : Settles strands (p >>= f) :=
  Triple.bind hp hf

/-- What is made of a result calls nothing. -/
theorem settles_map {β : Type} {f : α → β} {p : Vb α} (hp : Settles strands p) :
    Settles strands (f <$> p) :=
  Triple.map hp

/-- A loop whose rounds settle, with a carried value. -/
theorem settles_fold {β γ : Type} {body : β → γ → Vb β} (l : List γ)
    (round : ∀ b x, Settles strands (body b x)) (b : β) :
    Settles strands (Prog.fold body b l) :=
  Triple.fold (fun _ b => b = Balance.free) (fun x _ b => round b x) b

/-- A loop whose rounds settle, with an early return. -/
theorem settles_forEach {β γ : Type} {body : γ → Vb (Option β)} {l : List γ}
    (round : ∀ x ∈ l, Settles strands (body x)) : Settles strands (Prog.forEach body l) := by
  -- a round that returns early has settled as well
  have hround : ∀ x ∈ l, Triple (lockView strands) (· = .free) (body x)
      (fun r b => r.elim (b = .free) fun _ => b = .free) Settled := fun x hx =>
    (round x hx).conseq (fun _ h => h) (fun r _ h => by cases r <;> exact h) fun _ _ h => h
  exact (Triple.forEach (R := fun _ b => b = .free) _ hround).conseq (fun _ h => h)
    (fun r _ h => by cases r <;> exact h) fun _ _ h => h

/-- A part on a pointer; a null one ends it without a lock. -/
theorem settles_via {Ifc : Type} {p : COMPtr Ifc} {f : Ifc → Vb α}
    (hf : ∀ o, Settles strands (f o)) : Settles strands (via p f) :=
  triple_via (fun _ _ => trivial) hf

/-- Waiting for a task, which is done with no lock held. -/
theorem settles_pollCompleted (fuel : Nat) (p : IProgress) :
    Settles strands (pollCompleted fuel (some p)) := by
  refine triple_pollCompleted (P := fun _ b => b = Balance.free) fuel ?_ ?_ ?_ ?_
  · exact fun _ _ => trivial
  · exact fun _ _ hb => hb
  · exact fun _ _ hb _ => hb
  · exact fun _ _ _ hb _ => hb

end VirtCore
