import VirtCore.VBox.Only
import VirtCore.Operation

/-!
# VirtCore — medium attachments

A machine's attachments by controller, port and device, and what the calls that succeed do to
them. The attachments are those a session that changes the machine sees; what is not saved is
dropped with the lock, at the slots it was put.

* **`Slot` / `Storage`** — where media are attached, over all machines.
* **`touched`** — the slot that a call names; **`storageNext`** — what an answered call does.
* **`Stays`** — a program that names slots of a given kind only.
-/

namespace VirtCore


open Interact

/-- A place for a medium. -/
structure Slot where
  vm : Nat
  controller : String
  port : Int
  device : Int
  deriving DecidableEq

/-- The attachments of all machines: `some medium` where there is one, its medium being null in
an empty drive. -/
abbrev Storage : Type := Slot → Option (COMPtr IMedium)

/-- One slot gets another content. -/
def Storage.set (st : Storage) (p : Slot) (content : Option (COMPtr IMedium)) : Storage :=
  fun q => if q = p then content else st q

@[simp] theorem Storage.set_self (st : Storage) (p : Slot) (content : Option (COMPtr IMedium)) :
    st.set p content p = content := by simp [Storage.set]

theorem Storage.set_other (st : Storage) {p q : Slot} (content : Option (COMPtr IMedium))
    (h : q ≠ p) : st.set p content q = st q := by simp [Storage.set, h]

/-- To fill a free slot and to empty it is to do nothing. -/
theorem Storage.set_set_free {st : Storage} {p : Slot} (free : st p = none)
    (content : Option (COMPtr IMedium)) : (st.set p content).set p none = st := by
  funext q
  by_cases h : q = p
  · rw [h, set_self, free]
  · rw [set_other _ _ h, set_other _ _ h]

/-- The slot that a call names. -/
def touched : Act → Option Slot
  | .cmd (.attachDevice m name port device _ _) => some ⟨m.vm, name, port, device⟩
  | .cmd (.detachDevice m name port device) => some ⟨m.vm, name, port, device⟩
  | .cmd (.mountMedium m name port device _ _) => some ⟨m.vm, name, port, device⟩
  | _ => none

/-- What an answered call does to the attachments. -/
def storageNext (st : Storage) : (a : Act) → a.Ans → Storage
  | .cmd (.attachDevice m name port device _ medium), .ok _ =>
    st.set ⟨m.vm, name, port, device⟩ (some medium)
  | .cmd (.detachDevice m name port device), .ok _ => st.set ⟨m.vm, name, port, device⟩ none
  | .cmd (.mountMedium m name port device medium _), .ok _ =>
    st.set ⟨m.vm, name, port, device⟩ (some medium)
  | _, _ => st

/-- The attachments after the answered calls of a trace. -/
def storageAfter (st : Storage) (t : VbTrace) : Storage :=
  t.foldl (fun st e => storageNext st e.1 e.2) st

/-- A call changes no other slot than the one it names. -/
theorem storageNext_other {st : Storage} {a : Act} {x : a.Ans} {p : Slot}
    (h : touched a ≠ some p) : storageNext st a x p = st p := by
  have hset (q : Slot) (content : Option (COMPtr IMedium)) (hq : some q ≠ some p) :
      st.set q content p = st p :=
    st.set_other content fun hpq => hq (congrArg some hpq.symm)
  fun_cases storageNext st a x with
  | case1 => exact hset _ _ h
  | case2 => exact hset _ _ h
  | case3 => exact hset _ _ h
  | case4 => rfl

theorem storageAfter_other {st : Storage} {t : VbTrace} {p : Slot}
    (h : ∀ e ∈ t, touched e.1 ≠ some p) : storageAfter st t p = st p := by
  induction t generalizing st with
  | nil => rfl
  | cons e t ih =>
    have hrest : storageAfter (storageNext st e.1 e.2) t p = storageNext st e.1 e.2 p :=
      ih fun e' he' => h e' (List.mem_cons_of_mem e he')
    exact hrest.trans (storageNext_other (h e List.mem_cons_self))

theorem storageAfter_append (st : Storage) (t u : VbTrace) :
    storageAfter st (t ++ u) = storageAfter (storageAfter st t) u :=
  List.foldl_append

/-! ## Which slots are named -/

/-- A program that names slots of the kind `P` only, however it ends. -/
abbrev Stays {α : Type} (P : Slot → Prop) (p : Vb α) : Prop :=
  Only (fun a => ∀ q, touched a = some q → P q) p

attribute [simp] touched

/-- Describing an error names no slot. -/
theorem reporting_stays {P : Slot → Prop} (a : Act) (ha : Reporting a) :
    ∀ q, touched a = some q → P q := by
  intro q hq
  cases a <;> first | exact ha.elim | cases hq

end VirtCore
