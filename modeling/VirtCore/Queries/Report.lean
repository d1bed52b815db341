import VirtCore.Interact.Pair
import VirtCore.Operation
import VirtCore.VBox.Rules

/-!
# VirtCore — what a query reports

A query returns `true` and puts one text out as its result.

* **`reportView`** — the texts put out, in an environment that gives answers of one kind.
* **`Reports`** — an execution reports a text.
* **`reports_iff`** — a triple about the program says when.
* **`Reads`** — a program that puts nothing out, and what it returns.
-/

namespace VirtCore


open Interact

variable {J : Jsoncpp} {kind : (a : Act) → a.Ans → Prop}

/-- A text is put out as result. -/
def putsResult (text : String) (a : Act) (_ : a.Ans) : Prop := a = .put .result text

attribute [simp] putsResult

/-- The texts put out so far, where all answers are of the kind. -/
abbrev reportView (kind : (a : Act) → a.Ans → Prop) : View vboxSig (String → Prop) :=
  (View.noting putsResult).only kind

/-- A libvbox call puts nothing out. -/
@[simp] theorem noting_ptr (st : String → Prop) (c : PtrCall) (x : (Act.ptr c).Ans) :
    (View.noting putsResult : View vboxSig (String → Prop)).next st (.ptr c) x = st := by
  funext text
  simp

@[simp] theorem noting_val (st : String → Prop) (c : ValCall) (x : (Act.val c).Ans) :
    (View.noting putsResult : View vboxSig (String → Prop)).next st (.val c) x = st := by
  funext text
  simp

/-- The execution returns `true`, and puts out `text` and no other result. -/
def OpRun.Reports (r : OpRun J) (text : String) : Prop :=
  r.result = .ok (some true) ∧
    ∀ text', (⟨.put .result text', ()⟩ : Event vboxSig) ∈ r.trace ↔ text' = text

/-- The texts noted are those of the trace. -/
theorem noting_puts (t : VbTrace) (text : String) :
    (View.noting putsResult).after (fun _ => False) t text ↔
      (⟨.put .result text, ()⟩ : Event vboxSig) ∈ t := by
  rw [View.noting_after]
  refine ⟨fun h => ?_, fun h => .inr ⟨_, h, rfl⟩⟩
  obtain ⟨⟨a, u⟩, he, rfl⟩ := h.resolve_left id
  exact he

/-- When an execution reports a text. -/
theorem reports_iff {r : OpRun J} {p : Vb Bool} {text : String} {good : Prop}
    (hprog : r.op.prog J r.fuel = some <$> p) (hkind : ∀ e ∈ r.trace, kind e.1 e.2)
    (hp : Triple (reportView kind) (fun st => ∀ text', ¬st text') p
      (fun b st => (b = true ∧ ∀ text', st text' ↔ text' = text) ↔ good) fun _ _ =>
        ¬good) : r.Reports text ↔ good := by
  have hadmits : (reportView kind).Admits (fun _ => False) r.trace :=
    View.only_admits (View.noting_admits _ _) hkind
  have hrun := (triple_some hp).runs (fun _ => id) (hprog ▸ r.runs) hadmits
  rw [View.only_after] at hrun
  unfold OpRun.Reports
  cases hresult : r.result with
  | error e =>
    rw [hresult] at hrun
    exact iff_of_false nofun hrun
  | ok o =>
    rw [hresult] at hrun
    obtain ⟨b, rfl, hb⟩ := hrun
    rw [← hb]
    simp only [noting_puts, Except.ok.injEq, Option.some.injEq]

/-! ## Programs that put nothing out -/

/-- A program that puts nothing out, and returns `r`. -/
abbrev Reads {α : Type} (kind : (a : Act) → a.Ans → Prop) (p : Vb α) (r : α) : Prop :=
  ∀ st, Triple (reportView kind) (· = st) p (fun a st' => a = r ∧ st' = st) fun _ _ => False

variable {α β γ : Type}

theorem reads_ret (r : α) : Reads kind (.ret r) r :=
  fun _ => Triple.ret fun _ h => ⟨rfl, h⟩

theorem reads_bind {p : Vb α} {f : α → Vb β} {r : α} {r' : β} (hp : Reads kind p r)
    (hf : Reads kind (f r) r') : Reads kind (p >>= f) r' := by
  intro st
  refine Triple.bind (hp st) fun a => ?_
  rintro st' ⟨rfl, hst⟩
  exact hf st st' hst

end VirtCore
