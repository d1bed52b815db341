import VirtCore.VBox.Only

/-!
# VirtCore — what the operations call

Few operations start a snapshot task or set a limited resource. What most of them call is
`ordinary`; what the others call beside that is a kind of its own.

* **`ordinary`** — the calls that no operation needs to answer for.
* **`Ordinary`** — a program that makes ordinary calls only.
* **`also`** — the ordinary calls, and those of one more kind.
-/

namespace VirtCore


open Interact

/-- A call that starts no snapshot task and sets no limited resource; the numbers that it passes on
from a request are in the ranges that the operations check. -/
def ordinary : Act → Prop
  | .ptr (.takeSnapshot ..) => False
  | .ptr (.restoreSnapshot ..) => False
  | .ptr (.deleteSnapshot ..) => False
  | .ptr (.getSerialPort ..) => False
  | .ptr (.getNetworkAdapter _ slot) => slot ≤ 3
  | .ptr (.getScreenSettings _ id) => id ≤ 7
  | .cmd (.setCPUCount ..) => False
  | .cmd (.setMemorySize ..) => False
  | .cmd (.setVRAMSize ..) => False
  | .cmd (.setMonitorCount ..) => False
  | .cmd (.setVideoWidth _ n) => n ≤ 2880
  | .cmd (.setVideoHeight _ n) => n ≤ 1800
  | .cmd (.setVideoFPS _ n) => n ≤ 30
  | .cmd (.setVideoRate _ n) => n ≤ 1024
  | _ => True

attribute [simp] ordinary

/-- A program that makes ordinary calls only. -/
abbrev Ordinary {α : Type} (p : Vb α) : Prop := Only ordinary p

/-- The ordinary calls and those of the kind `E`. -/
def also (E : Act → Prop) (a : Act) : Prop := ordinary a ∨ E a

attribute [simp] also

/-- What makes ordinary calls only makes no others when one more kind is allowed. -/
theorem Only.also {α : Type} {E : Act → Prop} {p : Vb α} (h : Ordinary p) : Only (also E) p :=
  h.mono fun _ => .inl

/-- An error report makes ordinary calls. -/
theorem reporting_ordinary (a : Act) (ha : Reporting a) : ordinary a := by
  cases a <;> first | exact ha.elim | trivial | skip
  case ptr c => cases c <;> first | exact ha.elim | trivial

/-- And so it may stand in any operation. -/
theorem reporting_also {E : Act → Prop} (a : Act) (ha : Reporting a) : also E a :=
  .inl (reporting_ordinary a ha)

/-- A number of a request that has passed its range check. -/
theorem uint32_le {k : Int} {n : Nat} (h : 0 ≤ k ∧ k ≤ n) (hn : n < 4294967296) :
    uint32 k ≤ n := by
  unfold uint32
  omega

end VirtCore
