import VirtCore.Machines.View
import VirtCore.Operation
import VirtCore.VBox.Calm

/-!
# VirtCore — a host with one machine

Concrete executions of the operations that change or make machines are taken on this host.
-/

namespace VirtCore.Machines


open Interact Keyed

def plain : Hypervisor where
  defaults _ _ := .absent
  stored _ _ := .absent
  imports _ := []
  ending _ := 0
  uuid _ := ""
  controllerName _ := ""
  location _ := ""

/-- Machine 0 is registered under the name `vm`, and there is no other. -/
def oneMachine : VBoxHost where
  store := {
    saved := fun vm => if vm = 0 then some fun f => if f = .name then .text "vm" else .absent
      else none
    draft := fun _ => none }
  registered vm := vm == 0
  history _ := []
  known _ := false
  files _ := false

/-- Every call succeeds, and a new machine is machine 1. -/
def making (st : MachineState) : Oracle vboxSig := fun h a =>
  match a with
  | .ptr (.createMachine ..) => .ok (some ⟨1, .host⟩)
  | a => calm st h a

/-- An execution of an operation whose program is known in a simpler form. -/
theorem play_eq {J : Jsoncpp} {fuel : Nat} {ω : Oracle vboxSig} {op : Op} {p : Vb (Option Bool)}
    (h : op.prog J fuel = p) : (op.play J fuel ω).trace = (exec ω [] p).1 ∧
      (op.play J fuel ω).result = (exec ω [] p).2 := by
  subst h
  exact ⟨rfl, rfl⟩

end VirtCore.Machines
