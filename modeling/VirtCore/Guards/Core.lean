import VirtCore.Guards.View
import VirtCore.Core.Install
import VirtCore.Core.Snapshot

/-!
# VirtCore — the guards of the operations of `QiVCA`
-/

namespace VirtCore.QiVCA


open Interact

variable {vm : Nat}

/-! ## The power operations

Each looks its machine up, reads the state once, and acts in the states of its `switch` only. The
proofs go through the operation in that order; what differs is how it leaves in the other states. -/

/-- `startUp` starts a machine that is off, aborted or saved. -/
theorem startUp_heeds (fuel : Nat) (n ui : String) :
    Heeds (stateOf vm) (switch [.PoweredOff, .Aborted, .Saved]) (startUp fuel n ui) := by
  refine Triple.handle (D := fun _ s => s.2) ?_ fun e => ?_
  · refine heeds_find (fun _ => id) (only_of (by simp [Cmd.setting])) fun m hm => ?_
    exact heeds_switch hm (only_of (by simp)) (only_of (by simp [Cmd.setting]))
  · cases e with
    | threw err =>
      refine heeds_of_only (fun _ => id) ?_
      exact only_bind (only_reportError reporting_not_acting fuel err) fun _ => only_ret _
    | nullUse => exact Triple.exit fun _ hs => hs
    | noReturn => exact Triple.exit fun _ hs => hs
    | spin => exact Triple.exit fun _ hs => hs

/-- The four operations that act by the console, for the states given. -/
theorem consoleAction_heeds {states : List MachineState} {action : IConsole → Cmd}
    {notFound : COMPtr IMachine → Vb Unit}
    (hnotFound : Only (fun a => ¬Acting a) (notFound none)) (wrongState n : String) :
    Heeds (stateOf vm) (switch states) (consoleAction states action wrongState notFound n) := by
  refine heeds_find (fun _ => id) ?_ fun m hm => ?_
  · exact only_bind hnotFound fun _ => only_ret _
  · exact heeds_switch hm (only_of (by simp)) (only_of (by simp [Cmd.setting]))

/-- `shutDown` acts on a running machine. -/
theorem shutDown_heeds (n : String) : Heeds (stateOf vm) (switch [.Running]) (shutDown n) :=
  consoleAction_heeds (only_of (by simp [Cmd.setting])) _ n

/-- `pause` acts also on one that is starting or stopping. -/
theorem pause_heeds (n : String) :
    Heeds (stateOf vm) (switch [.Running, .Starting, .Stopping]) (pause n) :=
  consoleAction_heeds (only_of (by simp [Cmd.setting])) _ n

/-- `resume` acts on a paused one. -/
theorem resume_heeds (n : String) : Heeds (stateOf vm) (switch [.Paused]) (resume n) :=
  consoleAction_heeds (only_of (by simp [Cmd.setting])) _ n

/-- `restart` acts on a running one. -/
theorem restart_heeds (n : String) : Heeds (stateOf vm) (switch [.Running]) (restart n) :=
  consoleAction_heeds (only_of (by simp [Cmd.setting])) _ n

/-- The guard of `powerOff`, which lists the states it refuses. -/
def powerOffGuard : Guard vboxSig MachineState where
  acts := Acting
  admits _ st := st ∉ powerOffRefuses

/-- `powerOff` acts in all states but those that it refuses. -/
theorem powerOff_heeds (n : String) : Heeds (stateOf vm) powerOffGuard (powerOff n) := by
  refine heeds_find (fun _ => id) (only_of (by simp [Cmd.setting])) fun m hm => ?_
  refine heeds_state (fun _ => id) hm fun st => ?_
  split
  · exact (heeds_of_only (fun _ => id) (only_of (by simp [Cmd.setting]))).told st
  · refine told_of_only (fun _ => id) (Only.mono (P := fun a => ¬Looks a) ?_ ?_)
    · exact only_of (by simp)
    · exact fun _ ha => ⟨ha, fun _ => ‹st ∉ powerOffRefuses›⟩

/-- `vmSleep` acts on its own `switch`, wherever it is called. -/
theorem vmSleepWith_heeds {G : Guard vboxSig MachineState} (hG : ∀ a, G.acts a → Acting a)
    (hadmits : ∀ m, ∀ st ∈ [MachineState.Running, .Paused], G.admits (.ptr (.saveState m)) st)
    {assign : String → Vb Unit} (hassign : ∀ text, Only (fun a => ¬Acting a) (assign text))
    (n : String) : Heeds (stateOf vm) G (vmSleepWith assign n) := by
  refine heeds_find hG (only_bind (hassign _) fun _ => only_exit _) fun m hm => ?_
  refine heeds_state hG hm fun st => ?_
  dsimp only
  split
  · refine told_of_only hG (Only.mono
      (P := fun a => ¬Looks a ∧ (Acting a → ∃ m, a = .ptr (.saveState m))) ?_ fun a ha => ?_)
    · exact only_of (by simp [Cmd.setting])
    · refine ⟨ha.1, fun hacts => ?_⟩
      obtain ⟨m, rfl⟩ := ha.2 hacts
      exact hadmits m st ‹_›
  · refine (heeds_of_only hG ?_).told st
    exact only_bind (only_of (by simp [Cmd.setting])) fun _ => only_bind (hassign _) fun _ =>
      only_ret _

/-- `vmSleep` acts on a running or a paused machine. -/
theorem vmSleep_heeds (n : String) :
    Heeds (stateOf vm) (switch [.Running, .Paused]) (vmSleep n) :=
  (vmSleepWith_heeds (fun _ => id) (fun _ _ => id)
    (fun _ => only_of (by simp [Cmd.setting])) n).bind
    fun _ => Triple.ret fun _ hs => hs

/-! ## Snapshots and clones

`takeSnapshot` makes its session before it reads the state, and `restoreSnapshot` reads the state
twice where it puts the machine to sleep. The others are as the power operations are. -/

/-- The session is there before the state is read. -/
theorem takeSnapshot_heeds (n s : String) :
    Heeds (stateOf vm) (switch [.Running]) (takeSnapshot n s) := by
  refine heeds_find (fun _ => id) (only_of (by simp [Cmd.setting])) fun m hm => ?_
  refine heeds_bind (fun _ => id) (only_of (by simp [Cmd.setting])) fun session => ?_
  refine heeds_switch hm (only_of ?_) (only_of (by simp [Cmd.setting]))
  cases session <;> simp

/-- `deleteSnapshot` acts in three states. -/
theorem deleteSnapshot_heeds (n s : String) :
    Heeds (stateOf vm) (switch [.PoweredOff, .Running, .Saved]) (deleteSnapshot n s) := by
  refine heeds_find (fun _ => id) (only_of (by simp [Cmd.setting])) fun m hm => ?_
  exact heeds_switch hm (only_of (by simp)) (only_of (by simp [Cmd.setting]))

/-- The guard of `restoreSnapshot`: it saves a machine that `vmSleep` accepts, and restores in
its own states. -/
def restoreGuard : Guard vboxSig MachineState where
  acts := Acting
  admits
    | .ptr (.saveState _), st => st ∈ [MachineState.Running, .Paused]
    | _, st => st ∈ [MachineState.PoweredOff, .Saved]

/-- `restoreSnapshot` restores in two states, and puts to sleep in others. -/
theorem restoreSnapshot_heeds (fuel : Nat) (n s : String) :
    Heeds (stateOf vm) restoreGuard (restoreSnapshot fuel n s) := by
  refine heeds_tryReport (fun _ => id) ?_
  refine heeds_find (fun _ => id) (only_of (by simp [Cmd.setting])) fun m hm => ?_
  refine heeds_state (fun _ => id) hm fun st => ?_
  dsimp only
  split
  · refine Heeds.told ?_ st
    -- a running machine is put to sleep, which looks at its state itself
    refine (vmSleepWith_heeds (fun _ => id) (fun _ _ => id) (fun _ => only_ret _) n).bind
      fun r => ?_
    refine heeds_of_only (fun _ => id) (only_of ?_)
    cases r <;> simp [Cmd.setting]
  split
  · -- this branch has seen a machine that is powered off or saved, and does not put it to sleep
    refine told_of_only (fun _ => id) (Only.mono
      (P := fun a => ¬Looks a ∧ ∀ m, a ≠ .ptr (.saveState m)) ?_ fun a ha => ?_)
    · exact only_of (by simp)
    · refine ⟨ha.1, fun _ => ?_⟩
      unfold restoreGuard
      dsimp only
      split
      · exact absurd rfl (ha.2 _)
      · exact ‹st ∈ [MachineState.PoweredOff, .Saved]›
  · exact (heeds_of_only (fun _ => id) (only_of (by simp [Cmd.setting]))).told st

/-- `cloneFullVM` clones a machine that is off or saved. -/
theorem cloneFullVM_heeds (fuel : Nat) (n bf t : String) (macs uuids disks : Bool) :
    Heeds (stateOf vm) (switch [.PoweredOff, .Saved])
      (cloneFullVM fuel n bf t macs uuids disks) := by
  refine heeds_find (fun _ => id) (only_of (by simp [Cmd.setting])) fun m hm => ?_
  refine heeds_bind (fun _ => id) (only_of (by simp [Cmd.setting])) fun _ => ?_
  refine heeds_bind (fun _ => id) (only_of (by simp [Cmd.setting])) fun _ => ?_
  refine heeds_switch hm (only_of ?_) (only_of (by simp [Cmd.setting]))
  simp
  refine fun path os target p => Only.seq ?_ (by simp) (by simp)
  exact only_pollCompleted (fun _ => id) fuel (some p)

/-- And so does `cloneLinkVM`, which takes its snapshot behind the guard. -/
theorem cloneLinkVM_heeds (fuel : Nat) (n bf t : String) :
    Heeds (stateOf vm) (switch [.PoweredOff, .Saved]) (cloneLinkVM fuel n bf t) := by
  refine heeds_tryReport (fun _ => id) ?_
  refine heeds_find (fun _ => id) (only_of (by simp [Cmd.setting])) fun m hm => ?_
  refine heeds_bind (fun _ => id) (only_of (by simp [Cmd.setting])) fun _ => ?_
  refine heeds_bind (fun _ => id) (only_of (by simp [Cmd.setting])) fun _ => ?_
  refine heeds_switch hm (only_of ?_) (only_of (by simp [Cmd.setting]))
  have hpoll (p : IProgress) : Only (fun a => ¬Looks a) (pollCompleted fuel (some p)) :=
    only_pollCompleted (fun _ => id) fuel (some p)
  simp
  exact fun path os target snap snapmachine p => (hpoll p).seq (by simp) (by simp)

/-! ## Deletion -/

/-- `deleteVM` deletes a machine that is powered off. -/
theorem deleteVM_heeds (fuel : Nat) (n : String) (ty : Int) :
    Heeds (stateOf vm) (switch [.PoweredOff]) (deleteVM fuel n ty) := by
  refine heeds_tryReport (fun _ => id) ?_
  refine heeds_find (fun _ => id) (only_of (by simp [Cmd.setting])) fun m hm => ?_
  refine heeds_switch hm (only_of ?_) (only_of (by simp [Cmd.setting]))
  cases cleanupMode ty <;> simp

end VirtCore.QiVCA
