import VirtCore.Locks.Core
import VirtCore.Locks.Configure
import VirtCore.VBox.Calm

/-!
# VirtCore — session locks over whole runs

Any number of operations one after the other: as long as no answer strands one of them, every
lock an operation took is given back by one unlock of the same session before it ends, so the
next operation starts without a lock.

* **`locksAfter`** — the balance after a trace, from `lockNext`.
* **`OpRun.Stranded`** — an answer of `Op.strands` came while a lock was held.
* **`op_settles`** — one operation; **`locks_balanced`** — any sequence.
-/

namespace VirtCore


open Interact QiVCA VcaVmConfigure

variable {J : Jsoncpp}

/-- The balance after the answered calls of a trace. -/
def locksAfter (b : Balance) (t : VbTrace) : Balance :=
  t.foldl (fun b e => lockNext b e.1 e.2) b

theorem lockView_after (strands : (a : Act) → a.Ans → Prop) (b : Balance) (t : VbTrace) :
    (lockView strands).after b t = locksAfter b t := by
  induction t generalizing b with
  | nil => rfl
  | cons e t ih => exact ih _

/-- A lock of the session. -/
def locks (s : ISession) : (a : Act) → a.Ans → Bool
  | .cmd (.lockMachine _ (some s') _), .ok _ => s' = s
  | .ptr (.launchVMProcess _ (some s') _ _), .ok _ => s' = s
  | _, _ => false

/-- An unlock of the session. -/
def unlocks (s : ISession) : (a : Act) → a.Ans → Bool
  | .cmd (.unlockMachine s'), .ok _ => s' = s
  | _, _ => false

theorem lockNext_apply (b : Balance) (a : Act) (x : a.Ans) (s : ISession) :
    lockNext b a x s = b s + (if locks s a x then 1 else 0) - if unlocks s a x then 1 else 0 := by
  fun_cases lockNext b a x with
  | case1 m s' t =>
    by_cases h : s = s' <;> simp [Balance.acquire, locks, unlocks, h, eq_comm]
  | case2 s' =>
    by_cases h : s = s' <;> simp [Balance.release, locks, unlocks, h, eq_comm]
  | case3 m s' =>
    by_cases h : s = s' <;> simp [Balance.acquire, locks, unlocks, h, eq_comm]
  | case4 hlock hunlock hlaunch =>
    have hl : locks s a x = false := by unfold locks; split <;> grind
    have hu : unlocks s a x = false := by unfold unlocks; split <;> grind
    simp [hl, hu]

/-- The balance counts locks minus unlocks. -/
theorem locksAfter_apply (b : Balance) (t : VbTrace) (s : ISession) :
    locksAfter b t s = b s + t.countP (fun e => locks s e.1 e.2) -
      t.countP (fun e => unlocks s e.1 e.2) := by
  induction t generalizing b with
  | nil => simp [locksAfter]
  | cons e t ih =>
    have hstep : locksAfter b (e :: t) s = locksAfter (lockNext b e.1 e.2) t s := rfl
    rw [hstep, ih, lockNext_apply, List.countP_cons, List.countP_cons]
    split <;> split <;> omega

/-- **One operation.** -/
theorem op_settles (J : Jsoncpp) (fuel : Nat) (op : Op) :
    Settles op.strands (op.prog J fuel) := by
  -- one lemma for each operation, for the answers that strand a lock of it
  cases op with
  | listVMs => exact settles_map (listVMs_settles _ _)
  | startUp => exact settles_bind (startUp_settles _ _ _) fun _ => Triple.ret fun _ h => h
  | shutDown => exact settles_map (shutDown_settles _)
  | powerOff => exact settles_map (powerOff_settles _)
  | pause => exact settles_map (pause_settles _)
  | resume => exact settles_map (resume_settles _)
  | vmSleep => exact settles_map (vmSleep_settles _)
  | restart => exact settles_map (restart_settles _)
  | makeFloatDisk => exact settles_map (makeFloatDisk_settles _ _ _ _ _)
  | addDiskToVm => exact settles_map (addDiskToVm_settles _ _ _ _ _ _ _)
  | destroyFloatDiskWithoutAttach => exact settles_map (destroyFloatDiskWithoutAttach_settles _)
  | detachDiskFromVm => exact settles_map (detachDiskFromVm_settles _ _ _)
  | getVmInfo => exact settles_map (getVmInfo_settles _ _)
  | getVmSnapshotInfo => exact settles_map (getVmSnapshotInfo_settles _ _)
  | takeSnapshot => exact settles_map (takeSnapshot_settles _ _)
  | restoreSnapshot => exact settles_map (restoreSnapshot_settles _ _ _)
  | deleteSnapshot => exact settles_map (deleteSnapshot_settles _ _)
  | cloneFullVM => exact settles_map (cloneFullVM_settles _ _ _ _ _ _ _)
  | cloneLinkVM => exact settles_map (cloneLinkVM_settles _ _ _ _)
  | createVMfromSystemdisk => exact settles_map (createVMfromSystemdisk_settles _ _ _ _ _ _ _ _)
  | createVMfromISO => exact settles_map (createVMfromISO_settles _)
  | deleteVM => exact settles_map (deleteVM_settles _ _ _)
  | exportVM => exact settles_map (exportVM_settles _ _ _ _ _)
  | importVM => exact settles_map (importVM_settles _ _ _ _ _ _ _ _ _)
  | setBridge => exact settles_map (setBridge_settles _ _ _ _)
  | addBridge => exact settles_map (addBridge_settles _ _ _)
  | setNat => exact settles_map (setNat_settles _ _ _)
  | addNat => exact settles_map (addNat_settles _ _ _)
  | setAdaptorMAC => exact settles_map (setAdaptorMAC_settles _ _ _ _)
  | disableAdaptor => exact settles_map (disableAdaptor_settles _ _ _)
  | createSharefolder => exact settles_map (createSharefolder_settles _ _ _ _ _ _ _)
  | removeSharedFolder => exact settles_map (removeSharedFolder_settles _ _ _)
  | setSimpleRemoteDisplay => exact settles_map (setSimpleRemoteDisplay_settles _ _ _ _ _ _)
  | getRdpInfo => exact settles_map (getRdpInfo_settles _ _ _)
  | disableRDP => exact settles_map (disableRDP_settles _ _)
  | resetCpuCount => exact settles_map (resetLimit_settles _ (fun _ _ _ => rfl) _ _ _)
  | resetMemSize => exact settles_map (resetLimit_settles _ (fun _ _ _ => rfl) _ _ _)
  | resetGraphics => exact settles_map (resetGraphics_settles _ _ _ _ _ _)
  | setRecordingScreenConfig =>
    exact settles_map (setRecordingScreenConfig_settles _ _ _ _ _ _ _ _ _ _)
  | switchRecordingScreen => exact settles_map (switchRecordingScreen_settles _ _ _ _)
  | addUSBController => exact settles_map (addUSBController_settles _ _ _ _)
  | delUSBController => exact settles_map (delUSBController_settles _ _ _)
  | setAudio => exact settles_map (setAudio_settles _ _ _ _)
  | switchAudio => exact settles_map (switchAudio_settles _ _ _)
  | addSerialPort => exact settles_map (switchSerialPort_settles _ _ _ _)
  | delSerialPort => exact settles_map (switchSerialPort_settles _ _ _ _)

/-- Some answer that strands the operation came while it held a lock. -/
def OpRun.Stranded (r : OpRun J) : Prop :=
  ∃ before e later, r.trace = before ++ e :: later ∧ locksAfter .free before ≠ .free ∧
    r.op.strands e.1 e.2

/-- Without such an answer the execution is one of the lock view's environment. -/
theorem admits_of_not_stranded {strands : (a : Act) → a.Ans → Prop} {b : Balance} {t : VbTrace}
    (h : ∀ before e later, t = before ++ e :: later → locksAfter b before ≠ .free →
      ¬strands e.1 e.2) : (lockView strands).Admits b t := by
  induction t generalizing b with
  | nil => trivial
  | cons e t ih =>
    refine ⟨h [] e t rfl, ih fun before e' later ht => ?_⟩
    exact h (e :: before) e' later (congrArg (e :: ·) ht)

/-- An operation that starts without a lock and is not stranded ends without one. -/
theorem OpRun.locks_free {r : OpRun J} (ended : r.Ended) (h : ¬r.Stranded) :
    locksAfter .free r.trace = .free := by
  have hadmits : (lockView r.op.strands).Admits .free r.trace :=
    admits_of_not_stranded fun before e later ht hb hs => h ⟨before, e, later, ht, hb, hs⟩
  have hout := (op_settles J r.fuel r.op).runs rfl r.runs hadmits
  rw [lockView_after] at hout
  obtain ⟨hnull, hspin⟩ := ended
  revert hout hnull hspin
  rcases r.result with (err | _ | _ | _) | res <;> intro hout hnull hspin
  · exact hout
  · exact (hnull rfl).elim
  · exact hout
  · exact (hspin rfl).elim
  · exact hout

theorem locksAfter_append (b : Balance) (t u : VbTrace) :
    locksAfter b (t ++ u) = locksAfter (locksAfter b t) u :=
  List.foldl_append

/-- **Whole runs.** In a sequence of operations none of which is stranded while it holds a lock,
each operation unlocks every session as often as it locked it, and no session is locked between
two operations or at the end. -/
theorem locks_balanced {rs : List (OpRun J)} (ended : ∀ r ∈ rs, r.Ended)
    (free : ∀ r ∈ rs, ¬r.Stranded) :
    (∀ r ∈ rs, ∀ s, r.trace.countP (fun e => locks s e.1 e.2) =
      r.trace.countP (fun e => unlocks s e.1 e.2)) ∧
    ∀ done todo, rs = done ++ todo → locksAfter .free (done.flatMap (·.trace)) = .free := by
  refine ⟨fun r hr s => ?_, fun done todo hrs => ?_⟩
  · have hfree : locksAfter .free r.trace s = 0 :=
      congrFun (OpRun.locks_free (ended r hr) (free r hr)) s
    rw [locksAfter_apply] at hfree
    have hzero : Balance.free s = 0 := rfl
    omega
  · subst hrs
    induction done with
    | nil => rfl
    | cons r done ih =>
      have hr : r ∈ r :: done ++ todo := List.mem_cons_self
      rw [List.flatMap_cons, locksAfter_append, OpRun.locks_free (ended r hr) (free r hr)]
      exact ih (fun r' h' => ended r' (List.mem_cons_of_mem r h'))
        fun r' h' => free r' (List.mem_cons_of_mem r h')

/-- A running machine is shut down, and every call succeeds. -/
theorem locks_balanced_shutDown :
    (∀ s, (Op.play .mute 0 (calm .Running) (.shutDown "vm")).trace.countP
        (fun e => locks s e.1 e.2) =
      (Op.play .mute 0 (calm .Running) (.shutDown "vm")).trace.countP
        (fun e => unlocks s e.1 e.2)) ∧
    locksAfter .free (Op.play .mute 0 (calm .Running) (.shutDown "vm")).trace = .free := by
  have hended : (Op.play .mute 0 (calm .Running) (.shutDown "vm")).Ended :=
    ⟨nofun, nofun⟩
  have hcalm : ∀ e ∈ (Op.play .mute 0 (calm .Running) (.shutDown "vm")).trace,
      ¬threwError e.1 e.2 := by
    have htrace : (Op.play .mute 0 (calm .Running) (.shutDown "vm")).trace =
        [⟨.ptr (.findMachine "vm"), .ok (some ⟨0, .host⟩)⟩,
          ⟨.val (.state ⟨0, .host⟩), .ok .Running⟩,
          ⟨.ptr .session, .ok (some ⟨0⟩)⟩,
          ⟨.cmd (.lockMachine ⟨0, .host⟩ (some ⟨0⟩) .Shared), .ok ()⟩,
          ⟨.ptr (.console ⟨0⟩), .ok (some ⟨⟨0⟩⟩)⟩,
          ⟨.cmd (.powerButton ⟨⟨0⟩⟩), .ok ()⟩,
          ⟨.cmd (.unlockMachine ⟨0⟩), .ok ()⟩,
          ⟨.release (.machine ⟨0, .host⟩), ()⟩] := rfl
    simp [htrace]
  -- nothing was thrown, so that no answer has stranded a lock
  have hfree : ¬(Op.play .mute 0 (calm .Running) (.shutDown "vm")).Stranded := by
    rintro ⟨before, e, later, ht, -, hs⟩
    refine hcalm e ?_ hs
    rw [ht]
    exact List.mem_append_right before List.mem_cons_self
  have hrun := @locks_balanced _ [Op.play .mute 0 (calm .Running) (.shutDown "vm")]
    (by simpa using hended) (by simpa using hfree)
  exact ⟨hrun.1 _ List.mem_cons_self, by simpa using hrun.2 [_] [] rfl⟩

/-- A host whose remote display has no connection. -/
def noConnection : Oracle vboxSig := fun h a =>
  match a with
  | .val (.active _) => .ok false
  | a => calm .Running h a

/-- **The lock that stays.** `getRdpInfo` on a running machine without a connection returns
`false`, and session 0 is still locked. -/
theorem getRdpInfo_leaves_lock :
    ¬∀ rs : List (OpRun .mute), (∀ r ∈ rs, r.Ended) → ∀ r ∈ rs, ∀ s,
      r.trace.countP (fun e => locks s e.1 e.2) =
        r.trace.countP (fun e => unlocks s e.1 e.2) := by
  intro h
  have hended : (Op.play .mute 0 noConnection (.getRdpInfo "vm")).Ended := ⟨nofun, nofun⟩
  have hcount := h [Op.play .mute 0 noConnection (.getRdpInfo "vm")] (by simpa using hended) _
    List.mem_cons_self ⟨0⟩
  exact absurd hcount (by decide)

end VirtCore
