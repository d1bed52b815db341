import VirtCore.Answers.View

/-!
# VirtCore — definite answers of the operations of `QiVCA`

Each operation returns where no answer was fatal to it, and only there.
-/

namespace VirtCore.QiVCA


open Interact

variable (J : Jsoncpp) (fuel : Nat)

/-! ## The power operations

Four of them have one shape, and differ in the states that they accept and in the call on the
console. The other three are on their own. -/

/-- `startUp` returns either way; it has assigned `data` where no answer was fatal. -/
theorem startUp_copes (n ui : String) :
    Triple (answerView (.plain (fatalUnless noneFine))) (fun s => s.coped ∧ s.data = none)
      (startUp fuel n ui) (fun _ s => s.coped ↔ s.data.isSome) (Failed fuel) := by
  refine triple_catchReport (D := fun e s => Failed fuel e s ∧ s.data = none)
    (I := fun s => ¬s.coped ∧ s.data = none) ?_ ?_ ?_ ?_ ?_
  · rintro s a x ha ⟨hs, hd⟩ -
    refine ⟨fun h => hs h.1, ?_⟩
    cases a <;> first | exact ha.elim | exact hd
  · rintro err s ⟨hs, hd⟩
    exact ⟨(failed_threw err s).mp hs, hd⟩
  · rintro e s (⟨hs, -⟩ | ⟨hs, -⟩)
    · exact hs
    · exact .inr hs
  · rintro ⟨coped, armed, waits, message, data⟩ ⟨hs, rfl⟩
    obtain rfl : coped = True := eq_true hs
    simp
  · rintro err r s ⟨hs, hd⟩
    simp [hs, hd]

/-- The shape of four operations: find the machine, look at its state, lock it and call its
console. Where the machine was not found, the operation goes on to use the null pointer, as
`hnotFound` says. -/
theorem consoleAction_copes (states : List MachineState) (action : IConsole → Cmd)
    (wrongState : String) {notFound : COMPtr IMachine → Vb Unit}
    (hnotFound : ∀ s : AnswerState, ¬s.coped → wp (answerView (.plain (fatalUnless noneFine)))
      (notFound none) (fun s o => ¬s.coped ∧ ∃ e, o = .error e ∧ e ≠ .spin) s)
    (n : String) :
    Copes (.plain (fatalUnless noneFine)) fuel
      (consoleAction states action wrongState notFound n) := by
  refine copes_of fun armed waits message data => ?_
  simp [consoleAction]
  refine wp_mono ?_ (hnotFound _ (by simp))
  rintro s o ⟨hs, e, rfl, -⟩
  exact .inr hs

/-- `shutDown` presses the power button, and waits for nothing. -/
theorem shutDown_copes (n : String) :
    Copes (.plain (fatalUnless noneFine)) fuel (shutDown n) := by
  refine consoleAction_copes fuel _ _ _ (fun s hs => ?_) n
  simp [hs]

/-- `powerOff` falls off its end in the states it refuses, which is why those states are fatal to
it. -/
theorem powerOff_copes (n : String) : Copes (.plain powerOffFatal) fuel (powerOff n) := by
  refine copes_of fun armed waits message data => ?_
  simp [powerOff]

/-- `pause`, the same for a running machine. -/
theorem pause_copes (n : String) : Copes (.plain (fatalUnless noneFine)) fuel (pause n) := by
  refine consoleAction_copes fuel _ _ _ (fun s hs => ?_) n
  simp [hs]

/-- `resume`, the same for a paused one. -/
theorem resume_copes (n : String) : Copes (.plain (fatalUnless noneFine)) fuel (resume n) := by
  refine consoleAction_copes fuel _ _ _ (fun s hs => ?_) n
  simp [hs]

/-- `restart`, with its two messages in the other order. -/
theorem restart_copes (n : String) : Copes (.plain (fatalUnless noneFine)) fuel (restart n) := by
  refine consoleAction_copes fuel _ _ _ (fun s hs => ?_) n
  simp [hs]

/-- `vmSleep` checks the mutable machine, and without it goes on to unlock. -/
theorem vmSleep_copes (n : String) :
    Copes (.plain (fatalUnless mutableFine)) fuel (vmSleep n) := by
  refine copes_of fun armed waits message data => ?_
  simp [vmSleep, vmSleepWith]

/-! ## Disks

Attaching and detaching are the operations with a `try` of their own within the outer one; what it
catches is reported at once. -/

/-- Within the inner `try` of `addDiskToVm` only errors of the report itself are fatal. -/
theorem addDisk_describes (c : String) : Describes ⟨addDiskFatal c, addDiskArms⟩ where
  current armed x := by cases x <;> simp
  query armed info x := by rcases x with _ | _ | _ <;> simp
  text armed e x := by cases x <;> simp
  next armed e x := by rcases x with _ | _ | _ <;> simp
  print armed text := by simp

/-- The same of `detachDiskFromVm`. -/
theorem detachDisk_describes : Describes (.plain detachDiskFatal) where
  current armed x := by cases x <;> simp
  query armed info x := by rcases x with _ | _ | _ <;> simp
  text armed e x := by cases x <;> simp
  next armed e x := by rcases x with _ | _ | _ <;> simp
  print armed text := by simp

/-- The inner `try` catches what attaching or saving throws, and reports it. -/
theorem attachDisk_copes (m : IMachine) (ctl : IStorageController) (slot : Int)
    (disk : COMPtr IMedium) (path c : String) :
    Copes ⟨addDiskFatal c, addDiskArms⟩ fuel
      (attachDisk fuel (some m) (some ctl) slot disk path) := by
  have hreport := @copes_reportError _ fuel (addDisk_describes c)
  refine copes_of fun armed waits message data => ?_
  simp [attachDisk, wp_catchCOM]
  exact fun err => (hreport err).use trivial (fun _ _ hs => by simp [hs]) fun _ _ hs => hs

/-- `addDiskToVm` goes as far as the disk with a null mutable machine, and uses it then; the bit
of memory is clear at its start. -/
theorem addDiskToVm_copes (n d fmt c bf : String) (slot : Int) :
    Triple (answerView ⟨addDiskFatal c, addDiskArms⟩) (fun s => s.coped ∧ ¬s.armed)
      (addDiskToVm fuel n d fmt c bf slot) (fun _ s => s.coped) (Failed fuel) := by
  rintro ⟨coped, armed, waits, message, data⟩ ⟨hs, ha⟩
  obtain rfl : coped = True := eq_true hs
  obtain rfl : armed = False := eq_false ha
  unfold addDiskToVm
  -- an unknown format, and a slot that is refused, are answered before any call
  split
  · simp
  split
  · simp
  · simp
    refine fun machine session m disk hc => ⟨?_, fun ctl => ?_⟩
    · simp [attachDisk, wp_catchCOM]
    · refine (attachDisk_copes fuel m ctl slot _ _ c).use trivial ?_ fun _ _ hs => hs
      rintro (_ | b) s hs <;> simp [hs]

/-- `detachDiskFromVm` catches the error of detaching in the same way. -/
theorem detachDiskFromVm_copes (n : String) (slot : Int) :
    Copes (.plain detachDiskFatal) fuel (detachDiskFromVm fuel n slot) := by
  have hreport := @copes_reportError _ fuel detachDisk_describes
  refine copes_of fun armed waits message data => ?_
  simp [detachDiskFromVm, detachDisk, wp_catchCOM]
  exact fun m ctl err =>
    (hreport err).use trivial (fun _ _ hs => hs) fun _ _ hs => hs

/-! ## Queries

Both queries answer only with all they have read, so that a single fatal answer is enough to end
them. -/

/-- One attachment: its port, its medium, and the parent of that up to the base. -/
theorem diskEntry_copes (a : IMediumAttachment) :
    Copes ⟨vmInfoFatal, vmInfoArms⟩ fuel (diskEntry (some a)) := by
  refine copes_of fun armed waits message data => ?_
  simp [diskEntry]

/-- A null pointer among the attachments ends the disk loop. -/
theorem diskInfo_copes (m : IMachine) :
    Copes ⟨vmInfoFatal, vmInfoArms⟩ fuel (diskInfo J (some m)) := by
  refine copes_of fun armed waits message data => ?_
  simp [diskInfo]
  intro attachments
  -- a null attachment loses the loop at its turn, and without one every round copes
  by_cases hnull : none ∈ attachments
  · have hlost : Triple (answerView ⟨vmInfoFatal, vmInfoArms⟩) (¬·.coped)
        (Prog.fold (fun (disks : Json) attach => do
          return disks.append (.string (J.mapTojsonstr Json.string (← diskEntry attach))))
          .null attachments) (fun _ _ => False) (Failed fuel) :=
      Triple.fold_exit (fun _ s => ¬AnswerState.coped s) (fun _ _ _ => lost _) hnull
        (fun _ => Triple.exit (e := Exit.nullUse) fun _ hs => Or.inr hs) _
    exact hlost.use (by simpa using hnull) (fun _ _ hs => hs.elim) fun _ _ hs => hs
  · refine (Triple.fold (fun _ s => AnswerState.coped s) (fun attach hattach disks => ?_) _).use
      (by simpa using hnull) (fun _ _ hs => hs) fun _ _ hs => hs
    cases attach with
    | none => exact (hnull hattach).elim
    | some a => exact copes_bind (diskEntry_copes fuel a) fun _ => Triple.ret fun _ hs => hs

/-- One adapter, which is not null. -/
theorem netEntry_copes (json : Json) (a : INetworkAdapter) :
    Copes ⟨vmInfoFatal, vmInfoArms⟩ fuel (netEntry J json (some a)) := by
  refine copes_of fun armed waits message data => ?_
  simp [netEntry]

/-- Fetching an adapter says whether it was there; it is used later. -/
theorem getNetworkAdapter_copes (m : IMachine) (slot : Nat) (found : Prop) :
    Triple (answerView ⟨vmInfoFatal, vmInfoArms⟩) (·.coped ↔ found)
      (via (some m) fun m => ptr (.getNetworkAdapter m slot) : Vb (COMPtr INetworkAdapter))
      (fun adapter s => s.coped ↔ found ∧ adapter.isSome) (Failed fuel) := by
  intro s hs
  simp [hs]

/-- All four adapters are fetched before the first one is used. -/
theorem networkInfo_copes (m : IMachine) :
    Copes ⟨vmInfoFatal, vmInfoArms⟩ fuel (networkInfo J (some m)) := by
  have hadapter := getNetworkAdapter_copes fuel m
  have hfour : Triple (answerView ⟨vmInfoFatal, vmInfoArms⟩) (·.coped ↔ True)
      (networkInfo J (some m)) (fun _ s => s.coped) (Failed fuel) := by
    refine Triple.bind (hadapter 0 True) fun a0 => Triple.bind (hadapter 1 _) fun a1 =>
      Triple.bind (hadapter 2 _) fun a2 => Triple.bind (hadapter 3 _) fun a3 => ?_
    -- the four are written down in a loop, which is lost at the first null one
    by_cases hnull : none ∈ [a0, a1, a2, a3]
    · have hlost := Triple.fold_exit (v := answerView ⟨vmInfoFatal, vmInfoArms⟩)
        (E := Failed fuel) (fun _ s => ¬AnswerState.coped s)
        (fun a _ json => lost (netEntry J json a))
        hnull (fun _ => Triple.exit (e := Exit.nullUse) fun _ hs => Or.inr hs) .null
      refine hlost.conseq (fun s hs => ?_) (fun _ _ hs => hs.elim) fun _ _ hs => hs
      rw [hs]
      rcases a0 with _ | a0 <;> rcases a1 with _ | a1 <;> rcases a2 with _ | a2 <;>
        rcases a3 with _ | a3 <;> simp at hnull ⊢
    · have hround (a : COMPtr INetworkAdapter) (ha : a ∈ [a0, a1, a2, a3]) (json : Json) :
          Triple (answerView ⟨vmInfoFatal, vmInfoArms⟩) (fun s => s.coped) (netEntry J json a)
            (fun _ s => s.coped) (Failed fuel) := by
        cases a with
        | none => exact (hnull ha).elim
        | some a => exact netEntry_copes J fuel json a
      have hall := Triple.fold (fun _ s => AnswerState.coped s) hround .null
      refine hall.conseq (fun s hs => ?_) (fun _ _ hs => hs) fun _ _ hs => hs
      rw [hs]
      rcases a0 with _ | a0 <;> rcases a1 with _ | a1 <;> rcases a2 with _ | a2 <;>
        rcases a3 with _ | a3 <;> simp at hnull ⊢
  exact hfour.conseq (fun s hs => by simp [hs]) (fun _ _ hs => hs) fun _ _ hs => hs

/-- `getVmInfo` reads the disks, then the adapters, then the graphics. -/
theorem getVmInfo_copes (n : String) :
    Copes ⟨vmInfoFatal, vmInfoArms⟩ fuel (getVmInfo J n) := by
  refine copes_of fun armed waits message data => ?_
  simp [getVmInfo]
  refine ⟨by simp [diskInfo], fun m => ?_⟩
  refine (diskInfo_copes J fuel m).use trivial (fun disks s hs => ?_) fun _ _ hs => hs
  refine (networkInfo_copes J fuel m).use hs (fun adapters s hs => ?_) fun _ _ hs => hs
  simp [graphicsInfo, hs]

/-- `getVmSnapshotInfo` checks none of its pointers. -/
theorem getVmSnapshotInfo_copes (n : String) :
    Copes (.plain (fatalUnless noneFine)) fuel (getVmSnapshotInfo J n) := by
  refine copes_of fun armed waits message data => ?_
  simp [getVmSnapshotInfo]

/-! ## Snapshots and clones

Here some pointers are checked and others are used as they come. Which, is the `fatal` part of the
tolerance. -/

/-- `takeSnapshot` needs the session only where the machine runs. -/
theorem takeSnapshot_copes (n s : String) :
    Triple (answerView ⟨takeSnapshotFatal, takeSnapshotArms⟩) (fun s => s.coped ∧ ¬s.armed)
      (takeSnapshot n s) (fun _ s => s.coped) (Failed fuel) := by
  rintro ⟨coped, armed, waits, message, data⟩ ⟨hs, ha⟩
  obtain rfl : coped = True := eq_true hs
  obtain rfl : armed = False := eq_false ha
  simp [takeSnapshot]

/-- `restoreSnapshot` checks the mutable machine and the snapshot, and its `try`
reports the rest. -/
theorem restoreSnapshot_copes (n s : String) :
    Copes (.plain (fatalUnless snapshotFine)) fuel (restoreSnapshot fuel n s) := by
  refine copes_tryReport (copes_of fun armed waits message data => ?_)
  simp [vmSleepWith]

/-- `deleteSnapshot` checks the same, without a `try`. -/
theorem deleteSnapshot_copes (n s : String) :
    Copes (.plain (fatalUnless snapshotFine)) fuel (deleteSnapshot n s) := by
  refine copes_of fun armed waits message data => ?_
  simp [deleteSnapshot]

/-- `cloneFullVM` waits for the copy, round by round. -/
theorem cloneFullVM_copes (n bf t : String) (macs uuids disks : Bool) :
    Copes (.plain (fatalUnless targetFine)) fuel (cloneFullVM fuel n bf t macs uuids disks) := by
  refine copes_of fun armed waits message data => ?_
  simp [cloneFullVM]
  intro machine _ path os target p
  refine (copes_pollCompleted (by simp) (by simp) fuel).use trivial ?_ fun _ _ hs => hs
  intro _ s hs
  simp [hs]

/-- `cloneLinkVM` waits in the same way, inside its `try`. -/
theorem cloneLinkVM_copes (n bf t : String) :
    Copes (.plain (fatalUnless mutableFine)) fuel (cloneLinkVM fuel n bf t) := by
  refine copes_tryReport (copes_of fun armed waits message data => ?_)
  simp
  intro machine id path os target snap from_ p
  refine (copes_pollCompleted (by simp) (by simp) fuel).use trivial ?_ fun _ _ hs => hs
  intro _ s hs
  simp [hs]

/-! ## Creating and deleting

One round of a loop over the kinds of systems is treated first. The loops then go through by the
rule for `forEach`, as all of their rounds cope with the same answers. -/

/-- `deleteVM` copes with a cleanup mode that it does not know. -/
theorem deleteVM_copes (n : String) (ty : Int) :
    Copes (.plain (fatalUnless noneFine)) fuel (deleteVM fuel n ty) := by
  refine copes_tryReport ?_
  cases cleanupMode ty with
  | none =>
    refine copes_of fun armed waits message data => ?_
    simp
  | some mode =>
    refine copes_of fun armed waits message data => ?_
    simp

/-- One round of `createVMfromSystemdisk`; without a controller of the bus it uses a null one once
the disk is open. -/
theorem installSystemdisk_copes (n os : String) (cpu mem : Int) (bf d bus : String) :
    Copes (.plain (systemdiskFatal bus)) fuel (installSystemdisk n os cpu mem bf d bus) := by
  refine copes_of fun armed waits message data => ?_
  cases h : storageBusOf bus <;> simp [installSystemdisk, addBusController, h]

/-- The rounds go over the kinds of systems, and all but those of the given name are skipped. -/
theorem createVMfromSystemdisk_copes (n os : String) (cpu mem : Int) (bf d bus : String) :
    Copes (.plain (systemdiskFatal bus)) fuel
      (createVMfromSystemdisk fuel n os cpu mem bf d bus) := by
  refine copes_tryReport (copes_bind (copes_forEach fun iter _ => ?_) fun r =>
    Triple.ret fun _ hs => hs)
  split
  · exact installSystemdisk_copes fuel n os cpu mem bf d bus
  · exact Triple.ret fun _ hs => hs

section

variable {n os : String} {cpu mem : Int} {bf : String} {size : Int} {iso fmt bus : String}
  {fix : Bool}

/-- Where the round goes on, no controller was null. -/
theorem installISODevices_copes (s : ISession) (m : IMachine) (disk : COMPtr IMedium) :
    Triple (answerView ⟨isoFatal bus, isoArms⟩) (fun s => s.coped ∧ ¬s.armed)
      (installISODevices (some s) (some m) disk iso bus)
      (fun r s => r.elim (s.coped ∧ ¬s.armed) fun _ => s.coped) (Failed fuel) := by
  rintro ⟨coped, armed, waits, message, data⟩ ⟨hs, ha⟩
  obtain rfl : coped = True := eq_true hs
  obtain rfl : armed = False := eq_false ha
  cases h : storageBusOf bus <;> simp [installISODevices, addBusController, h]

/-- One round of `createVMfromISO`, for a format whose suffix is known. -/
theorem installISO_copes (hpath : (createVMfromISOPath n fmt bf).isSome) :
    Triple (answerView ⟨isoFatal bus, isoArms⟩) (fun s => s.coped ∧ ¬s.armed)
      (installISO n os cpu mem bf size iso fmt bus fix)
      (fun r s => r.elim (s.coped ∧ ¬s.armed) fun _ => s.coped) (Failed fuel) := by
  obtain ⟨path, hpath⟩ := Option.isSome_iff_exists.mp hpath
  rintro ⟨coped, armed, waits, message, data⟩ ⟨hs, ha⟩
  obtain rfl : coped = True := eq_true hs
  obtain rfl : armed = False := eq_false ha
  simp [installISO, hpath]
  intro session m disk
  exact installISODevices_copes fuel session m _ _ ⟨trivial, id⟩

/-- The rounds go over the kinds of systems and, within each, over the formats. -/
theorem createVMfromISO_copes :
    Triple (answerView ⟨isoFatal bus, isoArms⟩) (fun s => s.coped ∧ ¬s.armed)
      (createVMfromISO fuel n os cpu mem bf size iso fmt bus fix) (fun _ s => s.coped)
      (Failed fuel) := by
  have hformat (iter_l : String) (hl : iter_l ∈ mediaType) :
      Triple (answerView ⟨isoFatal bus, isoArms⟩) (fun s => s.coped ∧ ¬s.armed)
        (if strcmpEq fmt iter_l then installISO n os cpu mem bf size iso fmt bus fix
          else .ret none)
        (fun r s => r.elim (s.coped ∧ ¬s.armed) fun _ => s.coped) (Failed fuel) := by
    split
    · exact installISO_copes fuel (createVMfromISOPath_isSome hl (by assumption))
    · exact Triple.ret fun _ hs => hs
  -- a round either answers, or leaves the controllers as they were for the next one
  refine copes_tryReport (Triple.bind (Triple.forEach (R := fun _ s => AnswerState.coped s)
    (fun s => AnswerState.coped s ∧ ¬s.armed) fun iter _ => ?_) fun r => ?_)
  · split
    · exact Triple.forEach (R := fun _ s => AnswerState.coped s)
        (fun s => AnswerState.coped s ∧ ¬s.armed) hformat
    · exact Triple.ret fun _ hs => hs
  · cases r with
    | none => exact Triple.ret fun _ hs => hs.1
    | some b => exact Triple.ret fun _ hs => hs

end

/-! ## Appliances -/

/-- `exportVM` waits for the appliance to be written. -/
theorem exportVM_copes (n : String) (mac : Bool) (ty path : String) :
    Copes (.plain (fatalUnless exportFine)) fuel (exportVM fuel n mac ty path) := by
  refine copes_tryReport (copes_of fun armed waits message data => ?_)
  simp
  intro app p
  refine (copes_pollCompleted (by simp) (by simp) fuel).use trivial ?_ fun _ _ hs => hs
  intro _ s hs
  simp [hs]

/-- `importVM` never answers: from its first call on it is bound to leave abnormally. -/
theorem importVM_copes (n ova : String) (mac : Bool) (os : String) (cpu mem : Int) (net : Bool)
    (bf : String) :
    Copes (.plain fun _ _ => True) fuel (importVM fuel n ova mac os cpu mem net bf) := by
  refine copes_tryReport (copes_of fun armed waits message data => ?_)
  simp
  -- every answer is fatal to it, so that each part is lost in turn
  intro app progress code hcode warn
  refine (lost (printWarnings fuel warn)).use id (fun _ s hs => ?_) fun _ _ hs => hs
  simp
  intro desc
  refine (lost (setImportValues n os cpu mem net bf desc)).use id (fun _ s hs => ?_)
    fun _ _ hs => hs
  simp
  intro p
  exact (lost (pollCompleted fuel (some p))).use id (fun _ s hs => hs) fun _ _ hs => hs

end VirtCore.QiVCA
