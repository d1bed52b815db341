import VirtCore.Machines.Install
import VirtCore.Queries.Report

/-!
# VirtCore — the report on a machine

`getVmInfo` lists the disks on the controller named `SATA` and the enabled network adapters.

* **`MachineInfo`** — what the objects of a machine show.
* **`answersAs`** — the answers of a host that shows it.
* **`getVmInfo_iff`** — when the report is complete.
-/

namespace VirtCore


open Interact

structure AttachmentInfo where
  medium : COMPtr IMedium
  port : Int
  hotPluggable : Bool
  controller : String

structure MediumInfo where
  name : String
  id : String
  format : String
  logicalSize : Int
  size : Int
  parent : COMPtr IMedium

structure AdapterInfo where
  enabled : Bool
  attachmentType : NetworkAttachmentType
  bridgedInterface : String
  MACAddress : String

/-- What the objects of a machine show: `sata` are the attachments of its controller named `SATA`,
where it has one. -/
structure MachineInfo where
  sata : Option (List IMediumAttachment)
  attachment : IMediumAttachment → AttachmentInfo
  medium : IMedium → MediumInfo
  adapter : Nat → AdapterInfo
  VRAMSize : Nat
  monitorCount : Nat
  accelerate3DEnabled : Bool
  state : MachineState
  CPUCount : Nat
  memorySize : Nat
  OSTypeId : String
  hardwareUUID : String

/-- What a host answers in which each machine found shows `D`. No call fails but that for the
attachments of a controller that is not there. -/
def answersAs (D : MachineInfo) : (a : Act) → a.Ans → Prop
  | .ptr (.findMachine _), x => ∃ m, x = .ok (some m)
  | .val (.getMediumAttachmentsOfController _ name), x => name = "SATA" →
    match D.sata with
    | some l => x = .ok (l.map some)
    | none => ∃ err, x = .error err
  | .ptr (.attachmentMedium a), x => x = .ok (D.attachment a).medium
  | .val (.port a), x => x = .ok (D.attachment a).port
  | .val (.hotPluggable a), x => x = .ok (D.attachment a).hotPluggable
  | .val (.controller a), x => x = .ok (D.attachment a).controller
  | .val (.mediumName d), x => x = .ok (D.medium d).name
  | .val (.mediumId d), x => x = .ok (D.medium d).id
  | .val (.mediumFormat d), x => x = .ok (D.medium d).format
  | .val (.logicalSize d), x => x = .ok (D.medium d).logicalSize
  | .val (.size d), x => x = .ok (D.medium d).size
  | .ptr (.mediumParent d), x => x = .ok (D.medium d).parent
  | .ptr (.getNetworkAdapter m slot), x => x = .ok (some ⟨m, slot⟩)
  | .val (.adapterEnabled a), x => x = .ok (D.adapter a.slot).enabled
  | .val (.attachmentType a), x => x = .ok (D.adapter a.slot).attachmentType
  | .val (.bridgedInterface a), x => x = .ok (D.adapter a.slot).bridgedInterface
  | .val (.MACAddress a), x => x = .ok (D.adapter a.slot).MACAddress
  | .val (.VRAMSize _), x => x = .ok D.VRAMSize
  | .val (.monitorCount _), x => x = .ok D.monitorCount
  | .val (.accelerate3DEnabled _), x => x = .ok D.accelerate3DEnabled
  | .val (.state _), x => x = .ok D.state
  | .val (.CPUCount _), x => x = .ok D.CPUCount
  | .val (.memorySize _), x => x = .ok D.memorySize
  | .val (.OSTypeId _), x => x = .ok D.OSTypeId
  | .val (.hardwareUUID _), x => x = .ok D.hardwareUUID
  | _, _ => True

attribute [simp] answersAs

variable {D : MachineInfo} {J : Jsoncpp} {a : IMediumAttachment} {d : IMedium}

/-! ## What is to be reported -/

/-- The entry of a disk. -/
def diskEntryOf (D : MachineInfo) (a : IMediumAttachment) (d : IMedium) : List (String × String) :=
  [("name", (D.medium d).name), ("uuid", (D.medium d).id),
    ("port", toString (D.attachment a).port),
    ("hotplug", if (D.attachment a).hotPluggable then "1" else "0"),
    ("controller", (D.attachment a).controller), ("format", (D.medium d).format),
    ("logical_size", toString (D.medium d).logicalSize),
    ("physics_size", toString (D.medium d).size)] ++
  match (D.medium d).parent with
  | none => [("parent_name", "0")]
  | some p => [("parent_name", (D.medium p).name), ("parent_id", (D.medium p).id)]

/-- The disks to be reported: those that an attachment holds, in the order of the attachments. -/
def disksOf (J : Jsoncpp) (D : MachineInfo) (l : List IMediumAttachment) : List Json :=
  l.filterMap fun a =>
    (D.attachment a).medium.map fun d => .string (J.mapTojsonstr Json.string (diskEntryOf D a d))

/-- The entry of an adapter. -/
def netEntryOf (a : AdapterInfo) : List (String × String) :=
  (match a.attachmentType with
    | .Bridged => [("nettype", "Bridged")]
    | .NAT => [("nettype", "NAT")]
    | _ => []) ++
  [("VIF", a.bridgedInterface), ("MAC", a.MACAddress)]

/-- What is to be reported of one adapter. -/
def adapterOf (J : Jsoncpp) (D : MachineInfo) (slot : Nat) : List Json :=
  if (D.adapter slot).enabled then
    [.string (J.mapTojsonstr Json.string (netEntryOf (D.adapter slot)))]
  else []

/-- The adapters to be reported: the enabled ones of slots 0 to 3. -/
def adaptersOf (J : Jsoncpp) (D : MachineInfo) : List Json :=
  [0, 1, 2, 3].flatMap (adapterOf J D)

/-- The elements appended to a null value. -/
def arrayOf : List Json → Json
  | [] => .null
  | elems => .array elems

/-- The report on a machine of which the disks are `disks`. -/
def machineReport (J : Jsoncpp) (D : MachineInfo) (disks : List Json) : String :=
  J.write (.array [.string (J.mapTojsonstr Json.string
    [("state", toString D.state.toInt), ("cpucount", toString (int32 D.CPUCount)),
      ("memory", toString (int32 D.memorySize)), ("os", D.OSTypeId), ("vmuuid", D.hardwareUUID),
      ("disk", J.toStyledString (arrayOf disks)),
      ("network", J.toStyledString (arrayOf (adaptersOf J D))),
      ("graphics", J.toStyledString (.array [.string (J.mapTojsonstr Json.string
        [("ramsize", toString D.VRAMSize), ("monitor_count", toString D.monitorCount),
          ("enable3d", if D.accelerate3DEnabled then "1" else "0")])]))])])

theorem append_arrayOf (elems : List Json) (x : Json) :
    (arrayOf elems).append x = arrayOf (elems ++ [x]) := by
  cases elems <;> rfl

/-! ## The loops

A loop over the slots puts an entry out for each that has a disk or a card. The rounds are pure up
to the calls that read. -/

theorem diskEntry_reads (h : (D.attachment a).medium = some d) :
    Reads (answersAs D) (QiVCA.diskEntry (some a)) (diskEntryOf D a d) := by
  rintro _ st rfl
  simp [QiVCA.diskEntry, h]
  cases hparent : (D.medium d).parent with
  | none => simp [diskEntryOf, hparent, mapInsert_new]
  | some p =>
    refine ⟨nofun, fun o ho => ⟨nofun, fun o' ho' => ⟨nofun, fun o'' ho'' => ?_⟩⟩⟩
    obtain rfl : o' = p := Option.some.inj ho'
    obtain rfl : o'' = o' := Option.some.inj ho''
    simp [diskEntryOf, hparent, mapInsert_new]

/-- An attachment without a medium ends the report. -/
theorem diskEntry_exits (h : (D.attachment a).medium = none) :
    Triple (reportView (answersAs D)) (fun _ => True) (QiVCA.diskEntry (some a))
      (fun _ _ => False) fun _ _ => True := by
  intro st _
  simp [QiVCA.diskEntry, h]

theorem netEntry_reads (entries : List Json) (m : IMachine) (slot : Nat) :
    Reads (answersAs D) (QiVCA.netEntry J (arrayOf entries) (some ⟨m, slot⟩))
      (arrayOf (entries ++ adapterOf J D slot)) := by
  rintro _ st rfl
  simp [QiVCA.netEntry, adapterOf]
  cases henabled : (D.adapter slot).enabled with
  | false => simp
  | true =>
    cases htype : (D.adapter slot).attachmentType <;>
      simp [netEntryOf, htype, mapInsert_new, append_arrayOf]

/-- The loop over the attachments, where each holds a medium. -/
theorem disks_read {l : List IMediumAttachment} (h : ∀ a ∈ l, (D.attachment a).medium.isSome)
    (disks : List Json) :
    Reads (answersAs D) (Prog.fold (fun (disks : Json) attach => do
      return disks.append (.string (J.mapTojsonstr Json.string (← QiVCA.diskEntry attach))))
      (arrayOf disks) (l.map some)) (arrayOf (disks ++ disksOf J D l)) := by
  induction l generalizing disks with
  | nil =>
    rw [disksOf, List.filterMap_nil, List.append_nil]
    exact reads_ret _
  | cons a l ih =>
    obtain ⟨d, hd⟩ := Option.isSome_iff_exists.mp (h a List.mem_cons_self)
    refine reads_bind (reads_bind (diskEntry_reads hd) (reads_ret _)) ?_
    rw [append_arrayOf]
    have hrest := ih (fun b hb => h b (List.mem_cons_of_mem a hb))
      (disks ++ [.string (J.mapTojsonstr Json.string (diskEntryOf D a d))])
    rw [List.append_assoc] at hrest
    simpa [disksOf, hd] using hrest

/-- The loop over the attachments, where one holds no medium. -/
theorem disks_exit {l : List IMediumAttachment} {a : IMediumAttachment} (ha : a ∈ l)
    (h : (D.attachment a).medium = none) (disks : Json) :
    Triple (reportView (answersAs D)) (fun _ => True)
      (Prog.fold (fun (disks : Json) attach => do
        return disks.append (.string (J.mapTojsonstr Json.string (← QiVCA.diskEntry attach))))
        disks (l.map some)) (fun _ _ => False) fun _ _ => True := by
  refine Triple.fold_exit (fun _ _ => True) (y := some a) (fun o _ b => ?_)
    (List.mem_map_of_mem ha) (fun b => ?_) disks
  · exact Triple.of_calls (I := fun _ => True) (fun _ _ _ _ _ _ => trivial) (Prog.calls_true _)
  · exact Triple.bind (diskEntry_exits h) fun _ _ h => h.elim

theorem adapters_read (m : IMachine) (slots : List Nat) (entries : List Json) :
    Reads (answersAs D) (Prog.fold (QiVCA.netEntry J) (arrayOf entries)
      (slots.map fun slot => some ⟨m, slot⟩))
      (arrayOf (entries ++ slots.flatMap (adapterOf J D))) := by
  induction slots generalizing entries with
  | nil =>
    rw [List.flatMap_nil, List.append_nil]
    exact reads_ret _
  | cons slot slots ih =>
    rw [List.flatMap_cons, ← List.append_assoc]
    exact reads_bind (netEntry_reads entries m slot) (ih _)

/-- The four adapters. -/
theorem networkInfo_reads (m : IMachine) :
    Reads (answersAs D) (QiVCA.networkInfo J (some m)) (arrayOf (adaptersOf J D)) := by
  have hentries := adapters_read (J := J) (D := D) m [0, 1, 2, 3] []
  rintro _ st rfl
  simp [QiVCA.networkInfo]
  exact hentries st st rfl

theorem graphicsInfo_reads (m : IMachine) :
    Reads (answersAs D) (QiVCA.graphicsInfo J (some m)) (.array [.string (J.mapTojsonstr Json.string
      [("ramsize", toString D.VRAMSize), ("monitor_count", toString D.monitorCount),
        ("enable3d", if D.accelerate3DEnabled then "1" else "0")])]) := by
  rintro _ st rfl
  simp [QiVCA.graphicsInfo, Json.append]

/-! ## The report

An execution that is answered by a host reports the host's machine where it gets through both
loops. -/

/-- The attachments of the controller are listed where it is there. -/
def Listed (D : MachineInfo) : Prop :=
  ∃ l, D.sata = some l ∧ ∀ a ∈ l, (D.attachment a).medium.isSome

theorem diskInfo_reads {l : List IMediumAttachment} (hl : D.sata = some l)
    (h : ∀ a ∈ l, (D.attachment a).medium.isSome) (m : IMachine) :
    Reads (answersAs D) (QiVCA.diskInfo J (some m)) (arrayOf (disksOf J D l)) := by
  rintro _ st rfl
  have hdisks := disks_read (J := J) h []
  simp [QiVCA.diskInfo, hl]
  exact hdisks st st rfl

theorem diskInfo_exits (h : ¬Listed D) (m : IMachine) :
    Triple (reportView (answersAs D)) (fun _ => True) (QiVCA.diskInfo J (some m))
      (fun _ _ => False) fun _ _ => True := by
  intro st _
  simp [QiVCA.diskInfo]
  cases hl : D.sata with
  | none => simp
  | some l =>
    simp
    have hempty : ¬∀ a ∈ l, (D.attachment a).medium.isSome := fun hall => h ⟨l, hl, hall⟩
    obtain ⟨a, ha, hmedium⟩ : ∃ a ∈ l, (D.attachment a).medium = none :=
      by simpa using hempty
    exact disks_exit ha hmedium _ st trivial

theorem getVmInfo_reports (n : String) :
    Triple (reportView (answersAs D)) (fun st => ∀ text, ¬st text) (QiVCA.getVmInfo J n)
      (fun b st => (b = true ∧ ∀ text, st text ↔
        text = machineReport J D (disksOf J D (D.sata.getD []))) ↔ Listed D)
      fun _ _ => ¬Listed D := by
  intro st hst
  unfold QiVCA.getVmInfo
  simp
  intro m
  by_cases hlisted : Listed D
  · obtain ⟨l, hl, hmedia⟩ := hlisted
    -- the three parts one after the other, each of which reads what the host says
    refine (diskInfo_reads hl hmedia m st).use rfl ?_ fun _ _ h => h.elim
    rintro _ _ ⟨rfl, rfl⟩
    refine (networkInfo_reads m _).use rfl ?_ fun _ _ h => h.elim
    rintro _ _ ⟨rfl, rfl⟩
    refine (graphicsInfo_reads m _).use rfl ?_ fun _ _ h => h.elim
    rintro _ st ⟨rfl, rfl⟩
    refine iff_of_true (fun text => ?_) ⟨l, hl, hmedia⟩
    simp only [hst, hl, machineReport, Json.append, false_or, Option.getD_some,
      Int.toString_eq_repr, Nat.toString_eq_repr]
    exact eq_comm
  · exact (diskInfo_exits hlisted m).use trivial (fun _ _ h => h.elim) fun _ _ _ => hlisted

/-- **When the report on a machine is complete.** `getVmInfo` returns `true` and reports a disk for
each attachment of the SATA controller that holds a medium and an adapter for each enabled one of
slots 0 to 3 exactly where there is such a controller and each of its attachments holds one. -/
theorem getVmInfo_iff {r : OpRun J} {n : String} (hop : r.op = .getVmInfo n)
    (hhost : ∀ e ∈ r.trace, answersAs D e.1 e.2) :
    r.Reports (machineReport J D (disksOf J D (D.sata.getD []))) ↔ Listed D :=
  reports_iff (by rw [hop]; rfl) hhost (getVmInfo_reports n)

/-- A machine with one disk on its SATA controller, or without such a controller. -/
def showing (sata : Bool) : MachineInfo where
  sata := if sata then some [⟨0⟩] else none
  attachment _ := ⟨some ⟨0⟩, 0, true, ""⟩
  medium _ := ⟨"", "", "", 0, 0, none⟩
  adapter _ := ⟨false, .Null, "", ""⟩
  VRAMSize := 0
  monitorCount := 0
  accelerate3DEnabled := true
  state := .PoweredOff
  CPUCount := 0
  memorySize := 0
  OSTypeId := ""
  hardwareUUID := ""

/-- The attachments of such a machine. -/
def attached (sata : Bool) : Oracle vboxSig := fun h a =>
  match a with
  | .val (.getMediumAttachmentsOfController ..) =>
    if sata then .ok [some ⟨0⟩] else .error ⟨0x80bb0001⟩
  | .ptr (.mediumParent _) => .ok none
  | .val (.adapterEnabled _) => .ok false
  | a => calm .PoweredOff h a

def showRun (sata : Bool) : OpRun .mute := Op.play .mute 0 (attached sata) (.getVmInfo "new")

theorem showRun_answers (sata : Bool) :
    ∀ e ∈ (showRun sata).trace, answersAs (showing sata) e.1 e.2 := by
  unfold showRun Op.play
  refine exec_answers (h := []) (fun h a => ?_) _ fun e he => absurd he List.not_mem_nil
  cases a with
  | ptr c => cases c <;> simp [attached, calm, PtrCall.sample, showing]
  | val c => cases c <;> cases sata <;> simp [attached, calm, ValCall.sample, showing]
  | _ => trivial

/-- A machine with one disk on its SATA controller is reported. -/
theorem getVmInfo_iff_disk : (showRun true).Reports
    (machineReport .mute (showing true) (disksOf .mute (showing true) [⟨0⟩])) :=
  (getVmInfo_iff (D := showing true) rfl (showRun_answers true)).mpr
    ⟨[⟨0⟩], rfl, fun _ _ => rfl⟩

/-- A machine is created around a disk on an IDE controller. -/
def ideRun : OpRun .mute :=
  Op.play .mute 1 (fun h a => match a with
    | .val (.controllerName _) => .ok "IDE"
    | a => Machines.installing (.ok ()) 0 h a)
    (.createVMfromSystemdisk "new" "Linux_64" 2 1024 "/vm" "/vm/new/new.vdi" "IDE")

/-- The names of its controllers, and the paths of the media. -/
def ideHost : Hypervisor :=
  { Machines.plain with
    controllerName := fun _ => "IDE"
    location := fun _ => "/vm/new/new.vdi" }

theorem ideRun_prog : (ideRun.op.prog .mute 1) =
    some <$> tryReport 1 (QiVCA.installSystemdisk "new" "Linux_64" 2 1024 "/vm"
      "/vm/new/new.vdi" "IDE" >>= fun r => .ret (r.getD true)) := by
  show some <$> QiVCA.createVMfromSystemdisk 1 "new" "Linux_64" 2 1024 "/vm" "/vm/new/new.vdi"
    "IDE" = _
  unfold QiVCA.createVMfromSystemdisk
  rw [Prog.forEach_unique (Machines.osType_unique _), if_pos (by decide +kernel)]
  rfl

/-- A machine without a SATA controller is created, and its report fails. -/
theorem ide_not_reported : ¬∀ (J J' : Jsoncpp) (V : Hypervisor) (h : VBoxHost) (r : OpRun J)
    (r' : OpRun J') (vm : Nat) (c : Config) (D : MachineInfo) (n os : String) (cpu mem : Int)
    (bf disk bus : String),
    r.op = .createVMfromSystemdisk n os cpu mem bf disk bus → (hostView V).Admits h r.trace →
    r.result = .ok (some true) → ((hostView V).after h r.trace).store.saved vm = some c →
    c .name = .text n → (D.sata = none ↔ c (.storageController "SATA") = .absent) →
    r'.op = .getVmInfo n → (∀ e ∈ r'.trace, answersAs D e.1 e.2) →
    r'.Reports (machineReport J' D (disksOf J' D (D.sata.getD []))) := by
  intro hreports
  -- a machine is created on IDE, and has no controller of the name that is listed
  have hplay := Machines.play_eq (ω := fun h a => match a with
    | .val (.controllerName _) => .ok "IDE"
    | a => Machines.installing (.ok ()) 0 h a) ideRun_prog
  have htrace : ideRun.trace =
      [⟨.val (.composeMachineFilename "new" "" "" "/vm"), .ok ""⟩,
        ⟨.ptr (.createMachine "" "new" [] "Linux_64" ""), .ok (some ⟨1, .host⟩)⟩,
        ⟨.val (.machineId ⟨1, .host⟩), .ok ""⟩, ⟨.put .callbackdata "", ()⟩,
        ⟨.cmd (.setCPUCount ⟨1, .host⟩ 2), .ok ()⟩,
        ⟨.cmd (.setOSTypeId ⟨1, .host⟩ "Linux_64"), .ok ()⟩,
        ⟨.cmd (.setMemorySize ⟨1, .host⟩ 1024), .ok ()⟩,
        ⟨.ptr .session, .ok (some ⟨0⟩)⟩,
        ⟨.cmd (.registerMachine (some ⟨1, .host⟩)), .ok ()⟩,
        ⟨.cmd (.lockMachine ⟨1, .host⟩ (some ⟨0⟩) .Write), .ok ()⟩,
        ⟨.ptr (.sessionMachine ⟨0⟩), .ok (some ⟨1, .mutable ⟨0⟩⟩)⟩,
        ⟨.cmd (.setHWVirtExProperty ⟨1, .mutable ⟨0⟩⟩ .NestedPaging true), .ok ()⟩,
        ⟨.ptr (.openMedium "/vm/new/new.vdi" .HardDisk .ReadWrite true), .ok (some ⟨0⟩)⟩,
        ⟨.val (.refreshState ⟨0⟩), .ok ()⟩,
        ⟨.ptr (.addStorageController ⟨1, .mutable ⟨0⟩⟩ "IDE" .IDE),
          .ok (some ⟨⟨1, .mutable ⟨0⟩⟩, 0⟩)⟩,
        ⟨.val (.controllerName ⟨⟨1, .mutable ⟨0⟩⟩, 0⟩), .ok "IDE"⟩,
        ⟨.cmd (.attachDevice ⟨1, .mutable ⟨0⟩⟩ "IDE" 0 0 .HardDisk (some ⟨0⟩)),
          .ok ()⟩,
        ⟨.cmd (.setBootOrder ⟨1, .mutable ⟨0⟩⟩ 1 .HardDisk), .ok ()⟩,
        ⟨.cmd (.saveSettings ⟨1, .mutable ⟨0⟩⟩), .ok ()⟩,
        ⟨.cmd (.unlockMachine ⟨0⟩), .ok ()⟩,
        ⟨.release (.machine ⟨1, .host⟩), ()⟩] := hplay.1
  have hadmits : (hostView ideHost).Admits Machines.oneMachine ideRun.trace := by
    rw [htrace]
    simp [hostOk, hostNext, PtrCall.answers, PtrCall.effect, PtrCall.setting, Cmd.setting,
      Cmd.effect, VBoxHost.create, VBoxHost.write, VBoxHost.register, VBoxHost.lock,
      VBoxHost.openMedium, VBoxHost.Writable, VBoxHost.config, Keyed.Staged.openDraft,
      Keyed.Staged.write, Keyed.Staged.create, Keyed.Staged.put, Hypervisor.newMachine,
      Machines.oneMachine, Machines.plain, ideHost]
  have hsaved : ∃ c, ((hostView ideHost).after Machines.oneMachine ideRun.trace).store.saved 1 =
      some c ∧ c .name = .text "new" ∧ c (.storageController "SATA") = .absent := by
    rw [htrace]
    exact ⟨_, rfl, rfl, rfl⟩
  obtain ⟨c, hc, hname, hsata⟩ := hsaved
  have hreport := hreports .mute .mute ideHost Machines.oneMachine ideRun (showRun false) 1 c
    (showing false) "new" "Linux_64" 2 1024 "/vm" "/vm/new/new.vdi" "IDE" rfl hadmits hplay.2 hc
    hname (iff_of_true rfl hsata) rfl (showRun_answers false)
  exact absurd hreport.1 (by intro hsame; cases hsame)

end VirtCore
