import VirtCore.Protocol.Controller

/-!
# VirtCore — replies identify what happened

* **`Method.rpc`** / **`Rpc.operation`** — which interface a method belongs to, and the operation
  that a request for it asks for.
* **`controller_eq`** — every handler is one dispatch over that table.
* **`Identified`** — the operation was called, and the reply says which and what it reported.
* **`replies_identify_iff`** — exactly when a reply does.
-/

namespace VirtCore

open Interact VcaController

/-! ## The table of the methods -/

namespace Method

/-- The interface of a method: each enumeration of `vca_enummethod.h` belongs to one. -/
def rpc : Method → Rpc
  | .startUp | .shutDown | .powerOff | .pauses | .resume | .vmSleep | .restart | .getVmInfo
  | .listVMs | .deleteVM => .VmCommon
  | .getVmSnapshotInfo | .takeSnapshot | .restoreSnapshot | .deleteSnapshot => .VmOperateSnapshot
  | .cloneFullVM | .cloneLinkVM => .VmClone
  | .exportVM | .importVM => .VmImpAndExp
  | .createVMfromSystemdisk | .createVMfromISO => .VmInstall
  | .setBridge | .addBridge | .setNat | .addNat | .setAdaptorMAC | .disableAdaptor => .VmNetwork
  | .setSimpleRemoteDisplay | .getRdpInfo | .disableRDP => .VmRdp
  | .setRecordingScreenConfig | .switchRecordingScreen => .VmRecord
  | .createSharefolder | .removeSharedFolder => .VmSharefolder
  | .resetCpuCount | .resetMemSize | .resetGraphics => .VmConfig
  | .addUSBController | .delUSBController => .VmUSB
  | .setAudio | .switchAudio => .VmAudio
  | .addSerialPort | .delSerialPort => .VmSerial
  | .startTracker | .stopTracker | .produceSeed | .startShare | .downloadFile | .stopShare => .P2P
  | .makeFloatDisk | .addDiskToVm | .detachDiskFromVm | .destroyFloatDiskWithoutAttach => .VmExtends

/-- The name of a method's operation. -/
def name : Method → String
  | .startUp => "startUp"
  | .shutDown => "shutDown"
  | .powerOff => "powerOff"
  -- `pause` is a function of the C library, so the enumerator has another name
  | .pauses => "pause"
  | .resume => "resume"
  | .vmSleep => "vmSleep"
  | .restart => "restart"
  | .getVmInfo => "getVmInfo"
  | .listVMs => "listVMs"
  | .deleteVM => "deleteVM"
  | .getVmSnapshotInfo => "getVmSnapshotInfo"
  | .takeSnapshot => "takeSnapshot"
  | .restoreSnapshot => "restoreSnapshot"
  | .deleteSnapshot => "deleteSnapshot"
  | .cloneFullVM => "cloneFullVM"
  | .cloneLinkVM => "cloneLinkVM"
  | .exportVM => "exportVM"
  | .importVM => "importVM"
  | .createVMfromSystemdisk => "createVMfromSystemdisk"
  | .createVMfromISO => "createVMfromISO"
  | .setBridge => "setBridge"
  | .addBridge => "addBridge"
  | .setNat => "setNat"
  | .addNat => "addNat"
  | .setAdaptorMAC => "setAdaptorMAC"
  | .disableAdaptor => "disableAdaptor"
  | .setSimpleRemoteDisplay => "setSimpleRemoteDisplay"
  | .getRdpInfo => "getRdpInfo"
  | .disableRDP => "disableRDP"
  | .setRecordingScreenConfig => "setRecordingScreenConfig"
  | .switchRecordingScreen => "switchRecordingScreen"
  | .createSharefolder => "createSharefolder"
  | .removeSharedFolder => "removeSharedFolder"
  | .resetCpuCount => "resetCpuCount"
  | .resetMemSize => "resetMemSize"
  | .resetGraphics => "resetGraphics"
  | .addUSBController => "addUSBController"
  | .delUSBController => "delUSBController"
  | .setAudio => "setAudio"
  | .switchAudio => "switchAudio"
  | .addSerialPort => "addSerialPort"
  | .delSerialPort => "delSerialPort"
  | .startTracker => "startTracker"
  | .stopTracker => "stopTracker"
  | .produceSeed => "produceSeed"
  | .startShare => "startShare"
  | .downloadFile => "downloadFile"
  | .stopShare => "stopShare"
  | .makeFloatDisk => "makeFloatDisk"
  | .addDiskToVm => "addDiskToVm"
  | .detachDiskFromVm => "detachDiskFromVm"
  | .destroyFloatDiskWithoutAttach => "destroyFloatDiskWithoutAttach"

end Method

namespace Rpc

/-- The operation of a method with the fields of the request, on an object that has found
`machines`; `none` where the method is another interface's. -/
def operation : (rpc : Rpc) → rpc.Request → List (COMPtr IMachine) → Method →
    Option ServerCall
  | .VmCommon, q, machines, m =>
    let vmname := RequestSimple.vmname q
    match m with
    | .startUp => some (.op (.startUp vmname "headless"))
    | .shutDown => some (.op (.shutDown vmname))
    | .powerOff => some (.op (.powerOff vmname))
    | .pauses => some (.op (.pause vmname))
    | .resume => some (.op (.resume vmname))
    | .vmSleep => some (.op (.vmSleep vmname))
    | .restart => some (.op (.restart vmname))
    | .getVmInfo => some (.op (.getVmInfo vmname))
    | .listVMs => some (.op (.listVMs machines))
    | .deleteVM => some (.op (.deleteVM vmname 4))
    | _ => none
  | .VmInstall, q, _, m =>
    let q : RequestInstall := q
    match m with
    | .createVMfromSystemdisk => some (.op (.createVMfromSystemdisk q.vmname q.ostypeid q.cpucount
        q.memorysize q.basefolder q.sourcepath q.storagebustype))
    | .createVMfromISO => some (.op (.createVMfromISO q.vmname q.ostypeid q.cpucount q.memorysize
        q.basefolder q.logicdisksize q.sourcepath q.diskformat q.storagebustype q.fix))
    | _ => none
  | .VmOperateSnapshot, q, _, m =>
    let q : RequestSnapshot := q
    match m with
    | .getVmSnapshotInfo => some (.op (.getVmSnapshotInfo q.vmname))
    | .takeSnapshot => some (.op (.takeSnapshot q.vmname q.snapshotname))
    | .restoreSnapshot => some (.op (.restoreSnapshot q.vmname q.snapshotname))
    | .deleteSnapshot => some (.op (.deleteSnapshot q.vmname q.snapshotname))
    | _ => none
  | .VmClone, q, _, m =>
    let q : RequestClone := q
    match m with
    | .cloneFullVM => some (.op (.cloneFullVM q.vmname q.basefolder q.targetvmname q.keepmacs
        q.keephwuuids q.keepdiskname))
    | .cloneLinkVM => some (.op (.cloneLinkVM q.vmname q.basefolder q.targetvmname))
    | _ => none
  | .VmImpAndExp, q, _, m =>
    let q : RequestImpAndexportVM := q
    match m with
    | .exportVM => some (.op (.exportVM q.vmname q.keepmac "ovf-2.0" q.exportpath))
    | .importVM => some (.op (.importVM q.vmname q.ovapath q.keepmac q.ostypeid q.cpucount q.memory
        q.netup q.basefolder))
    | _ => none
  | .VmNetwork, q, _, m =>
    let q : RequestNetwork := q
    match m with
    | .setBridge => some (.op (.setBridge q.vmname q.slot q.hostpciname))
    | .addBridge => some (.op (.addBridge q.vmname q.slot q.hostpciname))
    | .setNat => some (.op (.setNat q.vmname q.slot))
    | .addNat => some (.op (.addNat q.vmname q.slot))
    | .setAdaptorMAC => some (.op (.setAdaptorMAC q.vmname q.slot q.mac))
    | .disableAdaptor => some (.op (.disableAdaptor q.vmname q.slot))
    | _ => none
  | .VmRdp, q, _, m =>
    let q : RequestRdp := q
    match m with
    | .setSimpleRemoteDisplay => some (.op (.setSimpleRemoteDisplay q.vmname q.listenaddress
        q.listenport q.allowmulticonnect q.reusesingleconnect))
    | .getRdpInfo => some (.op (.getRdpInfo q.vmname))
    | .disableRDP => some (.op (.disableRDP q.vmname))
    | _ => none
  | .VmRecord, q, _, m =>
    let q : RequestRecord := q
    match m with
    | .setRecordingScreenConfig => some (.op (.setRecordingScreenConfig q.vmname q.screenid q.on
        q.basefolder q.width q.height q.fps q.kbps 2))
    | .switchRecordingScreen => some (.op (.switchRecordingScreen q.vmname q.screenid q.on))
    | _ => none
  | .VmSharefolder, q, _, m =>
    let q : RequestSharefolder := q
    match m with
    | .createSharefolder => some (.op (.createSharefolder q.vmname q.sharefoldername q.serverpath
        q.writeable true q.internalpath))
    | .removeSharedFolder => some (.op (.removeSharedFolder q.vmname q.sharefoldername))
    | _ => none
  | .VmConfig, q, _, m =>
    let q : RequestConfig := q
    match m with
    | .resetCpuCount => some (.op (.resetCpuCount q.vmname q.cpucount))
    | .resetMemSize => some (.op (.resetMemSize q.vmname q.memorysize))
    | .resetGraphics => some (.op (.resetGraphics q.vmname q.ramsize q.monitorcount "VBoxSVGA"
        q.enable3d))
    | _ => none
  | .VmUSB, q, _, m =>
    let q : RequestUSB := q
    match m with
    | .addUSBController => some (.op (.addUSBController q.vmname q.usbname q.usbtype))
    | .delUSBController => some (.op (.delUSBController q.vmname q.usbname))
    | _ => none
  | .VmAudio, q, _, m =>
    let q : RequestAudio := q
    match m with
    | .setAudio => some (.op (.setAudio q.vmname q.audioin q.audioout))
    | .switchAudio => some (.op (.switchAudio q.vmname q.audioswitch))
    | _ => none
  | .VmSerial, q, _, m =>
    let q : RequestSerial := q
    match m with
    | .addSerialPort => some (.op (.addSerialPort q.vmname q.slot))
    | .delSerialPort => some (.op (.delSerialPort q.vmname q.slot))
    | _ => none
  | .P2P, q, _, m =>
    let q : RequestP2P := q
    match m with
    | .startTracker => some (.hook .startTracker)
    | .stopTracker => some (.hook .stopTracker)
    | .produceSeed => some (.hook (.produceSeed q.sharefilepath q.shareseedpath q.shareip
        q.downloadip q.downloadseedpath))
    | .startShare => some (.hook (.startShare q.sharefilepath q.shareseedpath q.shareip))
    | .downloadFile => some (.hook (.downloadFile q.downloadfilepath q.downloadseedpath
        q.downloadip))
    | .stopShare => some (.hook .stopShare)
    | _ => none
  | .VmExtends, q, _, m =>
    let q : RequestVmExtends := q
    match m with
    | .makeFloatDisk => some (.op (.makeFloatDisk q.diskname q.diskformattype q.basefolder q.size))
    | .addDiskToVm => some (.op (.addDiskToVm q.vmname q.diskname q.diskformattype
        q.storagecontroller q.basefolder q.slot))
    | .detachDiskFromVm => some (.op (.detachDiskFromVm q.vmname q.slot))
    | .destroyFloatDiskWithoutAttach => some (.op (.destroyFloatDiskWithoutAttach q.diskuuid))
    | _ => none
  | .Test, _, _, _ | .HostInfo, _, _, _ => none

/-- A method has an operation at its own interface and at no other. -/
theorem operation_isSome (rpc : Rpc) (q : rpc.Request) (machines : List (COMPtr IMachine))
    (m : Method) : (rpc.operation q machines m).isSome ↔ m.rpc = rpc := by
  cases rpc <;> cases m <;> simp [operation, Method.rpc]

end Rpc

/-! ## The handlers as one dispatch

All handlers make an object, look the method up and serve it. They differ in the object, and in
what they do with a method they do not know. -/

/-- The operations with a result of their own. Of the others all that comes back is the message. -/
def Op.hasResult : Op → Bool
  | .listVMs .. | .getVmInfo .. | .getVmSnapshotInfo .. | .createVMfromISO .. | .exportVM ..
  | .getRdpInfo .. | .setRecordingScreenConfig .. => true
  | _ => false

/-- The case of an operation. -/
def serve (vcamethod : String) : ServerCall → Server VcaReply
  | .op (.startUp vmname _) => VcaController.startUp vmname
  | .op op => if op.hasResult then answerResult vcamethod op else answer vcamethod op
  | .hook hook => answerHook vcamethod hook
  | _ => return {}

namespace Rpc

/-- The object a handler makes, with the machines it has found. -/
def make : Rpc → Server (List (COMPtr IMachine))
  | .Test => return []
  | .HostInfo => do ask .newMonitor; return []
  | .P2P => do ask .newMurderHook; return []
  | .VmCommon | .VmInstall | .VmOperateSnapshot | .VmClone | .VmImpAndExp | .VmExtends => newQiVCA
  | _ => newVmConfigure

/-- The handlers with a `default`. -/
def hasDefault (rpc : Rpc) : Bool := rpc == .VmCommon || rpc == .VmInstall

/-- The reply where no case matches. -/
def noCase (rpc : Rpc) : VcaReply := if rpc.hasDefault then unknownMethod else {}

/-- The switch of a handler. -/
def dispatch (rpc : Rpc) (q : rpc.Request) (id : Int) (machines : List (COMPtr IMachine)) :
    Server VcaReply :=
  match Method.ofId id with
  | none => return rpc.noCase
  | some m =>
    match rpc.operation q machines m with
    | none => return rpc.noCase
    | some c => serve m.name c

end Rpc

/-- A handler makes its object and dispatches on the method id. -/
theorem controller_eq {rpc : Rpc} {q : rpc.Request} {id : Int} (hid : rpc.vcamethod q = some id) :
    controller rpc q = rpc.make >>= rpc.dispatch q id := by
  have hbind {p : Server (List (COMPtr IMachine))}
    {f g : List (COMPtr IMachine) → Server VcaReply}
      (h : ∀ machines, f machines = g machines) : p >>= f = p >>= g := by rw [funext h]
  cases rpc <;> cases hid
  case P2P =>
    refine congrArg (Prog.call (σ := serverSig) .newMurderHook) (funext fun _ => ?_)
    show _ = Rpc.dispatch .P2P q _ []
    unfold Rpc.dispatch
    rcases Method.ofId _ with _ | m
    · rfl
    · cases m <;> rfl
  all_goals
    refine hbind fun machines => ?_
    unfold Rpc.dispatch
    rcases Method.ofId _ with _ | m
    · rfl
    · cases m <;> rfl

/-! ## What a reply says

A reply names its operation where its method does, and the code and the text are those of the
operation. -/

/-- The operation a handler calls, as opposed to what it needs for that. -/
def ServerCall.isOperation : ServerCall → Bool
  | .op _ | .hook _ => true
  | _ => false

/-- The call is left without a return. -/
def leaves : (c : ServerCall) → c.Ans → Prop
  | .newQiVCA, .error _ => True
  | .newVmConfigure, .error _ => True
  | .op _, .error _ => True
  | _, _ => False

/-- What an operation reports: whether it succeeded, its result and its message. -/
structure Report where
  success : Bool
  result : String
  message : String

/-- The report of an operation that has returned. `startUp` reports through `data` and has no
result. -/
def Op.report (op : Op) (r : OpReturn) : Report :=
  match op with
  | .startUp .. => ⟨r.data == some 1, "", r.callbackdata⟩
  | _ => ⟨OpReturn.ok r, if op.hasResult then r.result else r.callbackdata, r.callbackdata⟩

def report : (c : ServerCall) → c.Ans → Option Report
  | .op op, .ok r => some (op.report r)
  | .hook _, ret => some ⟨ret, "", ""⟩
  | _, _ => none

/-- The execution calls the operation `c`, once and no other, and its reply has the name, the code
and the data of what the operation reports. -/
def Identified (name : String) (c : ServerCall) (t : ServerTrace) (o : Except Exit VcaReply) :
    Prop :=
  ∃ x rep reply, t.filter (fun e => e.1.isOperation) = [⟨c, x⟩] ∧ report c x = some rep ∧
    o = .ok reply ∧ reply.vcamethod = name ∧ (reply.code = 1 ↔ rep.success = true) ∧
    reply.data = if rep.success then rep.result else rep.message

/-- `int data` of the handler is read as 1 though `startUp` has not assigned it. -/
def Misreads (t : ServerTrace) : Prop :=
  ∃ vmname ui r, ⟨.op (.startUp vmname ui), .ok r⟩ ∈ t ∧ r.data = none ∧
    ⟨.indeterminate, (1 : Int)⟩ ∈ t

@[simp] theorem code_eq_one (b : Bool) : code b = 1 ↔ b = true := by cases b <;> decide

theorem identified_iff {name : String} {c : ServerCall} {x : c.Ans} {t : ServerTrace}
    {rep : Report} {reply : VcaReply} (ht : t.filter (fun e => e.1.isOperation) = [⟨c, x⟩])
    (hrep : report c x = some rep) :
    Identified name c t (.ok reply) ↔ reply.vcamethod = name ∧
      (reply.code = 1 ↔ rep.success = true) ∧
      reply.data = if rep.success then rep.result else rep.message := by
  constructor
  · rintro ⟨x', rep', reply', ht', hrep', hreply, h⟩
    cases hreply
    obtain rfl : x = x' := by simpa using ht.symm.trans ht'
    obtain rfl : rep = rep' := Option.some.inj (hrep.symm.trans hrep')
    exact h
  · exact fun h => ⟨x, rep, reply, ht, hrep, rfl, h⟩

/-- An operation that is not `startUp` answers with its message or with its result. -/
theorem serve_op {name : String} {op : Op} (h : ∀ n ui, op ≠ .startUp n ui) :
    serve name (.op op) = if op.hasResult then answerResult name op else answer name op := by
  cases op <;> first | rfl | exact absurd rfl (h _ _)

theorem Op.report_eq {op : Op} (h : ∀ n ui, op ≠ .startUp n ui) (r : OpReturn) :
    op.report r = ⟨OpReturn.ok r, if op.hasResult then r.result else r.callbackdata,
      r.callbackdata⟩ := by
  cases op <;> first | rfl | exact absurd rfl (h _ _)

theorem runs_call_op {op : Op} {f : OpReturn → Server VcaReply} {t : ServerTrace}
    {o : Except Exit VcaReply} (hr : Runs (call op >>= f) t o) :
    (∃ r t', t = ⟨.op op, .ok r⟩ :: t' ∧ Runs (f r) t' o) ∨
      ∃ e, t = [⟨.op op, .error e⟩] ∧ o = .error e := by
  obtain ⟨x, t', rfl, hrest⟩ := runs_call.mp hr
  rcases x with e | r
  · obtain ⟨rfl, rfl⟩ := runs_exit.mp hrest
    exact .inr ⟨e, rfl, rfl⟩
  · exact .inl ⟨r, t', rfl, hrest⟩

/-- The case of an operation that is not `startUp`. -/
theorem serve_op_runs {name : String} {op : Op} (h : ∀ n ui, op ≠ .startUp n ui)
    {t : ServerTrace} {o : Except Exit VcaReply} (hr : Runs (serve name (.op op)) t o) :
    (∃ r, t = [⟨.op op, .ok r⟩] ∧ Identified name (.op op) t o) ∨
      ∃ e, t = [⟨.op op, .error e⟩] ∧ o = .error e := by
  have hcall : Runs (call op >>= fun r => pure ({
      vcamethod := name
      data := if (op.report r).success then (op.report r).result else (op.report r).message
      code := code (op.report r).success } : VcaReply)) t o := by
    rw [serve_op h] at hr
    simp only [Op.report_eq h]
    cases hres : op.hasResult with
    | true => simpa [hres, answerResult] using hr
    | false => simpa [hres, answer] using hr
  rcases runs_call_op hcall with ⟨r, t', rfl, hrest⟩ | ⟨e, rfl, rfl⟩
  · obtain ⟨rfl, rfl⟩ := runs_ret.mp hrest
    exact .inl ⟨r, rfl, (identified_iff rfl rfl).mpr ⟨rfl, code_eq_one _, rfl⟩⟩
  · exact .inr ⟨e, rfl, rfl⟩

/-- The case of `startUp`. -/
theorem startUp_runs {vmname : String} {t : ServerTrace} {o : Except Exit VcaReply}
    (hr : Runs (VcaController.startUp vmname) t o) :
    (∃ data r, t = [⟨.indeterminate, data⟩, ⟨.op (.startUp vmname "headless"), .ok r⟩] ∧
      (Identified "startUp" (.op (.startUp vmname "headless")) t o ↔
        ¬(r.data = none ∧ data = 1))) ∨
      ∃ data e, t = [⟨.indeterminate, data⟩,
        ⟨.op (.startUp vmname "headless"), .error e⟩] ∧
        o = .error e := by
  obtain ⟨data, t', rfl, hrest⟩ := runs_call.mp hr
  rcases runs_call_op hrest with ⟨r, t', rfl, hreply⟩ | ⟨e, rfl, rfl⟩
  · left
    have hrep : report (.op (.startUp vmname "headless")) (.ok r) =
      some ⟨r.data == some 1, "", r.callbackdata⟩ := rfl
    -- without a write the handler reads whatever was there
    by_cases h : r.data.getD data = 1
    · simp only [h, if_true] at hreply
      obtain ⟨rfl, rfl⟩ := runs_ret.mp hreply
      refine ⟨data, r, rfl, (identified_iff rfl hrep).trans ?_⟩
      cases hdata : r.data with
      | none => simp_all
      | some k => simp_all
    · simp only [h, if_false] at hreply
      obtain ⟨rfl, rfl⟩ := runs_ret.mp hreply
      refine ⟨data, r, rfl, (identified_iff rfl hrep).trans ?_⟩
      cases hdata : r.data with
      | none => simp_all
      | some k => simp_all
  · exact .inr ⟨data, e, rfl, rfl⟩

theorem hook_runs {name : String} {hook : Hook} {t : ServerTrace} {o : Except Exit VcaReply}
    (hr : Runs (answerHook name hook) t o) :
    ∃ ret, t = [⟨.hook hook, ret⟩] ∧ Identified name (.hook hook) t o := by
  obtain ⟨ret, t', rfl, hrest⟩ := runs_call.mp hr
  obtain ⟨rfl, rfl⟩ := runs_ret.mp hrest
  refine ⟨ret, rfl, (identified_iff rfl rfl).mpr ⟨rfl, code_eq_one ret, ?_⟩⟩
  cases ret <;> rfl

/-- The only method whose operation is `startUp`. -/
theorem operation_startUp {rpc : Rpc} {q : rpc.Request} {machines : List (COMPtr IMachine)}
    {m : Method} {vmname ui : String}
    (h : rpc.operation q machines m = some (.op (.startUp vmname ui))) :
    m.name = "startUp" ∧ ui = "headless" := by
  have hm : m.rpc = rpc := (rpc.operation_isSome q machines m).mp (by rw [h]; rfl)
  subst hm
  cases m <;> simp [Method.rpc, Rpc.operation] at h
  exact ⟨rfl, h.2.symm⟩

/-- What a method's operation is: not one of the calls a handler makes besides. -/
theorem operation_isOperation {rpc : Rpc} {q : rpc.Request} {machines : List (COMPtr IMachine)}
    {m : Method} {c : ServerCall} (h : rpc.operation q machines m = some c) :
    (∃ op, c = .op op) ∨ ∃ hook, c = .hook hook := by
  have hm : m.rpc = rpc := (rpc.operation_isSome q machines m).mp (by rw [h]; rfl)
  subst hm
  cases m <;> cases h <;> first | exact .inl ⟨_, rfl⟩ | exact .inr ⟨_, rfl⟩

/-- The case of a method: its reply identifies what happened unless the operation is left without
a return or `data` is misread. -/
theorem serve_identified_iff {rpc : Rpc} {q : rpc.Request} {machines : List (COMPtr IMachine)}
    {m : Method} {c : ServerCall} (h : rpc.operation q machines m = some c) {t : ServerTrace}
    {o : Except Exit VcaReply} (hr : Runs (serve m.name c) t o) :
    Identified m.name c t o ↔ (∀ e ∈ t, ¬leaves e.1 e.2) ∧ ¬Misreads t := by
  rcases operation_isOperation h with ⟨op, rfl⟩ | ⟨hook, rfl⟩
  · -- only `startUp` answers through an output parameter
    by_cases hstart : ∃ n ui, op = .startUp n ui
    · obtain ⟨n, ui, rfl⟩ := hstart
      obtain ⟨hname, rfl⟩ := operation_startUp h
      rw [hname] at hr ⊢
      rcases startUp_runs hr with ⟨data, r, rfl, hiff⟩ | ⟨data, e, rfl, rfl⟩
      · rw [hiff]
        have hmisreads : Misreads [⟨.indeterminate, data⟩,
            ⟨.op (.startUp n "headless"), .ok r⟩] ↔ r.data = none ∧ data = 1 := by
          simp [Misreads, and_assoc, eq_comm]
        rw [hmisreads]
        simp [leaves]
      · simp [leaves, Identified]
    · have hop : ∀ n ui, op ≠ .startUp n ui := fun n ui heq => hstart ⟨n, ui, heq⟩
      rcases serve_op_runs hop hr with ⟨r, rfl, hident⟩ | ⟨e, rfl, rfl⟩
      · simp [leaves, Misreads, hident]
      · simp [leaves, Identified]
  · obtain ⟨ret, rfl, hident⟩ := hook_runs hr
    simp [leaves, Misreads, hident]

/-- The case of a method calls its operation, however that ends. -/
theorem serve_calls {rpc : Rpc} {q : rpc.Request} {machines : List (COMPtr IMachine)} {m : Method}
    {c : ServerCall} (h : rpc.operation q machines m = some c) {t : ServerTrace}
    {o : Except Exit VcaReply} (hr : Runs (serve m.name c) t o) :
    ∃ x, t.filter (fun e => e.1.isOperation) = [⟨c, x⟩] := by
  rcases operation_isOperation h with ⟨op, rfl⟩ | ⟨hook, rfl⟩
  · by_cases hstart : ∃ n ui, op = .startUp n ui
    · obtain ⟨n, ui, rfl⟩ := hstart
      obtain ⟨-, rfl⟩ := operation_startUp h
      rcases startUp_runs hr with ⟨data, r, rfl, -⟩ |
        ⟨data, e, rfl, -⟩ <;> exact ⟨_, rfl⟩
    · have hop : ∀ n ui, op ≠ .startUp n ui := fun n ui heq => hstart ⟨n, ui, heq⟩
      rcases serve_op_runs hop hr with ⟨r, rfl, -⟩ | ⟨e, rfl, -⟩ <;> exact ⟨_, rfl⟩
  · obtain ⟨ret, rfl, -⟩ := hook_runs hr
    exact ⟨_, rfl⟩

/-- Making the object of a handler. -/
theorem make_runs {rpc : Rpc} {q : rpc.Request} {id : Int} (hid : rpc.vcamethod q = some id)
    {f : List (COMPtr IMachine) → Server VcaReply} {t : ServerTrace} {o : Except Exit VcaReply}
    (hr : Runs (rpc.make >>= f) t o) :
    (∃ e t' machines, t = e :: t' ∧ e.1.isOperation = false ∧ e.1 ≠ .indeterminate ∧
      ¬leaves e.1 e.2 ∧ Runs (f machines) t' o) ∨
      ∃ e ex, t = [e] ∧ e.1.isOperation = false ∧ leaves e.1 e.2 ∧ o = .error ex := by
  cases rpc <;> simp only [Rpc.vcamethod, reduceCtorEq] at hid
  case P2P =>
    obtain ⟨x, t', rfl, hrest⟩ := runs_call.mp hr
    exact .inl ⟨_, t', [], rfl, rfl, nofun, not_false, hrest⟩
  all_goals
    obtain ⟨x, t', rfl, hrest⟩ := runs_call.mp hr
    rcases x with ex | machines
    · obtain ⟨rfl, rfl⟩ := runs_exit.mp hrest
      exact .inr ⟨_, ex, rfl, rfl, trivial, rfl⟩
    · exact .inl ⟨_, t', machines, rfl, rfl, nofun, not_false, hrest⟩

/-! ## The replies of the handlers -/

/-- The request is for a method of this interface. -/
def Serves (rpc : Rpc) (id : Int) : Prop := ∃ m, Method.ofId id = some m ∧ m.rpc = rpc

/-- A request for a method of the interface calls that method's operation, with the fields of the
request, and the reply says so; any other calls nothing, and the reply is the one to an unknown
method. -/
def Identifies (rpc : Rpc) (q : rpc.Request) (id : Int) (t : ServerTrace)
    (o : Except Exit VcaReply) : Prop :=
  (∀ m, Method.ofId id = some m → m.rpc = rpc →
    ∃ machines c, rpc.operation q machines m = some c ∧ Identified m.name c t o) ∧
  (¬Serves rpc id → t.filter (fun e => e.1.isOperation) = [] ∧ o = .ok unknownMethod)

theorem dispatch_serves {rpc : Rpc} {q : rpc.Request} {id : Int} {m : Method} {c : ServerCall}
    {machines : List (COMPtr IMachine)} (hm : Method.ofId id = some m)
    (hc : rpc.operation q machines m = some c) : rpc.dispatch q id machines = serve m.name c := by
  simp only [Rpc.dispatch, hm, hc]

theorem dispatch_noCase {rpc : Rpc} {id : Int} (h : ¬Serves rpc id) (q : rpc.Request)
    (machines : List (COMPtr IMachine)) : rpc.dispatch q id machines = .ret rpc.noCase := by
  unfold Rpc.dispatch
  cases hm : Method.ofId id with
  | none => rfl
  | some m =>
    have hnone : rpc.operation q machines m = none := by
      rw [← Option.not_isSome_iff_eq_none, rpc.operation_isSome]
      exact fun hrpc => h ⟨m, hm, hrpc⟩
    simp only [hnone]
    rfl

theorem noCase_eq_unknownMethod {rpc : Rpc} :
    rpc.noCase = unknownMethod ↔ rpc = .VmCommon ∨ rpc = .VmInstall := by
  cases rpc <;> decide

/-- Making the object changes nothing about what a trace says. -/
theorem identified_cons {name : String} {c : ServerCall} {e : Event serverSig} {t : ServerTrace}
    {o : Except Exit VcaReply} (he : e.1.isOperation = false) :
    Identified name c (e :: t) o ↔ Identified name c t o := by
  simp only [Identified, List.filter_cons, he, Bool.false_eq_true, if_false]

theorem misreads_cons {e : Event serverSig} {t : ServerTrace} (he : e.1.isOperation = false)
    (hne : e.1 ≠ .indeterminate) : Misreads (e :: t) ↔ Misreads t := by
  have hop : ∀ n ui x, (⟨.op (.startUp n ui), x⟩ : Event serverSig) ≠ e := by
    rintro n ui x rfl
    cases he
  have hdata : ∀ x, (⟨.indeterminate, x⟩ : Event serverSig) ≠ e := by
    rintro x rfl
    exact hne rfl
  simp [Misreads, List.mem_cons, hop, hdata]

/-- **Exactly when a reply identifies what happened.** The object and the operation return; the
handler serves the method or has a `default`; and an unassigned `data` is not read as 1. -/
theorem replies_identify_iff {rpc : Rpc} {q : rpc.Request} {id : Int}
    (hid : rpc.vcamethod q = some id) {t : ServerTrace} {o : Except Exit VcaReply}
    (hr : Runs (controller rpc q) t o) :
    Identifies rpc q id t o ↔ (∀ e ∈ t, ¬leaves e.1 e.2) ∧
      (Serves rpc id ∨ rpc = .VmCommon ∨ rpc = .VmInstall) ∧ ¬Misreads t := by
  rw [controller_eq hid] at hr
  rcases make_runs hid hr with ⟨e, t', machines, rfl, he, hne, hleaves, hrest⟩ |
    ⟨e, ex, rfl, -, hleaves, rfl⟩
  · by_cases hserves : Serves rpc id
    · obtain ⟨m, hm, hrpc⟩ := hserves
      obtain ⟨c, hc⟩ := Option.isSome_iff_exists.mp
        ((rpc.operation_isSome q machines m).mpr hrpc)
      rw [dispatch_serves hm hc] at hrest
      have hiff := serve_identified_iff hc hrest
      rw [misreads_cons he hne, List.forall_mem_cons]
      constructor
      · rintro ⟨hident, -⟩
        obtain ⟨machines', c', -, hident⟩ := hident m hm hrpc
        rw [identified_cons he] at hident
        -- the operation the table names and the one that was called are the same
        obtain ⟨x, hx⟩ := serve_calls hc hrest
        have ⟨x', _, _, hx', _⟩ := hident
        obtain ⟨rfl, -⟩ : c = c' ∧ HEq x x' := by simpa using hx.symm.trans hx'
        obtain ⟨hreturned, hread⟩ := hiff.mp hident
        exact ⟨⟨hleaves, hreturned⟩, .inl ⟨m, hm, hrpc⟩, hread⟩
      · rintro ⟨⟨-, hreturned⟩, -, hread⟩
        refine ⟨fun m' hm' _ => ?_, fun h => (h ⟨m, hm, hrpc⟩).elim⟩
        obtain rfl : m = m' := Option.some.inj (hm.symm.trans hm')
        exact ⟨machines, c, hc, (identified_cons he).mpr (hiff.mpr ⟨hreturned, hread⟩)⟩
    · rw [dispatch_noCase hserves] at hrest
      obtain ⟨rfl, rfl⟩ := runs_ret.mp hrest
      have hnone : Identifies rpc q id [e] (.ok rpc.noCase) ↔ rpc.noCase = unknownMethod := by
        constructor
        · exact fun h => Except.ok.inj (h.2 hserves).2
        · intro h
          refine ⟨fun m hm hrpc => (hserves ⟨m, hm, hrpc⟩).elim,
            fun _ => ⟨?_, by rw [h]⟩⟩
          simp [he]
      rw [hnone, noCase_eq_unknownMethod, misreads_cons he hne]
      simp [hserves, hleaves, Misreads]
  · refine ⟨fun h => ?_, fun h => (h.1 e List.mem_cons_self hleaves).elim⟩
    by_cases hserves : Serves rpc id
    · obtain ⟨m, hm, hrpc⟩ := hserves
      obtain ⟨_, _, -, _, _, _, -, -, hok, -⟩ := h.1 m hm hrpc
      cases hok
    · cases (h.2 hserves).2

/-- A request of interface `VmOperateSnapshot` for a method of no interface. -/
def unknownSnapshotRequest : RequestSnapshot := ⟨99, "vm", "s"⟩

/-- The handler makes a `QiVCA` and replies with the empty message. -/
theorem unknownSnapshotRequest_runs : Runs (controller .VmOperateSnapshot unknownSnapshotRequest)
    [⟨.newQiVCA, .ok []⟩] (.ok {}) :=
  runs_call.mpr ⟨_, _, rfl, runs_ret.mpr ⟨rfl, rfl⟩⟩

/-- The reply to a method that `VmOperateSnapshot` does not serve is not the one to an unknown
method. -/
theorem unknownSnapshot_unidentified :
    ∃ t o, Runs (controller .VmOperateSnapshot unknownSnapshotRequest) t o ∧
      (∀ e ∈ t, ¬leaves e.1 e.2) ∧
      ¬Identifies .VmOperateSnapshot unknownSnapshotRequest 99 t o := by
  refine ⟨_, _, unknownSnapshotRequest_runs, by simp [leaves], fun h => ?_⟩
  have hserves : ¬Serves .VmOperateSnapshot 99 := by
    rintro ⟨m, hm, -⟩
    cases hm
  exact absurd (Except.ok.inj (h.2 hserves).2) (by decide)

/-- A served request is identified. -/
theorem replies_identify_iff_takeSnapshot :
    Identifies .VmOperateSnapshot (⟨11, "vm", "s"⟩ : RequestSnapshot) 11
      [⟨.newQiVCA, .ok []⟩,
        ⟨.op (.takeSnapshot "vm" "s"), .ok ⟨some true, "", "", none⟩⟩]
      (.ok ⟨"takeSnapshot", "", 1⟩) := by
  refine (replies_identify_iff rfl ?_).mpr ⟨by simp [leaves],
    .inl ⟨.takeSnapshot, rfl, rfl⟩, ?_⟩
  · exact runs_call.mpr ⟨_, _, rfl, runs_call.mpr ⟨_, _, rfl, runs_ret.mpr ⟨rfl, rfl⟩⟩⟩
  · simp [Misreads]

end VirtCore
