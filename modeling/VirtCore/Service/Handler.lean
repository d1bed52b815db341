import Mathlib.Logic.Function.Basic
import VirtCore.Protocol.Controller
import VirtCore.Pool.ThreadPool

/-!
# VirtCore — `vcaService`

The asynchronous server of `vca_service.cpp` as a transition system: the clients, the completion
queue of gRPC, the main loop of `Handler` and the workers of its thread pool.

* **`construct` / `registerRequest` / `deleteAs` / `rearm` / `dispatch`** — the five tables.
* **`ServiceState`** — the live contexts and where each of them is.
* **`vcaService`** — the steps. What a controller call does is an execution of its handler.

A tag is the address of a context; addresses are numbered in the order of allocation.
-/

namespace VirtCore

open Transition Interact VcaController

/-! ## The contexts and the tables

What is a template and its instances in the source is a name for each request message here, and
the tables are written with these names. -/

/-- The request message of a `HandlerContext`, its first template argument. The second one is
always `vcaReply`. -/
inductive RequestType where
  | requestNull | requestSimple | requestInstall | requestSnapshot | requestClone
  | requestImpAndexportVM | requestNetwork | requestRdp | requestRecord | requestSharefolder
  | requestConfig | requestUSB | requestAudio | requestSerial | requestP2P | requestVmExtends
  deriving DecidableEq, Repr

namespace VcaService

/-! The typedefs of `vca_handleType.h`: an instantiation is its request message. -/

abbrev HandlerTestContext : RequestType := .requestNull
abbrev HandlerHostContext : RequestType := .requestNull
abbrev HandlerVmCommonContext : RequestType := .requestSimple
abbrev HandlerVmInstallContext : RequestType := .requestInstall
abbrev HandlerVmSnapshotContext : RequestType := .requestSnapshot
abbrev HandlerVmCloneContext : RequestType := .requestClone
abbrev HandlerVmImpExpContext : RequestType := .requestImpAndexportVM
abbrev HandlerVmNetworkContext : RequestType := .requestNetwork
abbrev HandlerVmRdpContext : RequestType := .requestRdp
abbrev HandlerVmRecordContext : RequestType := .requestRecord
abbrev HandlerVmSharefolderContext : RequestType := .requestSharefolder
abbrev HandlerVmConfigContext : RequestType := .requestConfig
abbrev HandlerVmUSBContext : RequestType := .requestUSB
abbrev HandlerVmAudioContext : RequestType := .requestAudio
abbrev HandlerVmSerialContext : RequestType := .requestSerial
abbrev HandlerP2PContext : RequestType := .requestP2P
abbrev HandlerVmExtendsContext : RequestType := .requestVmExtends

/-- The members of `vcaService` that point to a context. -/
inductive Member where
  | Test | Host | VmCommon | VmInstall | VmSnapshot | VmClone | VmImpExp | VmNetwork | VmRdp
  | VmRecord | VmSharefolder | VmConfig | VmUSB | VmAudio | VmSerial | P2P | extend
  deriving DecidableEq

/-- The constructor: what is allocated for a member, and its `type_`. -/
def construct : Member → RequestType × Int
  | .Test => (HandlerTestContext, 1)
  | .Host => (HandlerHostContext, 2)
  | .VmCommon => (HandlerVmCommonContext, 3)
  | .VmInstall => (HandlerVmInstallContext, 4)
  | .VmSnapshot => (HandlerVmSnapshotContext, 5)
  | .VmClone => (HandlerVmCloneContext, 6)
  | .VmImpExp => (HandlerVmImpExpContext, 7)
  | .VmNetwork => (HandlerVmNetworkContext, 8)
  | .VmRdp => (HandlerVmRdpContext, 9)
  | .VmRecord => (HandlerVmRecordContext, 10)
  | .VmSharefolder => (HandlerVmSharefolderContext, 11)
  | .VmConfig => (HandlerVmConfigContext, 12)
  | .VmUSB => (HandlerVmUSBContext, 13)
  | .VmAudio => (HandlerVmAudioContext, 14)
  | .VmSerial => (HandlerVmSerialContext, 15)
  | .P2P => (HandlerP2PContext, 16)
  | .extend => (HandlerVmExtendsContext, 17)

/-- The members in the order in which the constructor makes their contexts. -/
def members : List Member :=
  [.Test, .Host, .VmCommon, .VmInstall, .VmSnapshot, .VmClone, .VmImpExp, .VmNetwork, .VmRdp,
    .VmRecord, .VmSharefolder, .VmConfig, .VmUSB, .VmAudio, .VmSerial, .P2P, .extend]

/-- `RegisterRequest`: the `Request…` calls in order, each with the member that is its tag. -/
def registerRequest : List (Rpc × Member) :=
  [(.Test, .Test), (.HostInfo, .Host), (.VmCommon, .VmCommon), (.VmInstall, .VmInstall),
    (.VmOperateSnapshot, .VmSnapshot), (.VmClone, .VmClone), (.VmImpAndExp, .VmImpExp),
    (.VmNetwork, .VmNetwork), (.VmRdp, .VmRdp), (.VmRecord, .VmRecord),
    (.VmSharefolder, .VmSharefolder), (.VmConfig, .VmConfig), (.VmUSB, .VmUSB),
    (.VmAudio, .VmAudio), (.VmSerial, .VmSerial), (.P2P, .P2P), (.VmExtends, .extend)]

/-- The switch of `Handler` that deletes a context: the type it is cast to. -/
def deleteAs : Int → Option RequestType
  | 1 => some HandlerTestContext
  | 2 => some HandlerHostContext
  | 3 => some HandlerVmCommonContext
  | 4 => some HandlerVmInstallContext
  | 5 => some HandlerVmSnapshotContext
  | 6 => some HandlerVmCloneContext
  | 7 => some HandlerVmImpExpContext
  | 8 => some HandlerVmNetworkContext
  | 9 => some HandlerVmRdpContext
  | 10 => some HandlerVmRecordContext
  | 11 => some HandlerVmSharefolderContext
  | 12 => some HandlerVmConfigContext
  | 13 => some HandlerVmUSBContext
  | 14 => some HandlerVmAudioContext
  | 15 => some HandlerVmSerialContext
  | 16 => some HandlerP2PContext
  | 17 => some HandlerVmExtendsContext
  | _ => none

/-- The switch of `Handler` that makes the next context: what is allocated, its `type_`, and the
`Request…` call it is passed to. -/
def rearm : Int → Option (RequestType × Int × Rpc)
  | 1 => some (HandlerTestContext, 1, .Test)
  | 2 => some (HandlerHostContext, 2, .HostInfo)
  | 3 => some (HandlerVmCommonContext, 3, .VmCommon)
  | 4 => some (HandlerVmInstallContext, 4, .VmInstall)
  | 5 => some (HandlerVmSnapshotContext, 5, .VmOperateSnapshot)
  | 6 => some (HandlerVmCloneContext, 6, .VmClone)
  | 7 => some (HandlerVmImpExpContext, 7, .VmImpAndExp)
  | 8 => some (HandlerVmNetworkContext, 8, .VmNetwork)
  | 9 => some (HandlerVmRdpContext, 9, .VmRdp)
  | 10 => some (HandlerVmRecordContext, 10, .VmRecord)
  | 11 => some (HandlerVmSharefolderContext, 11, .VmSharefolder)
  | 12 => some (HandlerVmConfigContext, 12, .VmConfig)
  | 13 => some (HandlerVmUSBContext, 13, .VmUSB)
  | 14 => some (HandlerVmAudioContext, 14, .VmAudio)
  | 15 => some (HandlerVmSerialContext, 15, .VmSerial)
  | 16 => some (HandlerP2PContext, 16, .P2P)
  | 17 => some (HandlerVmExtendsContext, 17, .VmExtends)
  | _ => none

/-- The switch of the task: the type the context is cast to, and the method of `vca_controller`. -/
def dispatch : Int → Option (RequestType × Rpc)
  | 1 => some (HandlerTestContext, .Test)
  | 2 => some (HandlerHostContext, .HostInfo)
  | 3 => some (HandlerVmCommonContext, .VmCommon)
  | 4 => some (HandlerVmInstallContext, .VmInstall)
  | 5 => some (HandlerVmSnapshotContext, .VmOperateSnapshot)
  | 6 => some (HandlerVmCloneContext, .VmClone)
  | 7 => some (HandlerVmImpExpContext, .VmImpAndExp)
  | 8 => some (HandlerVmNetworkContext, .VmNetwork)
  | 9 => some (HandlerVmRdpContext, .VmRdp)
  | 10 => some (HandlerVmRecordContext, .VmRecord)
  | 11 => some (HandlerVmSharefolderContext, .VmSharefolder)
  | 12 => some (HandlerVmConfigContext, .VmConfig)
  | 13 => some (HandlerVmUSBContext, .VmUSB)
  | 14 => some (HandlerVmAudioContext, .VmAudio)
  | 15 => some (HandlerVmSerialContext, .VmSerial)
  | 16 => some (HandlerP2PContext, .P2P)
  | 17 => some (HandlerVmExtendsContext, .VmExtends)
  | _ => none

end VcaService

/-- A `HandlerContext`: its instantiation, its fields, and which `Request…` call it was passed to.
The request is there once a client has called. -/
structure HandlerContext where
  requestType : RequestType
  type_ : Int
  status_ : Int
  armedFor : Option Rpc
  req_ : Option ((rpc : Rpc) × rpc.Request)

/-! ## The state

What the main loop, the workers and the completion queue share. A context is an address in the
heap, and only that is passed around. -/

/-- What an event of the completion queue is the completion of. -/
inductive CqOp where
  | arrival (rpc : Rpc)
  | finish
  deriving DecidableEq

structure CqEvent where
  tag : Nat
  op : CqOp
  ok : Bool
  deriving DecidableEq

/-- Where the main thread is. -/
inductive MainLoop where
  /-- In `RegisterRequest`, with these calls to come. -/
  | registering (rest : List (Rpc × Nat))
  /-- About to call `Next`. -/
  | next
  /-- Has taken an event. -/
  | taken (e : CqEvent)
  /-- Before the switch that makes the next context. -/
  | rearming (i : Int) (htc : Nat)
  /-- Before `pool.enqueue`. -/
  | enqueueing (i : Int) (htc : Nat)
  /-- `GPR_ASSERT(ok)` has failed. -/
  | aborted (e : CqEvent)
  /-- A context that is not alive has been read. -/
  | crashed

/-- What a worker is doing in a task. -/
inductive Work where
  | started (i : Int) (htc : Nat)
  /-- In the method of `vca_controller`, on the context cast to a type. -/
  | calling (htc : Nat) (as : RequestType) (rpc : Rpc)
  /-- `status_` is set, `Finish` still to come; `calls` is what the method has called. -/
  | answered (htc : Nat) (as : RequestType) (calls : ServerTrace)

/-- The context of a task. -/
def Work.htc : Work → Nat
  | .started _ htc | .calling htc .. | .answered htc .. => htc

/-- A deletion: of which context, as which type, allocated as which, and on which event. -/
structure Deletion where
  htc : Nat
  as : RequestType
  requestType : RequestType
  event : CqEvent

/-- A task that has been executed: how it ended, the context's status then, and what the method of
`vca_controller` has called. -/
structure Execution where
  htc : Nat
  ending : CallEnd
  status : Option Int
  calls : ServerTrace

structure ServiceState where
  heap : Nat → Option HandlerContext
  fresh : Nat
  /-- The contexts passed to a `Request…` call that no client has met yet. -/
  armed : List (Nat × Rpc)
  cq : List CqEvent
  main : MainLoop
  /-- The queue of the thread pool: the captured `i` and `htc`. -/
  tasks : List (Int × Nat)
  busy : List Work
  /-- The `Finish` operations under way, and whether the call was dead when each began. -/
  finishing : List (Nat × Bool)
  /-- The calls that their clients have cancelled, timed out or dropped. -/
  dropped : List Nat
  /-- The contexts whose task has been left by an exception. -/
  abandoned : List Nat
  /-- The `Finish` calls, the deletions and the executed tasks so far. -/
  finished : List Nat
  deleted : List Deletion
  executed : List Execution

namespace VcaService

/-- A context as `new` and the two assignments after it leave it. -/
def newContext (requestType : RequestType) (type_ : Int) : HandlerContext :=
  ⟨requestType, type_, 1, none, none⟩

/-- The number of worker threads, `ThreadPool pool(17)`. -/
def poolSize : Nat := 17

/-- After the constructor: the context of the k-th member has address k. -/
def init : ServiceState where
  heap c := members[c]?.map fun m => newContext (construct m).1 (construct m).2
  fresh := members.length
  armed := []
  cq := []
  main := .registering (registerRequest.map fun e => (e.1, members.idxOf e.2))
  tasks := []
  busy := []
  finishing := []
  dropped := []
  abandoned := []
  finished := []
  deleted := []
  executed := []

variable (s : ServiceState)

/-- Change a context. -/
def modify (c : Nat) (f : HandlerContext → HandlerContext) : ServiceState :=
  { s with heap := Function.update s.heap c ((s.heap c).map f) }

def status (c : Nat) : Option Int := (s.heap c).map (·.status_)

end VcaService

/-! ## The steps

The main loop, the workers and the calls take turns in any order. -/

/-- Who does what. -/
inductive ServiceAct where
  | registerRequest
  | enterLoop
  | arrive (c : Nat)
  | drop (c : Nat)
  | next
  | assertOk
  | delete
  | handle
  | readDead
  | rearm
  | enqueue
  | takeTask
  | dispatch
  | noCase
  | answer
  | throw
  | finish (c : Nat)
  | complete (c : Nat) (ok : Bool)

namespace VcaService

inductive Step : ServiceState → ServiceAct → ServiceState → Prop where
  -- `RegisterRequest`
  | registerRequest (s) (rpc : Rpc) (c : Nat) (rest : List (Rpc × Nat))
      (hmain : s.main = .registering ((rpc, c) :: rest)) :
      Step s .registerRequest { modify s c (fun h => { h with armedFor := some rpc }) with
        armed := s.armed ++ [(c, rpc)], main := .registering rest }
  | enterLoop (s) (hmain : s.main = .registering []) : Step s .enterLoop { s with main := .next }
  -- the clients and gRPC
  | arrive (s) (l₁ l₂ : List (Nat × Rpc)) (c : Nat) (rpc : Rpc) (q : rpc.Request)
      (harmed : s.armed = l₁ ++ (c, rpc) :: l₂) :
      Step s (.arrive c) { modify s c (fun h => { h with req_ := some ⟨rpc, q⟩ }) with
        armed := l₁ ++ l₂, cq := s.cq ++ [⟨c, .arrival rpc, true⟩] }
  | drop (s) (c : Nat) (h : HandlerContext) (hheap : s.heap c = some h) (hreq : h.req_.isSome) :
      Step s (.drop c) { s with dropped := s.dropped ++ [c] }
  -- the main loop
  | next (s) (l₁ l₂ : List CqEvent) (e : CqEvent) (hmain : s.main = .next)
      (hcq : s.cq = l₁ ++ e :: l₂) :
        Step s .next { s with cq := l₁ ++ l₂, main := .taken e }
  | assertOk (s) (e : CqEvent) (hmain : s.main = .taken e) (hok : e.ok = false) :
      Step s .assertOk { s with main := .aborted e }
  | delete (s) (e : CqEvent) (h : HandlerContext) (as : RequestType) (hmain : s.main = .taken e)
      (hok : e.ok = true) (hheap : s.heap e.tag = some h) (hstatus : h.status_ = 2)
      (has : deleteAs h.type_ = some as) :
      Step s .delete { s with
        heap := Function.update s.heap e.tag none
        deleted := s.deleted ++ [⟨e.tag, as, h.requestType, e⟩]
        main := .next }
  | deleteNothing (s) (e : CqEvent) (h : HandlerContext) (hmain : s.main = .taken e)
      (hok : e.ok = true) (hheap : s.heap e.tag = some h) (hstatus : h.status_ = 2)
      (has : deleteAs h.type_ = none) : Step s .delete { s with main := .next }
  | handle (s) (e : CqEvent) (h : HandlerContext) (hmain : s.main = .taken e) (hok : e.ok = true)
      (hheap : s.heap e.tag = some h) (hstatus : h.status_ ≠ 2) :
      Step s .handle { s with main := .rearming h.type_ e.tag }
  | readDead (s) (e : CqEvent) (hmain : s.main = .taken e) (hok : e.ok = true)
      (hheap : s.heap e.tag = none) : Step s .readDead { s with main := .crashed }
  | rearm (s) (i : Int) (c : Nat) (requestType : RequestType) (type_ : Int) (rpc : Rpc)
      (hmain : s.main = .rearming i c) (hi : rearm i = some (requestType, type_, rpc)) :
      Step s .rearm { s with
        heap := Function.update s.heap s.fresh
          (some { newContext requestType type_ with armedFor := some rpc })
        fresh := s.fresh + 1
        armed := s.armed ++ [(s.fresh, rpc)]
        main := .enqueueing i c }
  | rearmNothing (s) (i : Int) (c : Nat) (hmain : s.main = .rearming i c) (hi : rearm i = none) :
      Step s .rearm { s with main := .enqueueing i c }
  | enqueue (s) (i : Int) (c : Nat) (hmain : s.main = .enqueueing i c) :
      Step s .enqueue { s with tasks := s.tasks ++ [(i, c)], main := .next }
  -- the workers
  | takeTask (s) (i : Int) (c : Nat) (rest : List (Int × Nat)) (htasks : s.tasks = (i, c) :: rest)
      (hidle : s.busy.length < poolSize) :
      Step s .takeTask { s with tasks := rest, busy := s.busy ++ [.started i c] }
  | dispatch (s) (l₁ l₂ : List Work) (i : Int) (c : Nat) (as : RequestType) (rpc : Rpc)
      (hbusy : s.busy = l₁ ++ .started i c :: l₂) (hi : dispatch i = some (as, rpc)) :
      Step s .dispatch { s with busy := l₁ ++ .calling c as rpc :: l₂ }
  | noCase (s) (l₁ l₂ : List Work) (i : Int) (c : Nat)
      (hbusy : s.busy = l₁ ++ .started i c :: l₂) (hi : dispatch i = none) :
      Step s .noCase { s with
        busy := l₁ ++ l₂, executed := s.executed ++ [⟨c, .returned, status s c, []⟩] }
  | answer (s) (l₁ l₂ : List Work) (c : Nat) (as : RequestType) (h : HandlerContext) (rpc : Rpc)
      (q : rpc.Request) (t : ServerTrace) (reply : VcaReply)
      (hbusy : s.busy = l₁ ++ .calling c as rpc :: l₂) (hheap : s.heap c = some h)
      (hreq : h.req_ = some ⟨rpc, q⟩) (hruns : Runs (controller rpc q) t (.ok reply)) :
      Step s .answer { modify s c (fun h => { h with status_ := 2 }) with
        busy := l₁ ++ .answered c as t :: l₂ }
  -- the exception goes into the future of the `packaged_task`, which nobody reads
  | throw (s) (l₁ l₂ : List Work) (c : Nat) (as : RequestType) (h : HandlerContext) (rpc : Rpc)
      (q : rpc.Request) (t : ServerTrace) (err : COMError)
      (hbusy : s.busy = l₁ ++ .calling c as rpc :: l₂) (hheap : s.heap c = some h)
      (hreq : h.req_ = some ⟨rpc, q⟩)
      (hruns : Runs (controller rpc q) t (.error (.threw err))) :
      Step s .throw { s with
        busy := l₁ ++ l₂
        abandoned := s.abandoned ++ [c]
        executed := s.executed ++ [⟨c, .threw, status s c, t⟩] }
  | finish (s) (l₁ l₂ : List Work) (c : Nat) (as : RequestType) (t : ServerTrace)
      (hbusy : s.busy = l₁ ++ .answered c as t :: l₂) :
      Step s (.finish c) { s with
        busy := l₁ ++ l₂
        finishing := s.finishing ++ [(c, s.dropped.contains c)]
        finished := s.finished ++ [c]
        executed := s.executed ++ [⟨c, .returned, status s c, t⟩] }
  -- a `Finish` on a call that was dead completes with `ok` false; one on a call that dies
  -- meanwhile completes either way
  | complete (s) (l₁ l₂ : List (Nat × Bool)) (c : Nat) (dead ok : Bool)
      (hfinishing : s.finishing = l₁ ++ (c, dead) :: l₂) (hdead : dead = true → ok = false)
      (hok : ok = false → c ∈ s.dropped) :
      Step s (.complete c ok) { s with
        finishing := l₁ ++ l₂, cq := s.cq ++ [⟨c, .finish, ok⟩] }

end VcaService

/-- The service with its clients. -/
def vcaService : System ServiceState ServiceAct where
  start s := s = VcaService.init
  step := VcaService.Step

end VirtCore
