import VirtCore.Keyed.Owned
import VirtCore.Service.Handler

/-!
# VirtCore — where the contexts of the service are

Every live context is in one place: a queue, the main loop, a worker, or a `Finish` under way.

* **`Place`** — a context and the phase it is in, with what it is like then (`Phase.Good`).
* **`places`** — the places of all live contexts.
* **`step_places`** — a step moves one context from its place to the next, makes one or deletes
  one.
-/

namespace VirtCore

open Transition Interact VcaController

/-! ## The tables agree

For each call all of them give the same number and the same message, so that a context is used as
what it was made. -/

namespace Rpc

/-- The number of a call in all the switches. -/
def type_ (rpc : Rpc) : Int := rpc.ctorIdx + 1

/-- The request message of a call. -/
def requestType : Rpc → RequestType
  | .Test | .HostInfo => .requestNull
  | .VmCommon => .requestSimple
  | .VmInstall => .requestInstall
  | .VmOperateSnapshot => .requestSnapshot
  | .VmClone => .requestClone
  | .VmImpAndExp => .requestImpAndexportVM
  | .VmNetwork => .requestNetwork
  | .VmRdp => .requestRdp
  | .VmRecord => .requestRecord
  | .VmSharefolder => .requestSharefolder
  | .VmConfig => .requestConfig
  | .VmUSB => .requestUSB
  | .VmAudio => .requestAudio
  | .VmSerial => .requestSerial
  | .P2P => .requestP2P
  | .VmExtends => .requestVmExtends

theorem type_injective {rpc rpc' : Rpc} (h : rpc.type_ = rpc'.type_) : rpc = rpc' := by
  cases rpc <;> cases rpc' <;> first | rfl | exact absurd h (by decide)

@[simp] theorem type_inj {rpc rpc' : Rpc} : rpc.type_ = rpc'.type_ ↔ rpc = rpc' :=
  ⟨type_injective, fun h => h ▸ rfl⟩

@[simp] theorem deleteAs_type_ (rpc : Rpc) :
    VcaService.deleteAs rpc.type_ = some rpc.requestType := by
  cases rpc <;> rfl

@[simp] theorem rearm_type_ (rpc : Rpc) :
    VcaService.rearm rpc.type_ = some (rpc.requestType, rpc.type_, rpc) := by
  cases rpc <;> rfl

@[simp] theorem dispatch_type_ (rpc : Rpc) :
    VcaService.dispatch rpc.type_ = some (rpc.requestType, rpc) := by
  cases rpc <;> rfl

end Rpc

/-! ## Phases -/

/-- What happens to a context, in order. -/
inductive Phase where
  | constructed (rpc : Rpc)
  | armed (rpc : Rpc)
  /-- Its arrival event is in the queue, or just taken. -/
  | arrived (rpc : Rpc)
  /-- The main loop is about to make the next context of its type. -/
  | accepted (i : Int)
  /-- Its task is on the way to a worker. -/
  | queued (i : Int)
  | called (as : RequestType) (rpc : Rpc)
  | answered (as : RequestType)
  | finishing
  /-- The event of its `Finish` is in the queue, or just taken. -/
  | completed
  | abandoned
  deriving DecidableEq

/-- A context that has a client's request. -/
def Accepted (rpc : Rpc) (status_ : Int) (x : Option HandlerContext) : Prop :=
  ∃ q, x = some ⟨rpc.requestType, rpc.type_, status_, some rpc, some ⟨rpc, q⟩⟩

/-- What a context is like in a phase. -/
def Phase.Good : Phase → Option HandlerContext → Prop
  | .constructed rpc, x => x = some ⟨rpc.requestType, rpc.type_, 1, none, none⟩
  | .armed rpc, x => x = some ⟨rpc.requestType, rpc.type_, 1, some rpc, none⟩
  | .arrived rpc, x => Accepted rpc 1 x
  | .accepted i, x => ∃ rpc : Rpc, i = rpc.type_ ∧ Accepted rpc 1 x
  | .queued i, x => ∃ rpc : Rpc, i = rpc.type_ ∧ Accepted rpc 1 x
  | .called as rpc, x => as = rpc.requestType ∧ Accepted rpc 1 x
  | .answered as, x => ∃ rpc : Rpc, as = rpc.requestType ∧ Accepted rpc 2 x
  | .finishing, x => ∃ rpc, Accepted rpc 2 x
  | .completed, x => ∃ rpc, Accepted rpc 2 x
  | .abandoned, x => ∃ rpc, Accepted rpc 1 x

/-- The phases in which a context is the one that a next client of `rpc` meets, or is about to be
replaced by it. -/
def Phase.waits (rpc : Rpc) : Phase → Bool
  | .constructed r | .armed r | .arrived r => r == rpc
  | .accepted i => i == rpc.type_
  | _ => false

@[simp] theorem Phase.waits_armed (rpc r : Rpc) : (Phase.armed r).waits rpc = (r == rpc) := rfl

@[simp] theorem Phase.waits_accepted (rpc r : Rpc) :
    (Phase.accepted r.type_).waits rpc = (r == rpc) := by
  simp [Phase.waits, beq_eq_decide]

@[simp] theorem Phase.waits_queued (rpc : Rpc) (i : Int) :
    (Phase.queued i).waits rpc = false := rfl

@[simp] theorem Phase.waits_completed (rpc : Rpc) : Phase.completed.waits rpc = false := rfl

/-- `Finish` has been called. -/
def Phase.finishes : Phase → Bool
  | .finishing | .completed => true
  | _ => false

/-- The task has been executed. -/
def Phase.executes : Phase → Bool
  | .finishing | .completed | .abandoned => true
  | _ => false

theorem Phase.executes_of_finishes {p : Phase} (h : p.executes = false) : p.finishes = false := by
  cases p <;> first | rfl | cases h

structure Place where
  htc : Nat
  phase : Phase
  deriving DecidableEq

def Place.Good (p : Place) (x : Option HandlerContext) : Prop := p.phase.Good x

theorem Place.Good.isSome {p : Place} {x : Option HandlerContext} (h : p.Good x) : x.isSome := by
  unfold Place.Good at h
  cases hp : p.phase <;> rw [hp] at h <;> simp only [Phase.Good] at h
  case constructed | armed => rw [h]; rfl
  case arrived => obtain ⟨q, rfl⟩ := h; rfl
  case accepted | queued | answered => obtain ⟨rpc, -, q, rfl⟩ := h; rfl
  case called => obtain ⟨-, q, rfl⟩ := h; rfl
  case finishing | completed | abandoned => obtain ⟨rpc, q, rfl⟩ := h; rfl

/-! ## Places -/

def CqEvent.place (e : CqEvent) : Place :=
  ⟨e.tag, match e.op with
    | .arrival rpc => .arrived rpc
    | .finish => .completed⟩

def MainLoop.places : MainLoop → List Place
  | .registering rest => rest.map fun e => ⟨e.2, .constructed e.1⟩
  | .next | .crashed => []
  | .taken e | .aborted e => [e.place]
  | .rearming i c => [⟨c, .accepted i⟩]
  | .enqueueing i c => [⟨c, .queued i⟩]

def Work.place : Work → Place
  | .started i c => ⟨c, .queued i⟩
  | .calling c as rpc => ⟨c, .called as rpc⟩
  | .answered c as _ => ⟨c, .answered as⟩

namespace VcaService

/-- The places of the live contexts. -/
def places (s : ServiceState) : List Place :=
  s.main.places ++ s.armed.map (fun a => ⟨a.1, .armed a.2⟩) ++ s.cq.map CqEvent.place ++
    s.tasks.map (fun t => ⟨t.2, .queued t.1⟩) ++ s.busy.map Work.place ++
    s.finishing.map (fun f => ⟨f.1, .finishing⟩) ++
    s.abandoned.map (fun c => ⟨c, .abandoned⟩)

/-- Every live context is in one place and is as it should be there. -/
abbrev Placed (s : ServiceState) : Prop := Keyed.Owned s.heap Place.htc Place.Good (places s)

/-! ## What a step does

A step moves a context from one place to the next, makes one, or frees one. The invariants look at
this, not at the steps. -/

/-- What a move does to the record of the `Finish` calls and of the executed tasks. -/
inductive Records (p p' : Place) (s s' : ServiceState) : Prop where
  | quiet (hfinished : s'.finished = s.finished) (hexecuted : s'.executed = s.executed)
      (hfinishes : p'.phase.finishes = p.phase.finishes)
      (hexecutes : p'.phase.executes = p.phase.executes)
  | finishes (t : ServerTrace) (hfinished : s'.finished = s.finished ++ [p.htc])
      (hexecuted : s'.executed = s.executed ++ [⟨p.htc, .returned, some 2, t⟩])
      (hp : p.phase.executes = false) (hp' : p'.phase = .finishing)
  | throws (t : ServerTrace) (hfinished : s'.finished = s.finished)
      (hexecuted : s'.executed = s.executed ++ [⟨p.htc, .threw, some 1, t⟩])
      (hp : p.phase.executes = false) (hp' : p'.phase = .abandoned)

/-- What a step does to the places and the records. -/
inductive Change (s s' : ServiceState) : Prop where
  /-- No context changes its phase. -/
  | stays (hplaces : (places s').Perm (places s)) (hheap : s'.heap = s.heap)
      (hfresh : s'.fresh = s.fresh) (hfinished : s'.finished = s.finished)
      (hexecuted : s'.executed = s.executed) (hdeleted : s'.deleted = s.deleted)
  /-- A context goes on to its next phase. -/
  | moves (p p' : Place) (x : Option HandlerContext) (hmem : p ∈ places s)
      (hplaces : (p :: places s').Perm (p' :: places s)) (hhtc : p'.htc = p.htc)
      (hheap : s'.heap = Function.update s.heap p.htc x) (hgood : p'.Good x)
      (hwaits : ∀ rpc, p'.phase.waits rpc = p.phase.waits rpc) (hrecords : Records p p' s s')
      (hfresh : s'.fresh = s.fresh) (hdeleted : s'.deleted = s.deleted)
  /-- The next context of a type is made. -/
  | rearms (rpc : Rpc) (c : Nat) (x : Option HandlerContext)
      (hmem : (⟨c, .accepted rpc.type_⟩ : Place) ∈ places s)
      (hplaces : (⟨c, .accepted rpc.type_⟩ :: places s').Perm
        (⟨s.fresh, .armed rpc⟩ :: ⟨c, .queued rpc.type_⟩ :: places s))
      (hheap : s'.heap = Function.update s.heap s.fresh x)
      (hgood : (⟨s.fresh, .armed rpc⟩ : Place).Good x) (hfresh : s'.fresh = s.fresh + 1)
      (hfinished : s'.finished = s.finished) (hexecuted : s'.executed = s.executed)
      (hdeleted : s'.deleted = s.deleted)
  /-- A context is deleted on the event of its `Finish`. -/
  | deletes (d : Deletion) (hmem : (⟨d.htc, .completed⟩ : Place) ∈ places s)
      (hplaces : (⟨d.htc, .completed⟩ :: places s').Perm (places s))
      (hheap : s'.heap = Function.update s.heap d.htc none) (has : d.as = d.requestType)
      (hevent : d.event.tag = d.htc ∧ d.event.op = .finish) (hfresh : s'.fresh = s.fresh)
      (hfinished : s'.finished = s.finished) (hexecuted : s'.executed = s.executed)
      (hdeleted : s'.deleted = s.deleted ++ [d])

/-- A context goes on to its next phase as it is. -/
theorem Change.passes {s s' : ServiceState} (h : Placed s) (p p' : Place) (hmem : p ∈ places s)
    (hplaces : (p :: places s').Perm (p' :: places s)) (hhtc : p'.htc = p.htc)
    (hheap : s'.heap = s.heap) (hgood : p.Good (s.heap p.htc) → p'.Good (s.heap p.htc))
    (hwaits : ∀ rpc, p'.phase.waits rpc = p.phase.waits rpc) (hrecords : Records p p' s s')
    (hfresh : s'.fresh = s.fresh) (hdeleted : s'.deleted = s.deleted) : Change s s' := by
  refine .moves p p' (s.heap p.htc) hmem hplaces hhtc ?_ (hgood (h.good p hmem)) hwaits hrecords
    hfresh hdeleted
  rw [hheap, Function.update_eq_self]

variable {s s' : ServiceState} {a : ServiceAct}

theorem count_places (s : ServiceState) (p : Place) : (places s).count p =
    s.main.places.count p + (s.armed.map fun a => (⟨a.1, .armed a.2⟩ : Place)).count p +
      (s.cq.map CqEvent.place).count p +
      (s.tasks.map fun t => (⟨t.2, .queued t.1⟩ : Place)).count p +
      (s.busy.map Work.place).count p +
      (s.finishing.map fun f => (⟨f.1, .finishing⟩ : Place)).count p +
      (s.abandoned.map fun c => (⟨c, .abandoned⟩ : Place)).count p := by
  simp only [places, List.count_append]

/-- The context of an event, once the event has been taken. -/
theorem taken_good (h : Placed s) {e : CqEvent} (hmain : s.main = .taken e) :
    e.place ∈ places s ∧ e.place.Good (s.heap e.tag) := by
  have hmem : e.place ∈ places s := by simp [places, hmain, MainLoop.places]
  exact ⟨hmem, h.good _ hmem⟩

/-- What an event that the main loop has taken says about its context. -/
theorem event_cases (h : Placed s) {e : CqEvent} {ctx : HandlerContext}
    (hmain : s.main = .taken e) (hheap : s.heap e.tag = some ctx) :
    (∃ rpc : Rpc, e.place = ⟨e.tag, .arrived rpc⟩ ∧ ctx.status_ = 1 ∧
      ctx.type_ = rpc.type_) ∨
      ∃ rpc : Rpc, e.op = .finish ∧ e.place = ⟨e.tag, .completed⟩ ∧ ctx.status_ = 2 ∧
        ctx.type_ = rpc.type_ ∧ ctx.requestType = rpc.requestType := by
  have hgood := (taken_good h hmain).2
  rw [hheap] at hgood
  cases hop : e.op with
  | arrival rpc =>
    simp only [Place.Good, CqEvent.place, hop, Phase.Good, Accepted] at hgood
    obtain ⟨q, hq⟩ := hgood
    cases hq
    exact .inl ⟨rpc, by simp [CqEvent.place, hop], rfl, rfl⟩
  | finish =>
    simp only [Place.Good, CqEvent.place, hop, Phase.Good, Accepted] at hgood
    obtain ⟨rpc, q, hq⟩ := hgood
    cases hq
    exact .inr ⟨rpc, rfl, by simp [CqEvent.place, hop], rfl, rfl, rfl⟩

/-- **What a step does**: it moves one context on, makes one or deletes one, or none. -/
theorem step_change (h : Placed s) (hstep : Step s a s') : Change s s' := by
  cases hstep with
  | registerRequest rpc c rest hmain =>
    have hmem : (⟨c, .constructed rpc⟩ : Place) ∈ places s := by
      simp [places, hmain, MainLoop.places]
    have hheap : s.heap c = _ := h.good _ hmem
    refine .moves ⟨c, .constructed rpc⟩ ⟨c, .armed rpc⟩ _ hmem ?_ rfl rfl ?_ (fun _ => rfl)
      (.quiet rfl rfl rfl rfl) rfl rfl
    · -- here and below the places before and after are compared by counting each
      refine List.perm_iff_count.mpr fun p => ?_
      simp [count_places, hmain, MainLoop.places, modify, List.count_cons]
      omega
    · simp [Place.Good, Phase.Good, hheap]
  | enterLoop hmain =>
    refine .stays ?_ rfl rfl rfl rfl rfl
    simp [places, hmain, MainLoop.places]
  | arrive l₁ l₂ c rpc q harmed =>
    have hmem : (⟨c, .armed rpc⟩ : Place) ∈ places s := by simp [places, harmed]
    have hheap : s.heap c = _ := h.good _ hmem
    refine .moves ⟨c, .armed rpc⟩ ⟨c, .arrived rpc⟩ _ hmem ?_ rfl rfl ?_ (fun _ => rfl)
      (.quiet rfl rfl rfl rfl) rfl rfl
    · refine List.perm_iff_count.mpr fun p => ?_
      simp [count_places, harmed, CqEvent.place, modify, List.count_cons]
      omega
    · simp [Place.Good, Phase.Good, Accepted, hheap]
  | drop => exact .stays (.refl _) rfl rfl rfl rfl rfl
  | next l₁ l₂ e hmain hcq =>
    refine .stays (List.perm_iff_count.mpr fun p => ?_) rfl rfl rfl rfl rfl
    simp [count_places, hmain, hcq, MainLoop.places, List.count_cons]
    omega
  | assertOk e hmain =>
    refine .stays ?_ rfl rfl rfl rfl rfl
    simp [places, hmain, MainLoop.places]
  | delete e ctx as hmain hok hheap hstatus has =>
    have hmem := (taken_good h hmain).1
    -- a context that is deleted has been processed, so that its event is that of `Finish`
    rcases event_cases h hmain hheap with ⟨rpc, -, hone, -⟩ |
      ⟨rpc, hop, hplace, -, htype, hreq⟩
    · rw [hone] at hstatus
      exact absurd hstatus (by decide)
    · rw [htype, Rpc.deleteAs_type_] at has
      rw [hplace] at hmem
      refine .deletes ⟨e.tag, as, ctx.requestType, e⟩ hmem ?_ rfl
        ((Option.some.inj has).symm.trans hreq.symm) ⟨rfl, hop⟩ rfl rfl rfl rfl
      refine List.perm_iff_count.mpr fun p => ?_
      simp [count_places, hmain, hplace, MainLoop.places, List.count_cons]
      omega
  | deleteNothing e ctx hmain hok hheap hstatus has =>
    rcases event_cases h hmain hheap with ⟨rpc, -, hone, -⟩ | ⟨rpc, -, -, -, htype, -⟩
    · rw [hone] at hstatus
      exact absurd hstatus (by decide)
    · simp [htype] at has
  | handle e ctx hmain hok hheap hstatus =>
    have hmem := (taken_good h hmain).1
    rcases event_cases h hmain hheap with ⟨rpc, hplace, -, htype⟩ | ⟨rpc, -, -, htwo, -⟩
    · rw [hplace] at hmem
      refine .passes h ⟨e.tag, .arrived rpc⟩ ⟨e.tag, .accepted ctx.type_⟩ hmem ?_ rfl rfl
        (fun hgood => ⟨rpc, htype, hgood⟩) (fun r => ?_) (.quiet rfl rfl rfl rfl) rfl rfl
      · refine List.perm_iff_count.mpr fun p => ?_
        simp [count_places, hmain, hplace, MainLoop.places, List.count_cons]
        omega
      · simp [Phase.waits, htype]
    · exact absurd htwo hstatus
  | readDead e hmain hok hheap =>
    -- the context of an event has not been deleted
    have hsome := (taken_good h hmain).2.isSome
    simp [hheap] at hsome
  | rearm i c requestType type_ rpc hmain hi =>
    have hmem : (⟨c, .accepted i⟩ : Place) ∈ places s :=
      by simp [places, hmain, MainLoop.places]
    obtain ⟨rpc', rfl, -⟩ := h.good _ hmem
    rw [Rpc.rearm_type_] at hi
    cases hi
    refine .rearms rpc c _ hmem ?_ rfl rfl rfl rfl rfl rfl
    refine List.perm_iff_count.mpr fun p => ?_
    simp [count_places, hmain, MainLoop.places, List.count_cons]
    omega
  | rearmNothing i c hmain hi =>
    have hmem : (⟨c, .accepted i⟩ : Place) ∈ places s :=
      by simp [places, hmain, MainLoop.places]
    obtain ⟨rpc', rfl, -⟩ := h.good _ hmem
    simp at hi
  | enqueue i c hmain =>
    refine .stays (List.perm_iff_count.mpr fun p => ?_) rfl rfl rfl rfl rfl
    simp [count_places, hmain, MainLoop.places]
    omega
  | takeTask i c rest htasks =>
    refine .stays (List.perm_iff_count.mpr fun p => ?_) rfl rfl rfl rfl rfl
    simp [count_places, htasks, Work.place, List.count_cons]
    omega
  | dispatch l₁ l₂ i c as rpc hbusy hi =>
    have hmem : (⟨c, .queued i⟩ : Place) ∈ places s := by simp [places, hbusy, Work.place]
    refine .passes h ⟨c, .queued i⟩ ⟨c, .called as rpc⟩ hmem ?_ rfl rfl (fun hgood => ?_)
      (fun _ => rfl) (.quiet rfl rfl rfl rfl) rfl rfl
    · refine List.perm_iff_count.mpr fun p => ?_
      simp [count_places, hbusy, Work.place, List.count_cons]
      omega
    · obtain ⟨rpc', rfl, hacc⟩ := hgood
      rw [Rpc.dispatch_type_] at hi
      cases hi
      exact ⟨rfl, hacc⟩
  | noCase l₁ l₂ i c hbusy hi =>
    have hmem : (⟨c, .queued i⟩ : Place) ∈ places s := by simp [places, hbusy, Work.place]
    obtain ⟨rpc, rfl, -⟩ := h.good _ hmem
    simp at hi
  | answer l₁ l₂ c as ctx rpc q t reply hbusy hheap hreq =>
    have hmem : (⟨c, .called as rpc⟩ : Place) ∈ places s :=
      by simp [places, hbusy, Work.place]
    obtain ⟨has, q', hq⟩ := h.good _ hmem
    refine .moves ⟨c, .called as rpc⟩ ⟨c, .answered as⟩ _ hmem ?_ rfl rfl
      ⟨rpc, has, q', ?_⟩
      (fun _ => rfl) (.quiet rfl rfl rfl rfl) rfl rfl
    · refine List.perm_iff_count.mpr fun p => ?_
      simp [count_places, hbusy, Work.place, modify, List.count_cons]
      omega
    · simp [show s.heap c = _ from hq]
  | throw l₁ l₂ c as ctx rpc q t err hbusy hheap hreq =>
    have hmem : (⟨c, .called as rpc⟩ : Place) ∈ places s :=
      by simp [places, hbusy, Work.place]
    obtain ⟨has, q', hq⟩ := h.good _ hmem
    refine .passes h ⟨c, .called as rpc⟩ ⟨c, .abandoned⟩ hmem ?_ rfl rfl
      (fun hgood => ⟨rpc, hgood.2⟩) (fun _ => rfl) (.throws t rfl ?_ rfl rfl) rfl rfl
    · refine List.perm_iff_count.mpr fun p => ?_
      simp [count_places, hbusy, Work.place, List.count_cons]
      omega
    · simp [status, show s.heap c = _ from hq]
  | finish l₁ l₂ c as t hbusy =>
    have hmem : (⟨c, .answered as⟩ : Place) ∈ places s := by simp [places, hbusy, Work.place]
    obtain ⟨rpc, has, q, hq⟩ := h.good _ hmem
    refine .passes h ⟨c, .answered as⟩ ⟨c, .finishing⟩ hmem ?_ rfl rfl
      (fun _ => ⟨rpc, q, hq⟩) (fun _ => rfl) (.finishes t rfl ?_ rfl rfl) rfl rfl
    · refine List.perm_iff_count.mpr fun p => ?_
      simp [count_places, hbusy, Work.place, List.count_cons]
      omega
    · simp [status, show s.heap c = _ from hq]
  | complete l₁ l₂ c dead ok hfinishing hdead hok =>
    have hmem : (⟨c, .finishing⟩ : Place) ∈ places s := by simp [places, hfinishing]
    refine .passes h ⟨c, .finishing⟩ ⟨c, .completed⟩ hmem ?_ rfl rfl (fun hgood => hgood)
      (fun _ => rfl) (.quiet rfl rfl rfl rfl) rfl rfl
    refine List.perm_iff_count.mpr fun p => ?_
    simp [count_places, hfinishing, CqEvent.place, List.count_cons]
    omega

end VcaService

end VirtCore
