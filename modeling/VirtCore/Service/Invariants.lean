import Mathlib.Data.List.Nodup
import VirtCore.Service.Places

/-!
# VirtCore — what holds of the service in every run

* **`placed`** — every live context is in one place, as it should be there.
* **`armed_once`** — every call of the service has one context that waits for its next client.
* **`recorded`** — `Finish` has been called once on the contexts whose task has answered, and on
  no other; no context is deleted twice.
-/

namespace VirtCore

open Transition Interact VcaController

namespace VcaService

variable {s s' : ServiceState} {a : ServiceAct}

/-- A move takes its place in the list of the places. -/
theorem perm_of_move {p p' : Place} {l l' : List Place} (hmem : p ∈ l)
    (h : (p :: l').Perm (p' :: l)) : ∃ rest, l.Perm (p :: rest) ∧ l'.Perm (p' :: rest) := by
  refine ⟨l.erase p, List.perm_cons_erase hmem, ?_⟩
  have hswap : (p :: l').Perm (p :: p' :: l.erase p) :=
    h.trans (((List.perm_cons_erase hmem).cons p').trans (List.Perm.swap p p' _))
  exact hswap.cons_inv

/-! ## The places

Every context of the heap is at exactly one place, and in the phase that the place asks for. -/

/-- The places are right, and no address has been given away. -/
structure Located (s : ServiceState) : Prop where
  placed : Placed s
  fresh : ∀ p ∈ places s, p.htc < s.fresh

theorem Located.notMem_fresh (h : Located s) : s.fresh ∉ (places s).map Place.htc := by
  intro hmem
  obtain ⟨p, hp, heq⟩ := List.mem_map.mp hmem
  exact absurd (h.fresh p hp) (heq ▸ Nat.lt_irrefl _)

theorem Located.change (h : Located s) (hchange : Change s s') : Located s' := by
  cases hchange with
  | stays hplaces hheap hfresh =>
    refine ⟨?_, fun p hp => ?_⟩
    · show Keyed.Owned s'.heap _ _ _
      rw [hheap]
      exact h.placed.perm hplaces
    · rw [hfresh]
      exact h.fresh p (hplaces.mem_iff.mp hp)
  | moves p p' x hmem hplaces hhtc hheap hgood hwaits hrecords hfresh =>
    -- one context moves, and keeps its entry in the heap
    obtain ⟨rest, hl, hl'⟩ := perm_of_move hmem hplaces
    refine ⟨?_, fun q hq => ?_⟩
    · show Keyed.Owned s'.heap _ _ _
      rw [hheap]
      exact ((h.placed.perm hl.symm).replace hhtc hgood).perm hl'
    · rw [hfresh]
      rcases List.mem_cons.mp (hl'.mem_iff.mp hq) with rfl | hq
      · exact hhtc ▸ h.fresh p hmem
      · exact h.fresh q (hl.mem_iff.mpr (List.mem_cons_of_mem p hq))
  | rearms rpc c x hmem hplaces hheap hgood hfresh =>
    have hswap := hplaces.trans (List.Perm.swap _ _ _)
    obtain ⟨rest, hl, hl'⟩ := perm_of_move (List.mem_cons_of_mem _ hmem) hswap
    -- a new context waits for the next request, and this one goes to the queue
    have hnew := h.placed.alloc (p := ⟨s.fresh, .armed rpc⟩) h.notMem_fresh hgood
    refine ⟨?_, fun q hq => ?_⟩
    · show Keyed.Owned s'.heap _ _ _
      rw [hheap]
      have hold := hnew.perm hl.symm
      have hqueued : Keyed.Owned (Function.update s.heap s.fresh x) Place.htc Place.Good
          (⟨c, .queued rpc.type_⟩ :: rest) :=
        hold.keep rfl (hold.good ⟨c, .accepted rpc.type_⟩ List.mem_cons_self)
      exact hqueued.perm hl'
    · rw [hfresh]
      rcases List.mem_cons.mp (hl'.mem_iff.mp hq) with rfl | hq
      · have hc := h.fresh _ hmem
        exact Nat.lt_succ_of_lt hc
      · rcases List.mem_cons.mp (hl.mem_iff.mpr (List.mem_cons_of_mem _ hq)) with rfl | hq
        · exact Nat.lt_succ_self _
        · exact Nat.lt_succ_of_lt (h.fresh q hq)
  | deletes d hmem hplaces hheap has hevent hfresh =>
    refine ⟨?_, fun q hq => ?_⟩
    · show Keyed.Owned s'.heap _ _ _
      rw [hheap]
      -- the deleted context has no place any more
      exact (h.placed.perm hplaces).free (p := (⟨d.htc, .completed⟩ : Place)) none
    · rw [hfresh]
      exact h.fresh q (hplaces.mem_iff.mp (List.mem_cons_of_mem _ hq))

/-- The constructor and `RegisterRequest` agree on every member. -/
theorem init_heap : ∀ e ∈ registerRequest, init.heap (members.idxOf e.2) =
    some ⟨e.1.requestType, e.1.type_, 1, none, none⟩ := by
  simp only [registerRequest, List.forall_mem_cons]
  exact ⟨rfl, rfl, rfl, rfl, rfl, rfl, rfl, rfl, rfl, rfl, rfl, rfl, rfl, rfl, rfl, rfl, rfl,
    nofun⟩

theorem located_init : Located init := by
  refine ⟨⟨by decide, fun p hp => ?_⟩, by decide⟩
  simp only [places, init, MainLoop.places, List.map_map, List.map_nil, List.append_nil] at hp
  obtain ⟨e, he, rfl⟩ := List.mem_map.mp hp
  exact init_heap e he

theorem located (hs : Reachable vcaService s) : Located s := by
  refine hs.invariant (I := Located) (fun s hs => ?_) fun _ _ _ h hstep =>
    h.change (step_change h.placed hstep)
  exact hs ▸ located_init

/-! ## One context waits for each call

A context is made where one is used up, so that the number that waits does not change. -/

/-- The contexts that wait for a client of `rpc`, or are about to be replaced by one that does. -/
def waiting (s : ServiceState) (rpc : Rpc) : Nat :=
  (places s).countP fun p => p.phase.waits rpc

theorem waiting_change (hchange : Change s s') (rpc : Rpc) :
    waiting s' rpc = waiting s rpc := by
  cases hchange with
  | stays hplaces => exact hplaces.countP_eq _
  | moves p p' x hmem hplaces hhtc hheap hgood hwaits =>
    have hcount := hplaces.countP_eq fun p => p.phase.waits rpc
    simp only [List.countP_cons, hwaits rpc] at hcount
    exact Nat.add_right_cancel hcount
  | rearms rpc' c x hmem hplaces =>
    -- the accepted context stops waiting and the new one begins
    have hcount := hplaces.countP_eq fun p => p.phase.waits rpc
    simp only [List.countP_cons, Phase.waits_armed, Phase.waits_accepted, Phase.waits_queued]
      at hcount
    simpa [waiting] using hcount
  | deletes d hmem hplaces =>
    have hcount := hplaces.countP_eq fun p => p.phase.waits rpc
    simpa [waiting, List.countP_cons] using hcount

theorem armed_once (hs : Reachable vcaService s) (rpc : Rpc) : waiting s rpc = 1 := by
  induction hs with
  | start h =>
    obtain rfl := h
    cases rpc <;> decide
  | step hs h ih =>
    have hloc := located hs
    rw [waiting_change (step_change hloc.placed h), ih]

/-! ## The records

What has been finished, executed and deleted, compared with the phase in which each context is. -/

structure Recorded (s : ServiceState) : Prop where
  /-- `Finish` has been called on the contexts in a phase after it, once. -/
  finished : ∀ p ∈ places s, s.finished.count p.htc = if p.phase.finishes then 1 else 0
  executed : ∀ p ∈ places s, p.phase.executes = false → ∀ x ∈ s.executed, x.htc ≠ p.htc
  answered : ∀ x ∈ s.executed, x.ending = .returned → s.finished.count x.htc = 1 ∧
    x.status = some 2
  thrown : ∀ x ∈ s.executed, x.ending = .threw → s.finished.count x.htc = 0
  deletedOnce : (s.deleted.map Deletion.htc).Nodup
  deleted : ∀ d ∈ s.deleted, d.as = d.requestType ∧ d.event.tag = d.htc ∧
    d.event.op = .finish ∧ s.finished.count d.htc = 1
  deletedGone : ∀ d ∈ s.deleted, ∀ p ∈ places s, p.htc ≠ d.htc
  finishedFresh : ∀ c ∈ s.finished, c < s.fresh
  executedFresh : ∀ x ∈ s.executed, x.htc < s.fresh
  deletedFresh : ∀ d ∈ s.deleted, d.htc < s.fresh

/-- The places and addresses after a step that leaves the records as they are. -/
theorem Recorded.of_eq (h : Recorded s) (hfinished : s'.finished = s.finished)
    (hexecuted : s'.executed = s.executed) (hdeleted : s'.deleted = s.deleted)
    (hfresh : s.fresh ≤ s'.fresh)
    (hplaces : ∀ p' ∈ places s', (∃ p ∈ places s, p'.htc = p.htc ∧
      p'.phase.finishes = p.phase.finishes ∧ p'.phase.executes = p.phase.executes) ∨
      (p'.htc = s.fresh ∧ p'.phase.finishes = false)) : Recorded s' := by
  refine ⟨fun p' hp' => ?_, fun p' hp' hx x hxmem => ?_, ?_, ?_, ?_, ?_,
    fun d hd p' hp' => ?_, ?_,
    ?_, ?_⟩
  · rw [hfinished]
    -- a place is of a context that was there, or of the new one, of which nothing is recorded yet
    rcases hplaces p' hp' with ⟨p, hp, hhtc, hfin, -⟩ | ⟨hhtc, hfin⟩
    · rw [hhtc, hfin]
      exact h.finished p hp
    · rw [hhtc, hfin]
      exact List.count_eq_zero.mpr fun hmem => Nat.lt_irrefl _ (h.finishedFresh _ hmem)
  · rw [hexecuted] at hxmem
    rcases hplaces p' hp' with ⟨p, hp, hhtc, -, hex⟩ | ⟨hhtc, -⟩
    · rw [hhtc]
      exact h.executed p hp (hex ▸ hx) x hxmem
    · rw [hhtc]
      exact Nat.ne_of_lt (h.executedFresh x hxmem)
  · rw [hexecuted, hfinished]
    exact h.answered
  · rw [hexecuted, hfinished]
    exact h.thrown
  · rw [hdeleted]
    exact h.deletedOnce
  · rw [hdeleted, hfinished]
    exact h.deleted
  · rw [hdeleted] at hd
    rcases hplaces p' hp' with ⟨p, hp, hhtc, -⟩ | ⟨hhtc, -⟩
    · rw [hhtc]
      exact h.deletedGone d hd p hp
    · rw [hhtc]
      exact Nat.ne_of_gt (h.deletedFresh d hd)
  · rw [hfinished]
    exact fun c hc => Nat.lt_of_lt_of_le (h.finishedFresh c hc) hfresh
  · rw [hexecuted]
    exact fun x hx => Nat.lt_of_lt_of_le (h.executedFresh x hx) hfresh
  · rw [hdeleted]
    exact fun d hd => Nat.lt_of_lt_of_le (h.deletedFresh d hd) hfresh

/-- The task of `p` has been executed: with a `Finish` call, or left by an exception. -/
theorem Recorded.of_executes (hloc : Located s) (h : Recorded s) {p p' : Place}
    {rest : List Place} {ending : CallEnd} {status : Option Int} {t : ServerTrace}
    {calls : List Nat} (hl : (places s).Perm (p :: rest)) (hl' : (places s').Perm (p' :: rest))
    (hhtc : p'.htc = p.htc) (hp : p.phase.executes = false) (hp' : p'.phase.executes = true)
    (hfinished : s'.finished = s.finished ++ calls)
    (hexecuted : s'.executed = s.executed ++ [⟨p.htc, ending, status, t⟩])
    (hdeleted : s'.deleted = s.deleted) (hfresh : s'.fresh = s.fresh)
    (hcalls : ∀ c, c ≠ p.htc → calls.count c = 0)
    (hself : calls.count p.htc = if p'.phase.finishes then 1 else 0)
    (hanswered : ending = .returned → p'.phase.finishes = true ∧ status = some 2)
    (hthrown : ending = .threw → p'.phase.finishes = false) : Recorded s' := by
  have hmem : p ∈ places s := hl.mem_iff.mpr List.mem_cons_self
  have hrest (q : Place) (hq : q ∈ rest) : q ∈ places s ∧ q.htc ≠ p.htc :=
    ⟨hl.mem_iff.mpr (List.mem_cons_of_mem p hq), (hloc.placed.perm hl.symm).ne_of_mem hq⟩
  have hplace (q : Place) (hq : q ∈ places s') : q = p' ∨ q ∈ rest :=
    List.mem_cons.mp (hl'.mem_iff.mp hq)
  -- only the count of this context moves, and from none to one
  have hother (c : Nat) (hc : c ≠ p.htc) : s'.finished.count c = s.finished.count c := by
    rw [hfinished, List.count_append, hcalls c hc, Nat.add_zero]
  have hone : s'.finished.count p.htc = if p'.phase.finishes then 1 else 0 := by
    have hzero := h.finished p hmem
    rw [Phase.executes_of_finishes hp] at hzero
    rw [hfinished, List.count_append, hself, hzero]
    simp
  -- an execution that is recorded is an earlier one, of another context, or this one
  have hexec (x : Execution) (hx : x ∈ s'.executed) :
      x ∈ s.executed ∧ x.htc ≠ p.htc ∨ x = ⟨p.htc, ending, status, t⟩ := by
    rw [hexecuted, List.mem_append, List.mem_singleton] at hx
    exact hx.imp (fun hx => ⟨hx, h.executed p hmem hp x hx⟩) id
  refine ⟨fun q hq => ?_, fun q hq hqx x hx => ?_, fun x hx hret => ?_, fun x hx hthr => ?_, ?_,
    fun d hd => ?_, fun d hd q hq => ?_, fun c hc => ?_, fun x hx => ?_, ?_⟩
  · rcases hplace q hq with rfl | hq
    · rw [hhtc]
      exact hone
    · rw [hother _ (hrest q hq).2]
      exact h.finished q (hrest q hq).1
  · rcases hplace q hq with rfl | hq
    · exact absurd hp' (by simp [hqx])
    · rcases hexec x hx with ⟨hx, -⟩ | rfl
      · exact h.executed q (hrest q hq).1 hqx x hx
      · exact (hrest q hq).2.symm
  · rcases hexec x hx with ⟨hx, hne⟩ | rfl
    · rw [hother _ hne]
      exact h.answered x hx hret
    · obtain ⟨hfin, hstatus⟩ := hanswered hret
      exact ⟨by rw [hone, hfin]; rfl, hstatus⟩
  · rcases hexec x hx with ⟨hx, hne⟩ | rfl
    · rw [hother _ hne]
      exact h.thrown x hx hthr
    · rw [hone, hthrown hthr]
      rfl
  · rw [hdeleted]
    exact h.deletedOnce
  · rw [hdeleted] at hd
    rw [hother _ (h.deletedGone d hd p hmem).symm]
    exact h.deleted d hd
  · rw [hdeleted] at hd
    rcases hplace q hq with rfl | hq
    · rw [hhtc]
      exact h.deletedGone d hd p hmem
    · exact h.deletedGone d hd q (hrest q hq).1
  · rw [hfresh]
    by_cases hne : c = p.htc
    · exact hne ▸ hloc.fresh p hmem
    · rw [← List.count_pos_iff, hother c hne, List.count_pos_iff] at hc
      exact h.finishedFresh c hc
  · rw [hfresh]
    rcases hexec x hx with ⟨hx, -⟩ | rfl
    · exact h.executedFresh x hx
    · exact hloc.fresh p hmem
  · rw [hdeleted, hfresh]
    exact h.deletedFresh

theorem Recorded.change (hloc : Located s) (h : Recorded s) (hchange : Change s s') :
    Recorded s' := by
  cases hchange with
  | stays hplaces hheap hfresh hfinished hexecuted hdeleted =>
    refine h.of_eq hfinished hexecuted hdeleted (Nat.le_of_eq hfresh.symm) fun p hp => ?_
    exact .inl ⟨p, hplaces.mem_iff.mp hp, rfl, rfl, rfl⟩
  | moves p p' x hmem hplaces hhtc hheap hgood hwaits hrecords hfresh hdeleted =>
    obtain ⟨rest, hl, hl'⟩ := perm_of_move hmem hplaces
    cases hrecords with
    | quiet hfinished hexecuted hfinishes hexecutes =>
      refine h.of_eq hfinished hexecuted hdeleted (Nat.le_of_eq hfresh.symm) fun q hq => ?_
      rcases List.mem_cons.mp (hl'.mem_iff.mp hq) with rfl | hq
      · exact .inl ⟨p, hmem, hhtc, hfinishes, hexecutes⟩
      · exact .inl ⟨q, hl.mem_iff.mpr (List.mem_cons_of_mem p hq), rfl, rfl, rfl⟩
    | finishes t hfinished hexecuted hp hp' =>
      refine h.of_executes hloc hl hl' hhtc hp (by rw [hp']; rfl) hfinished hexecuted hdeleted
        hfresh (fun c hc => ?_) ?_ (fun _ => ⟨by rw [hp']; rfl, rfl⟩) nofun
      · exact List.count_eq_zero.mpr fun hmem => hc (List.mem_singleton.mp hmem)
      · rw [hp']
        simp [Phase.finishes]
    | throws t hfinished hexecuted hp hp' =>
      refine h.of_executes hloc hl hl' hhtc hp (by rw [hp']; rfl)
        (hfinished.trans (List.append_nil _).symm) hexecuted hdeleted hfresh (fun _ _ => rfl) ?_
        nofun fun _ => by rw [hp']; rfl
      rw [hp']
      rfl
  | rearms rpc c x hmem hplaces hheap hgood hfresh hfinished hexecuted hdeleted =>
    obtain ⟨rest, hl, hl'⟩ := perm_of_move (List.mem_cons_of_mem _ hmem)
      (hplaces.trans (List.Perm.swap _ _ _))
    -- a new context, of which nothing is recorded
    refine h.of_eq hfinished hexecuted hdeleted (by omega) fun q hq => ?_
    rcases List.mem_cons.mp (hl'.mem_iff.mp hq) with rfl | hq
    · exact .inl ⟨_, hmem, rfl, rfl, rfl⟩
    · rcases List.mem_cons.mp (hl.mem_iff.mpr (List.mem_cons_of_mem _ hq)) with rfl | hq
      · exact .inr ⟨rfl, rfl⟩
      · exact .inl ⟨q, hq, rfl, rfl, rfl⟩
  | deletes d hmem hplaces hheap has hevent hfresh hfinished hexecuted hdeleted =>
    -- one place fewer, and one deletion more
    have hsub (q : Place) (hq : q ∈ places s') : q ∈ places s :=
      hplaces.mem_iff.mp (List.mem_cons_of_mem _ hq)
    have hne (q : Place) (hq : q ∈ places s') : q.htc ≠ d.htc :=
      (hloc.placed.perm hplaces).ne_of_mem hq
    refine ⟨fun q hq => ?_, fun q hq hqx => ?_, ?_, ?_, ?_, fun d' hd' => ?_,
      fun d' hd' q hq => ?_, ?_, ?_, fun d' hd' => ?_⟩
    · rw [hfinished]
      exact h.finished q (hsub q hq)
    · rw [hexecuted]
      exact h.executed q (hsub q hq) hqx
    · rw [hexecuted, hfinished]
      exact h.answered
    · rw [hexecuted, hfinished]
      exact h.thrown
    · rw [hdeleted, List.map_append]
      refine List.nodup_append.mpr ⟨h.deletedOnce, List.nodup_singleton _,
        fun c hc c' hc' => ?_⟩
      obtain ⟨d', hd', rfl⟩ := List.mem_map.mp hc
      obtain rfl := List.mem_singleton.mp hc'
      exact (h.deletedGone d' hd' _ hmem).symm
    · rw [hdeleted, List.mem_append, List.mem_singleton] at hd'
      rw [hfinished]
      rcases hd' with hd' | rfl
      · exact h.deleted d' hd'
      · exact ⟨has, hevent.1, hevent.2, h.finished _ hmem⟩
    · rw [hdeleted, List.mem_append, List.mem_singleton] at hd'
      rcases hd' with hd' | rfl
      · exact h.deletedGone d' hd' q (hsub q hq)
      · exact hne q hq
    · rw [hfinished, hfresh]
      exact h.finishedFresh
    · rw [hexecuted, hfresh]
      exact h.executedFresh
    · rw [hdeleted, List.mem_append, List.mem_singleton] at hd'
      rw [hfresh]
      rcases hd' with hd' | rfl
      · exact h.deletedFresh d' hd'
      · exact hloc.fresh _ hmem

theorem recorded_init : Recorded init := by
  refine ⟨fun p hp => ?_, fun _ _ _ _ hx => (List.not_mem_nil hx).elim,
    fun _ hx => (List.not_mem_nil hx).elim, fun _ hx => (List.not_mem_nil hx).elim,
    List.nodup_nil, fun _ hd => (List.not_mem_nil hd).elim,
    fun _ hd => (List.not_mem_nil hd).elim, fun _ hc => (List.not_mem_nil hc).elim,
    fun _ hx => (List.not_mem_nil hx).elim, fun _ hd => (List.not_mem_nil hd).elim⟩
  simp only [places, init, MainLoop.places, List.map_map, List.map_nil, List.append_nil] at hp
  obtain ⟨e, -, rfl⟩ := List.mem_map.mp hp
  rfl

theorem recorded (hs : Reachable vcaService s) : Recorded s := by
  refine hs.invariant_with (I := Recorded) (fun _ h => located h) (fun s hs => ?_)
    fun _ _ _ hloc h hstep => h.change hloc (step_change hloc.placed hstep)
  exact hs ▸ recorded_init

end VcaService

end VirtCore
