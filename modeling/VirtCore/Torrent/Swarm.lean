import VirtCore.Torrent.Choice
import VirtCore.Transition.System
import Mathlib.Algebra.BigOperators.Ring.Finset
import Mathlib.Algebra.Ring.Nat

/-!
# VirtCore — the peers of a download

`SingleDownload` of `Downloader.py` keeps the pieces of one peer, and tells the picker what they
are: one by one while some are missing, as a seed once all are there.

* **`swarm`** — connections are made, tell their pieces and are lost in any order, while pieces
  are chosen, come in, and get other priorities.
* **`picker_answers`** — whatever happens in whatever order, no method of the picker fails.
* **`availability`** — the picker's count of a piece is the number of peers that have it and miss
  another, and its count of seeds the number of the others.
* **`placed_once`** — a wanted piece stands in one bucket, at one place, the one that is
  remembered.
-/

namespace VirtCore.Torrent

open Buckets Transition
open Function (update)

/-- A `SingleDownload`, and whether its connection has got a message. -/
structure Download (n : Nat) where
  haves : Fin n → Bool
  got_anything : Bool

namespace Download

variable {n : Nat}

def init : Download n := ⟨fun _ => false, false⟩

/-- `have.complete()`. -/
def complete (d : Download n) : Bool := decide (∀ i, d.haves i = true)

/-- A piece of a peer that misses another. -/
def offers (d : Download n) (i : Fin n) : Bool := d.haves i && !d.complete

end Download

structure Swarm (n : Nat) where
  downloads : List (Download n)
  picker : Picker n

/-- What can happen to a peer, who is told by the place in `downloads`, or to the own pieces. -/
inductive Event (n : Nat) where
  | make_download
  /-- Any message but those of pieces. -/
  | message (k : Nat)
  | got_have (k : Nat) (index : Fin n) (draw : Nat)
  | got_have_bitfield (k : Nat) (haves : Fin n → Bool) (am_I_complete : Bool)
      (draws : Fin n → Nat)
  | disconnected (k : Nat) (draws : Fin n → Nat)
  | request_more (k : Nat) (wantfunc : Fin n → Bool) (complete_first : Bool)
  | complete (piece : Fin n)
  | set_priority (piece : Fin n) (p : Int) (draw : Nat)
  | bump (piece : Fin n)

section

variable {n : Nat}

/-- One call for each of the pieces. -/
def each (call : Picker n → Fin n → Nat → Option (Picker n)) (haves : Fin n → Bool)
    (draws : Fin n → Nat) : List (Fin n) → Picker n → Option (Picker n)
  | [], s => some s
  | i :: is, s =>
    if haves i = true then (call s i (draws i)).bind (each call haves draws is)
    else each call haves draws is s

/-- `got_have` of a download. -/
def Download.got_have (config : PickerConfig) (d : Download n) (s : Picker n) (index : Fin n)
    (draw : Nat) : Option (Download n × Picker n) :=
  if d.haves index = true then some ({ d with got_anything := true }, s)
  else do
    let d : Download n := ⟨update d.haves index true, true⟩
    let s ← s.got_have index draw
    let s ← (if d.complete then s.became_seed config else some s)
    some (d, s)

def Download.got_have_bitfield (config : PickerConfig) (d : Download n) (s : Picker n)
    (haves : Fin n → Bool) (am_I_complete : Bool) (draws : Fin n → Nat) :
    Option (Download n × Picker n) :=
  let new : Download n := ⟨haves, true⟩
  if am_I_complete && new.complete then some ({ d with got_anything := true }, s)
  else if new.complete then some (new, s.got_seed config)
  else (each Picker.got_have haves draws (List.finRange n) s).map (new, ·)

def Download.disconnected (config : PickerConfig) (d : Download n) (s : Picker n)
    (draws : Fin n → Nat) : Option (Picker n) :=
  if d.complete then some (s.lost_seed config)
  else each Picker.lost_have d.haves draws (List.finRange n) s

/-- One download does something. -/
def Swarm.change (s : Swarm n) (k : Nat)
    (call : Download n → Picker n → Option (Download n × Picker n)) : Option (Swarm n) := do
  let d ← s.downloads[k]?
  let (d, picker) ← call d s.picker
  some ⟨s.downloads.set k d, picker⟩

/-- What an event makes of the downloads and the picker. -/
def Swarm.apply (config : PickerConfig) (s : Swarm n) : Event n → Option (Swarm n)
  | .make_download => some { s with downloads := s.downloads ++ [.init] }
  | .message k => s.change k fun d p => some ({ d with got_anything := true }, p)
  | .got_have k index draw => s.change k fun d p => d.got_have config p index draw
  | .got_have_bitfield k haves am_I_complete draws =>
    s.change k fun d p => d.got_have_bitfield config p haves am_I_complete draws
  | .disconnected k draws => do
    let d ← s.downloads[k]?
    let picker ← d.disconnected config s.picker draws
    some ⟨s.downloads.eraseIdx k, picker⟩
  | .request_more k wantfunc complete_first => do
    let d ← s.downloads[k]?
    match s.picker.next config d.haves wantfunc complete_first with
    | none => some s
    | some interest => some { s with picker := s.picker.requested interest }
  | .complete piece => (s.picker.complete piece).map ({ s with picker := · })
  | .set_priority piece p draw =>
    (s.picker.set_priority config piece p draw).map fun r => { s with picker := r.2 }
  | .bump piece => (s.picker.bump piece).map ({ s with picker := · })

/-- What the callers keep to. A bitfield is passed on only as the first message of a connection; a
piece comes in, or is bumped after a failure, only while it is missing and not disabled; and `-1`,
which disables a piece, is the least priority. -/
def Swarm.Allowed (s : Swarm n) : Event n → Prop
  | .make_download => True
  | .message k | .got_have k _ _ | .disconnected k _ | .request_more k _ _ => k < s.downloads.length
  | .got_have_bitfield k _ _ _ => ∃ d, s.downloads[k]? = some d ∧ d.got_anything = false
  | .complete piece | .bump piece => s.picker.Wanted piece
  | .set_priority _ p _ => -1 ≤ p

/-- A download of `n` pieces that begins with the pieces in some order. -/
def swarm (config : PickerConfig) (n : Nat) : System (Swarm n) (Event n) where
  start s := ∃ interests : List (Fin n), interests.Nodup ∧ (∀ i, i ∈ interests) ∧
    s = ⟨[], Picker.init config interests⟩
  step s a s' := s.Allowed a ∧ s.apply config a = some s'

variable {config : PickerConfig} {p : Picker n} {d : Download n} {s : Swarm n}
variable {haves : Fin n → Bool} {rest : Fin n → Nat} {seeds : Nat}

/-! ## All pieces of a peer

A bitfield is told to the picker piece by piece. -/

/-- How often a piece is told. -/
def told (haves : Fin n → Bool) : List (Fin n) → Fin n → Nat
  | [], _ => 0
  | i :: is, j => told haves is j + if j = i ∧ haves i = true then 1 else 0

theorem told_of_not_mem {is : List (Fin n)} {j : Fin n} (hnot : j ∉ is) :
    told haves is j = 0 := by
  induction is with
  | nil => rfl
  | cons i is ih =>
    rw [List.mem_cons, not_or] at hnot
    rw [told, ih hnot.2, if_neg fun hno => hnot.1 hno.1]

theorem told_of_mem {is : List (Fin n)} {j : Fin n} (hnodup : is.Nodup) (hmem : j ∈ is) :
    told haves is j = (haves j).toNat := by
  induction is with
  | nil => cases hmem
  | cons i is ih =>
    obtain ⟨hnot, hnodup⟩ := List.nodup_cons.mp hnodup
    rw [told]
    by_cases hji : j = i
    · subst hji
      rw [told_of_not_mem hnot]
      cases haves j <;> simp
    · rw [ih hnodup (List.mem_of_ne_of_mem hji hmem), if_neg fun hno => hji hno.1, Nat.add_zero]

theorem told_finRange (haves : Fin n → Bool) (i : Fin n) :
    told haves (List.finRange n) i = (haves i).toNat :=
  told_of_mem (List.nodup_finRange n) (List.mem_finRange i)

theorem each_got_have (haves : Fin n → Bool) (h : Kept config p) (draws : Fin n → Nat)
    {is : List (Fin n)} (hnodup : is.Nodup) :
    ∃ p', each Picker.got_have haves draws is p = some p' ∧ Kept config p' ∧
      (∀ i, p'.numhaves i = p.numhaves i + told haves is i) ∧
      p'.seeds_connected = p.seeds_connected := by
  -- by the pieces that are left to go through
  induction is generalizing p with
  | nil => exact ⟨p, rfl, h, fun i => by simp [told], rfl⟩
  | cons i is ih =>
    obtain ⟨hnot, hnodup⟩ := List.nodup_cons.mp hnodup
    by_cases hi : haves i = true
    · obtain ⟨p', hcall, h', hnum, hseeds⟩ := got_have_kept h i (draws i)
      obtain ⟨p'', heach, h'', hnum', hseeds'⟩ := ih h' hnodup
      refine ⟨p'', ?_, h'', fun j => ?_, hseeds'.trans hseeds⟩
      · rw [each, if_pos hi, hcall]
        exact heach
      · rw [hnum', hnum, told]
        by_cases hji : j = i
        · subst hji
          rw [Function.update_self, if_pos ⟨rfl, hi⟩]
          omega
        · rw [Function.update_of_ne hji, if_neg fun hno => hji hno.1]
          omega
    · obtain ⟨p', heach, h', hnum, hseeds⟩ := ih h hnodup
      refine ⟨p', ?_, h', fun j => ?_, hseeds⟩
      · rw [each, if_neg hi]
        exact heach
      · rw [hnum, told, if_neg fun hno => hi hno.2, Nat.add_zero]

theorem each_lost_have (haves : Fin n → Bool) (h : Kept config p) (draws : Fin n → Nat)
    {is : List (Fin n)} (hnodup : is.Nodup) (hcounted : ∀ i, told haves is i ≤ p.numhaves i) :
    ∃ p', each Picker.lost_have haves draws is p = some p' ∧ Kept config p' ∧
      (∀ i, p'.numhaves i = p.numhaves i - told haves is i) ∧
      p'.seeds_connected = p.seeds_connected := by
  induction is generalizing p with
  | nil => exact ⟨p, rfl, h, fun i => by simp [told], rfl⟩
  | cons i is ih =>
    obtain ⟨hnot, hnodup⟩ := List.nodup_cons.mp hnodup
    by_cases hi : haves i = true
    · -- the piece is counted once, which is what a call takes away
      have hone : told haves (i :: is) i = 1 := by
        rw [told, told_of_not_mem hnot, if_pos ⟨rfl, hi⟩]
      have hpos := hcounted i
      rw [hone] at hpos
      obtain ⟨p', hcall, h', hnum, hseeds⟩ := lost_have_kept h i hpos (draws i)
      have hcounted' (j : Fin n) : told haves is j ≤ p'.numhaves j := by
        have hj := hcounted j
        rw [told] at hj
        rw [hnum]
        by_cases hji : j = i
        · subst hji
          rw [told_of_not_mem hnot]
          exact Nat.zero_le _
        · rw [Function.update_of_ne hji]
          omega
      obtain ⟨p'', heach, h'', hnum', hseeds'⟩ := ih h' hnodup hcounted'
      refine ⟨p'', ?_, h'', fun j => ?_, hseeds'.trans hseeds⟩
      · rw [each, if_pos hi, hcall]
        exact heach
      · rw [hnum', hnum, told]
        by_cases hji : j = i
        · subst hji
          rw [Function.update_self, if_pos ⟨rfl, hi⟩]
          omega
        · rw [Function.update_of_ne hji, if_neg fun hno => hji hno.1]
          omega
    · have hsame (j : Fin n) : told haves (i :: is) j = told haves is j := by
        rw [told, if_neg fun hno => hi hno.2, Nat.add_zero]
      obtain ⟨p', heach, h', hnum, hseeds⟩ := ih h hnodup fun j => hsame j ▸ hcounted j
      refine ⟨p', ?_, h', fun j => ?_, hseeds⟩
      · rw [each, if_neg hi]
        exact heach
      · rw [hnum, hsame]

/-! ## One peer

What the picker has counted for a peer is what the peer has said it has. -/

/-- The picker counts the pieces of one peer beside those of the rest. -/
structure Counted (config : PickerConfig) (rest : Fin n → Nat) (seeds : Nat) (d : Download n)
    (p : Picker n) : Prop where
  kept : Kept config p
  numhaves : ∀ i, p.numhaves i = rest i + (d.offers i).toNat
  seeds_connected : p.seeds_connected = (seeds + d.complete.toNat : Nat)

theorem complete_iff : d.complete = true ↔ ∀ i, d.haves i = true := decide_eq_true_iff

theorem offers_complete (h : d.complete = true) (i : Fin n) : d.offers i = false := by
  rw [Download.offers, h, Bool.not_true, Bool.and_false]

theorem offers_incomplete (h : d.complete = false) (i : Fin n) : d.offers i = d.haves i := by
  rw [Download.offers, h, Bool.not_false, Bool.and_true]

theorem got_have_counted (hn : 0 < n) (h : Counted config rest seeds d p) (index : Fin n)
    (draw : Nat) :
    ∃ d' p', d.got_have config p index draw = some (d', p') ∧
      Counted config rest seeds d' p' ∧
      d'.got_anything = true := by
  unfold Download.got_have
  by_cases hhad : d.haves index = true
  · exact ⟨_, _, if_pos hhad, ⟨h.kept, h.numhaves, h.seeds_connected⟩, rfl⟩
  rw [if_neg hhad]
  have hold : d.complete = false :=
    Bool.eq_false_iff.mpr fun hno => hhad (complete_iff.mp hno index)
  obtain ⟨p', hcall, h', hnum, hseeds⟩ := got_have_kept h.kept index draw
  -- the pieces of the peer are counted now
  have hall (i : Fin n) : p'.numhaves i = rest i + (update d.haves index true i).toNat := by
    rw [hnum]
    by_cases hi : i = index
    · subst hi
      have hnot : d.haves i = false := Bool.eq_false_iff.mpr hhad
      rw [Function.update_self, Function.update_self, h.numhaves, offers_incomplete hold, hnot]
      rfl
    · rw [Function.update_of_ne hi, Function.update_of_ne hi, h.numhaves, offers_incomplete hold]
  have hseeds' : p'.seeds_connected = seeds := by
    rw [hseeds, h.seeds_connected, hold]
    rfl
  cases hnew : (Download.mk (update d.haves index true) true).complete with
  | false =>
    refine ⟨⟨update d.haves index true, true⟩, p', ?_, ⟨h', fun i => ?_, ?_⟩, rfl⟩
    · simp [hcall, hnew]
    · rw [offers_incomplete hnew]
      exact hall i
    · rw [hnew]
      exact hseeds'
  | true =>
    -- it was the last piece: the peer is counted as a seed instead
    have hone (i : Fin n) : p'.numhaves i = rest i + 1 := by
      have htrue : update d.haves index true i = true := complete_iff.mp hnew i
      rw [hall, htrue]
      rfl
    obtain ⟨p'', hseed, h'', hnum', hseeds''⟩ :=
      became_seed_kept h' hn fun i => by rw [hone]; exact Nat.succ_pos _
    refine ⟨⟨update d.haves index true, true⟩, p'', ?_, ⟨h'', fun i => ?_, ?_⟩, rfl⟩
    · simp [hcall, hnew, hseed]
    · rw [offers_complete hnew, hnum']
      show p'.numhaves i - 1 = rest i + 0
      rw [hone]
      rfl
    · rw [hnew, hseeds'', hseeds']
      rfl

theorem got_have_bitfield_counted (h : Counted config rest seeds d p)
    (hsilent : ∀ i, d.haves i = false) (hn : 0 < n) (am_I_complete : Bool)
    (draws : Fin n → Nat) :
    ∃ d' p', d.got_have_bitfield config p haves am_I_complete draws = some (d', p') ∧
      Counted config rest seeds d' p' ∧ d'.got_anything = true := by
  have hold : d.complete = false := Bool.eq_false_iff.mpr fun hno =>
    Bool.false_ne_true ((hsilent ⟨0, hn⟩).symm.trans (complete_iff.mp hno ⟨0, hn⟩))
  have hnum (i : Fin n) : p.numhaves i = rest i := by
    rw [h.numhaves, offers_incomplete hold, hsilent]
    rfl
  have hseeds : p.seeds_connected = seeds := by
    rw [h.seeds_connected, hold]
    rfl
  simp only [Download.got_have_bitfield]
  -- a bitfield without a gap makes a seed, which is counted apart from the pieces
  cases hnew : (Download.mk haves true).complete with
  | true =>
    cases am_I_complete with
    | true => exact ⟨_, _, rfl, ⟨h.kept, h.numhaves, h.seeds_connected⟩, rfl⟩
    | false =>
      refine ⟨_, _, rfl, ⟨got_seed_kept h.kept, fun i => ?_, ?_⟩, rfl⟩
      · rw [offers_complete hnew]
        exact hnum i
      · rw [hnew]
        show p.seeds_connected + 1 = _
        rw [hseeds]
        rfl
  | false =>
    obtain ⟨p', heach, h', hnum', hseeds'⟩ :=
      each_got_have haves h.kept draws (List.nodup_finRange n)
    refine ⟨⟨haves, true⟩, p', ?_, ⟨h', fun i => ?_, ?_⟩, rfl⟩
    · simp [heach]
    · rw [hnum', hnum, told_finRange, offers_incomplete hnew]
    · rw [hseeds', hseeds, hnew]
      rfl

theorem disconnected_counted (h : Counted config rest seeds d p) (draws : Fin n → Nat) :
    ∃ p', d.disconnected config p draws = some p' ∧ Kept config p' ∧
      (∀ i, p'.numhaves i = rest i) ∧ p'.seeds_connected = seeds := by
  unfold Download.disconnected
  cases hseed : d.complete with
  | true =>
    refine ⟨_, if_pos rfl, lost_seed_kept h.kept, fun i => ?_, ?_⟩
    · show p.numhaves i = rest i
      rw [h.numhaves, offers_complete hseed]
      rfl
    · show p.seeds_connected - 1 = seeds
      rw [h.seeds_connected, hseed]
      show ((seeds + 1 : Nat) : Int) - 1 = seeds
      omega
  | false =>
    -- the pieces are taken back one by one
    have hnum (i : Fin n) : p.numhaves i = rest i + (d.haves i).toNat := by
      rw [h.numhaves, offers_incomplete hseed]
    obtain ⟨p', heach, h', hnum', hseeds'⟩ :=
      each_lost_have d.haves h.kept draws (List.nodup_finRange n) fun i => by
        rw [told_finRange, hnum]
        exact Nat.le_add_left _ _
    refine ⟨p', (if_neg Bool.false_ne_true).trans heach, h', fun i => ?_, ?_⟩
    · rw [hnum', hnum, told_finRange]
      omega
    · rw [hseeds', h.seeds_connected, hseed]
      rfl

/-! ## All peers -/

/-- The picker counts the pieces of the peers. -/
structure Told (config : PickerConfig) (s : Swarm n) : Prop where
  kept : Kept config s.picker
  numhaves : ∀ i, s.picker.numhaves i = s.downloads.countP (·.offers i)
  seeds_connected : s.picker.seeds_connected = (s.downloads.countP (·.complete) : Nat)
  silent : ∀ d ∈ s.downloads, d.got_anything = false → ∀ i, d.haves i = false

/-- One peer and the rest. -/
theorem Told.one (h : Told config s) {k : Nat} (hd : s.downloads[k]? = some d) :
    ∃ before after, s.downloads = before ++ d :: after ∧
      (∀ d', s.downloads.set k d' = before ++ d' :: after) ∧
      s.downloads.eraseIdx k = before ++ after ∧
      Counted config (fun i => (before ++ after).countP (·.offers i))
        ((before ++ after).countP (·.complete)) d s.picker := by
  obtain ⟨hk, hget⟩ := List.getElem?_eq_some_iff.mp hd
  have hcut : ∃ before after, s.downloads = before ++ d :: after ∧
      (∀ d', s.downloads.set k d' = before ++ d' :: after) ∧
      s.downloads.eraseIdx k = before ++ after := by
    refine ⟨s.downloads.take k, s.downloads.drop (k + 1), ?_, fun d' => ?_, ?_⟩
    · rw [← hget, List.getElem_cons_drop, List.take_append_drop]
    · rw [List.set_eq_take_append_cons_drop, if_pos hk]
    · exact List.eraseIdx_eq_take_drop_succ ..
  obtain ⟨before, after, hsplit, hset, herase⟩ := hcut
  -- a count over all is one over the rest and one for the peer
  have hcount (f : Download n → Bool) :
      s.downloads.countP f = (before ++ after).countP f + (f d).toNat := by
    rw [hsplit, List.countP_append, List.countP_append, List.countP_cons, Nat.add_assoc]
    cases f d <;> rfl
  refine ⟨before, after, hsplit, hset, herase, h.kept, fun i => ?_, ?_⟩
  · rw [h.numhaves, hcount]
  · rw [h.seeds_connected, hcount]

/-- **One peer does something, and is counted with the rest again.** -/
theorem Told.change (h : Told config s) {k : Nat} (hk : k < s.downloads.length)
    (call : Download n → Picker n → Option (Download n × Picker n))
    (hcall : ∀ d rest seeds, s.downloads[k]? = some d → Counted config rest seeds d s.picker →
      ∃ d' p', call d s.picker = some (d', p') ∧ Counted config rest seeds d' p' ∧
        d'.got_anything = true) :
    ∃ s', s.change k call = some s' ∧ Told config s' := by
  have hd : s.downloads[k]? = some s.downloads[k] := List.getElem?_eq_getElem hk
  generalize s.downloads[k] = d at hd
  obtain ⟨before, after, hsplit, hset, -, hcounted⟩ := h.one hd
  obtain ⟨d', p', hrun, h', hmessage⟩ := hcall d _ _ hd hcounted
  -- one download changes, and its share of every count with it
  have hcount (f : Download n → Bool) :
      (before ++ d' :: after).countP f = (before ++ after).countP f + (f d').toNat := by
    rw [List.countP_append, List.countP_append, List.countP_cons, Nat.add_assoc]
    cases f d' <;> rfl
  refine ⟨⟨before ++ d' :: after, p'⟩, ?_, h'.kept, fun i => ?_, ?_, fun e he hquiet => ?_⟩
  · simp [Swarm.change, hd, hrun, hset]
  · rw [h'.numhaves, hcount]
  · rw [h'.seeds_connected, hcount]
  · have hin : e = d' ∨ e ∈ s.downloads := by
      rw [hsplit]
      rcases List.mem_append.mp he with he | he
      · exact .inr (List.mem_append_left _ he)
      · exact (List.mem_cons.mp he).imp_right fun he =>
          List.mem_append_right _ (List.mem_cons_of_mem _ he)
    -- the download that changed has sent something now
    rcases hin with rfl | hin
    · exact absurd (hmessage.symm.trans hquiet) (Bool.false_ne_true).symm
    · exact h.silent e hin hquiet

/-- The picker does something about the own pieces. -/
theorem Told.own (h : Told config s) {p' : Picker n} (h' : Kept config p')
    (hnum : p'.numhaves = s.picker.numhaves)
    (hseeds : p'.seeds_connected = s.picker.seeds_connected) :
    Told config { s with picker := p' } :=
  ⟨h', fun i => (congrFun hnum i).trans (h.numhaves i), hseeds.trans h.seeds_connected,
    h.silent⟩

/-- **What one event makes of the peers and the picker.** -/
theorem Told.next (h : Told config s) (hn : 0 < n) {a : Event n} (ha : s.Allowed a) :
    ∃ s', s.apply config a = some s' ∧ Told config s' := by
  cases a with
  | make_download =>
    -- a new peer has no pieces, and since there are some it is no seed
    have hnew : (Download.init (n := n)).complete = false :=
      Bool.eq_false_iff.mpr fun hno => Bool.false_ne_true (complete_iff.mp hno ⟨0, hn⟩)
    refine ⟨_, rfl, h.kept, fun i => ?_, ?_, fun d hd hquiet => ?_⟩
    · show s.picker.numhaves i = (s.downloads ++ [Download.init]).countP (Download.offers · i)
      rw [List.countP_append, h.numhaves, List.countP_singleton, offers_incomplete hnew]
      rfl
    · show s.picker.seeds_connected = ((s.downloads ++ [Download.init]).countP _ : Nat)
      rw [List.countP_append, h.seeds_connected, List.countP_singleton, hnew]
      rfl
    · rcases List.mem_append.mp hd with hd | hd
      · exact h.silent d hd hquiet
      · obtain rfl := List.mem_singleton.mp hd
        exact fun _ => rfl
  | message k =>
    exact h.change ha (fun d p => some ({ d with got_anything := true }, p)) fun d rest
      seeds _ hd =>
      ⟨_, _, rfl, ⟨hd.kept, hd.numhaves, hd.seeds_connected⟩, rfl⟩
  | got_have k index draw =>
    exact h.change ha (fun d p => d.got_have config p index draw) fun d rest seeds _ hd =>
      got_have_counted hn hd index draw
  | got_have_bitfield k haves am_I_complete draws =>
    -- a bitfield comes first, so that nothing of the peer has been counted
    obtain ⟨d, hd, hquiet⟩ := ha
    have hk := (List.getElem?_eq_some_iff.mp hd).1
    refine h.change hk (fun d p => d.got_have_bitfield config p haves am_I_complete draws)
      fun d' rest seeds hd' hcounted => ?_
    obtain rfl := Option.some.inj (hd.symm.trans hd')
    exact got_have_bitfield_counted hcounted (h.silent d (List.mem_of_getElem? hd) hquiet) hn
      am_I_complete draws
  | disconnected k draws =>
    have hk : k < s.downloads.length := ha
    have hd : s.downloads[k]? = some s.downloads[k] := List.getElem?_eq_getElem hk
    generalize s.downloads[k] = d at hd
    obtain ⟨before, after, hsplit, -, herase, hcounted⟩ := h.one hd
    obtain ⟨p', hrun, h', hnum, hseeds⟩ := disconnected_counted hcounted draws
    refine ⟨⟨before ++ after, p'⟩, ?_, h', hnum, hseeds, fun e he => ?_⟩
    · simp [Swarm.apply, hd, hrun, herase]
    · refine h.silent e ?_
      rw [hsplit]
      rcases List.mem_append.mp he with he | he
      · exact List.mem_append_left _ he
      · exact List.mem_append_right _ (List.mem_cons_of_mem _ he)
  | request_more k wantfunc complete_first =>
    have hk : k < s.downloads.length := ha
    have hd : s.downloads[k]? = some s.downloads[k] := List.getElem?_eq_getElem hk
    generalize s.downloads[k] = d at hd
    cases hnext : s.picker.next config d.haves wantfunc complete_first with
    | none => exact ⟨s, by simp [Swarm.apply, hd, hnext], h⟩
    | some interest =>
      have hrun : s.apply config (.request_more k wantfunc complete_first) =
          some { s with picker := s.picker.requested interest } := by
        simp [Swarm.apply, hd, hnext]
      have hsame : (s.picker.requested interest).numhaves = s.picker.numhaves ∧
          (s.picker.requested interest).seeds_connected = s.picker.seeds_connected := by
        unfold Picker.requested
        split <;> exact ⟨rfl, rfl⟩
      exact ⟨_, hrun, h.own (requested_kept h.kept (next_wanted h.kept hnext).1) hsame.1
        hsame.2⟩
  | complete piece =>
    obtain ⟨p', hrun, h', hnum, hseeds⟩ := complete_kept h.kept ha
    exact ⟨_, by rw [Swarm.apply, hrun, Option.map_some], h.own h' hnum hseeds⟩
  | set_priority piece p draw =>
    obtain ⟨more, p', hrun, h', hnum, hseeds⟩ := set_priority_kept h.kept piece ha draw
    exact ⟨_, by rw [Swarm.apply, hrun, Option.map_some], h.own h' hnum hseeds⟩
  | bump piece =>
    obtain ⟨p', hrun, h', hnum, hseeds⟩ := bump_kept h.kept ha
    exact ⟨_, by rw [Swarm.apply, hrun, Option.map_some], h.own h' hnum hseeds⟩

/-! ## Any run -/

theorem reachable_told (hn : 0 < n) (hs : Reachable (swarm config n) s) : Told config s := by
  refine hs.invariant (fun s hstart => ?_) fun s a s' h hstep => ?_
  · obtain ⟨interests, hnodup, hall, rfl⟩ := hstart
    exact ⟨init_kept config hn hnodup hall, fun _ => rfl, rfl, nofun⟩
  · obtain ⟨t, hrun, ht⟩ := h.next hn hstep.1
    obtain rfl := Option.some.inj (hrun.symm.trans hstep.2)
    exact ht

/-- The state after an event that may happen is one of a run. -/
theorem reachable_apply (hn : 0 < n) (hs : Reachable (swarm config n) s) {a : Event n}
    (ha : s.Allowed a) : Reachable (swarm config n) ((s.apply config a).getD s) := by
  obtain ⟨s', hrun, -⟩ := (reachable_told hn hs).next hn ha
  rw [hrun]
  exact hs.step ⟨ha, hrun⟩

/-! A run of two peers and three pieces, in which the rarest are chosen from the beginning. -/

def rarestFirst : PickerConfig := ⟨0, 3, 20⟩

def twoConnections : Swarm 3 := ⟨[.init, .init], Picker.init rarestFirst [0, 1, 2]⟩

/-- Both peers have the second piece, and one of them the third. -/
def threeHaves : Swarm 3 :=
  [.got_have 0 1 0, .got_have 1 1 0, .got_have 1 2 0].foldl
    (fun s a => (s.apply rarestFirst a).getD s) twoConnections

theorem threeHaves_reachable : Reachable (swarm rarestFirst 3) threeHaves := by
  have hstart : Reachable (swarm rarestFirst 3) ⟨[], Picker.init rarestFirst [0, 1, 2]⟩ :=
    .start ⟨[0, 1, 2], by decide, by decide, rfl⟩
  have hone := reachable_apply (by decide) hstart (a := .make_download) trivial
  have htwo := reachable_apply (by decide) hone (a := .make_download) trivial
  have hfirst := reachable_apply (by decide) htwo (a := .got_have 0 1 0) Nat.two_pos
  have hsecond := reachable_apply (by decide) hfirst (a := .got_have 1 1 0) Nat.one_lt_two
  exact reachable_apply (by decide) hsecond (a := .got_have 1 2 0) Nat.one_lt_two

/-- **No method of the picker fails**, in whatever order peers come, tell their pieces and go,
where the callers keep to `Swarm.Allowed` and super-seeding is off. -/
theorem picker_answers (hn : 0 < n) (hs : Reachable (swarm config n) s) {a : Event n}
    (ha : s.Allowed a) : ∃ s', s.apply config a = some s' := by
  obtain ⟨s', hrun, -⟩ := (reachable_told hn hs).next hn ha
  exact ⟨s', hrun⟩

theorem picker_answers_threeHaves :
    ∃ s', threeHaves.apply rarestFirst (.disconnected 1 fun _ => 0) = some s' :=
  picker_answers (by decide) threeHaves_reachable (show 1 < threeHaves.downloads.length by decide)

/-- **The picker knows how many peers have a piece.** The lists by availability tell how many
pieces have how many copies, without the own ones and with them. -/
theorem availability (hn : 0 < n) (hs : Reachable (swarm config n) s) :
    (∀ i, s.picker.numhaves i = s.downloads.countP fun d => d.haves i && !d.complete) ∧
      s.picker.seeds_connected = (s.downloads.countP fun d => d.complete : Nat) ∧
      (∀ k, s.picker.crosscount.getD k 0 =
        (Finset.univ.filter fun i => s.picker.numhaves i = k).card) ∧
      (s.picker.done = false → ∀ k, s.picker.crosscount2.getD k 0 =
        (Finset.univ.filter fun i => s.picker.numhaves i + (s.picker.has i).toNat = k).card) ∧
      s.picker.totalcount = ∑ i, (s.picker.numhaves i : Int) ∧
      (s.picker.done = true ↔ ∀ i, s.picker.has i = true) := by
  have h := reachable_told hn hs
  have hcard (f : Fin n → Nat) (k : Nat) :
      count f k = ((Finset.univ.filter fun i => f i = k).card : Int) := Finset.sum_boole ..
  refine ⟨h.numhaves, h.seeds_connected, fun k => ?_, fun hdone k => ?_, h.kept.total, ?_⟩
  · rw [h.kept.counts k, hcard]
  · rw [h.kept.counts2 hdone k, hcard]
    rfl
  · constructor
    · intro hdone i
      -- a missing piece keeps the picker from being done
      by_contra hno
      exact Bool.false_ne_true ((h.kept.missing (Bool.eq_false_iff.mpr hno)).2.symm.trans hdone)
    · intro hall
      rw [h.kept.finished, h.kept.got, Finset.filter_true_of_mem fun i _ => hall i,
        Finset.card_univ, Fintype.card_fin]

theorem availability_threeHaves :
    threeHaves.picker.numhaves 1 = threeHaves.downloads.countP fun d => d.haves 1 && !d.complete :=
  (availability (by decide) threeHaves_reachable).1 1

/-- **A wanted piece stands once**, in the bucket of its availability and priority, at the place
that is remembered for it; any other piece stands nowhere. -/
theorem placed_once (hn : 0 < n) (hs : Reachable (swarm config n) s) (b p : Nat) (i : Fin n) :
    s.picker.trays.item b p = some i ↔
      (s.picker.has i = false ∧ 0 ≤ s.picker.priority i) ∧
        b = (s.downloads.countP fun d => d.haves i && !d.complete) +
          config.priority_step * (s.picker.priority i).toNat ∧
        p = s.picker.trays.pos i := by
  have h := reachable_told hn hs
  have hrank : s.picker.rank config i = (s.downloads.countP fun d => d.haves i && !d.complete) +
      config.priority_step * (s.picker.priority i).toNat := congrArg (· + _) (h.numhaves i)
  rw [h.kept.placed b p i, ← hrank]
  by_cases hwanted : s.picker.Wanted i
  · rw [Picker.home_wanted hwanted, Option.some.injEq]
    exact ⟨fun hat => ⟨hwanted, hat.1.symm, hat.2.symm⟩,
      fun hat => ⟨hat.2.1.symm, hat.2.2.symm⟩⟩
  · rw [Picker.home_unwanted hwanted]
    exact ⟨fun hat => absurd hat.1 nofun, fun hat => absurd hat.1 hwanted⟩

theorem placed_once_threeHaves :
    threeHaves.picker.trays.item 22 0 = some 1 ↔
      (threeHaves.picker.has 1 = false ∧ 0 ≤ threeHaves.picker.priority 1) ∧
        22 = (threeHaves.downloads.countP fun d => d.haves 1 && !d.complete) +
          rarestFirst.priority_step * (threeHaves.picker.priority 1).toNat ∧
        0 = threeHaves.picker.trays.pos 1 :=
  placed_once (by decide) threeHaves_reachable 22 0 1

/-- **There is a choice exactly where the peer has a piece that is missing, not disabled and
asked for**, whatever has happened. -/
theorem choice_iff (hn : 0 < n) (hs : Reachable (swarm config n) s)
    (hlow : ∀ i, (s.downloads.countP fun d => d.haves i && !d.complete) +
      config.priority_step * (s.picker.priority i).toNat < 2 ^ 30)
    (haves wantfunc : Fin n → Bool) (complete_first : Bool) :
    (s.picker.next config haves wantfunc complete_first).isSome ↔
      ∃ i, s.picker.has i = false ∧ 0 ≤ s.picker.priority i ∧ haves i = true ∧
        wantfunc i = true := by
  have h := reachable_told hn hs
  -- under the bound every wanted piece is in a bucket that the search comes to
  have hlow' : Low config s.picker := by
    intro i _
    rw [Picker.rank, h.numhaves]
    exact hlow i
  rw [Option.isSome_iff_ne_none, Ne, next_none_iff h.kept hlow']
  constructor
  · intro hnot
    by_contra hno
    exact hnot fun i hwanted hhave => Bool.eq_false_iff.mpr fun hwant =>
      hno ⟨i, hwanted.1, hwanted.2, hhave, hwant⟩
  · rintro ⟨i, hhas, hpriority, hhave, hwant⟩ hnone
    exact Bool.false_ne_true ((hnone i ⟨hhas, hpriority⟩ hhave).symm.trans hwant)

theorem choice_iff_threeHaves :
    (threeHaves.picker.next rarestFirst (fun i => decide (i ≠ 0)) (fun _ => true) true).isSome ↔
      ∃ i, threeHaves.picker.has i = false ∧ 0 ≤ threeHaves.picker.priority i ∧
        decide (i ≠ 0) = true ∧ true = true :=
  choice_iff (by decide) threeHaves_reachable (by decide) _ _ true

/-- **The choice is a started piece, or one of the rarest**: once the download has begun, what is
chosen is missing, enabled, offered and asked for. Where the caller wants started pieces first, of a
peer that is no seed, and one would do, the choice is a started one of the least level among them.
Otherwise nothing that would do has a lower level, and of the pieces as rare it is one that is
started. -/
theorem choice_rarest (hn : 0 < n) (hs : Reachable (swarm config n) s)
    (hbegun : config.rarest_first_cutoff ≤ s.picker.numgot) {haves wantfunc : Fin n → Bool}
    {complete_first : Bool} {i : Fin n}
    (hnext : s.picker.next config haves wantfunc complete_first = some i) :
    (s.picker.has i = false ∧ 0 ≤ s.picker.priority i ∧ haves i = true ∧
        wantfunc i = true) ∧
      (complete_first = true → (∃ k, haves k = false) →
        ∀ j ∈ s.picker.started, haves j = true → wantfunc j = true →
          s.picker.rank config j < 2 ^ 30 →
          i ∈ s.picker.started ∧ s.picker.rank config i ≤ s.picker.rank config j) ∧
      (Searches config s.picker haves wantfunc complete_first →
        ∀ j, s.picker.has j = false → 0 ≤ s.picker.priority j → haves j = true →
          wantfunc j = true →
            s.picker.rank config i ≤ s.picker.rank config j ∧
              (s.picker.rank config j = s.picker.rank config i → j ∈ s.picker.started →
                i ∈ s.picker.started)) := by
  have h := (reachable_told hn hs).kept
  obtain ⟨hwanted, hhave, hwant⟩ := next_wanted h hnext
  refine ⟨⟨hwanted.1, hwanted.2, hhave, hwant⟩, ?_,
    fun hsearches j hhas hpriority hhavej hwantj =>
    next_least h hbegun hsearches hnext ⟨hhas, hpriority⟩ hhavej hwantj⟩
  rintro rfl hno j hstarted hhavej hwantj hlow
  exact next_completing h hnext hno hstarted hhavej hwantj hlow

/-- The peer with the second piece only has been asked for it. -/
def secondStarted : Swarm 3 :=
  (threeHaves.apply rarestFirst (.request_more 0 (fun _ => true) false)).getD threeHaves

theorem secondStarted_reachable : Reachable (swarm rarestFirst 3) secondStarted :=
  reachable_apply (by decide) threeHaves_reachable (show 0 < threeHaves.downloads.length by decide)

/-- The third piece is the rarest, and chosen. Once the second is started, it is chosen all the same
by a caller that wants to complete what is started. -/
theorem choice_rarest_threeHaves :
    threeHaves.picker.rank rarestFirst 2 ≤ threeHaves.picker.rank rarestFirst 1 ∧
      (1 : Fin 3) ∈ secondStarted.picker.started ∧
      secondStarted.picker.rank rarestFirst 2 < secondStarted.picker.rank rarestFirst 1 := by
  have hnext : threeHaves.picker.next rarestFirst (fun i => decide (i ≠ 0)) (fun _ => true)
      false = some 2 := by decide
  have hnext' : secondStarted.picker.next rarestFirst (fun i => decide (i ≠ 0)) (fun _ => true)
      true = some 1 := by decide
  refine ⟨?_, ?_, by decide⟩
  · exact ((choice_rarest (by decide) threeHaves_reachable (by decide) hnext).2.2 (.inl rfl) 1
      (by decide) (by decide) (by decide) rfl).1
  · exact ((choice_rarest (by decide) secondStarted_reachable (by decide) hnext').2.1 rfl
      ⟨0, rfl⟩ 1 (by decide) (by decide) rfl (by decide)).1

end

end VirtCore.Torrent
