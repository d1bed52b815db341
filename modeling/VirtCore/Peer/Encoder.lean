import Mathlib.Data.List.Count
import Mathlib.Data.List.Nodup
import Mathlib.Data.List.Perm.Basic
import VirtCore.Peer.Bitfield
import VirtCore.Transition.System

/-!
# VirtCore — the connections of an encoder

`Encoder` of `Encrypter.py`, with what its connections do to it. The connections are the values of a
dictionary, so that each walk over them has an order of its own.

* **`Connection`** / **`Encoder`** — the fields.
* **`Encoder.got_id`** — whether a peer is accepted; it may close other connections.
* **`Op`** / **`encoder`** — what happens, in any order.
* **`connections_sound`** — who is connected, and how many; the counter of those that are not yet.
* **`incomplete_bounded`** — there are never many of these where all come from the queue.
-/

namespace VirtCore.BitTornado

open Transition

/-- What stands for an address that is not known: `unknown`. -/
def unknown : Str := [117, 110, 107, 110, 111, 119, 110]

/-- `key` is the socket; `id` is empty for `None`. -/
structure Connection where
  key : Nat
  id : Str
  ip : Str
  locally_initiated : Bool
  complete : Bool
  deriving DecidableEq

/-- What an encoder is made with. -/
structure EncoderConfig where
  my_id : Str
  max_connections : Nat
  max_initiate : Nat
  security : Bool

/-- The fields of an encoder. -/
structure Encoder where
  connections : List Connection
  banned : List Str
  to_connect : List (Str × Str)
  paused : Bool
  incomplete : Int
  external_connection_made : Int

/-- As many connections may be on their way at a time. -/
def MAX_INCOMPLETE : Int := 8

/-- No limit is a large one. -/
def EncoderConfig.limit (config : EncoderConfig) : Nat :=
  if config.max_connections = 0 then 2 ^ 30 else config.max_connections

namespace Encoder

variable (config : EncoderConfig)

/-- A connection by its key in the dictionary. -/
def find (e : Encoder) (key : Nat) : Option Connection := e.connections.find? (·.key = key)

/-- No more connections are taken while paused, or when full. -/
def crowded (e : Encoder) : Bool := e.paused ∨ e.connections.length ≥ config.limit

/-- `sever`. -/
def close (e : Encoder) (key : Nat) : Encoder :=
  match e.find key with
  | none => e
  | some v =>
    { e with
      connections := e.connections.erase v
      incomplete := if ¬v.complete ∧
        v.locally_initiated then e.incomplete - 1 else e.incomplete }

/-- A connection is a mutable object. -/
def update (e : Encoder) (c : Connection) : Encoder :=
  { e with connections := e.connections.map fun v => if v.key = c.key then c else v }

/-- `key` is that of the new socket, or `none` for an error. -/
def start_connection (e : Encoder) (ip id : Str) (key : Option Nat) : Encoder :=
  if e.crowded config ∨ id = config.my_id ∨ ip ∈ e.banned then e
  else if ∃ v ∈ e.connections,
      (id ≠ [] ∧ v.id = id) ∨ (config.security ∧ v.ip ≠ unknown ∧ v.ip = ip) then e
  else
    match key with
    | none => e
    | some key =>
      { e with
        connections := ⟨key, id, ip, true, false⟩ :: e.connections
        incomplete := e.incomplete + 1 }

/-- How many connections are opened from here: none beyond the limit. -/
def max_initiate (e : Encoder) : Nat :=
  if e.external_connection_made ≠ 0 then config.max_initiate else config.max_initiate * 3 / 2

/-- `_start_connection_from_queue`. -/
def start_connection_from_queue (e : Encoder) (key : Option Nat) : Encoder :=
  if e.connections.length ≥ config.limit ∨ e.connections.length ≥ e.max_initiate config then e
  else if e.paused ∨ e.incomplete ≥ MAX_INCOMPLETE then e
  else
    match e.to_connect with
    | [] => e
    | (ip, id) :: to_connect => start_connection config { e with to_connect } ip id key

/-- A connection that a peer has opened; it never counts as incomplete. -/
def external_connection (e : Encoder) (key : Nat) (ip : Str) : Encoder :=
  if e.crowded config then e
  else { e with connections := ⟨key, [], ip, false, false⟩ :: e.connections }

/-- The loop of `got_id`, over the connections in an order of its own. -/
def got_id_loop (c : Connection) : List Connection → Encoder → Bool × Encoder
  | [], e => (true, e)
  | v :: vs, e =>
    if v.key = c.key then got_id_loop c vs e
    else if c.id = v.id then (false, e)
    else if config.security ∧ c.ip ≠ unknown ∧
    c.ip = v.ip then got_id_loop c vs (e.close v.key) else got_id_loop c vs e

/-- Whether a peer that has said who it is may stay. -/
def got_id (e : Encoder) (c : Connection) (vs : List Connection) : Bool × Encoder :=
  if c.id = config.my_id then
    (false, { e with external_connection_made := e.external_connection_made - 1 })
  else if config.security ∧ c.ip ∈ e.banned then (false, e)
  else got_id_loop config c vs e

/-- The peer `c` says who it is. -/
def read_peer_id (e : Encoder) (c : Connection) (vs : List Connection) (s : Str) : Encoder :=
  if c.id ≠ [] ∧ s ≠ c.id then e.close c.key
  else
    let c := { c with id := s }
    match (e.update c).got_id config c vs with
    | (false, e) => e.close c.key
    | (true, e) =>
      let e := e.update { c with complete := true }
      { e with incomplete := if c.locally_initiated then e.incomplete - 1 else e.incomplete }

end Encoder

/-- What can happen to the connections. -/
inductive Op where
  | start_connections (list : List (Str × Str))
  | from_queue (key : Option Nat)
  | start (ip id : Str) (key : Option Nat)
  | external (key : Nat) (ip : Str)
  | address (c : Connection) (ip : Str)
  | read_download_id
  | read_peer_id (c : Connection) (vs : List Connection) (s : Str)
  | close (key : Nat)
  | close_all
  | ban (ip : Str)
  | pause (flag : Bool)

namespace Encoder

variable (config : EncoderConfig)

/-- What it does to the encoder. -/
def apply (e : Encoder) : Op → Encoder
  | .start_connections list => { e with to_connect := list }
  | .from_queue key => e.start_connection_from_queue config key
  | .start ip id key => e.start_connection config ip id key
  | .external key ip => e.external_connection config key ip
  | .address c ip => e.update { c with ip }
  | .read_download_id => { e with external_connection_made := e.external_connection_made + 1 }
  | .read_peer_id c vs s => e.read_peer_id config c vs s
  | .close key => e.close key
  | .close_all => (e.connections.map (·.key)).foldl close e
  | .ban ip => { e with banned := ip :: e.banned }
  | .pause flag => { e with paused := flag }

/-- A socket is new, a connection that reads is there and has not read an id yet, an id has twenty
characters, and the order of a walk is one of the connections. Before that the address of a
connection may become known. -/
def May (e : Encoder) : Op → Prop
  | .from_queue key | .start _ _ key => ∀ k ∈ key, ∀ v ∈ e.connections, v.key ≠ k
  | .external key _ => ∀ v ∈ e.connections, v.key ≠ key
  | .address c _ => c ∈ e.connections ∧ c.complete = false
  | .read_peer_id c vs s =>
    c ∈ e.connections ∧ c.complete = false ∧ s.length = 20 ∧
      vs.Perm (e.update { c with id := s }).connections
  | _ => True

end Encoder

/-- Every order of events, each where it may happen. -/
def encoder (config : EncoderConfig) : System Encoder Op where
  start e := e = ⟨[], [], [], false, 0, 0⟩
  step e op e' := e.May op ∧ e' = e.apply config op

/-! ## What holds of the connections

The counter and the dictionary are two views of the same connections. What is said here of all of
them is kept by each event, and what a single event does to a single connection follows from it. -/

/-- A connection that has been opened and not been answered. -/
def Connection.pending (v : Connection) : Bool := v.locally_initiated && !v.complete

/-- Two peers are not one, and with the option they have not one address. -/
def Distinct (config : EncoderConfig) (a b : Connection) : Prop :=
  a.complete = true → b.complete = true →
    a.id ≠ b.id ∧ (config.security = true → a.ip = unknown ∨ a.ip ≠ b.ip)

/-- **The invariant.** The keys are distinct and the connections within the limit, no complete
peer is the encoder itself, no two of them are one, and the counter is right. -/
structure Sound (config : EncoderConfig) (e : Encoder) : Prop where
  keys : (e.connections.map Connection.key).Nodup
  bounded : e.connections.length ≤ config.limit
  counter : e.incomplete = e.connections.countP Connection.pending
  others : ∀ v ∈ e.connections, v.complete = true → v.id ≠ config.my_id
  distinct : e.connections.Pairwise (Distinct config)

namespace Encoder

variable {config : EncoderConfig} {e : Encoder} {c v : Connection} {vs : List Connection}

/-- A key belongs to one connection. -/
theorem same_key (h : Sound config e) (hc : c ∈ e.connections) (hv : v ∈ e.connections)
    (hkey : v.key = c.key) : v = c :=
  List.inj_on_of_nodup_map h.keys hv hc hkey

/-- What was found under a key has it. -/
theorem find_key {key : Nat} (hfind : e.find key = some v) : v.key = key := by
  unfold find at hfind
  have hsame := List.find?_some hfind
  exact of_decide_eq_true hsame

/-- A connection is found under its key. -/
theorem find_mem (h : Sound config e) (hc : c ∈ e.connections) : e.find c.key = some c := by
  cases hfind : e.find c.key with
  | none =>
    have hnone := List.find?_eq_none.mp hfind c hc
    exact absurd (decide_eq_true rfl) hnone
  | some v =>
    have hkey := find_key hfind
    exact congrArg some (same_key h hc (List.mem_of_find?_eq_some hfind) hkey)

/-- What a close leaves. -/
theorem close_connections (key : Nat) :
    (e.close key).connections.Sublist e.connections ∧
      (∀ v ∈ e.connections, v.key ≠ key → v ∈ (e.close key).connections) := by
  unfold close
  cases hfind : e.find key with
  | none => exact ⟨List.Sublist.refl _, fun v hv _ => hv⟩
  | some c =>
    have hkey := find_key hfind
    refine ⟨List.erase_sublist, fun v hv hne => ?_⟩
    have hother : v ≠ c := fun hsame => hne (hsame.symm ▸ hkey)
    exact (List.mem_erase_of_ne hother).mpr hv

/-- A closed connection is gone. -/
theorem close_gone (h : Sound config e) (key : Nat) :
    ∀ v ∈ (e.close key).connections, v.key ≠ key := by
  intro v hv hkey
  have hmem := (close_connections key).1.subset hv
  have hclose : e.close key = { e with
      connections := e.connections.erase v
      incomplete := if ¬v.complete ∧
        v.locally_initiated then e.incomplete - 1 else e.incomplete } := by
    rw [close, ← hkey, find_mem h hmem]
  rw [hclose] at hv
  have hnodup : e.connections.Nodup := List.Nodup.of_map _ h.keys
  exact hnodup.not_mem_erase hv

/-- Closing takes a connection away, and with it its share of the counter. -/
theorem close_sound (h : Sound config e) (key : Nat) : Sound config (e.close key) := by
  have hsub := (close_connections (e := e) key).1
  refine ⟨(hsub.map _).nodup h.keys, Nat.le_trans hsub.length_le h.bounded, ?_,
    fun v hv => h.others v (hsub.subset hv), h.distinct.sublist hsub⟩
  unfold close
  cases hfind : e.find key with
  | none => exact h.counter
  | some v =>
    have hmem := List.mem_of_find?_eq_some hfind
    have hcount := List.countP_erase Connection.pending e.connections v
    show (if ¬v.complete ∧ v.locally_initiated then e.incomplete - 1 else e.incomplete) = _
    rw [hcount, h.counter]
    -- the counter and the number of pending connections both go down by one, or neither does
    by_cases hpending : v.pending = true
    · have hpos : 0 < e.connections.countP Connection.pending :=
        List.countP_pos_iff.mpr ⟨v, hmem, hpending⟩
      rw [if_pos (by simpa [Connection.pending, and_comm] using hpending),
        if_pos ⟨hmem, hpending⟩]
      omega
    · rw [if_neg (by simpa [Connection.pending, and_comm] using hpending),
        if_neg (fun h => hpending h.2)]
      rfl

/-- So do several closings. -/
theorem close_all_sound (h : Sound config e) (keys : List Nat) :
    Sound config (keys.foldl close e) := by
  induction keys generalizing e with
  | nil => exact h
  | cons key keys ih => exact ih (close_sound h key)

/-! ## A connection that changes

Changing one connection leaves the keys of all as they are. The counter moves with the change,
which is why it is compared before and after. -/

/-- What an update makes of a connection. -/
theorem update_mem (hc : c ∈ e.connections) (c' : Connection)
    (hkey : c'.key = c.key) :
    c' ∈ (e.update c').connections ∧
      ∀ v ∈ (e.update c').connections, v = c' ∨ v ∈ e.connections ∧ v.key ≠ c'.key := by
  constructor
  · exact List.mem_map.mpr ⟨c, hc, if_pos hkey.symm⟩
  · intro v hv
    obtain ⟨u, hu, rfl⟩ := List.mem_map.mp hv
    by_cases hsame : u.key = c'.key
    · exact .inl (if_pos hsame)
    · rw [if_neg hsame]
      exact .inr ⟨hu, hsame⟩

/-- The keys stay. -/
theorem update_keys (e : Encoder) (c' : Connection) :
    (e.update c').connections.map Connection.key = e.connections.map Connection.key := by
  show (e.connections.map _).map _ = _
  rw [List.map_map]
  refine List.map_congr_left fun v _ => ?_
  show (if v.key = c'.key then c' else v).key = v.key
  split
  · rename_i hsame
    exact hsame.symm
  · rfl

/-- The pairs after an update: those without the connection are the same. -/
theorem update_pairwise (h : Sound config e) {c' : Connection}
    {R : Connection → Connection → Prop} (hold : e.connections.Pairwise R)
    (hleft : ∀ v ∈ e.connections, v.key ≠ c'.key → R v c')
    (hright : ∀ v ∈ e.connections, v.key ≠ c'.key → R c' v) :
    (e.update c').connections.Pairwise R := by
  -- no other connection has the key, so that at most one member of a pair has changed
  have hkeys : e.connections.Pairwise fun a b => a.key ≠ b.key := List.pairwise_map.mp h.keys
  refine List.pairwise_map.mpr ((hold.and hkeys).imp_of_mem ?_)
  rintro a b ha hb ⟨hab, hne⟩
  by_cases hfirst : a.key = c'.key
  · have hsecond : b.key ≠ c'.key := fun hsame => hne (hfirst.trans hsame.symm)
    rw [if_pos hfirst, if_neg hsecond]
    exact hright b hb hsecond
  · rw [if_neg hfirst]
    split
    · exact hleft a ha hfirst
    · exact hab

/-- The count of those on their way moves by what the change makes of this one. -/
theorem update_countP (h : Sound config e) (hc : c ∈ e.connections) (c' : Connection)
    (hkey : c'.key = c.key) :
    (e.update c').connections.countP Connection.pending + c.pending.toNat =
      e.connections.countP Connection.pending + c'.pending.toNat := by
  have hnodup : e.connections.Nodup := List.Nodup.of_map _ h.keys
  -- the connection apart from the others, before and after
  have hperm := List.perm_cons_erase hc
  have hmap : (e.update c').connections.Perm
      (c' :: e.connections.erase c) := by
    refine (hperm.map _).trans ?_
    rw [List.map_cons, if_pos hkey.symm]
    refine (List.Perm.of_eq ?_).cons c'
    refine (List.map_congr_left fun v hv => ?_).trans (List.map_id _)
    refine if_neg fun hsame => ?_
    have hv' := List.mem_of_mem_erase hv
    exact hnodup.not_mem_erase (same_key h hc hv' (hsame.trans hkey) ▸ hv)
  rw [hmap.countP_eq, hperm.countP_eq, List.countP_cons, List.countP_cons]
  cases c.pending <;> cases c'.pending <;> simp

/-- A connection that is not made yet changes. -/
theorem update_sound (h : Sound config e) (hc : c ∈ e.connections) {c' : Connection}
    (hkey : c'.key = c.key) (hpending : c'.pending = c.pending) (hnot : c'.complete = false) :
    Sound config (e.update c') := by
  have hcount := update_countP h hc c' hkey
  rw [hpending] at hcount
  refine ⟨(update_keys e c').symm ▸ h.keys, ?_, ?_, ?_, ?_⟩
  · show (e.connections.map _).length ≤ _
    rw [List.length_map]
    exact h.bounded
  · show e.incomplete = _
    rw [h.counter]
    omega
  · intro v hv hcomplete
    -- the changed connection is not complete, and the others are as they were
    rcases (update_mem hc c' hkey).2 v hv with rfl | ⟨hv, -⟩
    · rw [hnot] at hcomplete
      cases hcomplete
    · exact h.others v hv hcomplete
  · refine update_pairwise h h.distinct (fun v _ _ _ hcomplete => ?_) fun v _ _ hcomplete => ?_
    · rw [hnot] at hcomplete
      cases hcomplete
    · rw [hnot] at hcomplete
      cases hcomplete

/-! ## A peer is accepted

The walk over the other connections may close some of them and may refuse the peer. It is only
behind it that the peer is taken as connected. -/

/-- What the walk over the connections leaves: the one that is asked about stays, and if it is
accepted no other has its id or its address. -/
theorem got_id_loop_spec (vs : List Connection) (h : Sound config e) :
    let r := got_id_loop config c vs e
    Sound config r.2 ∧ r.2.connections.Sublist e.connections ∧
      (c ∈ e.connections → c ∈ r.2.connections) ∧
      (r.1 = true → ∀ v ∈ vs, v.key ≠ c.key → c.id ≠ v.id ∧
        (config.security = true → c.ip ≠ unknown → c.ip = v.ip → ∀ u ∈ r.2.connections,
          u.key ≠ v.key)) := by
  -- by the connections of the walk, which goes on after a close and ends at the same id
  induction vs generalizing e with
  | nil => exact ⟨h, List.Sublist.refl _, fun hc => hc,
      fun _ v hv => absurd hv List.not_mem_nil⟩
  | cons v vs ih =>
    rw [got_id_loop]
    by_cases hself : v.key = c.key
    · rw [if_pos hself]
      obtain ⟨hsound, hsub, hstays, hall⟩ := ih h
      refine ⟨hsound, hsub, hstays, fun hok u hu hne => ?_⟩
      rcases List.mem_cons.mp hu with rfl | hu
      · exact absurd hself hne
      · exact hall hok u hu hne
    · rw [if_neg hself]
      by_cases hid : c.id = v.id
      · rw [if_pos hid]
        exact ⟨h, List.Sublist.refl _, fun hc => hc, fun hok => Bool.noConfusion hok⟩
      · rw [if_neg hid]
        by_cases hip : config.security ∧ c.ip ≠ unknown ∧ c.ip = v.ip
        · -- the other connection is closed
          rw [if_pos hip]
          obtain ⟨hsound, hsub, hstays, hall⟩ := ih (close_sound h v.key)
          obtain ⟨hfewer, hkept⟩ := close_connections (e := e) v.key
          refine ⟨hsound, hsub.trans hfewer, fun hc => hstays (hkept c hc (Ne.symm hself)),
            fun hok u hu hne => ?_⟩
          rcases List.mem_cons.mp hu with rfl | hu
          · exact ⟨hid, fun _ _ _ w hw => close_gone h u.key w (hsub.subset hw)⟩
          · exact hall hok u hu hne
        · rw [if_neg hip]
          obtain ⟨hsound, hsub, hstays, hall⟩ := ih h
          refine ⟨hsound, hsub, hstays, fun hok u hu hne => ?_⟩
          rcases List.mem_cons.mp hu with rfl | hu
          · exact ⟨hid, fun hsecurity hknown hsame =>
              absurd ⟨hsecurity, hknown, hsame⟩ hip⟩
          · exact hall hok u hu hne

/-- The same of `got_id`, which also looks at the encoder's own id. -/
theorem got_id_spec (vs : List Connection) (h : Sound config e) :
    let r := e.got_id config c vs
    Sound config r.2 ∧ r.2.connections.Sublist e.connections ∧
      (c ∈ e.connections → c ∈ r.2.connections) ∧
      (r.1 = true → c.id ≠ config.my_id ∧ ∀ v ∈ vs, v.key ≠ c.key → c.id ≠ v.id ∧
        (config.security = true → c.ip ≠ unknown → c.ip = v.ip → ∀ u ∈ r.2.connections,
          u.key ≠ v.key)) := by
  unfold got_id
  by_cases hself : c.id = config.my_id
  · rw [if_pos hself]
    exact ⟨⟨h.keys, h.bounded, h.counter, h.others, h.distinct⟩, List.Sublist.refl _,
      fun hc => hc,
      fun hok => Bool.noConfusion hok⟩
  · rw [if_neg hself]
    by_cases hbanned : config.security ∧ c.ip ∈ e.banned
    · rw [if_pos hbanned]
      exact ⟨h, List.Sublist.refl _, fun hc => hc, fun hok => Bool.noConfusion hok⟩
    · rw [if_neg hbanned]
      obtain ⟨hsound, hsub, hstays, hall⟩ := got_id_loop_spec (c := c) vs h
      exact ⟨hsound, hsub, hstays, fun hok => ⟨hself, hall hok⟩⟩

/-- A connection is made, where no other one has the id or the address. -/
theorem made_sound (h : Sound config e) (hc : c ∈ e.connections) (hnot : c.complete = false)
    (hself : c.id ≠ config.my_id)
    (hfree : ∀ v ∈ e.connections, v.key ≠ c.key → c.id ≠ v.id ∧
      (config.security = true → c.ip ≠ unknown → c.ip ≠ v.ip)) :
    Sound config { e.update { c with complete := true } with
      incomplete := if c.locally_initiated then e.incomplete - 1 else e.incomplete } := by
  let c' : Connection := { c with complete := true }
  have hcount := update_countP h hc c' rfl
  refine ⟨(update_keys e c').symm ▸ h.keys, ?_, ?_, ?_, ?_⟩
  · show (e.connections.map _).length ≤ _
    rw [List.length_map]
    exact h.bounded
  · -- one connection less is waited for, if it was opened from here
    show (if c.locally_initiated then e.incomplete - 1 else e.incomplete) =
      ((e.update c').connections.countP Connection.pending : Int)
    have hbefore : c.pending = c.locally_initiated := by
      show (c.locally_initiated && !c.complete) = _
      rw [hnot]
      exact Bool.and_true _
    have hafter : c'.pending = false := Bool.and_false _
    rw [hbefore, hafter] at hcount
    rw [h.counter]
    cases hlocal : c.locally_initiated with
    | true =>
      rw [hlocal, Bool.toNat_true, Bool.toNat_false] at hcount
      rw [if_pos rfl]
      omega
    | false =>
      rw [hlocal, Bool.toNat_false] at hcount
      rw [if_neg Bool.false_ne_true]
      omega
  · intro v hv hcomplete
    rcases (update_mem hc c' rfl).2 v hv with rfl | ⟨hv, -⟩
    · exact hself
    · exact h.others v hv hcomplete
  · refine update_pairwise h h.distinct (fun v hv hne _ _ => ?_) fun v hv hne _ _ => ?_
    · obtain ⟨hid, hip⟩ := hfree v hv hne
      refine ⟨Ne.symm hid, fun hsecurity => ?_⟩
      by_cases hknown : v.ip = unknown
      · exact .inl hknown
      · refine .inr fun hsame => ?_
        have hsame : v.ip = c.ip := hsame
        exact hip hsecurity (hsame ▸ hknown) hsame.symm
    · obtain ⟨hid, hip⟩ := hfree v hv hne
      refine ⟨hid, fun hsecurity => ?_⟩
      by_cases hknown : c.ip = unknown
      · exact .inl hknown
      · exact .inr (hip hsecurity hknown)

/-- A peer that says who it is: if it is not the expected one it is closed, and else it is
accepted or closed. -/
theorem read_peer_id_sound (h : Sound config e) (hc : c ∈ e.connections)
    (hnot : c.complete = false) (s : Str)
    (hvs : vs.Perm (e.update { c with id := s }).connections) :
    Sound config (e.read_peer_id config c vs s) := by
  unfold read_peer_id
  split
  · exact close_sound h c.key
  · let c' : Connection := { c with id := s }
    have hnamed : Sound config (e.update c') := update_sound h hc rfl rfl hnot
    have hmem : c' ∈ (e.update c').connections :=
      (update_mem hc c' rfl).1
    have hgot := got_id_spec (c := c') vs hnamed
    show Sound config (match (e.update c').got_id config c' vs with
      | (false, e) => e.close c.key
      | (true, e) =>
        let e := e.update { c' with complete := true }
        { e with incomplete := if c'.locally_initiated then e.incomplete - 1 else e.incomplete })
    generalize (e.update c').got_id config c' vs = r at hgot
    obtain ⟨ok, e'⟩ := r
    obtain ⟨hsound, hsub, hstays, hall⟩ := hgot
    cases ok with
    | false => exact close_sound hsound c.key
    | true =>
      obtain ⟨hself, hother⟩ := hall rfl
      refine made_sound (c := c') hsound (hstays hmem) hnot hself fun v hv hne => ?_
      -- the walk has seen every connection that is left
      obtain ⟨hid, hip⟩ := hother v (hvs.mem_iff.mpr (hsub.subset hv)) hne
      exact ⟨hid, fun hsecurity hknown hsame => hip hsecurity hknown hsame v hv rfl⟩

/-! ## Any order

Each event keeps the invariant where it may happen, so that every order of them does. -/

/-- There is room for one more. -/
theorem not_crowded (h : ¬e.crowded config = true) : e.connections.length < config.limit := by
  unfold crowded at h
  rw [decide_eq_true_iff, not_or] at h
  exact Nat.not_le.mp h.2

/-- A new connection, which nobody has answered yet. -/
theorem add_sound (h : Sound config e) (hroom : e.connections.length < config.limit)
    (hnew : ∀ v ∈ e.connections, v.key ≠ c.key) (hnot : c.complete = false) :
    Sound config { e with
      connections := c :: e.connections
      incomplete := e.incomplete + c.pending.toNat } := by
  refine ⟨?_, Nat.succ_le_of_lt hroom, ?_, ?_, ?_⟩
  · -- the key is that of a new socket
    refine List.nodup_cons.mpr ⟨fun hmem => ?_, h.keys⟩
    obtain ⟨v, hv, hkey⟩ := List.mem_map.mp hmem
    exact hnew v hv hkey
  · -- the new connection counts if it was opened from here
    show e.incomplete + _ = _
    rw [List.countP_cons, h.counter]
    cases c.pending <;> rfl
  · intro v hv hcomplete
    rcases List.mem_cons.mp hv with rfl | hv
    · rw [hnot] at hcomplete
      cases hcomplete
    · exact h.others v hv hcomplete
  · refine List.pairwise_cons.mpr ⟨fun v _ hcomplete => ?_, h.distinct⟩
    rw [hnot] at hcomplete
    cases hcomplete

/-- A connection opened from here is on its way, and counts. -/
theorem start_connection_sound (h : Sound config e) {ip id : Str} {key : Option Nat}
    (hnew : ∀ k ∈ key, ∀ v ∈ e.connections, v.key ≠ k) :
    Sound config (e.start_connection config ip id key) := by
  unfold start_connection
  split
  · exact h
  · rename_i hfree
    split
    · exact h
    · cases key with
      | none => exact h
      | some key =>
        have hroom := not_crowded fun hcrowded => hfree (.inl hcrowded)
        exact add_sound (c := ⟨key, id, ip, true, false⟩) h hroom (hnew key rfl) rfl

/-- **One event.** -/
theorem apply_sound (h : Sound config e) {op : Op} (hmay : e.May op) :
    Sound config (e.apply config op) := by
  -- what leaves the connections and the counter alone
  have hsame {e' : Encoder} (hconnections : e'.connections = e.connections)
      (hincomplete : e'.incomplete = e.incomplete) : Sound config e' := by
    refine ⟨?_, ?_, ?_, ?_, ?_⟩
    · rw [hconnections]
      exact h.keys
    · rw [hconnections]
      exact h.bounded
    · rw [hconnections, hincomplete]
      exact h.counter
    · rw [hconnections]
      exact h.others
    · rw [hconnections]
      exact h.distinct
  cases op with
  | start_connections | read_download_id | ban | pause => exact hsame rfl rfl
  | from_queue key =>
    show Sound config (e.start_connection_from_queue config key)
    unfold start_connection_from_queue
    split
    · exact h
    · split
      · exact h
      · split
        · exact h
        · rename_i ip id to_connect _
          exact start_connection_sound (e := { e with to_connect }) (hsame rfl rfl) hmay
  | start ip id key => exact start_connection_sound h hmay
  | external key ip =>
    show Sound config (e.external_connection config key ip)
    unfold external_connection
    split
    · exact h
    · rename_i hroom
      have hadd := add_sound (c := ⟨key, [], ip, false, false⟩) h (not_crowded hroom) hmay rfl
      rw [show (⟨key, [], ip, false, false⟩ : Connection).pending.toNat = 0 from rfl,
        Int.natCast_zero, Int.add_zero] at hadd
      exact hadd
  | address c ip => exact update_sound h hmay.1 rfl rfl hmay.2
  | read_peer_id c vs s =>
    obtain ⟨hc, hnot, -, hvs⟩ := hmay
    exact read_peer_id_sound h hc hnot s hvs
  | close key => exact close_sound h key
  | close_all => exact close_all_sound h _

/-! ## The counter

No event makes the counter larger except a connection that is opened from here; from the queue
that happens only below the bound. -/

/-- Closing may only lower it. -/
theorem close_incomplete (e : Encoder) (key : Nat) : (e.close key).incomplete ≤ e.incomplete := by
  unfold close
  split
  · exact Int.le_refl _
  · dsimp only
    split <;> omega

/-- So may accepting a peer. -/
theorem got_id_incomplete (config : EncoderConfig) (e : Encoder) (c : Connection)
    (vs : List Connection) : (e.got_id config c vs).2.incomplete ≤ e.incomplete := by
  have hloop (e : Encoder) : (got_id_loop config c vs e).2.incomplete ≤ e.incomplete := by
    induction vs generalizing e with
    | nil => exact Int.le_refl _
    | cons v vs ih =>
      unfold got_id_loop
      split
      · exact ih e
      · split
        · exact Int.le_refl _
        · split
          · -- only this branch of the walk closes a connection
            exact Int.le_trans (ih _) (close_incomplete e v.key)
          · exact ih e
  unfold got_id
  split
  · exact Int.le_refl _
  · split
    · exact Int.le_refl _
    · exact hloop e

/-- So may reading who the peer is. -/
theorem read_peer_id_incomplete (e : Encoder) (c : Connection) (vs : List Connection) (s : Str) :
    (e.read_peer_id config c vs s).incomplete ≤ e.incomplete := by
  unfold read_peer_id
  split
  · exact close_incomplete e c.key
  · dsimp only
    have hgot := got_id_incomplete config (e.update { c with id := s })
      { c with id := s } vs
    have hsame : (e.update { c with id := s }).incomplete = e.incomplete := rfl
    split
    · rename_i e' heq
      rw [heq] at hgot
      exact Int.le_trans (close_incomplete e' c.key) (Int.le_trans hgot (Int.le_of_eq hsame))
    · rename_i e' heq
      rw [heq] at hgot
      have hle : e'.incomplete ≤ e.incomplete := Int.le_trans hgot (Int.le_of_eq hsame)
      show (if c.locally_initiated then e'.incomplete - 1 else e'.incomplete) ≤ e.incomplete
      split <;> omega

end Encoder

/-- The invariant in every reachable state. -/
theorem reachable_sound {config : EncoderConfig} {e : Encoder}
    (h : Reachable (encoder config) e) : Sound config e := by
  refine h.invariant (I := Sound config) ?_ ?_
  · rintro _ rfl
    exact ⟨List.nodup_nil, Nat.zero_le _, rfl, fun v hv => absurd hv List.not_mem_nil,
      List.Pairwise.nil⟩
  · rintro e op _ hsound ⟨hmay, rfl⟩
    exact Encoder.apply_sound hsound hmay

/-- **The connections in any reachable state**: no more than the limit, all that are made with peers
that differ from each other and from us (and by the option have addresses that differ), and the
counter is the number of those that have been opened and not been answered. -/
theorem connections_sound {config : EncoderConfig} {e : Encoder}
    (h : Reachable (encoder config) e) :
    e.connections.length ≤ config.limit ∧
      (∀ v ∈ e.connections, v.complete = true → v.id ≠ config.my_id) ∧
      e.connections.Pairwise (Distinct config) ∧
      e.incomplete = e.connections.countP Connection.pending :=
  ⟨(reachable_sound h).bounded, (reachable_sound h).others, (reachable_sound h).distinct,
    (reachable_sound h).counter⟩

/-- An encoder that knows of one address, and has opened a connection to it. -/
def dialConfig : EncoderConfig := ⟨List.replicate 20 0, 40, 40, true⟩

/-- An encoder that has been given a peer to connect to. -/
def listed : Encoder :=
  (⟨[], [], [], false, 0, 0⟩ : Encoder).apply dialConfig (.start_connections [([1], [])])

/-- It has dialled that peer. -/
def dialled : Encoder := listed.apply dialConfig (.from_queue (some 0))

/-- The peer has said who it is. -/
def dialledPeer : Connection := ⟨0, [], [1], true, false⟩

/-- The peer has said who it is. -/
def accepted : Encoder :=
  dialled.apply dialConfig
    (.read_peer_id dialledPeer [{ dialledPeer with id := List.replicate 20 7 }]
      (List.replicate 20 7))

/-- These are states of a run. -/
theorem dialled_reachable : Reachable (encoder dialConfig) dialled := by
  have hstart : Reachable (encoder dialConfig) ⟨[], [], [], false, 0, 0⟩ := .start rfl
  have hlisted : Reachable (encoder dialConfig) listed :=
    hstart.step (a := .start_connections [([1], [])]) ⟨trivial, rfl⟩
  exact hlisted.step (a := .from_queue (some 0))
    ⟨fun _ _ v hv => absurd hv List.not_mem_nil, rfl⟩

/-- And so is this one. -/
theorem accepted_reachable : Reachable (encoder dialConfig) accepted := by
  have hmay : dialled.May (.read_peer_id dialledPeer
      [{ dialledPeer with id := List.replicate 20 7 }] (List.replicate 20 7)) :=
    ⟨by decide +kernel, rfl, rfl, by decide +kernel⟩
  exact dialled_reachable.step ⟨hmay, rfl⟩

/-- Another peer has connected from an address of its own. -/
def visited : Encoder := accepted.apply dialConfig (.external 1 [2])

/-- A peer that has connected by itself. -/
def visitor : Connection := ⟨1, [], [2], false, false⟩

/-- And has said who it is. -/
def received : Encoder :=
  visited.apply dialConfig
    (.read_peer_id visitor
      [⟨0, List.replicate 20 7, [1], true, true⟩, { visitor with id := List.replicate 20 8 }]
      (List.replicate 20 8))

/-- Both peers are connected in a run. -/
theorem received_reachable : Reachable (encoder dialConfig) received := by
  have hnew : ∀ v ∈ accepted.connections, v.key ≠ 1 := by decide +kernel
  have hvisited : Reachable (encoder dialConfig) visited :=
    accepted_reachable.step (a := .external 1 [2]) ⟨hnew, rfl⟩
  have hmay : visited.May (.read_peer_id visitor
      [⟨0, List.replicate 20 7, [1], true, true⟩, { visitor with id := List.replicate 20 8 }]
      (List.replicate 20 8)) :=
    ⟨by decide +kernel, rfl, rfl, by decide +kernel⟩
  exact hvisited.step ⟨hmay, rfl⟩

/-- Two connections, complete and distinct. -/
theorem connections_sound_accepted : received.connections.countP Connection.complete = 2 ∧
    received.connections.length ≤ dialConfig.limit ∧
    (∀ v ∈ received.connections, v.complete = true → v.id ≠ dialConfig.my_id) ∧
    received.connections.Pairwise (Distinct dialConfig) ∧
    received.incomplete = received.connections.countP Connection.pending :=
  ⟨by decide +kernel, connections_sound received_reachable⟩

/-- Nobody starts a connection past the queue. -/
def Queued (_ : Encoder) (op : Op) : Prop := ∀ ip id key, op ≠ .start ip id key

/-- Several closings lower it too. -/
theorem close_all_incomplete (keys : List Nat) (e : Encoder) :
    (keys.foldl Encoder.close e).incomplete ≤ e.incomplete := by
  induction keys generalizing e with
  | nil => exact Int.le_refl _
  | cons key keys ih => exact Int.le_trans (ih _) (Encoder.close_incomplete e key)

/-- From the queue a connection is opened below the bound only. -/
theorem from_queue_incomplete (config : EncoderConfig) {e : Encoder} (key : Option Nat)
    (hle : e.incomplete ≤ MAX_INCOMPLETE) :
    (e.start_connection_from_queue config key).incomplete ≤ MAX_INCOMPLETE := by
  unfold Encoder.start_connection_from_queue
  split
  · exact hle
  · split
    · exact hle
    · -- the queue waits while there are too many
      rename_i hfew
      rw [not_or, ge_iff_le, Int.not_le] at hfew
      split
      · exact hle
      · unfold Encoder.start_connection
        split
        · exact hle
        · split
          · exact hle
          · split
            · exact hle
            · exact hfew.2

/-- What a step from the queue leaves of the counter. -/
theorem apply_incomplete (config : EncoderConfig) {e : Encoder} {op : Op} (hqueued : Queued e op)
    (hle : e.incomplete ≤ MAX_INCOMPLETE) :
    (e.apply config op).incomplete ≤ MAX_INCOMPLETE := by
  cases op with
  | start_connections | read_download_id | ban | pause | address => exact hle
  | start ip id key => exact absurd rfl (hqueued ip id key)
  | from_queue key => exact from_queue_incomplete config key hle
  | external key ip =>
    show (e.external_connection config key ip).incomplete ≤ _
    unfold Encoder.external_connection
    split <;> exact hle
  | read_peer_id c vs s => exact Int.le_trans (Encoder.read_peer_id_incomplete e c vs s) hle
  | close key => exact Int.le_trans (Encoder.close_incomplete e key) hle
  | close_all => exact Int.le_trans (close_all_incomplete _ e) hle

/-- **There are never more than eight connections that have been opened and not been answered**,
where all come from the queue. -/
theorem incomplete_bounded {config : EncoderConfig} {e : Encoder}
    (h : Reachable ((encoder config).restrict Queued) e) :
    e.connections.countP Connection.pending ≤ 8 := by
  have hbound : e.incomplete ≤ MAX_INCOMPLETE := by
    refine h.invariant (I := fun e => e.incomplete ≤ MAX_INCOMPLETE) ?_ ?_
    · rintro _ rfl
      decide
    · rintro e op _ hle ⟨hqueued, -, rfl⟩
      exact apply_incomplete config hqueued hle
  have hcount := (reachable_sound h.of_restrict).counter
  have hmax : MAX_INCOMPLETE = 8 := rfl
  omega

/-- One connection on its way. -/
theorem incomplete_bounded_dialled :
    dialled.connections.countP Connection.pending = 1 ∧
      dialled.connections.countP Connection.pending ≤ 8 := by
  have hstart : Reachable ((encoder dialConfig).restrict Queued) ⟨[], [], [], false, 0, 0⟩ :=
    .start rfl
  have hlisted : Reachable ((encoder dialConfig).restrict Queued) listed :=
    hstart.step (a := .start_connections [([1], [])]) ⟨nofun, trivial, rfl⟩
  have hdialled : Reachable ((encoder dialConfig).restrict Queued) dialled :=
    hlisted.step (a := .from_queue (some 0))
      ⟨nofun, fun _ _ v hv => absurd hv List.not_mem_nil, rfl⟩
  exact ⟨by decide +kernel, incomplete_bounded hdialled⟩

end VirtCore.BitTornado
