import VirtCore.Peer.Receiving

/-!
# VirtCore — two peers

Two connections of `Encrypter.py`, one of them opened locally, with the streams between them. What
is written on one side is read on the other in chunks of any size, and between two chunks either
side may be called.

* **`Party`** — a connection with its history.
* **`conversation`** — every interleaving of the two.
* **`Sane`** — what a party has read and written.
* **`heard_in_order`** — each side hears what the other has said, in its order and nothing else.
* **`heard_all`** — and all of it, when everything has been read and nothing of it was refused.
* **`peers_agree`** — on what they exchange, on who they are, and on who is connected first.
-/

namespace VirtCore.BitTornado

open Framing Transition

variable {τ υ : Type}

/-- What has been handed to the socket by the handshake. -/
def writes (events : List Event) : Str :=
  events.flatMap fun
    | .wrote s => s
    | _ => []

/-- The messages that have been read. -/
def heard (events : List Event) : List Message :=
  events.filterMap fun
    | .message m => some m
    | _ => none

/-- A party has been told that it is connected. -/
def Connected (events : List Event) : Prop := ∃ id, Event.connected id ∈ events

/-- A connection with what it has reported, put in line, written, and read of the other's stream. -/
structure Party (τ : Type) where
  link : State UInt8 (Link τ)
  events : List Event
  out : Outgoing
  written : Str
  read : Nat

/-- Some of the stream comes in, or the upload and the connecter are called. -/
inductive Move where
  | receive (n : Nat)
  | call (c : Call)

namespace Party

/-- `__init__`. -/
def start (S : Settings τ) (id : Str) (env : τ) : Party τ where
  link := .at ⟨.read_header_len, id, false, env⟩ []
  events := []
  out := ⟨.init, [], [], []⟩
  written := if S.locally_initiated then header S.download_id else []
  read := 0

/-- A reading that stops closes the connection. -/
def outgoing (max_slice_length : Nat) (o : Outgoing) : State UInt8 (Link τ) → Outgoing
  | .stopped => o.after max_slice_length .close
  | .at _ _ | .failed => o

/-- A party reads a chunk of what is there for it. -/
def receive (S : Settings τ) (max_slice_length : Nat) (p : Party τ) (stream : Str) (n : Nat) :
    Party τ :=
  if p.out.sender.closed then p
  else
    let chunk := (stream.drop p.read).take n
    let r := (reader S).feed p.link chunk
    { link := r.2
      events := p.events ++ r.1
      out := outgoing max_slice_length p.out r.2
      written := p.written ++ writes r.1
      read := p.read + chunk.length }

/-- It is called, and sends or waits. -/
def call (max_slice_length : Nat) (p : Party τ) (c : Call) : Party τ :=
  { p with
    out := p.out.after max_slice_length c
    written := p.written ++ (p.out.sender.step max_slice_length c).written }

/-- Before the connection is made it can only be closed. -/
def Step (S : Settings τ) (max_slice_length : Nat) (stream : Str) (p : Party τ) :
    Move → Party τ → Prop
  | .receive n, p' => p' = p.receive S max_slice_length stream n
  | .call c, p' =>
    (Connected p.events ∨ c = .close) ∧ c.Plain ∧ p' = p.call max_slice_length c

end Party

/-- One side or the other moves. -/
def conversation (S : Settings τ) (T : Settings υ) (max_slice_length : Nat) :
    System (Party τ × Party υ) (Move ⊕ Move) where
  start pq := ∃ id env id' env', pq = (.start S id env, .start T id' env')
  step pq m pq' :=
    match m with
    | .inl m => pq.1.Step S max_slice_length pq.2.written m pq'.1 ∧ pq'.2 = pq.2
    | .inr m => pq.2.Step T max_slice_length pq.1.written m pq'.2 ∧ pq'.1 = pq.1

/-! ## What a handshake writes

Each side writes a header and its id. Who has opened the connection writes the header at once; the
rest follows as the other's part comes in. -/

variable {S : Settings τ} {T : Settings υ} {max_slice_length : Nat} {a b out : List Event}

/-- What is written is written in order. -/
theorem writes_append (a b : List Event) : writes (a ++ b) = writes a ++ writes b :=
  List.flatMap_append

/-- What is heard is heard in order. -/
theorem heard_append (a b : List Event) : heard (a ++ b) = heard a ++ heard b :=
  List.filterMap_append

/-- Being connected is an event of one of the parts. -/
theorem connected_append : Connected (a ++ b) ↔ Connected a ∨ Connected b := by
  constructor
  · rintro ⟨id, h⟩
    rcases List.mem_append.mp h with h | h
    · exact .inl ⟨id, h⟩
    · exact .inr ⟨id, h⟩
  · rintro (⟨id, h⟩ | ⟨id, h⟩)
    · exact ⟨id, List.mem_append_left _ h⟩
    · exact ⟨id, List.mem_append_right _ h⟩

/-- The header alone does not connect. -/
theorem not_connected_opening (S : Settings τ) : ¬Connected (opening S) := by
  rintro ⟨id, h⟩
  unfold opening at h
  split at h
  · cases h
  · cases List.mem_singleton.mp h

/-- What is written in the whole of a handshake after its start. -/
def handshake (S : Settings τ) : Str :=
  if S.locally_initiated then S.my_id else header S.download_id ++ S.my_id

/-- Whoever has opened the connection, each side writes a header and its id. -/
theorem start_handshake (S : Settings τ) :
    (if S.locally_initiated then header S.download_id else []) ++ handshake S =
      header S.download_id ++ S.my_id := by
  unfold handshake
  split <;> rfl

/-- Hearing messages writes nothing. -/
theorem writes_messages (ms : List Message) : writes (ms.map Event.message) = [] := by
  induction ms with
  | nil => rfl
  | cons m ms ih => exact ih

/-- Who is connected has written the handshake. -/
theorem writes_talked (h : Talked S out) : Connected out ∧ writes out = handshake S := by
  obtain ⟨id, ms, rfl⟩ := h
  constructor
  · refine ⟨id, List.mem_append_left _ (List.mem_append_right _ ?_)⟩
    exact List.mem_append_right _ (List.mem_singleton.mpr rfl)
  · rw [writes_append, writes_messages, List.append_nil, writes_append]
    unfold opening accepting handshake
    cases S.locally_initiated
    · simp [writes]
    · simp [writes]

/-- What the header of the peer is answered with is its first part. -/
theorem writes_opening (S : Settings τ) : writes (opening S) <+: handshake S := by
  unfold opening handshake
  split
  · exact List.nil_prefix
  · simp [writes]

/-- The script by what has been written. -/
theorem script_writes {c : Option (Link τ)} (h : Script S c out) :
    writes out <+: handshake S ∧ (Connected out → writes out = handshake S) ∧
      (¬Connected out → out = [] ∨ out = opening S) := by
  have hended : Script S none out := by
    cases c with
    | none => exact h
    | some c => exact script_ended h
  rcases hended with rfl | rfl | htalked
  · exact ⟨List.nil_prefix, fun ⟨_, hmem⟩ => absurd hmem List.not_mem_nil,
      fun _ => .inl rfl⟩
  · exact ⟨writes_opening S, fun h => absurd h (not_connected_opening S), fun _ => .inr rfl⟩
  · obtain ⟨hconnected, hwrites⟩ := writes_talked htalked
    exact ⟨hwrites ▸ List.prefix_refl _, fun _ => hwrites, fun h => absurd hconnected h⟩

/-- After the handshake nothing more is written. -/
theorem writes_later {c c' : Option (Link τ)} (ha : Script S c a) (hab : Script S c' (a ++ b))
    (hconnected : Connected a) : writes b = [] := by
  have hbefore := (script_writes ha).2.1 hconnected
  have hafter := (script_writes hab).2.1 (connected_append.mpr (.inl hconnected))
  rw [writes_append, hbefore] at hafter
  exact List.append_right_eq_self.mp hafter

/-! ## A party

What a party has read and said is told by the stream, the position in it and its own history. That
is what `Sane` says, and what a chunk and a call each keep. -/

/-- A party has read a part of the other's stream, and has written its part of the handshake and
what its sender has sent. -/
structure Sane (S : Settings τ) (max_slice_length : Nat) (c : Link τ) (p : Party τ)
    (stream : Str) : Prop where
  func : c.func = .read_header_len
  read : p.read ≤ stream.length
  events : p.events = ((reader S).feed (.at c []) (stream.take p.read)).1
  view : p.link.view = ((reader S).feed (.at c []) (stream.take p.read)).2.view
  settled : (reader S).Settled p.link
  written : p.written =
    (if S.locally_initiated then header S.download_id else []) ++ writes p.events ++ p.out.sent
  sender : Reachable (sender max_slice_length) p.out
  silent : ¬Connected p.events → p.out.sent = [] ∧ p.out.line = []

variable {c : Link τ} {p p' : Party τ} {stream : Str}

/-- Whatever has come, the events follow the script. -/
theorem feed_script (hfunc : c.func = .read_header_len) (x : Str) :
    ∃ c', Script S c' ((reader S).feed (.at c []) x).1 := by
  have hstart : Script S (some c) [] := by
    show c.func.Script S []
    rw [hfunc]
    rfl
  have hsound : (reader S).Sound (.at c []) := Reader.sound_next
  exact ⟨_, (script_keeps S).feed hsound hstart x⟩

/-- And so do those of a party. -/
theorem Sane.script (h : Sane S max_slice_length c p stream) : ∃ c', Script S c' p.events := by
  rw [h.events]
  exact feed_script h.func _

/-- The other side writes more. -/
theorem Sane.more (h : Sane S max_slice_length c p stream) (rest : Str) :
    Sane S max_slice_length c p (stream ++ rest) := by
  have hsame : (stream ++ rest).take p.read = stream.take p.read :=
    List.take_append_of_le_length h.read
  refine { h with read := ?_, events := ?_, view := ?_ }
  · rw [List.length_append]
    exact Nat.le_trans h.read (Nat.le_add_right _ _)
  · rw [hsame]
    exact h.events
  · rw [hsame]
    exact h.view

/-- A new party. -/
theorem sane_start (S : Settings τ) (max_slice_length : Nat) (id : Str) (env : τ) (stream : Str) :
    Sane S max_slice_length ⟨.read_header_len, id, false, env⟩ (.start S id env) stream where
  func := rfl
  read := Nat.zero_le _
  events := rfl
  view := rfl
  settled := Nat.zero_lt_one
  written := by
    show _ = _ ++ [] ++ []
    rw [List.append_nil, List.append_nil]
    rfl
  sender := .start rfl
  silent := fun _ => ⟨rfl, rfl⟩

/-- A call for a connection that is made, or a close. -/
theorem Sane.call (h : Sane S max_slice_length c p stream) {x : Call}
    (hmay : Connected p.events ∨ x = .close) (hplain : x.Plain) :
    Sane S max_slice_length c (p.call max_slice_length x) stream := by
  refine { h with written := ?_, sender := h.sender.step ⟨hplain, rfl⟩, silent := ?_ }
  · show p.written ++ _ = _ ++ writes p.events ++ (p.out.sent ++ _)
    rw [h.written, List.append_assoc]
  · intro hnot
    -- before it is connected a side can only be closed, which sends nothing
    obtain rfl : x = .close := hmay.resolve_left hnot
    obtain ⟨hsent, hline⟩ := h.silent hnot
    constructor
    · show p.out.sent ++ [] = []
      rw [hsent]
      rfl
    · show (if p.out.sender.closed then p.out.line else p.out.line ++ []) = []
      rw [hline]
      split <;> rfl

/-- Writing the handshake is no sending. -/
theorem outgoing_sent (max_slice_length : Nat) (o : Outgoing) (st : State UInt8 (Link τ)) :
    (Party.outgoing max_slice_length o st).sent = o.sent := by
  cases st with
  | stopped => exact List.append_nil o.sent
  | «at» | failed => rfl

/-- Nothing is in line yet. -/
theorem outgoing_line {o : Outgoing} (h : o.line = []) (st : State UInt8 (Link τ)) :
    (Party.outgoing max_slice_length o st).line = [] := by
  cases st with
  | stopped =>
    show (if o.sender.closed then o.line else o.line ++ []) = []
    rw [h]
    split <;> rfl
  | «at» | failed => exact h

/-- The sending side is in a state that its calls can reach. -/
theorem outgoing_reachable {o : Outgoing} (h : Reachable (sender max_slice_length) o)
    (st : State UInt8 (Link τ)) :
    Reachable (sender max_slice_length) (Party.outgoing max_slice_length o st) := by
  cases st with
  | stopped => exact h.step (a := .close) ⟨trivial, rfl⟩
  | «at» | failed => exact h

/-- The chunk that is read is the next part of the stream. -/
theorem take_chunk (read n : Nat) (stream : Str) :
    stream.take (read + ((stream.drop read).take n).length) =
      stream.take read ++ (stream.drop read).take n := by
  rw [List.take_add, List.length_take, ← List.take_take, List.take_length]

/-- Some of the stream comes in. -/
theorem Sane.receive (h : Sane S max_slice_length c p stream) (n : Nat) :
    Sane S max_slice_length c (p.receive S max_slice_length stream n) stream := by
  unfold Party.receive
  split
  · exact h
  · generalize hchunk : (stream.drop p.read).take n = chunk
    have htake := take_chunk p.read n stream
    rw [hchunk] at htake
    have hsound : (reader S).Sound (.at c []) := Reader.sound_next
    obtain ⟨hout, hview⟩ := Reader.feed_append hsound (stream.take p.read) chunk
    obtain ⟨hsame, hsameView⟩ := Reader.view_feed (R := reader S) h.view chunk
    -- reading the chunk is reading the longer part of the stream at once
    have hevents : p.events ++ ((reader S).feed p.link chunk).1 =
        ((reader S).feed (.at c []) (stream.take (p.read + chunk.length))).1 := by
      rw [htake, hout, ← h.events, hsame]
    obtain ⟨before, hbefore⟩ := h.script
    obtain ⟨after, hafter⟩ := feed_script (S := S) h.func (stream.take (p.read + chunk.length))
    rw [← hevents] at hafter
    refine ⟨h.func, ?_, hevents, ?_, Reader.feed_settled h.settled.sound chunk, ?_, ?_, ?_⟩
    · show p.read + chunk.length ≤ stream.length
      have hread := h.read
      rw [← hchunk, List.length_take, List.length_drop]
      omega
    · show ((reader S).feed p.link chunk).2.view = _
      rw [htake, hview, hsameView]
    · show p.written ++ writes ((reader S).feed p.link chunk).1 = _ ++ writes (p.events ++ _) ++
        (Party.outgoing max_slice_length p.out _).sent
      rw [outgoing_sent, h.written, writes_append]
      -- once connected the handshake is written, and before that nothing has been sent
      by_cases hconnected : Connected p.events
      · rw [writes_later hbefore hafter hconnected, List.append_nil, List.append_nil]
      · rw [(h.silent hconnected).1, List.append_nil, List.append_nil, List.append_assoc]
    · exact outgoing_reachable h.sender _
    · intro hnot
      have hbefore' : ¬Connected p.events := fun hold => hnot (connected_append.mpr (.inl hold))
      obtain ⟨hsent, hline⟩ := h.silent hbefore'
      exact ⟨(outgoing_sent _ _ _).trans hsent, outgoing_line hline _⟩

/-! ## Two parties

The stream of one is what the other has written, so that what is said of one party is a fact about
the other. -/

/-- A party reads what a peer writes: its handshake, and then what it says. -/
theorem Sane.written_prefix (h : Sane S max_slice_length c p stream) :
    p.written <+: header S.download_id ++ (S.my_id ++ frames p.out.line) := by
  obtain ⟨c', hscript⟩ := h.script
  obtain ⟨hpart, hwhole, -⟩ := script_writes hscript
  rw [h.written, ← List.append_assoc, ← start_handshake]
  by_cases hconnected : Connected p.events
  · rw [hwhole hconnected]
    exact (List.prefix_append_right_inj _).mpr (kept h.sender).framed
  · rw [(h.silent hconnected).1, List.append_nil, List.append_assoc]
    exact (List.prefix_append_right_inj _).mpr (hpart.trans (List.prefix_append _ _))

/-- Ids have twenty characters, and the messages in line can be understood. -/
structure Proper (S : Settings τ) (p : Party τ) (numpieces : Nat) : Prop where
  download_id : S.download_id.length = 20
  my_id : S.my_id.length = 20
  line : Sendable numpieces p.out.line

variable {d : Link υ} {q : Party υ}

/-- **What a party reports** is a part of what its handshake and its peer make of it. -/
theorem events_prefix (hp : Sane S max_slice_length c p q.written)
    (hq : Sane T max_slice_length d q p.written) (hproper : Proper T q S.numpieces) :
    p.events <+: if T.download_id ≠ S.download_id then []
      else opening S ++ (accepting S T.my_id ++ said q.out.line) := by
  have hread : q.written.take p.read <+: header T.download_id ++ (T.my_id ++ frames q.out.line) :=
    (List.take_prefix _ _).trans hq.written_prefix
  have hsound : (reader S).Sound (.at c []) := Reader.sound_next
  rw [hp.events]
  exact (Reader.feed_prefix hsound hread).trans
    (feed_stream_partway hp.func hproper.download_id hproper.my_id hproper.line)

/-- Of what was said, keep-alives are not heard. -/
theorem heard_said (line : Line) : heard (said line) = line.filterMap id := by
  induction line with
  | nil => rfl
  | cons m line ih =>
    cases m with
    | none => exact ih
    | some m => exact congrArg (m :: ·) ih

/-- The handshake is not heard as a message. -/
theorem heard_handshake (S : Settings τ) (id : Str) :
    heard (opening S) = [] ∧ heard (accepting S id) = [] := by
  unfold opening accepting
  cases S.locally_initiated <;> exact ⟨rfl, rfl⟩

/-- Messages do not connect. -/
theorem connected_said (line : Line) : ¬Connected (said line) := by
  rintro ⟨id, h⟩
  obtain ⟨m, -, hm⟩ := List.mem_filterMap.mp h
  cases m with
  | none => cases hm
  | some m => cases hm

/-- A side hears a part of what the other has said, in its order; a connection is made about the
same thing, with the one who is there. -/
theorem hears (hp : Sane S max_slice_length c p q.written)
    (hq : Sane T max_slice_length d q p.written) (hproper : Proper T q S.numpieces) :
    heard p.events <+: q.out.line.filterMap id ∧
      ∀ id, Event.connected id ∈ p.events → T.download_id = S.download_id ∧
        id = T.my_id := by
  have hevents := events_prefix hp hq hproper
  split at hevents
  · rw [List.prefix_nil.mp hevents]
    exact ⟨List.nil_prefix, fun id h => absurd h List.not_mem_nil⟩
  · rename_i hsame
    obtain ⟨hopening, haccepting⟩ := heard_handshake S T.my_id
    -- the handshake says nothing, so that the messages are those of the other side
    constructor
    · have hheard := hevents.filterMap (fun | .message m => some m | _ => none : Event → _)
      change heard p.events <+:
        heard (opening S ++ (accepting S T.my_id ++ said q.out.line)) at hheard
      rw [heard_append, heard_append, hopening, haccepting, heard_said] at hheard
      exact hheard
    · intro id h
      refine ⟨not_not.mp hsame, ?_⟩
      rcases List.mem_append.mp (hevents.subset h) with hmem | hmem
      · exact absurd ⟨id, hmem⟩ (not_connected_opening S)
      · rcases List.mem_append.mp hmem with hmem | hmem
        · rcases List.mem_append.mp hmem with hmem | hmem
          · split at hmem
            · cases List.mem_singleton.mp hmem
            · cases hmem
          · exact Event.connected.inj (List.mem_singleton.mp hmem)
        · exact absurd ⟨id, hmem⟩ (connected_said q.out.line)

/-- The side that has been called is not connected before the one that has called. -/
theorem caller_first (hp : Sane S max_slice_length c p q.written)
    (hq : Sane T max_slice_length d q p.written) (hlength : T.download_id.length = 20)
    (hcaller : T.locally_initiated = true)
    (hconnected : Connected p.events) : Connected q.events := by
  by_contra hnot
  obtain ⟨c', hscript⟩ := hq.script
  have hwrites : writes q.events = [] := by
    rcases (script_writes hscript).2.2 hnot with h | h
    · rw [h]
      rfl
    · rw [h, opening, if_pos hcaller]
      rfl
  -- the caller has written its header and nothing more
  have hwritten : q.written = header T.download_id := by
    rw [hq.written, if_pos hcaller, hwrites, (hq.silent hnot).1, List.append_nil, List.append_nil]
  have hread : q.written.take p.read <+: header T.download_id ++ [] := by
    rw [List.append_nil, ← hwritten]
    exact List.take_prefix _ _
  have hsound : (reader S).Sound (.at c []) := Reader.sound_next
  have hevents := Reader.feed_prefix hsound hread
  have hwaits : ((reader S).feed (.at { c with func := .read_peer_id } []) []).1 = [] := rfl
  rw [← hp.events, feed_header hp.func hlength] at hevents
  obtain ⟨id, hid⟩ := hconnected
  split at hevents
  · exact List.not_mem_nil (hevents.subset hid)
  · dsimp only at hevents
    rw [hwaits, List.append_nil] at hevents
    exact not_connected_opening S ⟨id, hevents.subset hid⟩

/-- A party has read everything that the other has written, who is open and has no piece under
way; and its reading has neither stopped nor failed, so that nothing of it was refused. -/
structure Finished (p : Party τ) (q : Party υ) : Prop where
  reading : p.link.view.isSome
  read : p.read = q.written.length
  still : q.out.sender.closed = false
  idle : q.out.sender.pending = false

/-- A side that has read everything has heard everything. -/
theorem hears_all (hp : Sane S max_slice_length c p q.written)
    (hq : Sane T max_slice_length d q p.written) (hproper : Proper T q S.numpieces)
    (hfinished : Finished p q) : heard p.events = q.out.line.filterMap id := by
  by_cases hother : Connected q.events
  · obtain ⟨d', hscript⟩ := hq.script
    -- the other side has sent its header, its id and whole messages
    have hsent := sent_whole hq.sender hfinished.still hfinished.idle
    have hwritten : q.written = header T.download_id ++ (T.my_id ++ frames q.out.line) := by
      rw [hq.written, (script_writes hscript).2.1 hother, start_handshake, hsent,
        List.append_assoc]
    have hevents := hp.events
    have hreading := hfinished.reading
    rw [hp.view, hfinished.read, List.take_length, hwritten] at hreading
    rw [hfinished.read, List.take_length, hwritten, feed_stream_all hp.func hproper.download_id
      hproper.my_id hproper.line hreading] at hevents
    obtain ⟨hopening, haccepting⟩ := heard_handshake S T.my_id
    rw [hevents, heard_append, heard_append, hopening, haccepting, heard_said]
    rfl
  · -- the other side has not been able to say anything
    have hheard := (hears hp hq hproper).1
    rw [(hq.silent hother).2] at hheard ⊢
    exact List.prefix_nil.mp hheard

/-! ## Every interleaving

Both parties stay sane whatever the other does: what a party reads is longer by what the other
writes, and no shorter. -/

/-- A chunk adds to what has been written. -/
theorem receive_written (max_slice_length : Nat) (S : Settings τ) (p : Party τ) (stream : Str)
    (n : Nat) : ∃ rest, (p.receive S max_slice_length stream n).written = p.written ++ rest := by
  unfold Party.receive
  split
  · exact ⟨[], (List.append_nil _).symm⟩
  · exact ⟨_, rfl⟩

/-- A move of one side keeps both. -/
theorem Sane.step {m : Move} (hp : Sane S max_slice_length c p q.written)
    (hq : Sane T max_slice_length d q p.written)
    (hstep : p.Step S max_slice_length q.written m p') :
    Sane S max_slice_length c p' q.written ∧ Sane T max_slice_length d q p'.written := by
  cases m with
  | receive n =>
    obtain rfl : p' = p.receive S max_slice_length q.written n := hstep
    obtain ⟨rest, hrest⟩ := receive_written max_slice_length S p q.written n
    refine ⟨hp.receive n, ?_⟩
    rw [hrest]
    exact hq.more rest
  | call x =>
    obtain ⟨hmay, hplain, rfl⟩ := hstep
    exact ⟨hp.call hmay hplain, hq.more _⟩

/-- Both are sane in every state of a run. -/
theorem sane_both {pq : Party τ × Party υ}
    (h : Reachable (conversation S T max_slice_length) pq) :
    ∃ c d, Sane S max_slice_length c pq.1 pq.2.written ∧
      Sane T max_slice_length d pq.2 pq.1.written := by
  refine h.invariant (I := fun pq => ∃ c d, Sane S max_slice_length c pq.1 pq.2.written ∧
    Sane T max_slice_length d pq.2 pq.1.written) ?_ ?_
  · rintro _ ⟨id, env, id', env', rfl⟩
    exact ⟨_, _, sane_start S max_slice_length id env _,
      sane_start T max_slice_length id' env' _⟩
  · rintro ⟨p, q⟩ m ⟨p', q'⟩ ⟨c, d, hp, hq⟩ hstep
    cases m with
    | inl m =>
      obtain ⟨hmove, rfl⟩ : p.Step S max_slice_length q.written m p' ∧ q' = q := hstep
      exact ⟨c, d, hp.step hq hmove⟩
    | inr m =>
      obtain ⟨hmove, rfl⟩ : q.Step T max_slice_length p.written m q' ∧ p' = p := hstep
      exact ⟨c, d, (hq.step hp hmove).symm⟩

/-- **Each side hears what the other has said**, in its order and nothing else, in every
interleaving and however the streams are cut. -/
theorem heard_in_order {pq : Party τ × Party υ}
    (h : Reachable (conversation S T max_slice_length) pq) (hfirst : Proper S pq.1 T.numpieces)
    (hsecond : Proper T pq.2 S.numpieces) :
    heard pq.1.events <+: pq.2.out.line.filterMap id ∧
      heard pq.2.events <+: pq.1.out.line.filterMap id := by
  obtain ⟨c, d, hp, hq⟩ := sane_both h
  exact ⟨(hears hp hq hsecond).1, (hears hq hp hfirst).1⟩

/-- **A side that has read everything has heard everything**, if it still reads. -/
theorem heard_all {pq : Party τ × Party υ}
    (h : Reachable (conversation S T max_slice_length) pq) (hfirst : Proper S pq.1 T.numpieces)
    (hsecond : Proper T pq.2 S.numpieces) :
    (Finished pq.1 pq.2 → heard pq.1.events = pq.2.out.line.filterMap id) ∧
      (Finished pq.2 pq.1 → heard pq.2.events = pq.1.out.line.filterMap id) := by
  obtain ⟨c, d, hp, hq⟩ := sane_both h
  exact ⟨hears_all hp hq hsecond, hears_all hq hp hfirst⟩

/-- **The peers agree**: who is connected is so about the same thing and with the other, and the
side that was called is never connected before the one that has called. -/
theorem peers_agree {pq : Party τ × Party υ}
    (h : Reachable (conversation S T max_slice_length) pq) (hfirst : Proper S pq.1 T.numpieces)
    (hsecond : Proper T pq.2 S.numpieces) (hcaller : S.locally_initiated = true) :
    (∀ id, Event.connected id ∈ pq.1.events →
        S.download_id = T.download_id ∧ id = T.my_id) ∧
      (∀ id, Event.connected id ∈ pq.2.events →
        S.download_id = T.download_id ∧ id = S.my_id) ∧
      (Connected pq.2.events → Connected pq.1.events) := by
  obtain ⟨c, d, hp, hq⟩ := sane_both h
  refine ⟨fun id hid => ?_, (hears hq hp hfirst).2,
    caller_first hq hp hfirst.download_id hcaller⟩
  obtain ⟨hsame, hother⟩ := (hears hp hq hsecond).2 id hid
  exact ⟨hsame.symm, hother⟩

/-! ## A run

Two connections for one torrent, with a handshake and a message. -/

/-- A peer with eight pieces that accepts everybody and everything. -/
def peerSettings (c : UInt8) (locally_initiated : Bool) : Settings Unit where
  my_id := List.replicate 20 c
  download_id := List.replicate 20 1
  locally_initiated
  max_len := 1000
  numpieces := 8
  got_id _ _ := ((), .kept)
  handle _ _ := ((), .kept)

/-- The peer that opens the connection. -/
def caller : Settings Unit := peerSettings 2 true

/-- The peer that is called. -/
def called : Settings Unit := peerSettings 3 false

/-- Nothing has been read. -/
def begun : Party Unit × Party Unit := (.start caller [] (), .start called [] ())

/-- The header has come. -/
def headed : Party Unit × Party Unit :=
  (begun.1, begun.2.receive called 16 begun.1.written 48)

/-- The answer has come. -/
def answered : Party Unit × Party Unit :=
  (headed.1.receive caller 16 headed.2.written 100, headed.2)

/-- The first peer has a piece. -/
def furnished : Party Unit × Party Unit :=
  (answered.1.call 16 (.send (some (.have 5))), answered.2)

/-- The id and a part of the message have come. -/
def halfway : Party Unit × Party Unit :=
  (furnished.1, furnished.2.receive called 16 furnished.1.written 22)

/-- A message has been sent and read. -/
def announced : Party Unit × Party Unit :=
  (halfway.1, halfway.2.receive called 16 halfway.1.written 100)

/-- The chunks and the call that lead there. -/
theorem announced_reachable : Reachable (conversation caller called 16) announced := by
  have hconnected : Connected answered.1.events := ⟨List.replicate 20 3, by decide +kernel⟩
  have hstart : Reachable (conversation caller called 16) begun := .start ⟨[], (), [], (), rfl⟩
  have hheader : Reachable (conversation caller called 16) headed :=
    hstart.step (a := .inr (.receive 48)) ⟨rfl, rfl⟩
  have hanswer : Reachable (conversation caller called 16) answered :=
    hheader.step (a := .inl (.receive 100)) ⟨rfl, rfl⟩
  have hcall : Reachable (conversation caller called 16) furnished :=
    hanswer.step (a := .inl (.call (.send (some (.have 5)))))
      ⟨⟨.inl hconnected, trivial, rfl⟩, rfl⟩
  have hpart : Reachable (conversation caller called 16) halfway :=
    hcall.step (a := .inr (.receive 22)) ⟨rfl, rfl⟩
  exact hpart.step (a := .inr (.receive 100)) ⟨rfl, rfl⟩

/-- What has been put in line by each. -/
theorem announced_line : announced.1.out.line = [some (.have 5)] ∧ announced.2.out.line = [] := by
  decide +kernel

/-- The first of them is proper. -/
theorem announced_first : Proper caller announced.1 8 where
  download_id := rfl
  my_id := rfl
  line := by
    rw [announced_line.1]
    intro m hm
    obtain rfl := List.mem_singleton.mp hm
    refine ⟨fun x hx => ?_, by decide⟩
    obtain rfl := Option.some.inj hx
    exact ⟨by decide, by decide⟩

/-- And so is the second. -/
theorem announced_second : Proper called announced.2 8 where
  download_id := rfl
  my_id := rfl
  line := by
    rw [announced_line.2]
    exact fun m hm => absurd hm List.not_mem_nil

/-- The message is heard. -/
theorem heard_in_order_announced :
    heard announced.1.events <+: announced.2.out.line.filterMap id ∧
      heard announced.2.events <+: announced.1.out.line.filterMap id :=
  heard_in_order announced_reachable announced_first announced_second

/-- Nothing is left over. -/
theorem announced_finished : Finished announced.2 announced.1 where
  reading := by decide +kernel
  read := by decide +kernel
  still := by decide +kernel
  idle := by decide +kernel

/-- So everything was heard. -/
theorem heard_all_announced : heard announced.2.events = announced.1.out.line.filterMap id :=
  (heard_all announced_reachable announced_first announced_second).2 announced_finished

/-- And the two agree. -/
theorem peers_agree_announced :
    (∀ id, Event.connected id ∈ announced.1.events →
        caller.download_id = called.download_id ∧ id = called.my_id) ∧
      (∀ id, Event.connected id ∈ announced.2.events →
        caller.download_id = called.download_id ∧ id = caller.my_id) ∧
      (Connected announced.2.events → Connected announced.1.events) :=
  peers_agree announced_reachable announced_first announced_second rfl

end VirtCore.BitTornado
