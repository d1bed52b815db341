import VirtCore.Peer.Messages
import VirtCore.Transition.System

/-!
# VirtCore — the sending side of a connection

`Connection` of `Connecter.py` and `Upload` of `Uploader.py`. A piece is sent in portions; meanwhile
other messages wait in a queue, and a choke in a flag.

* **`Sender`** — the fields of the two objects.
* **`Call`** — what is called, in any order.
* **`Sender.step`** — what a call does, what it hands to the socket, and which messages it puts
  in line.
* **`sender`** — the runs, with what has been sent, put in line and asked for.
* **`send_in_line`** — every message that is sent is put in line.
* **`sent_in_frames`** — what is sent is whole messages, in the order in which they were put in
  line.
* **`pieces_between_chokes`** — pieces are put in line between an unchoke and the next choke.
* **`pieces_answer_requests`** — they answer requests, in their order and each once.
-/

namespace VirtCore.BitTornado

open Transition

/-- The messages of a connection; `none` keeps it alive. -/
abbrev Line : Type := List (Option Message)

/-- A keep-alive has no body. -/
def body : Option Message → Str
  | none => []
  | some m => m.encode

/-- A message with its length. -/
def frame (m : Option Message) : Str := tobinary (body m).length ++ body m

/-- What a whole line is on the wire. -/
def frames (line : Line) : Str := line.flatMap frame

/-- The fields of the two objects, as far as sending uses them. -/
structure Sender where
  partial_message : Option Str
  outqueue : List Str
  send_choke_queued : Bool
  choked : Bool
  cleared : Bool
  interested : Bool
  buffer : List (Nat × Nat × Nat)
  closed : Bool

/-- What is called from outside. A portion of a piece has a size, and the storage an answer. -/
inductive Call where
  | send (m : Option Message)
  | choke
  | unchoke
  | got_interested
  | got_not_interested
  | got_request (index begin length : Nat)
  | got_cancel (index begin length : Nat)
  | send_partway (bytes : Nat) (piece : Option Str)
  | close

/-- Chokes, unchokes and pieces are not sent by a call for any other message. -/
def Call.Plain : Call → Prop
  | .send (some .choke) | .send (some .unchoke) | .send (some (.piece _ _ _)) => False
  | _ => True

/-- What a call leaves behind: the fields, what it has handed to the socket, and the messages that
it has put in line. -/
structure Effect where
  state : Sender
  written : Str
  line : Line

namespace Sender

/-- A new connection: choked, and with nobody interested. -/
def init : Sender := ⟨none, [], false, true, true, false, [], false⟩

/-- `if self.partial_message`. -/
def pending (s : Sender) : Bool := s.partial_message.getD [] ≠ []

/-- Nothing is written on a closed connection. -/
def send_message_raw (s : Sender) (message : Str) : Str := if s.closed then [] else message

/-- With a part of a piece still to be sent, the message waits in the queue. -/
def send_message (s : Sender) (m : Option Message) : Effect :=
  if s.pending then ⟨{ s with outqueue := s.outqueue ++ [frame m] }, [], [m]⟩
  else ⟨s, s.send_message_raw (frame m), [m]⟩

/-- The requests are given up once the choke is sent. -/
def choke_sent (s : Sender) : Sender := { s with buffer := [], cleared := true }

/-- While a piece is partly sent, the choke is only noted down. -/
def send_choke (s : Sender) : Effect :=
  if s.pending then ⟨{ s with send_choke_queued := true }, [], []⟩
  else
    let e := s.send_message (some .choke)
    { e with state := e.state.choke_sent }

/-- A choke that was only noted down is taken back. -/
def send_unchoke (s : Sender) : Effect :=
  if s.send_choke_queued then ⟨{ s with send_choke_queued := false }, [], []⟩
  else s.send_message (some .unchoke)

/-- `get_upload_chunk`, where the storage answers with `piece`; without an answer the connection is
closed. -/
def get_upload_chunk (s : Sender) (piece : Option Str) : Sender × Option (Nat × Nat × Str) :=
  match s.choked, s.buffer with
  | false, (index, begin, _) :: buffer =>
    match piece with
    | none => ({ s with buffer, closed := true }, none)
    | some data => ({ s with buffer }, some (index, begin, data))
  | _, _ => (s, none)

/-- The second half of `send_partway`: a portion of the message, or what is left of it and all that
has waited. -/
def send_portion (s : Sender) (message : Str) (bytes : Nat) : Effect :=
  if bytes < message.length then
    ⟨{ s with partial_message := some (message.drop bytes) },
      s.send_message_raw (message.take bytes), []⟩
  else if s.send_choke_queued then
    let s' := choke_sent { s with
      partial_message := none
      outqueue := []
      send_choke_queued := false }
    ⟨s', s'.send_message_raw (message ++ (s.outqueue ++ [frame (some .choke)]).flatten),
      [some .choke]⟩
  else
    let s' := { s with partial_message := none, outqueue := [] }
    ⟨s', s'.send_message_raw (message ++ s.outqueue.flatten), []⟩

/-- Go on with the piece, or begin the next one. -/
def send_partway (s : Sender) (bytes : Nat) (piece : Option Str) : Effect :=
  if s.closed then ⟨s, [], []⟩
  else
    match s.partial_message with
    | some message => s.send_portion message bytes
    | none =>
      match s.get_upload_chunk piece with
      | (s', none) => ⟨s', [], []⟩
      | (s', some (index, begin, data)) =>
        let m := some (Message.piece index begin data)
        let e := s'.send_portion (frame m) bytes
        { e with line := m :: e.line }

/-- A peer that is not interested, or that asks for too much, is closed; behind a choke a request
is left out. -/
def got_request (s : Sender) (max_slice_length index begin length : Nat) : Sender :=
  if ¬s.interested ∨ length > max_slice_length then { s with closed := true }
  else if s.cleared then s
  else { s with buffer := s.buffer ++ [(index, begin, length)] }

/-- Where the source calls one of the others, so does this. -/
def step (max_slice_length : Nat) (s : Sender) : Call → Effect
  | .send m => s.send_message m
  | .choke => if s.choked then ⟨s, [], []⟩ else send_choke { s with choked := true }
  | .unchoke =>
    if s.choked then send_unchoke { s with choked := false, cleared := false } else ⟨s, [], []⟩
  | .got_interested => ⟨{ s with interested := true }, [], []⟩
  | .got_not_interested =>
    ⟨if s.interested then { s with interested := false, buffer := [] } else s, [], []⟩
  | .got_request index begin length => ⟨s.got_request max_slice_length index begin length,
      [], []⟩
  | .got_cancel index begin length => ⟨{ s with buffer := s.buffer.erase (index, begin, length) },
      [], []⟩
  | .send_partway bytes piece => s.send_partway bytes piece
  | .close => ⟨{ s with closed := true }, [], []⟩

end Sender

/-! ## The runs

A run is what the calls of a connection have led to. The history is kept beside the state, so that
what was sent can be compared with what was to be sent. -/

/-- A connection with its history: what has been handed to the socket, the messages that have been
put in line while it was open, and the requests that have come. -/
structure Outgoing where
  sender : Sender
  sent : Str
  line : Line
  requests : List (Nat × Nat × Nat)

/-- The request that a call brings. -/
def Call.request : Call → List (Nat × Nat × Nat)
  | .got_request index begin length => [(index, begin, length)]
  | _ => []

/-- A call adds to the history what it wrote, what it put in line and what was asked for. -/
def Outgoing.after (max_slice_length : Nat) (o : Outgoing) (c : Call) : Outgoing :=
  let e := o.sender.step max_slice_length c
  { sender := e.state
    sent := o.sent ++ e.written
    line := if o.sender.closed then o.line else o.line ++ e.line
    requests := o.requests ++ c.request }

/-- Calls in any order. -/
def sender (max_slice_length : Nat) : System Outgoing Call where
  start o := o = ⟨.init, [], [], []⟩
  step o c o' := c.Plain ∧ o' = o.after max_slice_length c

/-- Sent or not, the message is in line. -/
theorem send_message_line (s : Sender) (m : Option Message) : (s.send_message m).line = [m] := by
  unfold Sender.send_message
  split <;> rfl

/-- A message that is sent over an open connection is put in line, whether it is written at once or
waits. -/
theorem send_in_line (max_slice_length : Nat) {o : Outgoing} (hopen : o.sender.closed = false)
    (m : Option Message) : (o.after max_slice_length (.send m)).line = o.line ++ [m] := by
  show (if o.sender.closed then o.line else o.line ++ (o.sender.send_message m).line) = _
  rw [hopen, if_neg Bool.false_ne_true, send_message_line]

/-! ## What holds of the messages in line

The line is what the peer is to hear, and is what the properties are about: pieces only while the
last of the chokes and unchokes was an unchoke. -/

/-- Whether the peer is choked after a message. -/
def chokes (choked : Bool) : Option Message → Bool
  | some .choke => true
  | some .unchoke => false
  | _ => choked

/-- Whether the peer was told last that it is choked. -/
def told (line : Line) : Bool := line.foldl chokes true

/-- A piece and a choke go to a peer that is not choked, an unchoke to one that is. -/
def Allowed (choked : Bool) : Option Message → Prop
  | some .choke | some (.piece _ _ _) => choked = false
  | some .unchoke => choked = true
  | _ => True

/-- Every message is allowed where it stands. -/
def Disciplined (choked : Bool) : Line → Prop
  | [] => True
  | m :: line => Allowed choked m ∧ Disciplined (chokes choked m) line

/-- A line that goes on. -/
theorem disciplined_append {choked : Bool} {a b : Line} :
    Disciplined choked (a ++ b) ↔ Disciplined choked a ∧
      Disciplined (a.foldl chokes choked) b := by
  induction a generalizing choked with
  | nil => exact ⟨fun h => ⟨trivial, h⟩, And.right⟩
  | cons m a ih =>
    rw [List.cons_append, Disciplined, Disciplined, ih, List.foldl_cons, and_assoc]

/-- What was said last is said by its last part. -/
theorem told_append (a b : Line) : told (a ++ b) = b.foldl chokes (told a) := List.foldl_append ..

/-- The frames of a line are those of its parts. -/
theorem frames_append (a b : Line) : frames (a ++ b) = frames a ++ frames b :=
  List.flatMap_append

/-- One message, one frame. -/
theorem frames_singleton (m : Option Message) : frames [m] = frame m := List.flatMap_singleton ..

/-- The pieces among the messages, by index and offset. -/
def pieces (line : Line) : List (Nat × Nat) :=
  line.filterMap fun
    | some (.piece index begin _) => some (index, begin)
    | _ => none

/-- The piece and the offset of a request. -/
def key (r : Nat × Nat × Nat) : Nat × Nat := (r.1, r.2.1)

/-- The pieces of a line are those of its parts. -/
theorem pieces_append (a b : Line) : pieces (a ++ b) = pieces a ++ pieces b := List.filterMap_append

/-! ## One call

The queue and the noted choke are what is in line and not yet sent. So a call has to be looked at
where it empties the queue, and where it puts something into it. -/

/-- What has been put in line and not been sent. -/
def Sender.waiting (s : Sender) : Str := s.partial_message.getD [] ++ s.outqueue.flatten

/-- An open connection: what has been sent and what waits are the messages in line, the peer knows
whether it is choked unless a choke waits, and the requests that are left come after those
answered. -/
structure Fine (s : Sender) (sent : Str) (line : Line) (requests : List (Nat × Nat × Nat)) :
    Prop where
  begun : s.partial_message ≠ some []
  idle : s.pending = false → s.outqueue = []
  queued : s.send_choke_queued = (s.pending && s.choked)
  framed : sent ++ s.waiting = frames line
  told : told line = (s.choked && !s.send_choke_queued)
  disciplined : Disciplined true line
  answers : (pieces line ++ s.buffer.map key).Sublist (requests.map key)

variable {s : Sender} {sent : Str} {line : Line} {requests : List (Nat × Nat × Nat)}
  {m : Option Message} {n : Nat} {c : Call}

/-- Without a partly sent piece nothing waits. -/
theorem Fine.waiting_idle (h : Fine s sent line requests) (hidle : s.pending = false) :
    s.waiting = [] := by
  have hnone : s.partial_message.getD [] = [] := not_not.mp (of_decide_eq_false hidle)
  rw [Sender.waiting, hnone, h.idle hidle]
  rfl

/-- A rest that is not empty is a rest. -/
theorem pending_some {s : Sender} {message : Str} (hmessage : message ≠ []) :
    ({ s with partial_message := some message } : Sender).pending = true := decide_eq_true hmessage

/-- With nothing pending a message is written at once. -/
theorem send_message_idle {s : Sender} (m : Option Message) (h : s.pending = false) :
    s.send_message m = ⟨s, s.send_message_raw (frame m), [m]⟩ :=
  if_neg (by rw [h]; decide)

/-- With nothing pending a choke is sent at once. -/
theorem send_choke_idle {s : Sender} (h : s.pending = false) :
    s.send_choke = s.choke_sent.send_message (some .choke) := by
  have hsent : s.choke_sent.pending = false := h
  rw [Sender.send_choke, if_neg (by rw [h]; decide), send_message_idle _ h,
    send_message_idle _ hsent]
  rfl

/-- A message that leaves the peer's knowledge to what the caller makes of the flags. -/
theorem fine_send_message (h : Fine s sent line requests) (hopen : s.closed = false)
    (hallowed : Allowed (told line) m) (hpiece : pieces [m] = []) {s' : Sender}
    (hbegun : s'.partial_message = s.partial_message) (hqueue : s'.outqueue = s.outqueue)
    (hclosed : s'.closed = s.closed)
    (hqueued : s'.send_choke_queued = (s'.pending && s'.choked))
    (htold : chokes (told line) m = (s'.choked && !s'.send_choke_queued))
    (hbuffer : (s'.buffer).Sublist s.buffer) :
    Fine (s'.send_message m).state (sent ++ (s'.send_message m).written)
      (line ++ (s'.send_message m).line) requests := by
  have hsame : s'.pending = s.pending := by rw [Sender.pending, hbegun, Sender.pending]
  have htolds : told (line ++ [m]) = chokes (told line) m := told_append line [m]
  have hdisciplined : Disciplined true (line ++ [m]) :=
    disciplined_append.mpr ⟨h.disciplined, hallowed, trivial⟩
  have hanswers : (pieces (line ++ [m]) ++ s'.buffer.map key).Sublist (requests.map key) := by
    rw [pieces_append, hpiece, List.append_nil]
    exact ((hbuffer.map key).append_left _).trans h.answers
  rw [send_message_line]
  unfold Sender.send_message
  cases hpending : s'.pending with
  | true =>
    -- the message waits behind the piece, and is the last of what waits
    rw [if_pos rfl]
    refine ⟨hbegun ▸ h.begun, fun hidle => ?_, hqueued, ?_, htolds.trans htold, hdisciplined,
      hanswers⟩
    · exact Bool.noConfusion (hpending.symm.trans hidle)
    · show sent ++ [] ++ (s'.partial_message.getD [] ++ (s'.outqueue ++ [frame m]).flatten) = _
      rw [hbegun, hqueue, frames_append, frames_singleton, ← h.framed, Sender.waiting,
        List.flatten_append, List.flatten_singleton, List.append_nil, List.append_assoc,
        List.append_assoc]
  | false =>
    -- nothing waits, and the message is written behind what has been sent
    have hidle : s.pending = false := hsame.symm.trans hpending
    rw [if_neg Bool.false_ne_true]
    refine ⟨hbegun ▸ h.begun, fun _ => hqueue.trans (h.idle hidle), hqueued, ?_,
      htolds.trans htold, hdisciplined, hanswers⟩
    have hwaiting : s'.waiting = [] := by
      rw [Sender.waiting, hbegun, hqueue]
      exact h.waiting_idle hidle
    have hsent := h.framed
    rw [h.waiting_idle hidle, List.append_nil] at hsent
    rw [hwaiting, List.append_nil, Sender.send_message_raw, hclosed, hopen,
      if_neg Bool.false_ne_true, frames_append, frames_singleton, hsent]

/-- A portion of a message that is in line. -/
theorem send_portion_fine {message : Str} (bytes : Nat)
    (hopen : s.closed = false) (hframed : sent ++ (message ++ s.outqueue.flatten) = frames line)
    (hqueued : s.send_choke_queued = s.choked)
    (htold : told line = (s.choked && !s.send_choke_queued)) (hdisciplined : Disciplined true line)
    (hanswers : (pieces line ++ s.buffer.map key).Sublist (requests.map key)) :
    Fine (s.send_portion message bytes).state (sent ++ (s.send_portion message bytes).written)
        (line ++ (s.send_portion message bytes).line) requests ∧
      (s.send_portion message bytes).state.closed = false := by
  unfold Sender.send_portion
  by_cases hbytes : bytes < message.length
  · -- the message has not ended
    have hrest : message.drop bytes ≠ [] :=
      List.ne_nil_of_length_pos (by rw [List.length_drop]; omega)
    rw [if_pos hbytes]
    refine ⟨⟨?_, ?_, ?_, ?_, ?_, ?_, ?_⟩, hopen⟩
    · exact fun hnil => hrest (Option.some.inj hnil)
    · intro hidle
      exact Bool.noConfusion ((pending_some (s := s) hrest).symm.trans hidle)
    · show s.send_choke_queued = (_ && s.choked)
      rw [pending_some (s := s) hrest, Bool.true_and, hqueued]
    · show sent ++ (if s.closed then [] else message.take bytes) ++
        (message.drop bytes ++ s.outqueue.flatten) = frames (line ++ [])
      rw [hopen, if_neg Bool.false_ne_true, List.append_nil, ← hframed, List.append_assoc,
        ← List.append_assoc (message.take bytes), List.take_append_drop]
    · rw [List.append_nil]
      exact htold
    · rw [List.append_nil]
      exact hdisciplined
    · rw [List.append_nil]
      exact hanswers
  · rw [if_neg hbytes]
    cases hchoke : s.send_choke_queued with
    | true =>
      -- the choke that has waited comes last
      have hchoked : s.choked = true := hqueued.symm.trans hchoke
      rw [hchoke, hchoked] at htold
      rw [if_pos rfl]
      refine ⟨⟨nofun, fun _ => rfl, rfl, ?_, ?_, ?_, ?_⟩, hopen⟩
      · show sent ++ (if s.closed then [] else
          message ++ (s.outqueue ++ [frame (some .choke)]).flatten) ++ [] = _
        rw [hopen, if_neg Bool.false_ne_true, List.append_nil, frames_append, frames_singleton,
          ← hframed, List.flatten_append, List.flatten_singleton, List.append_assoc,
          List.append_assoc]
      · rw [told_append, htold]
        show true = (s.choked && !false)
        rw [hchoked]
        rfl
      · exact disciplined_append.mpr ⟨hdisciplined, htold, trivial⟩
      · rw [pieces_append]
        show (pieces line ++ [] ++ []).Sublist (requests.map key)
        rw [List.append_nil, List.append_nil]
        exact (List.sublist_append_left _ _).trans hanswers
    | false =>
      rw [if_neg Bool.false_ne_true]
      refine ⟨⟨nofun, fun _ => rfl, ?_, ?_, ?_, ?_, ?_⟩, hopen⟩
      · rfl
      · show sent ++ (if s.closed then [] else message ++ s.outqueue.flatten) ++ [] =
          frames (line ++ [])
        rw [hopen, if_neg Bool.false_ne_true, List.append_nil, List.append_nil, hframed]
      · rw [List.append_nil, htold, hchoke]
      · rw [List.append_nil]
        exact hdisciplined
      · rw [List.append_nil]
        exact hanswers

/-- More requests do no harm. -/
theorem Fine.more (h : Fine s sent line requests) (more : List (Nat × Nat × Nat)) :
    Fine s sent line (requests ++ more) := by
  refine { h with answers := ?_ }
  rw [List.map_append]
  exact h.answers.trans (List.sublist_append_left _ _)

/-- A message of a plain call. -/
theorem send_plain (h : Fine s sent line requests) (hopen : s.closed = false)
    (hplain : (Call.send m).Plain) :
    Fine (s.send_message m).state (sent ++ (s.send_message m).written)
      (line ++ (s.send_message m).line) requests := by
  have hquiet : Allowed (told line) m ∧ chokes (told line) m = told line ∧ pieces [m] = [] := by
    cases m with
    | none => exact ⟨trivial, rfl, rfl⟩
    | some m =>
      cases m with
      | choke | unchoke | piece => exact hplain.elim
      | _ => exact ⟨trivial, rfl, rfl⟩
  exact fine_send_message h hopen hquiet.1 hquiet.2.2 rfl rfl rfl h.queued
    (hquiet.2.1.trans h.told) (List.Sublist.refl _)

/-- A choke is sent, or waits for the piece that is under way. -/
theorem choke_fine (h : Fine s sent line requests) (hopen : s.closed = false)
    (hunchoked : s.choked = false) :
    let e := Sender.send_choke { s with choked := true }
    Fine e.state (sent ++ e.written) (line ++ e.line) requests := by
  have htold : told line = false := by rw [h.told, hunchoked, Bool.false_and]
  have hqueued : s.send_choke_queued = false := by rw [h.queued, hunchoked, Bool.and_false]
  intro e
  cases hpending : s.pending with
  | true =>
    -- only the flag is set, and the peer does not know of the choke yet
    have he : e = ⟨{ s with choked := true, send_choke_queued := true }, [], []⟩ :=
      if_pos hpending
    rw [he, List.append_nil, List.append_nil]
    refine ⟨h.begun, fun hidle => ?_, ?_, h.framed, htold, h.disciplined, h.answers⟩
    · exact Bool.noConfusion (hpending.symm.trans hidle)
    · exact ((Bool.and_true _).trans hpending).symm
  | false =>
    -- the choke goes out at once, and the requests are given up with it
    let s' : Sender := { s with choked := true, buffer := [], cleared := true }
    have he : e = s'.send_message (some .choke) := send_choke_idle hpending
    have hflag : s'.send_choke_queued = (s'.pending && s'.choked) := by
      show s.send_choke_queued = (s.pending && true)
      rw [hqueued, hpending]
      rfl
    have hknown : chokes (told line) (some .choke) = (s'.choked && !s'.send_choke_queued) := by
      show true = (true && !s.send_choke_queued)
      rw [hqueued]
      rfl
    rw [he]
    exact fine_send_message (m := some .choke) h hopen htold rfl rfl rfl rfl hflag hknown
      (List.nil_sublist _)

/-- An unchoke is sent, or takes back the choke that waits. -/
theorem unchoke_fine (h : Fine s sent line requests) (hopen : s.closed = false)
    (hchoked : s.choked = true) :
    let e := Sender.send_unchoke { s with choked := false, cleared := false }
    Fine e.state (sent ++ e.written) (line ++ e.line) requests := by
  intro e
  cases hqueued : s.send_choke_queued with
  | true =>
    -- the choke that waited is taken back, and the peer has heard of neither
    have he : e = ⟨{ s with choked := false, cleared := false, send_choke_queued := false }, [],
      []⟩ :=
      if_pos hqueued
    rw [he, List.append_nil, List.append_nil]
    refine ⟨h.begun, h.idle, (Bool.and_false _).symm, h.framed, ?_, h.disciplined, h.answers⟩
    rw [h.told, hchoked, hqueued]
    rfl
  | false =>
    have htold : told line = true := by
      rw [h.told, hchoked, hqueued]
      rfl
    have he : e = Sender.send_message { s with choked := false, cleared := false }
      (some .unchoke) :=
      if_neg (by rw [hqueued]; decide)
    rw [he]
    exact fine_send_message (m := some .unchoke) h hopen htold rfl rfl rfl rfl
      (hqueued.trans (Bool.and_false _).symm)
      rfl (List.Sublist.refl _)

/-- The first portion of a piece that answers the first request. -/
theorem begin_piece_fine {r : Nat × Nat × Nat} {buffer : List (Nat × Nat × Nat)}
    (h : Fine s sent line requests) (hopen : s.closed = false) (hidle : s.pending = false)
    (hchoked : s.choked = false) (hbuffer : s.buffer = r :: buffer) (data : Str) (bytes : Nat) :
    let m : Option Message := some (.piece r.1 r.2.1 data)
    let e := Sender.send_portion { s with buffer } (frame m) bytes
    Fine e.state (sent ++ e.written) (line ++ m :: e.line) requests ∧ e.state.closed = false := by
  intro m e
  have hsent := h.framed
  rw [h.waiting_idle hidle, List.append_nil] at hsent
  have hqueued := h.queued
  rw [hidle, Bool.false_and] at hqueued
  have htold : told (line ++ [m]) = (s.choked && !s.send_choke_queued) :=
    (told_append line [m]).trans h.told
  have hallowed : Allowed (told line) m := by
    show told line = false
    rw [h.told, hchoked, Bool.false_and]
  have hframed : sent ++ (frame m ++ s.outqueue.flatten) = frames (line ++ [m]) := by
    rw [h.idle hidle, List.flatten_nil, List.append_nil, frames_append, frames_singleton, hsent]
  -- the request that is answered is the first of those that are left
  have hanswers : (pieces (line ++ [m]) ++ buffer.map key).Sublist (requests.map key) := by
    have hold := h.answers
    rw [hbuffer, List.map_cons] at hold
    rw [pieces_append, List.append_assoc]
    exact hold
  rw [← List.singleton_append, ← List.append_assoc]
  exact send_portion_fine (s := { s with buffer }) bytes hopen hframed
    (hqueued.trans hchoked.symm) htold
    (disciplined_append.mpr ⟨h.disciplined, hallowed, trivial⟩) hanswers

/-- A portion of the piece that is under way, or of one that answers the first request. -/
theorem send_partway_fine (h : Fine s sent line requests) (hopen : s.closed = false)
    (bytes : Nat) (piece : Option Str) :
    let e := s.send_partway bytes piece
    Fine e.state (sent ++ e.written) (line ++ e.line) requests ∧ e.state.closed = false ∨
      e.state.closed = true ∧ e.written = [] ∧ e.line = [] := by
  intro e
  have he : e = s.send_partway bytes piece := rfl
  rw [Sender.send_partway, if_neg (by rw [hopen]; decide)] at he
  cases hpart : s.partial_message with
  | some message =>
    -- the rest of the piece goes on from where it was cut off
    have hmessage : message ≠ [] := fun hnil => h.begun (hnil ▸ hpart)
    have hpending : s.pending = true := by
      rw [Sender.pending, hpart]
      exact decide_eq_true hmessage
    have hframed := h.framed
    rw [Sender.waiting, hpart, Option.getD_some] at hframed
    have hqueued := h.queued
    rw [hpending, Bool.true_and] at hqueued
    rw [hpart] at he
    rw [he]
    exact .inl (send_portion_fine bytes hopen hframed hqueued h.told h.disciplined
      h.answers)
  | none =>
    have hidle : s.pending = false := by
      rw [Sender.pending, hpart]
      rfl
    rw [hpart] at he
    have hnothing (hchunk : s.get_upload_chunk piece = (s, none)) : e = ⟨s, [], []⟩ := by
      rw [he]
      dsimp only
      rw [hchunk]
    -- a new piece is begun where the peer is not choked, has asked for one and the storage has it
    cases hchoked : s.choked with
    | true =>
      rw [hnothing (by rw [Sender.get_upload_chunk, hchoked]), List.append_nil, List.append_nil]
      exact .inl ⟨h, hopen⟩
    | false =>
      cases hbuffer : s.buffer with
      | nil =>
        rw [hnothing (by rw [Sender.get_upload_chunk, hchoked, hbuffer]), List.append_nil,
          List.append_nil]
        exact .inl ⟨h, hopen⟩
      | cons r buffer =>
        cases piece with
        | none =>
          have hchunk : s.get_upload_chunk none = ({ s with buffer, closed := true }, none) := by
            rw [Sender.get_upload_chunk, hchoked, hbuffer]
          dsimp only at he
          rw [hchunk] at he
          rw [he]
          exact .inr ⟨rfl, rfl, rfl⟩
        | some data =>
          have hchunk : s.get_upload_chunk (some data) =
              ({ s with buffer }, some (r.1, r.2.1, data)) := by
            rw [Sender.get_upload_chunk, hchoked, hbuffer]
          dsimp only at he
          rw [hchunk] at he
          rw [he]
          exact .inl (begin_piece_fine h hopen hidle hchoked hbuffer data bytes)

/-- A call that says nothing. -/
theorem Fine.quiet (h : Fine s sent line requests) :
    Fine s (sent ++ []) (line ++ []) requests := by
  rw [List.append_nil, List.append_nil]
  exact h

/-! ## Any call

Closing a connection leaves its history as it is. So the calls on an open connection are looked at
one by one, and those on a closed one write nothing. -/

/-- Sending does not close. -/
theorem send_message_closed (s : Sender) (m : Option Message) :
    (s.send_message m).state.closed = s.closed := by
  unfold Sender.send_message
  split <;> rfl

/-- Neither does a choke. -/
theorem send_choke_closed (s : Sender) : s.send_choke.state.closed = s.closed := by
  unfold Sender.send_choke
  split
  · rfl
  · exact send_message_closed s _

/-- Nor an unchoke. -/
theorem send_unchoke_closed (s : Sender) : s.send_unchoke.state.closed = s.closed := by
  unfold Sender.send_unchoke
  split
  · rfl
  · exact send_message_closed s _

/-- **What a call does to an open connection.** -/
theorem step_open (max_slice_length : Nat) (h : Fine s sent line requests)
    (hopen : s.closed = false) (hplain : c.Plain) :
    let e := s.step max_slice_length c
    Fine e.state (sent ++ e.written) (line ++ e.line) (requests ++ c.request) ∧
        e.state.closed = false ∨
      e.state.closed = true ∧ e.written = [] ∧ e.line = [] := by
  intro e
  cases c with
  | send m => exact .inl ⟨(send_plain h hopen hplain).more _,
      (send_message_closed s m).trans hopen⟩
  | choke =>
    cases hchoked : s.choked with
    | true =>
      have he : e = ⟨s, [], []⟩ := if_pos hchoked
      rw [he]
      exact .inl ⟨h.quiet.more _, hopen⟩
    | false =>
      have he : e = Sender.send_choke { s with choked := true } := if_neg (by rw [hchoked]; decide)
      rw [he]
      exact .inl ⟨(choke_fine h hopen hchoked).more _, (send_choke_closed _).trans hopen⟩
  | unchoke =>
    cases hchoked : s.choked with
    | true =>
      have he : e = Sender.send_unchoke { s with choked := false, cleared := false } :=
        if_pos hchoked
      rw [he]
      exact .inl ⟨(unchoke_fine h hopen hchoked).more _, (send_unchoke_closed _).trans hopen⟩
    | false =>
      have he : e = ⟨s, [], []⟩ := if_neg (by rw [hchoked]; decide)
      rw [he]
      exact .inl ⟨h.quiet.more _, hopen⟩
  | got_interested =>
    have hfine : Fine { s with interested := true } sent line requests :=
      ⟨h.begun, h.idle, h.queued, h.framed, h.told, h.disciplined, h.answers⟩
    exact .inl ⟨hfine.quiet.more _, hopen⟩
  | got_not_interested =>
    cases hinterested : s.interested with
    | true =>
      -- the requests are forgotten, and what has been answered is still in order
      have hkept : (pieces line ++ ([] : List (Nat × Nat × Nat)).map key).Sublist
          (requests.map key) := by
        rw [List.map_nil, List.append_nil]
        exact (List.sublist_append_left _ _).trans h.answers
      have he : e = ⟨{ s with interested := false, buffer := [] }, [], []⟩ :=
        congrArg (fun s => Effect.mk s [] []) (if_pos hinterested)
      have hfine : Fine { s with interested := false, buffer := [] } sent line requests :=
        ⟨h.begun, h.idle, h.queued, h.framed, h.told, h.disciplined, hkept⟩
      rw [he]
      exact .inl ⟨hfine.quiet.more _, hopen⟩
    | false =>
      have he : e = ⟨s, [], []⟩ :=
        congrArg (fun s => Effect.mk s [] []) (if_neg (by rw [hinterested]; decide))
      rw [he]
      exact .inl ⟨h.quiet.more _, hopen⟩
  | got_request index begin length =>
    have he : e = ⟨s.got_request max_slice_length index begin length, [], []⟩ := rfl
    unfold Sender.got_request at he
    split_ifs at he with hrefused hcleared
    · rw [he]
      exact .inr ⟨rfl, rfl, rfl⟩
    · rw [he]
      exact .inl ⟨h.quiet.more _, hopen⟩
    · -- the request is kept for later
      rw [he, List.append_nil, List.append_nil]
      refine .inl ⟨⟨h.begun, h.idle, h.queued, h.framed, h.told, h.disciplined, ?_⟩, hopen⟩
      show (pieces line ++ (s.buffer ++ [(index, begin, length)]).map key).Sublist _
      rw [List.map_append, List.map_append, ← List.append_assoc]
      exact h.answers.append (List.Sublist.refl _)
  | got_cancel index begin length =>
    -- a request less
    have hfewer : (s.buffer.erase (index, begin, length)).Sublist s.buffer := List.erase_sublist
    have hfine : Fine { s with buffer := s.buffer.erase (index, begin, length) } sent line
        requests :=
      ⟨h.begun, h.idle, h.queued, h.framed, h.told, h.disciplined,
        ((hfewer.map key).append_left _).trans h.answers⟩
    exact .inl ⟨hfine.quiet.more _, hopen⟩
  | send_partway bytes piece =>
    rcases send_partway_fine h hopen bytes piece with ⟨hfine, hstill⟩ | hclosed
    · exact .inl ⟨hfine.more _, hstill⟩
    · exact .inr hclosed
  | close => exact .inr ⟨rfl, rfl, rfl⟩

/-- Nothing is written on a closed connection. -/
theorem send_message_silent {s : Sender} (m : Option Message) (h : s.closed = true) :
    (s.send_message m).written = [] := by
  unfold Sender.send_message
  split
  · rfl
  · exact if_pos h

/-- No choke either. -/
theorem send_choke_silent {s : Sender} (h : s.closed = true) : s.send_choke.written = [] := by
  unfold Sender.send_choke
  split
  · rfl
  · exact send_message_silent _ h

/-- And no unchoke. -/
theorem send_unchoke_silent {s : Sender} (h : s.closed = true) : s.send_unchoke.written = [] := by
  unfold Sender.send_unchoke
  split
  · rfl
  · exact send_message_silent _ h

/-- A closed connection stays closed, and hands nothing to the socket. -/
theorem step_closed (max_slice_length : Nat) (hclosed : s.closed = true) :
    let e := s.step max_slice_length c
    e.state.closed = true ∧ e.written = [] := by
  intro e
  cases c with
  | send m => exact ⟨(send_message_closed s m).trans hclosed, send_message_silent m hclosed⟩
  | choke =>
    cases hchoked : s.choked with
    | true =>
      have he : e = ⟨s, [], []⟩ := if_pos hchoked
      rw [he]
      exact ⟨hclosed, rfl⟩
    | false =>
      -- what is sent is not written, nor is anything else below
      have he : e = Sender.send_choke { s with choked := true } := if_neg (by rw [hchoked]; decide)
      rw [he]
      exact ⟨(send_choke_closed _).trans hclosed, send_choke_silent hclosed⟩
  | unchoke =>
    cases hchoked : s.choked with
    | true =>
      have he : e = Sender.send_unchoke { s with choked := false, cleared := false } :=
        if_pos hchoked
      rw [he]
      exact ⟨(send_unchoke_closed _).trans hclosed, send_unchoke_silent hclosed⟩
    | false =>
      have he : e = ⟨s, [], []⟩ := if_neg (by rw [hchoked]; decide)
      rw [he]
      exact ⟨hclosed, rfl⟩
  | got_interested | got_cancel => exact ⟨hclosed, rfl⟩
  | got_not_interested =>
    refine ⟨?_, rfl⟩
    show (if s.interested then { s with interested := false, buffer := [] } else s).closed = true
    split <;> exact hclosed
  | got_request index begin length =>
    refine ⟨?_, rfl⟩
    show (s.got_request max_slice_length index begin length).closed = true
    unfold Sender.got_request
    split_ifs
    · rfl
    · exact hclosed
    · exact hclosed
  | send_partway bytes piece =>
    have he : e = ⟨s, [], []⟩ := if_pos hclosed
    rw [he]
    exact ⟨hclosed, rfl⟩
  | close => exact ⟨rfl, rfl⟩

/-! ## Any calls -/

/-- A connection that may have been closed: nothing more is sent or put in line. -/
structure Kept (o : Outgoing) : Prop where
  framed : o.sent <+: frames o.line
  disciplined : Disciplined true o.line
  answers : (pieces o.line).Sublist (o.requests.map key)
  fine : o.sender.closed = false → Fine o.sender o.sent o.line o.requests

/-- What is fine is kept. -/
theorem Fine.kept {o : Outgoing} (h : Fine o.sender o.sent o.line o.requests) : Kept o where
  framed := ⟨o.sender.waiting, h.framed⟩
  disciplined := h.disciplined
  answers := (List.sublist_append_left _ _).trans h.answers
  fine := fun _ => h

/-- A new connection is fine. -/
theorem fine_start : Fine .init [] [] [] where
  begun := nofun
  idle := fun _ => rfl
  queued := rfl
  framed := rfl
  told := rfl
  disciplined := trivial
  answers := List.Sublist.refl _

/-- One call more. -/
theorem kept_after {max_slice_length : Nat} {o : Outgoing} (h : Kept o) (hplain : c.Plain) :
    Kept (o.after max_slice_length c) := by
  have hmore : (o.requests.map key).Sublist ((o.requests ++ c.request).map key) := by
    rw [List.map_append]
    exact List.sublist_append_left _ _
  cases hopen : o.sender.closed with
  | true =>
    -- behind its end the line does not grow, and nothing is written
    obtain ⟨hclosed, hwritten⟩ := step_closed max_slice_length (c := c) hopen
    have hline : (o.after max_slice_length c).line = o.line := if_pos hopen
    have hsent : (o.after max_slice_length c).sent = o.sent := by
      show o.sent ++ (o.sender.step max_slice_length c).written = o.sent
      rw [hwritten, List.append_nil]
    refine ⟨?_, ?_, ?_, fun h => Bool.noConfusion (hclosed.symm.trans h)⟩
    · rw [hsent, hline]
      exact h.framed
    · rw [hline]
      exact h.disciplined
    · rw [hline]
      exact h.answers.trans hmore
  | false =>
    have hline : (o.after max_slice_length c).line =
        o.line ++ (o.sender.step max_slice_length c).line := if_neg (by rw [hopen]; decide)
    rcases step_open max_slice_length (h.fine hopen) hopen hplain with
      ⟨hfine, -⟩ | ⟨hclosed, hwritten, hquiet⟩
    · refine Fine.kept ?_
      rw [hline]
      exact hfine
    · -- the call has closed the connection
      have hsent : (o.after max_slice_length c).sent = o.sent := by
        show o.sent ++ (o.sender.step max_slice_length c).written = o.sent
        rw [hwritten, List.append_nil]
      rw [hquiet, List.append_nil] at hline
      refine ⟨?_, ?_, ?_, fun h => Bool.noConfusion (hclosed.symm.trans h)⟩
      · rw [hsent, hline]
        exact h.framed
      · rw [hline]
        exact h.disciplined
      · rw [hline]
        exact h.answers.trans hmore

/-- And so any number of calls. -/
theorem kept {max_slice_length : Nat} {o : Outgoing} (h : Reachable (sender max_slice_length) o) :
    Kept o := by
  refine h.invariant (I := Kept) ?_ ?_
  · rintro _ rfl
    exact fine_start.kept
  · rintro o c _ hkept ⟨hplain, rfl⟩
    exact kept_after hkept hplain

/-! ## What the peer gets

The properties of the line, and that the stream is its frames, from `Kept`. The stream may stop
within a frame where the connection was closed, and is behind by what waits where it was not. -/

/-- Nothing is missing when no piece is under way. -/
theorem sent_whole {max_slice_length : Nat} {o : Outgoing}
    (h : Reachable (sender max_slice_length) o) (hopen : o.sender.closed = false)
    (hidle : o.sender.pending = false) : o.sent = frames o.line := by
  have hfine := (kept h).fine hopen
  have hframed := hfine.framed
  rw [hfine.waiting_idle hidle, List.append_nil] at hframed
  exact hframed

/-- **What is sent is whole messages in the order in which they were put in line**: cut off while a
piece is under way, and complete when none is. -/
theorem sent_in_frames {max_slice_length : Nat} {o : Outgoing}
    (h : Reachable (sender max_slice_length) o) :
    o.sent <+: frames o.line ∧
      (o.sender.closed = false → o.sender.pending = false → o.sent = frames o.line) :=
  ⟨(kept h).framed, sent_whole h⟩

/-- **Pieces are put in line between an unchoke and the next choke**, and chokes and unchokes by
turns. -/
theorem pieces_between_chokes {max_slice_length : Nat} {o : Outgoing}
    (h : Reachable (sender max_slice_length) o) : Disciplined true o.line :=
  (kept h).disciplined

/-- **Pieces answer requests in the order in which these came, and each of them at most once.** -/
theorem pieces_answer_requests {max_slice_length : Nat} {o : Outgoing}
    (h : Reachable (sender max_slice_length) o) :
    (pieces o.line).Sublist (o.requests.map key) :=
  (kept h).answers

/-- The calls in a row. -/
def Outgoing.run (max_slice_length : Nat) (calls : List Call) : Outgoing :=
  calls.foldl (Outgoing.after max_slice_length) ⟨.init, [], [], []⟩

/-- A run of plain calls. -/
theorem reachable_run (max_slice_length : Nat) {calls : List Call} (h : ∀ c ∈ calls, c.Plain) :
    Reachable (sender max_slice_length) (Outgoing.run max_slice_length calls) := by
  have hfrom (o : Outgoing) (ho : Reachable (sender max_slice_length) o) :
      Reachable (sender max_slice_length) (calls.foldl (Outgoing.after max_slice_length) o) := by
    induction calls generalizing o with
    | nil => exact ho
    | cons c calls ih =>
      exact ih (fun c hc => h c (List.mem_cons_of_mem _ hc)) _
        (ho.step ⟨h c List.mem_cons_self, rfl⟩)
  exact hfrom _ (.start rfl)

/-- A request that is answered in two portions, with a choke in between. -/
def answeredAndChoked : List Call :=
  [.got_interested, .unchoke, .got_request 3 0 2, .send_partway 5 (some [7, 8]), .choke,
    .send (some (.have 1)), .send_partway 100 none]

/-- The calls of the example are such calls. -/
theorem answeredAndChoked_plain : ∀ c ∈ answeredAndChoked, c.Plain := by
  simp [answeredAndChoked, Call.Plain]

/-- The frames of that run. -/
theorem sent_in_frames_run :
    let o := Outgoing.run 16 answeredAndChoked
    o.sent <+: frames o.line ∧
      (o.sender.closed = false → o.sender.pending = false → o.sent = frames o.line) :=
  sent_in_frames (reachable_run 16 answeredAndChoked_plain)

/-- Its choke comes behind the piece. -/
theorem pieces_between_chokes_run : Disciplined true (Outgoing.run 16 answeredAndChoked).line :=
  pieces_between_chokes (reachable_run 16 answeredAndChoked_plain)

/-- Its piece answers its request. -/
theorem pieces_answer_requests_run :
    (pieces (Outgoing.run 16 answeredAndChoked).line).Sublist
      ((Outgoing.run 16 answeredAndChoked).requests.map key) :=
  pieces_answer_requests (reachable_run 16 answeredAndChoked_plain)

example : (Outgoing.run 16 answeredAndChoked).line =
    [some .unchoke, some (.piece 3 0 [7, 8]), some (.have 1), some .choke] := by
  decide +kernel

end VirtCore.BitTornado
