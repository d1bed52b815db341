import VirtCore.Framing.Chunks
import VirtCore.Peer.Sending

/-!
# VirtCore — the receiving side of a connection

`Connection` of `Encrypter.py`, which reads a handshake and then messages with their lengths, and
`got_message` of `Connecter.py`.

* **`Settings`** — what the objects around a connection hold, and how they answer.
* **`Link`** — the fields of a connection that its reading changes.
* **`reader`** — the functions that `data_came_in` calls one after the other.
* **`feed_frames_partway`** — from messages that were sent one after the other, those and no
  others are read, in their order.
* **`Accepts`** — which messages are refused, each from where those before it have led.
* **`feed_frames_all`** — none is lost where none is refused.
* **`script_keeps`** — what any stream makes a connection write and report.
* **`feed_stream_partway`** — and what the stream of a peer makes of it.
* **`feed_stream_all`** — which is the whole of it, where the connection still reads.
-/

namespace VirtCore.BitTornado

open Framing

/-- `BitTorrent protocol`. -/
def protocol_name : Str :=
  [66, 105, 116, 84, 111, 114, 114, 101, 110, 116, 32, 112, 114, 111, 116, 111, 99, 111, 108]

def option_pattern : Str := List.replicate 8 (chr 0)

/-- A call leaves the connection open, closes it, or raises an exception. -/
inductive Fate where
  | kept
  | closed
  | raised

/-- The objects around a connection have a state `τ`. `got_id` is asked before `my_id` is
written, and it is the one that refuses the peer or raises: `connection_made`, which comes after,
is taken to do neither, and what it changes is in the state that `got_id` leaves. `handle` is what
the download and the upload do with a message. -/
structure Settings (τ : Type) where
  my_id : Str
  download_id : Str
  locally_initiated : Bool
  max_len : Nat
  numpieces : Nat
  got_id : τ → Str → τ × Fate
  handle : τ → Message → τ × Fate

inductive Func where
  | read_header_len
  | read_header
  | read_reserved
  | read_download_id
  | read_peer_id
  | read_len
  | read_message (l : Nat)

/-- `id` is empty for `None`. -/
structure Link (τ : Type) where
  func : Func
  id : Str
  got_anything : Bool
  env : τ

inductive Event where
  | wrote (s : Str)
  | connected (id : Str)
  | message (m : Message)
  deriving DecidableEq

variable {τ : Type}

def Fate.next (c : Link τ) : Fate → Next (Link τ)
  | .kept => .go c
  | .closed => .stop
  | .raised => .fail

def Func.next_len : Func → Nat
  | .read_header_len => 1
  | .read_header => protocol_name.length
  | .read_reserved => 8
  | .read_download_id => 20
  | .read_peer_id => 20
  | .read_len => 4
  | .read_message l => l

def header (download_id : Str) : Str :=
  chr protocol_name.length :: (protocol_name ++ option_pattern ++ download_id)

namespace Settings

variable (S : Settings τ)

def read_peer_id (c : Link τ) (s : Str) : List Event × Next (Link τ) :=
  if c.id ≠ [] ∧ s ≠ c.id then ([], .stop)
  else
    match S.got_id c.env s with
    | (env, .kept) =>
      ((if S.locally_initiated then [.wrote S.my_id] else []) ++ [.connected s],
        .go { c with func := .read_len, id := s, env })
    | (_, .closed) => ([], .stop)
    | (_, .raised) => ([], .fail)

def got_message (c : Link τ) (message : Str) : List Event × Next (Link τ) :=
  if message.head? = some (chr 5) ∧ c.got_anything then ([], .stop)
  else
    match decode S.numpieces message with
    | none => ([], .stop)
    | some m =>
      let (env, fate) := S.handle c.env m
      ([.message m], fate.next { c with func := .read_len, got_anything := true, env })

/-- The functions one after the other. -/
def take (c : Link τ) (s : Str) : List Event × Next (Link τ) :=
  match c.func with
  | .read_header_len =>
    if s ≠ [chr protocol_name.length] then ([], .stop) else
      ([], .go { c with func := .read_header })
  | .read_header =>
    if s ≠ protocol_name then ([], .stop) else ([], .go { c with func := .read_reserved })
  | .read_reserved => ([], .go { c with func := .read_download_id })
  | .read_download_id =>
    if s ≠ S.download_id then ([], .stop)
    else
      (if S.locally_initiated then [] else [.wrote (header S.download_id ++ S.my_id)],
        .go { c with func := .read_peer_id })
  | .read_peer_id => S.read_peer_id c s
  | .read_len =>
    if toint s > S.max_len then ([], .stop) else ([],
      .go { c with func := .read_message (toint s) })
  | .read_message _ =>
    if s = [] then ([], .go { c with func := .read_len }) else S.got_message c s

/-- Nothing is waited for by an empty message only, and a length comes after it. -/
theorem take_progress (c : Link τ) (s : Str) (out : List Event) (c' : Link τ)
    (htake : S.take c s = (out, .go c')) (hnone : c.func.next_len = 0) : 0 < c'.func.next_len := by
  unfold take at htake
  -- only `read_message` can wait for nothing
  cases hfunc : c.func with
  | read_message l =>
    rw [hfunc] at htake
    dsimp only at htake
    split at htake
    · obtain ⟨-, hgo⟩ := Prod.mk.inj htake
      obtain rfl := Next.go.inj hgo
      exact Nat.succ_pos 3
    · unfold got_message at htake
      split at htake
      · cases htake
      · split at htake
        · cases htake
        · rename_i m _
          obtain ⟨-, hgo⟩ := Prod.mk.inj htake
          cases hfate : (S.handle c.env m).2 with
          | kept =>
            rw [hfate] at hgo
            obtain rfl := Next.go.inj hgo
            exact Nat.succ_pos 3
          | closed | raised =>
            rw [hfate] at hgo
            cases hgo
  | _ =>
    rw [hfunc] at hnone
    -- the others have lengths of their own
    exact absurd hnone (by decide)

end Settings

/-- `data_came_in`. -/
def reader (S : Settings τ) : Reader UInt8 (Link τ) Event where
  need c := c.func.next_len
  take := S.take
  progress := S.take_progress

/-! ## Messages

The reader waits for a length, then for as many characters. A line of frames is read message by
message, as long as the other side accepts them. -/

/-- A message as it is reported; what keeps the connection alive is not. -/
def said (line : Line) : List Event := line.filterMap (Option.map Event.message)

/-- Messages that can be understood, and with lengths that fit into four characters. -/
def Sendable (numpieces : Nat) (line : Line) : Prop :=
  ∀ m ∈ line, (∀ x ∈ m, Message.Fits numpieces x) ∧ (body m).length < 2 ^ 32

theorem encode_ne_nil (m : Message) : m.encode ≠ [] := by
  cases m <;> exact List.cons_ne_nil _ _

variable {S : Settings τ} {c : Link τ} {m : Option Message} {line : Line} {rest : Str}

/-- Behind the last message a length is waited for. -/
theorem feed_nothing (hfunc : c.func = .read_len) :
    (reader S).feed (.at c []) (frames []) = ([], .at c []) := by
  have hshort : (frames []).length < (reader S).need c - ([] : Str).length := by
    show 0 < c.func.next_len - 0
    rw [hfunc]
    decide
  exact Reader.feed_short hshort

/-- The length of a message. -/
theorem feed_length (hfunc : c.func = .read_len) (hm : (body m).length < 2 ^ 32) :
    (reader S).feed (.at c []) (frame m ++ rest) =
      if (body m).length > S.max_len then ([], .stopped)
      else (reader S).feed (.at { c with func := .read_message (body m).length } [])
        (body m ++ rest) := by
  have hneed : (tobinary (body m).length).length = (reader S).need c := by
    show _ = c.func.next_len
    rw [hfunc]
    rfl
  have htake : S.take c (tobinary (body m).length) =
      if (body m).length > S.max_len then ([], .stop)
      else ([], .go { c with func := .read_message (body m).length }) := by
    rw [Settings.take, hfunc]
    dsimp only
    rw [toint_tobinary hm]
  rw [frame, List.append_assoc]
  -- a message that is too long stops the reading at its length
  by_cases hlong : (body m).length > S.max_len
  · rw [if_pos hlong]
    rw [if_pos hlong] at htake
    exact Reader.feed_take_stop hneed htake
  · rw [if_neg hlong]
    rw [if_neg hlong] at htake
    exact Reader.feed_take hneed htake

/-- What keeps the connection alive. -/
theorem feed_keepalive (hfunc : c.func = .read_len) :
    (reader S).feed (.at c []) (frame none ++ rest) = (reader S).feed (.at c []) rest := by
  have hback : ({ c with func := .read_len } : Link τ) = c := by rw [← hfunc]
  have htake : S.take { c with func := .read_message 0 } [] = ([], .go c) := by
    show ([], Next.go { c with func := .read_len }) = _
    rw [hback]
  have hshort : ¬(body none).length > S.max_len := Nat.not_lt_zero S.max_len
  rw [feed_length (m := none) hfunc (by decide), if_neg hshort]
  exact Reader.feed_take (R := reader S) (a := []) (s := { c with func := .read_message 0 }) rfl
    htake

/-- What comes of a message. -/
theorem feed_message {m : Message} (hfunc : c.func = .read_len) (hfits : m.Fits S.numpieces)
    (hm : m.encode.length < 2 ^ 32) :
    (reader S).feed (.at c []) (frame (some m) ++ rest) =
      if m.encode.length > S.max_len ∨ (m.encode.head? = some (chr 5) ∧ c.got_anything) then
        ([], .stopped)
      else
        match S.handle c.env m with
        | (env, .kept) =>
          let after := (reader S).feed (.at { c with got_anything := true, env } []) rest
          (.message m :: after.1, after.2)
        | (_, .closed) => ([.message m], .stopped)
        | (_, .raised) => ([.message m], .failed) := by
  have hlength : (reader S).feed (.at c []) (frame (some m) ++ rest) = _ := feed_length hfunc hm
  rw [hlength]
  -- the length is refused, the bitfield is late, or the message is handled
  by_cases hlong : m.encode.length > S.max_len
  · rw [if_pos (show (body (some m)).length > S.max_len from hlong), if_pos (.inl hlong)]
  rw [if_neg (show ¬(body (some m)).length > S.max_len from hlong)]
  let c' : Link τ := { c with func := .read_message m.encode.length }
  have hread : S.take c' m.encode = S.got_message c' m.encode := if_neg (encode_ne_nil m)
  have hneed : m.encode.length = (reader S).need c' := rfl
  by_cases hagain : m.encode.head? = some (chr 5) ∧ c.got_anything
  · rw [if_pos (.inr hagain)]
    exact Reader.feed_take_stop hneed (hread.trans (if_pos hagain))
  rw [if_neg (not_or.mpr ⟨hlong, hagain⟩)]
  have hgot : S.got_message c' m.encode =
      ([.message m], (S.handle c.env m).2.next
        { c' with func := .read_len, got_anything := true, env := (S.handle c.env m).1 }) := by
    refine (if_neg hagain).trans ?_
    rw [decode_encode hfits]
  rw [hgot] at hread
  generalize S.handle c.env m = handled at hread
  obtain ⟨env, fate⟩ := handled
  cases fate with
  | kept =>
    have hback : ({ c' with func := .read_len, got_anything := true, env } : Link τ) =
        { c with got_anything := true, env } := by
      show ({ c with func := .read_len, got_anything := true, env } : Link τ) = _
      rw [← hfunc]
    have hgo : S.take c' m.encode = ([.message m], .go { c with got_anything := true, env }) := by
      rw [hread, ← hback]
      rfl
    exact Reader.feed_take hneed hgo
  | closed => exact Reader.feed_take_stop hneed hread
  | raised => exact Reader.feed_take_fail hneed hread

/-- **Messages that were sent one after the other** are reported in their order, and no others. -/
theorem feed_frames_partway (hfunc : c.func = .read_len) (hline : Sendable S.numpieces line) :
    ((reader S).feed (.at c []) (frames line)).1 <+: said line := by
  -- by the messages; each is fed where `read_len` is next
  induction line generalizing c with
  | nil =>
    rw [feed_nothing hfunc]
    exact List.nil_prefix
  | cons m line ih =>
    have hrest : Sendable S.numpieces line := fun m hm => hline m (List.mem_cons_of_mem _ hm)
    obtain ⟨hfits, hlength⟩ := hline m List.mem_cons_self
    show ((reader S).feed (.at c []) (frame m ++ frames line)).1 <+: _
    cases m with
    | none =>
      -- nothing is reported, and the connection is as before
      rw [feed_keepalive hfunc]
      exact ih hfunc hrest
    | some m =>
      rw [feed_message hfunc (hfits m rfl) hlength]
      show _ <+: Event.message m :: said line
      split
      · exact List.nil_prefix
      · obtain ⟨env, fate⟩ := S.handle c.env m
        cases fate with
        | kept => exact List.cons_prefix_cons.mpr ⟨rfl, ih hfunc hrest⟩
        | closed | raised => exact List.cons_prefix_cons.mpr ⟨rfl, List.nil_prefix⟩

/-- A message is refused for its length, for a bitfield after another message, or by what handles
it; nothing is asked about a message that has not come, nor about another state of the
environment. -/
def Accepts (S : Settings τ) (c : Link τ) : Line → Prop
  | [] => True
  | none :: line => Accepts S c line
  | some m :: line =>
    m.encode.length ≤ S.max_len ∧ ¬(m.encode.head? = some (chr 5) ∧ c.got_anything) ∧
      (S.handle c.env m).2 = .kept ∧
      Accepts S { c with got_anything := true, env := (S.handle c.env m).1 } line

/-- A connection still reads behind messages if and only if none of them was refused. -/
theorem feed_frames_reading (hfunc : c.func = .read_len) (hline : Sendable S.numpieces line) :
    ((reader S).feed (.at c []) (frames line)).2.view.isSome ↔ Accepts S c line := by
  induction line generalizing c with
  | nil =>
    rw [feed_nothing hfunc]
    exact iff_of_true rfl trivial
  | cons m line ih =>
    have hrest : Sendable S.numpieces line := fun m hm => hline m (List.mem_cons_of_mem _ hm)
    obtain ⟨hfits, hlength⟩ := hline m List.mem_cons_self
    show ((reader S).feed (.at c []) (frame m ++ frames line)).2.view.isSome ↔ _
    cases m with
    | none =>
      rw [feed_keepalive hfunc]
      exact ih hfunc hrest
    | some m =>
      rw [feed_message hfunc (hfits m rfl) hlength]
      unfold Accepts
      by_cases hrefused : m.encode.length > S.max_len ∨
          (m.encode.head? = some (chr 5) ∧ c.got_anything)
      · -- it is not handled at all
        rw [if_pos hrefused]
        refine iff_of_false Bool.false_ne_true ?_
        rintro ⟨hshort, hfirst, -⟩
        exact hrefused.elim (Nat.not_lt.mpr hshort) hfirst
      · rw [if_neg hrefused]
        obtain ⟨hshort, hfirst⟩ := not_or.mp hrefused
        generalize S.handle c.env m = handled
        obtain ⟨env, fate⟩ := handled
        cases fate with
        | kept =>
          have hlater := ih (c := { c with got_anything := true, env }) hfunc hrest
          exact hlater.trans ⟨fun h => ⟨Nat.not_lt.mp hshort, hfirst, rfl, h⟩,
            fun h => h.2.2.2⟩
        | closed | raised => exact iff_of_false Bool.false_ne_true fun h => nomatch h.2.2.1

/-- **None is lost where none is refused.** -/
theorem feed_frames_all (hfunc : c.func = .read_len) (hline : Sendable S.numpieces line)
    (haccepts : Accepts S c line) : ((reader S).feed (.at c []) (frames line)).1 = said line := by
  -- by the messages again, with the connection that each of them has left
  induction line generalizing c with
  | nil =>
    rw [feed_nothing hfunc]
    rfl
  | cons m line ih =>
    have hrest : Sendable S.numpieces line := fun m hm => hline m (List.mem_cons_of_mem _ hm)
    obtain ⟨hfits, hlength⟩ := hline m List.mem_cons_self
    show ((reader S).feed (.at c []) (frame m ++ frames line)).1 = _
    cases m with
    | none =>
      rw [feed_keepalive hfunc]
      exact ih hfunc hrest haccepts
    | some m =>
      obtain ⟨hshort, hfirst, hkept, hlater⟩ := haccepts
      rw [feed_message hfunc (hfits m rfl) hlength,
        if_neg (not_or.mpr ⟨Nat.not_lt.mpr hshort, hfirst⟩)]
      generalize S.handle c.env m = handled at hkept hlater
      obtain ⟨env, fate⟩ := handled
      obtain rfl : fate = .kept := hkept
      show Event.message m :: _ = Event.message m :: said line
      rw [ih (c := { c with got_anything := true, env }) hfunc hrest hlater]

/-! ## The handshake

What has been written so far is told by the function that reads next. -/

/-- What is written when the header has been read. -/
def opening (S : Settings τ) : List Event :=
  if S.locally_initiated then [] else [.wrote (header S.download_id ++ S.my_id)]

/-- What is written and reported when the peer has been accepted. -/
def accepting (S : Settings τ) (id : Str) : List Event :=
  (if S.locally_initiated then [.wrote S.my_id] else []) ++ [.connected id]

/-- The whole of the handshake, and messages. -/
def Talked (S : Settings τ) (out : List Event) : Prop :=
  ∃ id ms, out = opening S ++ accepting S id ++ List.map Event.message ms

/-- What has been written and reported when a function is next. -/
def Func.Script (S : Settings τ) (out : List Event) : Func → Prop
  | .read_header_len | .read_header | .read_reserved | .read_download_id => out = []
  | .read_peer_id => out = opening S
  | .read_len | .read_message _ => Talked S out

/-- The same where none may be next. -/
def Script (S : Settings τ) : Option (Link τ) → List Event → Prop
  | some c, out => c.func.Script S out
  | none, out => out = [] ∨ out = opening S ∨ Talked S out

theorem script_ended {f : Func} {out : List Event} (h : f.Script S out) : Script S none out := by
  cases f with
  | read_header_len | read_header | read_reserved | read_download_id => exact .inl h
  | read_peer_id => exact .inr (.inl h)
  | read_len | read_message => exact .inr (.inr h)

theorem Talked.message {out : List Event} (h : Talked S out) (m : Message) :
    Talked S (out ++ [.message m]) := by
  obtain ⟨id, ms, rfl⟩ := h
  refine ⟨id, ms ++ [m], ?_⟩
  rw [List.map_append, ← List.append_assoc]
  rfl

theorem got_message_out (c : Link τ) (s : Str) :
    ((S.got_message c s).1 = [] ∧ (S.got_message c s).2 = .stop) ∨
      ∃ m c', (S.got_message c s).1 = [.message m] ∧ c'.func = .read_len ∧
        ((S.got_message c s).2 = .go c' ∨ (S.got_message c s).2 = .stop ∨
          (S.got_message c s).2 = .fail) := by
  unfold Settings.got_message
  split
  · exact .inl ⟨rfl, rfl⟩
  · split
    · exact .inl ⟨rfl, rfl⟩
    · rename_i m _
      refine .inr ⟨m, { c with
        func := .read_len
        got_anything := true
        env := (S.handle c.env m).1 }, rfl, rfl, ?_⟩
      show Fate.next _ (S.handle c.env m).2 = _ ∨ Fate.next _ (S.handle c.env m).2 = _ ∨
        Fate.next _ (S.handle c.env m).2 = _
      cases (S.handle c.env m).2 with
      | kept => exact .inl rfl
      | closed => exact .inr (.inl rfl)
      | raised => exact .inr (.inr rfl)

/-- What a function adds to the script, whatever it has read. -/
theorem take_script {c : Link τ} {s : Str} {before : List Event}
    (h : c.func.Script S before) :
    (∃ c', (S.take c s).2 = .go c' ∧ c'.func.Script S (before ++ (S.take c s).1)) ∨
      ((S.take c s).2 = .stop ∨ (S.take c s).2 = .fail) ∧
        Script S none (before ++ (S.take c s).1) := by
  have hended : Script S none (before ++ []) := by
    rw [List.append_nil]
    exact script_ended h
  -- one case for each function that may be next
  unfold Settings.take
  cases hfunc : c.func with
  | read_header_len | read_header =>
    rw [hfunc] at h
    dsimp only
    split
    · exact .inr ⟨.inl rfl, hended⟩
    · exact .inl ⟨_, rfl, (List.append_nil before).trans h⟩
  | read_reserved =>
    rw [hfunc] at h
    exact .inl ⟨_, rfl, (List.append_nil before).trans h⟩
  | read_download_id =>
    rw [hfunc] at h
    dsimp only
    split
    · exact .inr ⟨.inl rfl, hended⟩
    · refine .inl ⟨_, rfl, ?_⟩
      show before ++ opening S = opening S
      rw [show before = [] from h, List.nil_append]
  | read_peer_id =>
    rw [hfunc] at h
    show (∃ c', (S.read_peer_id c s).2 = .go c' ∧
      c'.func.Script S (before ++ (S.read_peer_id c s).1)) ∨
      ((S.read_peer_id c s).2 = .stop ∨ (S.read_peer_id c s).2 = .fail) ∧
        Script S none (before ++ (S.read_peer_id c s).1)
    unfold Settings.read_peer_id
    split
    · exact .inr ⟨.inl rfl, hended⟩
    · obtain ⟨env, fate⟩ := S.got_id c.env s
      cases fate with
      | kept =>
        refine .inl ⟨_, rfl, s, [], ?_⟩
        rw [show before = opening S from h, List.map_nil, List.append_nil]
        rfl
      | closed => exact .inr ⟨.inl rfl, hended⟩
      | raised => exact .inr ⟨.inr rfl, hended⟩
  | read_len =>
    rw [hfunc] at h
    dsimp only
    split
    · exact .inr ⟨.inl rfl, hended⟩
    · exact .inl ⟨_, rfl, (List.append_nil before).symm ▸ h⟩
  | read_message l =>
    rw [hfunc] at h
    dsimp only
    split
    · exact .inl ⟨_, rfl, (List.append_nil before).symm ▸ h⟩
    · rcases @got_message_out _ S c s with ⟨hout, hnext⟩ | ⟨m, c', hout, hfunc', hnext⟩
      · rw [hout, hnext]
        exact .inr ⟨.inl rfl, hended⟩
      · rw [hout]
        have htalked : Talked S (before ++ [.message m]) := Talked.message h m
        rcases hnext with hgo | hstop | hfail
        · exact .inl ⟨c', hgo, hfunc' ▸ htalked⟩
        · exact .inr ⟨.inl hstop, .inr (.inr htalked)⟩
        · exact .inr ⟨.inr hfail, .inr (.inr htalked)⟩

/-- **What any stream makes a connection write and report**: a part of the handshake, or the whole
of it and messages. -/
theorem script_keeps (S : Settings τ) : (reader S).Keeps (Script S) where
  go c s before out c' h htake := by
    have htake : S.take c s = (out, .go c') := htake
    -- the other ends of a stage are not the one that has come
    rcases take_script (s := s) h with ⟨c'', hgo, hscript⟩ | ⟨hend | hend, -⟩
    · rw [htake] at hgo hscript
      obtain rfl := Next.go.inj hgo
      exact hscript
    · rw [htake] at hend
      cases hend
    · rw [htake] at hend
      cases hend
  stop c s before out h htake := by
    have htake : S.take c s = (out, .stop) := htake
    rcases take_script (s := s) h with ⟨c'', hgo, -⟩ | ⟨-, hscript⟩
    · rw [htake] at hgo
      cases hgo
    · rw [htake] at hscript
      exact hscript
  fail c s before out h htake := by
    have htake : S.take c s = (out, .fail) := htake
    rcases take_script (s := s) h with ⟨c'', hgo, -⟩ | ⟨-, hscript⟩
    · rw [htake] at hgo
      cases hgo
    · rw [htake] at hscript
      exact hscript

/-- What comes of a header. -/
theorem feed_header {d : Str} (hfunc : c.func = .read_header_len) (hd : d.length = 20) :
    (reader S).feed (.at c []) (header d ++ rest) =
      if d ≠ S.download_id then ([], .stopped)
      else
        let after := (reader S).feed (.at { c with func := .read_peer_id } []) rest
        (opening S ++ after.1, after.2) := by
  obtain ⟨func, id, got_anything, env⟩ := c
  obtain rfl : func = .read_header_len := hfunc
  -- four stages: the length of the name, the name, the options, the id of the download
  have hsplit : header d ++ rest =
      [chr protocol_name.length] ++ (protocol_name ++ (option_pattern ++ (d ++ rest))) := by
    rw [header, List.cons_append, List.append_assoc, List.append_assoc]
    rfl
  have hlen : (reader S).take ⟨.read_header_len, id, got_anything, env⟩
      [chr protocol_name.length] = ([], .go ⟨.read_header, id, got_anything, env⟩) := rfl
  have hname : (reader S).take ⟨.read_header, id, got_anything, env⟩ protocol_name =
      ([], .go ⟨.read_reserved, id, got_anything, env⟩) := rfl
  have hreserved : (reader S).take ⟨.read_reserved, id, got_anything, env⟩ option_pattern =
      ([], .go ⟨.read_download_id, id, got_anything, env⟩) := rfl
  rw [hsplit, Reader.feed_take rfl hlen, Reader.feed_take rfl hname, Reader.feed_take rfl hreserved]
  show (reader S).feed (.at ⟨.read_download_id, id, got_anything, env⟩ []) (d ++ rest) = _
  by_cases hsame : d ≠ S.download_id
  · have hstop : (reader S).take ⟨.read_download_id, id, got_anything, env⟩ d = ([], .stop) :=
      if_pos hsame
    rw [if_pos hsame, Reader.feed_take_stop hd hstop]
  · have hgo : (reader S).take ⟨.read_download_id, id, got_anything, env⟩ d =
        (opening S, .go ⟨.read_peer_id, id, got_anything, env⟩) := if_neg hsame
    rw [if_neg hsame, Reader.feed_take hd hgo]

/-- What comes of a peer's id. -/
theorem feed_peer {id : Str} (hfunc : c.func = .read_peer_id) (hid : id.length = 20) :
    (reader S).feed (.at c []) (id ++ rest) =
      if c.id ≠ [] ∧ id ≠ c.id then ([], .stopped)
      else
        match S.got_id c.env id with
        | (env, .kept) =>
          let after := (reader S).feed (.at { c with func := .read_len, id, env } []) rest
          (accepting S id ++ after.1, after.2)
        | (_, .closed) => ([], .stopped)
        | (_, .raised) => ([], .failed) := by
  have hneed : id.length = (reader S).need c := by
    show _ = c.func.next_len
    rw [hfunc]
    exact hid
  have htake : S.take c id = S.read_peer_id c id := by rw [Settings.take, hfunc]
  unfold Settings.read_peer_id at htake
  -- the peer is another than the one that was expected
  by_cases hother : c.id ≠ [] ∧ id ≠ c.id
  · rw [if_pos hother] at htake ⊢
    exact Reader.feed_take_stop hneed htake
  · rw [if_neg hother] at htake ⊢
    generalize S.got_id c.env id = got at htake ⊢
    obtain ⟨env, fate⟩ := got
    cases fate with
    | kept => exact Reader.feed_take hneed htake
    | closed => exact Reader.feed_take_stop hneed htake
    | raised => exact Reader.feed_take_fail hneed htake

/-- **What the stream of a peer makes of a connection**: nothing where it is about something else,
and else a part of the handshake and of what the peer has said. -/
theorem feed_stream_partway {d id : Str} (hfunc : c.func = .read_header_len) (hd : d.length = 20)
    (hid : id.length = 20) (hline : Sendable S.numpieces line) :
    ((reader S).feed (.at c []) (header d ++ (id ++ frames line))).1 <+:
      if d ≠ S.download_id then [] else opening S ++ (accepting S id ++ said line) := by
  rw [feed_header hfunc hd]
  split
  · exact List.nil_prefix
  · refine (List.prefix_append_right_inj _).mpr ?_
    rw [feed_peer (c := { c with func := .read_peer_id }) rfl hid]
    split
    · exact List.nil_prefix
    · generalize S.got_id _ id = got
      obtain ⟨env, fate⟩ := got
      cases fate with
      | kept => exact (List.prefix_append_right_inj _).mpr (feed_frames_partway rfl hline)
      | closed | raised => exact List.nil_prefix

/-- **A connection that still reads** behind the stream of a peer has accepted it and has reported
all that the peer has said. -/
theorem feed_stream_all {d id : Str} (hfunc : c.func = .read_header_len) (hd : d.length = 20)
    (hid : id.length = 20) (hline : Sendable S.numpieces line)
    (hreading : ((reader S).feed (.at c []) (header d ++ (id ++ frames line))).2.view.isSome) :
    ((reader S).feed (.at c []) (header d ++ (id ++ frames line))).1 =
      opening S ++ (accepting S id ++ said line) := by
  -- each stage that would have refused the peer leaves nothing to read
  rw [feed_header hfunc hd] at hreading ⊢
  by_cases hsame : d ≠ S.download_id
  · rw [if_pos hsame] at hreading
    cases hreading
  · rw [if_neg hsame] at hreading ⊢
    rw [feed_peer (c := { c with func := .read_peer_id }) rfl hid] at hreading ⊢
    by_cases hother : c.id ≠ [] ∧ id ≠ c.id
    · rw [if_pos hother] at hreading
      cases hreading
    · rw [if_neg hother] at hreading ⊢
      generalize S.got_id c.env id = got at hreading ⊢
      obtain ⟨env, fate⟩ := got
      cases fate with
      | kept =>
        have haccepts := (feed_frames_reading (c := ⟨.read_len, id, c.got_anything, env⟩) rfl
          hline).mp hreading
        dsimp only
        rw [feed_frames_all rfl hline haccepts]
      | closed | raised => cases hreading

end VirtCore.BitTornado
