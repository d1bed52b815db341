import VirtCore.Peer.Bitfield

/-!
# VirtCore — the messages of `Connecter.py`

A message is a character that tells its kind, and what belongs to that kind.

* **`tobinary`** / **`toint`** — four characters for a number.
* **`Message`** — what can be said.
* **`decode`** — what `got_message` makes of a string; `none` where it closes the connection.
* **`decode_iff`** — a string is understood where a message is sent as that string.
-/

namespace VirtCore.BitTornado

/-! ## Numbers -/

def chr (n : Nat) : UInt8 := UInt8.ofNat n

/-- From 2³² on `chr` raises an exception; nothing is said about these numbers here. -/
def tobinary (i : Nat) : Str :=
  [chr (i >>> 24), chr ((i >>> 16) &&& 0xFF), chr ((i >>> 8) &&& 0xFF), chr (i &&& 0xFF)]

def toint (s : Str) : Nat := s.foldl (fun n c => n * 256 + c.toNat) 0

theorem tobinary_length (i : Nat) : (tobinary i).length = 4 := rfl

theorem and_ff (n : Nat) : n &&& 0xFF = n % 256 := Nat.and_two_pow_sub_one_eq_mod n 8

theorem chr_toNat {n : Nat} (hn : n < 256) : (chr n).toNat = n := by
  rw [chr, UInt8.toNat_ofNat', Nat.mod_eq_of_lt hn]

theorem toint_tobinary {i : Nat} (hi : i < 2 ^ 32) : toint (tobinary i) = i := by
  have h24 : i >>> 24 < 256 := by
    rw [Nat.shiftRight_eq_div_pow]
    omega
  have hmod (n : Nat) : (chr (n &&& 0xFF)).toNat = n % 256 := by
    rw [and_ff, chr_toNat (Nat.mod_lt n (by decide))]
  show (((0 * 256 + (chr (i >>> 24)).toNat) * 256 + (chr ((i >>> 16) &&& 0xFF)).toNat) * 256 +
    (chr ((i >>> 8) &&& 0xFF)).toNat) * 256 + (chr (i &&& 0xFF)).toNat = i
  rw [chr_toNat h24, hmod, hmod, hmod]
  simp only [Nat.shiftRight_eq_div_pow]
  omega

theorem toint_four (a b c d : UInt8) :
    toint [a, b, c, d] = ((a.toNat * 256 + b.toNat) * 256 + c.toNat) * 256 + d.toNat := by
  show (((0 * 256 + a.toNat) * 256 + b.toNat) * 256 + c.toNat) * 256 + d.toNat = _
  omega

/-- Four characters are those of their number. -/
theorem toint_spec {s : Str} (hs : s.length = 4) : toint s < 2 ^ 32 ∧ tobinary (toint s) = s := by
  match s, hs with
  | [a, b, c, d], _ =>
    have ha := a.toNat_lt
    have hb := b.toNat_lt
    have hc := c.toNat_lt
    have hd := d.toNat_lt
    have hback (x : UInt8) (n : Nat) (hn : n = x.toNat) : chr n = x := by
      rw [chr, hn, UInt8.ofNat_toNat]
    rw [toint_four]
    refine ⟨by omega, ?_⟩
    unfold tobinary
    simp only [and_ff, Nat.shiftRight_eq_div_pow]
    rw [hback a _ (by omega), hback b _ (by omega), hback c _ (by omega), hback d _ (by omega)]

/-! ## Messages -/

/-- What a connection sends. The empty message keeps it alive. -/
inductive Message where
  | choke
  | unchoke
  | interested
  | not_interested
  | have (index : Nat)
  | bitfield (b : Bitfield)
  | request (index begin length : Nat)
  | piece (index begin : Nat) (data : Str)
  | cancel (index begin length : Nat)
  deriving DecidableEq

/-- The string that is sent for a message, without its length. -/
def Message.encode : Message → Str
  | .choke => [chr 0]
  | .unchoke => [chr 1]
  | .interested => [chr 2]
  | .not_interested => [chr 3]
  | .have index => chr 4 :: tobinary index
  | .bitfield b => chr 5 :: b.tostring
  | .request index begin length =>
    chr 6 :: (tobinary index ++ tobinary begin ++ tobinary length)
  | .piece index begin data => chr 7 :: (tobinary index ++ tobinary begin ++ data)
  | .cancel index begin length =>
    chr 8 :: (tobinary index ++ tobinary begin ++ tobinary length)

/-- Three numbers, the first of them the index of a piece. -/
def decodeNumbers (numpieces : Nat) (make : Nat → Nat → Nat → Message) (body : Str) :
    Option Message :=
  if body.length ≠ 12 then none
  else
    let i := toint (body.take 4)
    if i ≥ numpieces then none
    else some (make i (toint ((body.drop 4).take 4)) (toint (body.drop 8)))

/-- What `got_message` makes of a string. -/
def decode (numpieces : Nat) : Str → Option Message
  | [] => none
  | t :: body =>
    if (t = chr 0 ∨ t = chr 1 ∨ t = chr 2 ∨ t = chr 3) ∧ body ≠ [] then none
    else if t = chr 0 then some .choke
    else if t = chr 1 then some .unchoke
    else if t = chr 2 then some .interested
    else if t = chr 3 then some .not_interested
    else if t = chr 4 then
      if body.length ≠ 4 then none
      else if toint body ≥ numpieces then none
      else some (.have (toint body))
    else if t = chr 5 then (Bitfield.init numpieces (some body)).map .bitfield
    else if t = chr 6 then decodeNumbers numpieces .request body
    else if t = chr 8 then decodeNumbers numpieces .cancel body
    else if t = chr 7 then
      if body.length ≤ 8 then none
      else
        let i := toint (body.take 4)
        if i ≥ numpieces then none
        else some (.piece i (toint ((body.drop 4).take 4)) (body.drop 8))
    else none

/-- What a message must meet to be understood: numbers that fit into four characters, an index that
there is, and a piece that is not empty. -/
def Message.Fits (numpieces : Nat) : Message → Prop
  | .choke | .unchoke | .interested | .not_interested => True
  | .have index => index < numpieces ∧ index < 2 ^ 32
  | .bitfield b => b.Valid ∧ b.length = numpieces
  | .request index begin length | .cancel index begin length =>
    index < numpieces ∧ index < 2 ^ 32 ∧ begin < 2 ^ 32 ∧ length < 2 ^ 32
  | .piece index begin data =>
    index < numpieces ∧ index < 2 ^ 32 ∧ begin < 2 ^ 32 ∧ data ≠ []

/-! ## Reading a message back -/

variable {numpieces : Nat} {m : Message} {s : Str}

theorem split_twelve {body : Str} (h : body.length = 12) :
    ∃ a b c : Str, body = a ++ b ++ c ∧ a.length = 4 ∧ b.length = 4 ∧ c.length = 4 := by
  refine ⟨body.take 4, (body.drop 4).take 4, body.drop 8, ?_, ?_, ?_, ?_⟩
  · rw [List.append_assoc, ← List.drop_drop (i := 4) (j := 4), List.take_append_drop,
      List.take_append_drop]
  · rw [List.length_take]
    omega
  · rw [List.length_take, List.length_drop]
    omega
  · rw [List.length_drop]
    omega

theorem take_three {a b c : Str} (ha : a.length = 4) (hb : b.length = 4) :
    (a ++ b ++ c).take 4 = a ∧ ((a ++ b ++ c).drop 4).take 4 = b ∧
    (a ++ b ++ c).drop 8 = c := by
  rw [List.append_assoc]
  refine ⟨List.take_left' ha, ?_, ?_⟩
  · rw [List.drop_left' ha, List.take_left' hb]
  · rw [← List.append_assoc]
    exact List.drop_left' (by rw [List.length_append, ha, hb])

theorem decodeNumbers_iff {make : Nat → Nat → Nat → Message} {body : Str} :
    decodeNumbers numpieces make body = some m ↔ ∃ index begin length,
      m = make index begin length ∧ index < numpieces ∧ index < 2 ^ 32 ∧ begin < 2 ^ 32 ∧
        length < 2 ^ 32 ∧ tobinary index ++ tobinary begin ++ tobinary length = body := by
  unfold decodeNumbers
  constructor
  · intro h
    dsimp only at h
    split_ifs at h with hlength hindex
    -- twelve bytes are three numbers of four bytes, each of which is turned back
    obtain ⟨a, b, c, rfl, ha, hb, hc⟩ := split_twelve (not_not.mp hlength)
    obtain ⟨hfirst, hsecond, hthird⟩ := @take_three a b c ha hb
    rw [hfirst, hsecond, hthird] at h
    rw [hfirst] at hindex
    obtain ⟨hlta, hbacka⟩ := toint_spec ha
    obtain ⟨hltb, hbackb⟩ := toint_spec hb
    obtain ⟨hltc, hbackc⟩ := toint_spec hc
    refine ⟨_, _, _, (Option.some.inj h).symm, by omega, hlta, hltb, hltc, ?_⟩
    rw [hbacka, hbackb, hbackc]
  · rintro ⟨index, begin, length, rfl, hindex, hi, hb, hl, rfl⟩
    obtain ⟨hfirst, hsecond, hthird⟩ := @take_three (tobinary index) (tobinary begin)
      (tobinary length) rfl rfl
    have hlength : (tobinary index ++ tobinary begin ++ tobinary length).length = 12 := rfl
    rw [hfirst, hsecond, hthird, toint_tobinary hi, toint_tobinary hb, toint_tobinary hl,
      if_neg (not_not.mpr hlength)]
    exact if_neg (by omega)

/-- A string that is understood is what the message is sent as. -/
theorem encode_of_decode (h : decode numpieces s = some m) : m.Fits numpieces ∧ m.encode = s := by
  cases s with
  | nil => cases h
  | cons t body =>
    rw [decode] at h
    by_cases hflag : (t = chr 0 ∨ t = chr 1 ∨ t = chr 2 ∨ t = chr 3) ∧ body ≠ []
    · rw [if_pos hflag] at h
      cases h
    rw [if_neg hflag] at h
    -- the first four kinds have nothing but the kind
    have hbare (ht : t = chr 0 ∨ t = chr 1 ∨ t = chr 2 ∨ t = chr 3) : body = [] :=
      not_not.mp fun hne => hflag ⟨ht, hne⟩
    by_cases h0 : t = chr 0
    · rw [if_pos h0] at h
      obtain rfl := Option.some.inj h
      exact ⟨trivial, by rw [hbare (.inl h0), h0, Message.encode]⟩
    rw [if_neg h0] at h
    by_cases h1 : t = chr 1
    · rw [if_pos h1] at h
      obtain rfl := Option.some.inj h
      exact ⟨trivial, by rw [hbare (.inr (.inl h1)), h1, Message.encode]⟩
    rw [if_neg h1] at h
    by_cases h2 : t = chr 2
    · rw [if_pos h2] at h
      obtain rfl := Option.some.inj h
      exact ⟨trivial, by rw [hbare (.inr (.inr (.inl h2))), h2, Message.encode]⟩
    rw [if_neg h2] at h
    by_cases h3 : t = chr 3
    · rw [if_pos h3] at h
      obtain rfl := Option.some.inj h
      exact ⟨trivial, by rw [hbare (.inr (.inr (.inr h3))), h3, Message.encode]⟩
    rw [if_neg h3] at h
    -- the kinds with numbers, a bitfield or data
    by_cases h4 : t = chr 4
    · rw [if_pos h4] at h
      split_ifs at h with hlength hindex
      obtain rfl := Option.some.inj h
      obtain ⟨hlt, hback⟩ := toint_spec (not_not.mp hlength)
      exact ⟨⟨by omega, hlt⟩, by rw [Message.encode, hback, h4]⟩
    rw [if_neg h4] at h
    by_cases h5 : t = chr 5
    · rw [if_pos h5] at h
      obtain ⟨b, hb, rfl⟩ := Option.map_eq_some_iff.mp h
      obtain ⟨hvalid, hsame, rfl⟩ := Bitfield.init_valid hb
      exact ⟨⟨hvalid, hsame⟩, by rw [Message.encode, h5]⟩
    rw [if_neg h5] at h
    by_cases h6 : t = chr 6
    · rw [if_pos h6] at h
      obtain ⟨index, begin, length, rfl, hi, hi', hb, hl, rfl⟩ := decodeNumbers_iff.mp h
      exact ⟨⟨hi, hi', hb, hl⟩, by rw [Message.encode, h6]⟩
    rw [if_neg h6] at h
    by_cases h8 : t = chr 8
    · rw [if_pos h8] at h
      obtain ⟨index, begin, length, rfl, hi, hi', hb, hl, rfl⟩ := decodeNumbers_iff.mp h
      exact ⟨⟨hi, hi', hb, hl⟩, by rw [Message.encode, h8]⟩
    rw [if_neg h8] at h
    by_cases h7 : t = chr 7
    · rw [if_pos h7] at h
      dsimp only at h
      split_ifs at h with hlength hindex
      obtain rfl := Option.some.inj h
      have ha : (body.take 4).length = 4 := by
        rw [List.length_take]
        omega
      have hb : ((body.drop 4).take 4).length = 4 := by
        rw [List.length_take, List.length_drop]
        omega
      obtain ⟨hlta, hbacka⟩ := toint_spec ha
      obtain ⟨hltb, hbackb⟩ := toint_spec hb
      refine ⟨⟨by omega, hlta, hltb, ?_⟩, ?_⟩
      · exact List.ne_nil_of_length_pos (by rw [List.length_drop]; omega)
      · rw [Message.encode, hbacka, hbackb, List.append_assoc,
          ← List.drop_drop (i := 4) (j := 4), List.take_append_drop, List.take_append_drop, h7]
    rw [if_neg h7] at h
    cases h

/-- A message that fits is understood. -/
theorem decode_encode (hfits : m.Fits numpieces) : decode numpieces m.encode = some m := by
  cases m with
  | choke | unchoke | interested | not_interested => rfl
  | «have» index =>
    obtain ⟨hi, hi'⟩ := hfits
    show (if (tobinary index).length ≠ 4 then none
      else if toint (tobinary index) ≥ numpieces then none
      else some (.have (toint (tobinary index)))) = some (Message.have index)
    rw [toint_tobinary hi', if_neg (not_not.mpr (tobinary_length index)), if_neg (by omega)]
  | bitfield b =>
    -- a valid bitfield is read as what it was written from
    obtain ⟨hvalid, hlength⟩ := hfits
    show (Bitfield.init numpieces (some b.tostring)).map Message.bitfield = _
    rw [← hlength, Bitfield.init_tostring hvalid, Option.map_some]
  | request index begin length =>
    obtain ⟨hi, hi', hb, hl⟩ := hfits
    exact decodeNumbers_iff.mpr ⟨index, begin, length, rfl, hi, hi', hb, hl, rfl⟩
  | cancel index begin length =>
    obtain ⟨hi, hi', hb, hl⟩ := hfits
    exact decodeNumbers_iff.mpr ⟨index, begin, length, rfl, hi, hi', hb, hl, rfl⟩
  | piece index begin data =>
    obtain ⟨hi, hi', hb, hne⟩ := hfits
    obtain ⟨hfirst, hsecond, hthird⟩ :=
      @take_three (tobinary index) (tobinary begin) data rfl rfl
    -- behind the two numbers there is some data
    have hpos := List.length_pos_of_ne_nil hne
    show (if (tobinary index ++ tobinary begin ++ data).length ≤ 8 then none
      else if toint ((tobinary index ++ tobinary begin ++ data).take 4) ≥ numpieces then none
      else some (Message.piece (toint ((tobinary index ++ tobinary begin ++ data).take 4))
        (toint (((tobinary index ++ tobinary begin ++ data).drop 4).take 4))
        ((tobinary index ++ tobinary begin ++ data).drop 8))) = _
    rw [hfirst, hsecond, hthird, toint_tobinary hi', toint_tobinary hb,
      if_neg (by simp only [List.length_append, tobinary_length]; omega), if_neg (by omega)]

/-- **A string is understood where it is what a message is sent as**, and as that message. -/
theorem decode_iff : decode numpieces s = some m ↔ m.Fits numpieces ∧ m.encode = s := by
  constructor
  · exact encode_of_decode
  · rintro ⟨hfits, rfl⟩
    exact decode_encode hfits

end VirtCore.BitTornado
