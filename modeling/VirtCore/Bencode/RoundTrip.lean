import VirtCore.Bencode.Values

/-!
# VirtCore — what is encoded is decoded

* **`canonical`** — a dictionary with its items by their keys, which is the same dictionary.
* **`decode_bencode`** — a value is decoded where it has been encoded, whatever comes after it.
* **`decode_sorted`** — only such values are decoded, whatever the string.
* **`bdecode_bencode`** / **`bencode_injective`** / **`bdecode_stable`** — for whole strings.
* **`bdecode_circular`** — not every string is decoded or refused.
-/

namespace VirtCore.Bencode

open PyString

/-! ## The order of keys

Keys are compared as strings of bytes. That the order is total and antisymmetric is what makes
sorting a dictionary give one list. -/

/-- A key counts as before itself. -/
theorem before_refl (a : Str) : before a a = true := by
  induction a with
  | nil => rfl
  | cons c a ih =>
    rw [before, ih, Bool.and_true, decide_eq_true rfl, Bool.or_true]

/-- The order is transitive. -/
theorem before_trans {a b c : Str} (hab : before a b = true) (hbc : before b c = true) :
    before a c = true := by
  induction a generalizing b c with
  | nil => rfl
  | cons x a ih =>
    cases b with
    | nil => cases hab
    | cons y b =>
      cases c with
      | nil => cases hbc
      | cons z c =>
        simp only [before, Bool.or_eq_true, Bool.and_eq_true, decide_eq_true_eq] at hab hbc ⊢
        rcases hab with hab | ⟨hxy, hab⟩
        · exact .inl (by omega)
        · rcases hbc with hbc | ⟨hyz, hbc⟩
          · exact .inl (by omega)
          · exact .inr ⟨hxy.trans hyz, ih hab hbc⟩

/-- Any two keys are comparable. -/
theorem before_total (a b : Str) : (before a b || before b a) = true := by
  induction a generalizing b with
  | nil => rfl
  | cons x a ih =>
    cases b with
    | nil => rfl
    | cons y b =>
      have hrest := ih b
      simp only [before, Bool.or_eq_true, Bool.and_eq_true, decide_eq_true_eq] at hrest ⊢
      rcases Nat.lt_trichotomy x.toNat y.toNat with hlt | hsame | hlt
      · exact .inl (.inl hlt)
      · rcases hrest with hrest | hrest
        · exact .inl (.inr ⟨hsame, hrest⟩)
        · exact .inr (.inr ⟨hsame.symm, hrest⟩)
      · exact .inr (.inl hlt)

/-- And equal where each is before the other. -/
theorem before_antisymm {a b : Str} (hab : before a b = true) (hba : before b a = true) :
    a = b := by
  induction a generalizing b with
  | nil =>
    cases b with
    | nil => rfl
    | cons y b => cases hba
  | cons x a ih =>
    cases b with
    | nil => cases hab
    | cons y b =>
      simp only [before, Bool.or_eq_true, Bool.and_eq_true, decide_eq_true_eq] at hab hba
      rcases hab with hab | ⟨hxy, hab⟩
      · rcases hba with hba | ⟨hyx, -⟩ <;> omega
      · rcases hba with hba | ⟨-, hba⟩
        · omega
        · rw [ih hab hba, UInt8.toNat_inj.mp hxy]

/-- The keys ascend. -/
def Ascending {α : Type} (d : List (Str × α)) : Prop :=
  d.Pairwise fun a b => before b.1 a.1 = false

/-- Sorting a dictionary makes its keys ascend. -/
theorem byKey_ascending {α : Type} {d : List (Str × α)} (h : (d.map Prod.fst).Nodup) :
    Ascending (byKey d) := by
  have hsorted : (byKey d).Pairwise fun a b => before a.1 b.1 = true :=
    @List.pairwise_mergeSort (Str × α) (fun a b => before a.1 b.1) (fun _ _ _ => before_trans)
      (fun a b => before_total a.1 b.1) d
  have hperm : (byKey d).Perm d := List.mergeSort_perm d _
  have hkeys : (byKey d).Pairwise fun a b => a.1 ≠ b.1 :=
    List.pairwise_map.mp ((hperm.map Prod.fst).nodup_iff.mpr h)
  refine (hsorted.and hkeys).imp ?_
  rintro a b ⟨hab, hne⟩
  exact Bool.eq_false_iff.mpr fun hba => hne (before_antisymm hab hba)

/-- And leaves ascending ones alone. -/
theorem byKey_of_ascending {α : Type} {d : List (Str × α)} (h : Ascending d) : byKey d = d := by
  refine List.mergeSort_of_pairwise (h.imp ?_)
  intro a b hba
  have htotal := before_total a.1 b.1
  rw [hba, Bool.or_false] at htotal
  exact htotal

/-- Ascending keys are distinct. -/
theorem nodup_of_ascending {α : Type} {d : List (Str × α)} (h : Ascending d) :
    (d.map Prod.fst).Nodup := by
  refine List.pairwise_map.mpr (h.imp ?_)
  intro a b hba hsame
  rw [hsame, before_refl] at hba
  cases hba

/-- Sorting looks at the keys only. -/
theorem byKey_map {α β : Type} (g : α → β) (d : List (Str × α)) :
    byKey (d.map fun e => (e.1, g e.2)) = (byKey d).map fun e => (e.1, g e.2) :=
  (List.map_mergeSort (f := fun e : Str × α => (e.1, g e.2)) fun _ _ _ _ => rfl).symm

/-! ## Values

Encoding forgets the order of the items of a dictionary, and what the format does not distinguish.
`canonical` says what is left: it is what is decoded again, and it is the value itself where the
value has been decoded. -/

mutual

/-- The items of dictionaries by their keys, tuples as lists, booleans as numbers, texts as their
bytes, and what a `Bencached` holds as the value that it is decoded to. -/
def canonical : Value → Value
  | .int n => .int n
  | .bool b => .int b.toInt
  | .str s => .str s
  | .unicode s => .str (utf8 s)
  | .list l | .tuple l => .list (canonical_list l)
  | .dict d => .dict (byKey (canonical_items d))
  | .bencached s =>
    match bdecode s.length s false with
    | .ok v => v
    | .error _ => .bencached s

/-- The values of a list. -/
def canonical_list : List Value → List Value
  | [] => []
  | v :: l => canonical v :: canonical_list l

/-- And those of a dictionary. -/
def canonical_items : List (Str × Value) → List (Str × Value)
  | [] => []
  | (k, v) :: d => (k, canonical v) :: canonical_items d

end

/-- No key is twice in a dictionary, and a `Bencached` holds what some value is encoded as. -/
inductive Proper : Value → Prop
  | int (n : Int) : Proper (.int n)
  | bool (b : Bool) : Proper (.bool b)
  | str (s : Str) : Proper (.str s)
  | unicode (s : String) : Proper (.unicode s)
  | list {l : List Value} : (∀ v ∈ l, Proper v) → Proper (.list l)
  | tuple {l : List Value} : (∀ v ∈ l, Proper v) → Proper (.tuple l)
  | dict {d : List (Str × Value)} :
    (d.map Prod.fst).Nodup → (∀ e ∈ d, Proper e.2) → Proper (.dict d)
  | bencached {v : Value} : Proper v → Proper (.bencached (bencode v))

mutual

/-- A value of the kinds that are decoded, in which the keys of dictionaries ascend. -/
def Sorted : Value → Prop
  | .int _ | .str _ => True
  | .list l => SortedList l
  | .dict d => Ascending d ∧ SortedItems d
  | .bool _ | .unicode _ | .tuple _ | .bencached _ => False

/-- All values of a list are. -/
def SortedList : List Value → Prop
  | [] => True
  | v :: l => Sorted v ∧ SortedList l

/-- All values of a dictionary are. -/
def SortedItems : List (Str × Value) → Prop
  | [] => True
  | (_, v) :: d => Sorted v ∧ SortedItems d

end

/-- Encoding a dictionary encodes its values. -/
theorem encode_items_map (d : List (Str × Value)) :
    encode_items d = d.map fun e => (e.1, bencode e.2) := by
  induction d with
  | nil => rfl
  | cons e d ih => rw [encode_items, ih, List.map_cons]

/-- The keys stay with their values. -/
theorem canonical_items_map (d : List (Str × Value)) :
    canonical_items d = d.map fun e => (e.1, canonical e.2) := by
  induction d with
  | nil => rfl
  | cons e d ih => rw [canonical_items, ih, List.map_cons]

mutual

/-- A sorted value is its own canonical form. -/
theorem canonical_of_sorted : (v : Value) → Sorted v → canonical v = v ∧ Proper v
  | .int n, _ => ⟨rfl, .int n⟩
  | .str s, _ => ⟨rfl, .str s⟩
  | .list l, h => by
    obtain ⟨hsame, hproper⟩ := canonical_list_of_sorted l h
    exact ⟨congrArg Value.list hsame, .list hproper⟩
  | .dict d, h => by
    obtain ⟨hsame, hproper⟩ := canonical_items_of_sorted d h.2
    refine ⟨congrArg Value.dict ?_, .dict (nodup_of_ascending h.1) hproper⟩
    rw [hsame, byKey_of_ascending h.1]

/-- So are those of a list. -/
theorem canonical_list_of_sorted : (l : List Value) → SortedList l →
    canonical_list l = l ∧ ∀ v ∈ l, Proper v
  | [], _ => ⟨rfl, fun v hv => absurd hv List.not_mem_nil⟩
  | v :: l, h => by
    obtain ⟨hv, hproper⟩ := canonical_of_sorted v h.1
    obtain ⟨hl, hproper'⟩ := canonical_list_of_sorted l h.2
    exact ⟨by rw [canonical_list, hv, hl], List.forall_mem_cons.mpr ⟨hproper, hproper'⟩⟩

/-- And those of a dictionary. -/
theorem canonical_items_of_sorted : (d : List (Str × Value)) → SortedItems d →
    canonical_items d = d ∧ ∀ e ∈ d, Proper e.2
  | [], _ => ⟨rfl, fun e he => absurd he List.not_mem_nil⟩
  | (k, v) :: d, h => by
    obtain ⟨hv, hproper⟩ := canonical_of_sorted v h.1
    obtain ⟨hd, hproper'⟩ := canonical_items_of_sorted d h.2
    exact ⟨by rw [canonical_items, hv, hd], List.forall_mem_cons.mpr ⟨hproper, hproper'⟩⟩

end

/-! ## What is decoded

What the decoder has done where it answers, said once for each of its three functions. That the keys
ascend then needs no more than the comparison with the last key, since the order is transitive. -/

/-- What a first key must be past, all are past. -/
theorem past_all {k : Str} {v : Value} {d : List (Str × Value)} {last : Option Str}
    (hfirst : ∀ l ∈ last, before k l = false) (hd : ∀ e ∈ d, before e.1 k = false) :
    ∀ l ∈ last, ∀ e ∈ (k, v) :: d, before e.1 l = false := by
  -- the later keys come after the first, and the order is transitive
  intro l hl e he
  rcases List.mem_cons.mp he with rfl | he
  · exact hfirst l hl
  · refine Bool.eq_false_iff.mpr fun hle => ?_
    have hlk : before l k = true := by
      have htotal := before_total l k
      rw [hfirst l hl, Bool.or_false] at htotal
      exact htotal
    have hek := before_trans hle hlk
    rw [hd e he] at hek
    cases hek

section

variable {n : Nat} {x : Str} {f f' : Int}

/-- What has been decoded, by the character it begins with. -/
theorem decode_cases {v : Value} (h : decode (n + 1) x f = .ok (v, f')) :
    (∃ l, getitem x f = some 108 ∧ decode_list n x (f + 1) = .ok (l, f') ∧ v = .list l) ∨
      (∃ d, getitem x f = some 100 ∧ decode_dict n x (f + 1) none = .ok (d, f') ∧
        v = .dict d) ∨
      (∃ m, getitem x f = some 105 ∧ decode_int x f = .ok (m, f') ∧ v = .int m) ∨
      ∃ s c, getitem x f = some c ∧ isDigit c = true ∧ decode_string x f = .ok (s, f') ∧
        v = .str s := by
  rw [decode] at h
  -- the byte at `f` decides, in the order in which the decoder asks: `l`, `d`, `i`, a digit
  cases hget : getitem x f with
  | none =>
    rw [hget] at h
    cases h
  | some c =>
    rw [hget] at h
    dsimp only at h
    split at h
    · rename_i hc
      obtain rfl := hc
      cases hrest : decode_list n x (f + 1) with
      | error e =>
        rw [hrest] at h
        cases h
      | ok r =>
        rw [hrest] at h
        obtain ⟨rfl, rfl⟩ := Prod.mk.inj (Except.ok.inj h)
        exact .inl ⟨_, rfl, rfl, rfl⟩
    · split at h
      · rename_i hc
        obtain rfl := hc
        cases hrest : decode_dict n x (f + 1) none with
        | error e =>
          rw [hrest] at h
          cases h
        | ok r =>
          rw [hrest] at h
          obtain ⟨rfl, rfl⟩ := Prod.mk.inj (Except.ok.inj h)
          exact .inr (.inl ⟨_, rfl, rfl, rfl⟩)
      · split at h
        · rename_i hc
          obtain rfl := hc
          cases hrest : decode_int x f with
          | error e =>
            rw [hrest] at h
            cases h
          | ok r =>
            rw [hrest] at h
            obtain ⟨rfl, rfl⟩ := Prod.mk.inj (Except.ok.inj h)
            exact .inr (.inr (.inl ⟨_, rfl, rfl, rfl⟩))
        · split at h
          · rename_i hdigit
            cases hrest : decode_string x f with
            | error e =>
              rw [hrest] at h
              cases h
            | ok r =>
              rw [hrest] at h
              obtain ⟨rfl, rfl⟩ := Prod.mk.inj (Except.ok.inj h)
              exact .inr (.inr (.inr ⟨_, c, rfl, hdigit, rfl, rfl⟩))
          · cases h

/-- A list ends at an `e`, or goes on with a value. -/
theorem decode_list_cases {l : List Value} (h : decode_list (n + 1) x f = .ok (l, f')) :
    (getitem x f = some 101 ∧ l = [] ∧ f' = f + 1) ∨
      ∃ v g l', getitem x f ≠ some 101 ∧ decode n x f = .ok (v, g) ∧
        decode_list n x g = .ok (l', f') ∧ l = v :: l' := by
  rw [decode_list] at h
  cases hget : getitem x f with
  | none =>
    rw [hget] at h
    cases h
  | some c =>
    rw [hget] at h
    dsimp only at h
    split at h
    · rename_i hc
      obtain rfl := hc
      obtain ⟨rfl, rfl⟩ := Prod.mk.inj (Except.ok.inj h)
      exact .inl ⟨rfl, rfl, rfl⟩
    · rename_i hc
      -- no `e`, so that a value and the rest of the list have both been decoded
      cases hfirst : decode n x f with
      | error e =>
        rw [hfirst] at h
        cases h
      | ok r =>
        obtain ⟨v, g⟩ := r
        rw [hfirst] at h
        dsimp only at h
        cases hrest : decode_list n x g with
        | error e =>
          rw [hrest] at h
          cases h
        | ok r =>
          rw [hrest] at h
          obtain ⟨rfl, rfl⟩ := Prod.mk.inj (Except.ok.inj h)
          exact .inr ⟨v, g, _, fun hc' => hc (Option.some.inj hc'), rfl, hrest, rfl⟩

/-- A dictionary ends at an `e`, or goes on with a key behind the last one. -/
theorem decode_dict_cases {last : Option Str} {d : List (Str × Value)}
    (h : decode_dict (n + 1) x f last = .ok (d, f')) :
    (getitem x f = some 101 ∧ d = [] ∧ f' = f + 1) ∨
      ∃ k g v g' d', getitem x f ≠ some 101 ∧ decode_string x f = .ok (k, g) ∧
        (∀ l ∈ last, before k l = false) ∧ decode n x g = .ok (v, g') ∧
        decode_dict n x g' (some k) = .ok (d', f') ∧ d = (k, v) :: d' := by
  rw [decode_dict] at h
  cases hget : getitem x f with
  | none =>
    rw [hget] at h
    cases h
  | some c =>
    rw [hget] at h
    dsimp only at h
    -- the key is compared with the last one before its value is decoded
    split at h
    · rename_i hc
      obtain rfl := hc
      obtain ⟨rfl, rfl⟩ := Prod.mk.inj (Except.ok.inj h)
      exact .inl ⟨rfl, rfl, rfl⟩
    · rename_i hc
      cases hkey : decode_string x f with
      | error e =>
        rw [hkey] at h
        cases h
      | ok r =>
        obtain ⟨k, g⟩ := r
        rw [hkey] at h
        dsimp only at h
        split at h
        · cases h
        · rename_i hlast
          have hpast : ∀ l ∈ last, before k l = false := by
            intro l hl
            obtain rfl : last = some l := hl
            exact Bool.eq_false_iff.mpr hlast
          cases hfirst : decode n x g with
          | error e =>
            rw [hfirst] at h
            cases h
          | ok r =>
            obtain ⟨v, g'⟩ := r
            rw [hfirst] at h
            dsimp only at h
            cases hrest : decode_dict n x g' (some k) with
            | error e =>
              rw [hrest] at h
              cases h
            | ok r =>
              rw [hrest] at h
              obtain ⟨rfl, rfl⟩ := Prod.mk.inj (Except.ok.inj h)
              exact .inr ⟨k, g, v, g', _, fun hc' => hc (Option.some.inj hc'), rfl, hpast, hfirst,
                hrest, rfl⟩

end

/-- **Only values whose keys ascend are decoded**, whatever the string. -/
theorem decode_sorted (n : Nat) :
    (∀ x f v f', decode n x f = .ok (v, f') → Sorted v) ∧
      (∀ x f l f', decode_list n x f = .ok (l, f') → SortedList l) ∧
      ∀ x f last d f', decode_dict n x f last = .ok (d, f') →
        Ascending d ∧ SortedItems d ∧ ∀ k ∈ last, ∀ e ∈ d, before e.1 k = false := by
  induction n with
  | zero => exact ⟨nofun, nofun, nofun⟩
  | succ n ih =>
    obtain ⟨hvalue, hlist, hdict⟩ := ih
    refine ⟨fun x f v f' h => ?_, fun x f l f' h => ?_, fun x f last d f' h => ?_⟩
    · obtain ⟨l, -, hrest, rfl⟩ | ⟨d, -, hrest, rfl⟩ | ⟨m, -, -, rfl⟩ |
        ⟨s, c, -, -, -, rfl⟩ :=
        decode_cases h
      · exact hlist _ _ _ _ hrest
      · obtain ⟨hascending, hsorted, -⟩ := hdict _ _ _ _ _ hrest
        exact ⟨hascending, hsorted⟩
      · trivial
      · trivial
    · obtain ⟨-, rfl, -⟩ | ⟨v, g, l', -, hfirst, hrest, rfl⟩ := decode_list_cases h
      · trivial
      · exact ⟨hvalue _ _ _ _ hfirst, hlist _ _ _ _ hrest⟩
    · obtain ⟨-, rfl, -⟩ | ⟨k, g, v, g', d', -, -, hlast, hfirst, hrest, rfl⟩ :=
        decode_dict_cases h
      · exact ⟨List.Pairwise.nil, trivial, fun _ _ e he => absurd he List.not_mem_nil⟩
      · -- the key has been compared with the last one only, and the others follow by the order
        obtain ⟨hascending, hsorted, hpast⟩ := hdict _ _ _ _ _ hrest
        exact ⟨List.pairwise_cons.mpr ⟨hpast k rfl, hascending⟩,
          ⟨hvalue _ _ _ _ hfirst, hsorted⟩,
          past_all hlast (hpast k rfl)⟩

/-! ## Reading what was written

`Reads` says of a value that it is decoded wherever it stands in a string, with any string behind
it. It is proved from the inside out: for the values of a list or of a dictionary first, then for
the whole, by the rule for `Proper`. -/

/-- A value is decoded wherever it has been encoded. -/
def Reads (v : Value) : Prop :=
  ∀ n, (bencode v).length ≤ n → ∀ pre rest : Str,
    decode n (pre ++ (bencode v ++ rest)) pre.length =
      .ok (canonical v, (pre.length + (bencode v).length : Nat))

/-- A number has digits only. -/
theorem not_mem_digits {n : Nat} {c : UInt8} (hc : isDigit c = false) : c ∉ digits n :=
  fun hmem => by
  rw [digits_isDigit hmem] at hc
  cases hc

/-- A string is read back. -/
theorem decode_encode_string (pre s rest : Str) :
    decode_string (pre ++ (encode_string s ++ rest)) pre.length =
      .ok (s, (pre.length + (encode_string s).length : Nat)) := by
  have hstr : str s.length = digits s.length := rfl
  have hcolon : (58 : UInt8) ∉ digits s.length := not_mem_digits rfl
  obtain ⟨c, ds, hds⟩ := List.exists_cons_of_ne_nil (digits_ne_nil s.length)
  have hsplit : pre ++ (encode_string s ++ rest) =
      pre ++ (digits s.length ++ 58 :: (s ++ rest)) := by
    rw [encode_string, hstr, List.append_assoc, List.cons_append]
  have hindex : index (pre ++ (digits s.length ++ 58 :: (s ++ rest))) 58 pre.length =
      some ((pre.length + (digits s.length).length : Nat) : Int) := index_append hcolon
  have hslice : slice (pre ++ (digits s.length ++ 58 :: (s ++ rest))) pre.length
      (pre.length + (digits s.length).length : Nat) = digits s.length := slice_append
  have hget : getitem (pre ++ (digits s.length ++ 58 :: (s ++ rest))) pre.length = some c := by
    rw [hds, List.cons_append]
    exact getitem_append
  -- the string itself, behind the colon
  let front : Str := pre ++ (digits s.length ++ [58])
  have hfront : ((pre.length + (digits s.length).length : Nat) : Int) + 1 = front.length := by
    simp [front]
    omega
  have hback : pre ++ (digits s.length ++ 58 :: (s ++ rest)) = front ++ (s ++ rest) := by
    simp [front]
  have hend : (front.length : Int) + (s.length : Int) = (front.length + s.length : Nat) := rfl
  have hzero : ¬(c = 48 ∧
      ((pre.length + (digits s.length).length : Nat) : Int) ≠ (pre.length : Int) + 1) := by
    rintro ⟨rfl, hne⟩
    have hone := digits_head (n := s.length) (by rw [hds]; rfl)
    refine hne ?_
    rw [hone]
    rfl
  unfold decode_string
  rw [hsplit, hindex]
  dsimp only
  rw [hslice, ← hstr, long_str, hstr, hget]
  show (if c = 48 ∧ _ then _ else _) = _
  rw [if_neg hzero, hfront, hback, hend, slice_append]
  refine congrArg (fun n : Nat => Except.ok (s, (n : Int))) ?_
  simp [front, encode_string, hstr]
  omega

/-- The digits of a number that is not zero do not begin with a zero. -/
theorem digits_succ_head {n : Nat} {c : UInt8} {ds : Str} (h : digits (n + 1) = c :: ds) :
    c ≠ 48 := by
  rintro rfl
  have hone := digits_head (n := n + 1) (by rw [h]; rfl)
  have hvalue := digits_value (n + 1)
  rw [hone] at hvalue
  exact absurd hvalue (by simp)

/-- A number is read back, with its sign. -/
theorem decode_encode_int (pre rest : Str) (n : Int) :
    decode_int (pre ++ (encode_int n ++ rest)) pre.length =
      .ok (n, (pre.length + (encode_int n).length : Nat)) := by
  let front : Str := pre ++ [105]
  have hx : pre ++ (encode_int n ++ rest) = front ++ (str n ++ 101 :: rest) := by
    simp [front, encode_int]
  have hfront : (pre.length : Int) + 1 = front.length := by simp [front]
  -- the end of the number is the first `e`
  have hend : (101 : UInt8) ∉ str n := by
    cases n with
    | ofNat n => exact not_mem_digits rfl
    | negSucc n =>
      intro hmem
      rcases List.mem_cons.mp hmem with hminus | hmem
      · cases hminus
      · exact not_mem_digits rfl hmem
  have hindex : index (front ++ (str n ++ 101 :: rest)) 101 front.length =
      some ((front.length + (str n).length : Nat) : Int) := index_append hend
  have hslice : slice (front ++ (str n ++ 101 :: rest)) front.length
      (front.length + (str n).length : Nat) = str n := slice_append
  have hlast : ((front.length + (str n).length : Nat) : Int) + 1 =
      (pre.length + (encode_int n).length : Nat) := by
    simp [front, encode_int]
    omega
  unfold decode_int
  rw [hx]
  dsimp only
  rw [hfront, hindex]
  dsimp only
  rw [hslice, long_str]
  cases n with
  | ofNat n =>
    obtain ⟨c, ds, hds⟩ := List.exists_cons_of_ne_nil (digits_ne_nil n)
    have hstr : str (Int.ofNat n) = c :: ds := hds
    have hdigit := digits_isDigit (n := n) (c := c) (by rw [hds]; exact List.mem_cons_self)
    have hget : getitem (front ++ (str (Int.ofNat n) ++ 101 :: rest)) front.length = some c := by
      rw [hstr, List.cons_append]
      exact getitem_append
    -- a leading zero is the whole number
    have hzero : ¬(c = 48 ∧ ((front.length + (str (Int.ofNat n)).length : Nat) : Int) ≠
        (front.length : Int) + 1) := by
      rintro ⟨rfl, hne⟩
      have hone : str (Int.ofNat n) = [48] := digits_head (n := n) (by rw [hds]; rfl)
      refine hne ?_
      rw [hone]
      rfl
    rw [hget]
    show (if c = 45 then _ else if c = 48 ∧ _ then _ else _) = _
    rw [if_neg (isSpace_of_isDigit hdigit).2.2, if_neg hzero, hlast]
  | negSucc n =>
    obtain ⟨c, ds, hds⟩ := List.exists_cons_of_ne_nil (digits_ne_nil (n + 1))
    have hstr : str (Int.negSucc n) = 45 :: c :: ds := congrArg (45 :: ·) hds
    have hget : getitem (front ++ (str (Int.negSucc n) ++ 101 :: rest)) front.length = some 45 := by
      rw [hstr, List.cons_append]
      exact getitem_append
    -- behind the sign there is no zero
    have hnext : getitem (front ++ (str (Int.negSucc n) ++ 101 :: rest)) (front.length + 1) =
        some c := by
      have hmove : front ++ (str (Int.negSucc n) ++ 101 :: rest) =
          (front ++ [45]) ++ (c :: (ds ++ 101 :: rest)) := by
        rw [hstr]
        simp
      have hplace : (front.length : Int) + 1 = (front ++ [45]).length := by simp
      rw [hmove, hplace]
      exact getitem_append
    rw [hget]
    dsimp only
    rw [if_pos rfl, hnext]
    dsimp only
    rw [if_neg (digits_succ_head hds), hlast]

/-- What is decoded does not begin with the end of a list. -/
theorem Reads.head {v : Value} (h : Reads v) : ∃ c s, bencode v = c :: s ∧ c ≠ 101 := by
  have hread := h _ (Nat.le_refl _) [] []
  rw [List.nil_append, List.append_nil] at hread
  cases hv : bencode v with
  | nil =>
    rw [hv] at hread
    cases hread
  | cons c s =>
    rw [hv] at hread
    have hget : getitem (c :: s) (([] : Str).length : Nat) = some c := rfl
    refine ⟨c, s, rfl, ?_⟩
    rintro rfl
    rcases decode_cases hread with ⟨_, hc, -⟩ | ⟨_, hc, -⟩ | ⟨_, hc, -⟩ |
      ⟨_, c, hc, hdigit, -⟩
    · cases hget.symm.trans hc
    · cases hget.symm.trans hc
    · cases hget.symm.trans hc
    · obtain rfl := Option.some.inj (hget.symm.trans hc)
      cases hdigit

/-- The encoding of a string does not start with the byte that ends a list. -/
theorem encode_string_head (s : Str) : ∃ c rest, encode_string s = c :: rest ∧ c ≠ 101 := by
  obtain ⟨c, ds, hds⟩ := List.exists_cons_of_ne_nil (digits_ne_nil s.length)
  refine ⟨c, ds ++ 58 :: s, ?_, ?_⟩
  · rw [encode_string, show str s.length = digits s.length from rfl, hds, List.cons_append]
  · rintro rfl
    have hmem : (101 : UInt8) ∈ digits s.length := by
      rw [hds]
      exact List.mem_cons_self
    cases digits_isDigit hmem

/-- The values of a list one after the other. -/
theorem decode_encode_list {l : List Value} (h : ∀ v ∈ l, Reads v) (n : Nat)
    (hn : (encode_list l).length + 1 ≤ n) (pre rest : Str) :
    decode_list n (pre ++ (encode_list l ++ 101 :: rest)) pre.length =
      .ok (canonical_list l, (pre.length + (encode_list l).length + 1 : Nat)) := by
  induction l generalizing n pre with
  | nil =>
    obtain ⟨n, rfl⟩ : ∃ k, n = k + 1 := ⟨n - 1, by omega⟩
    have hget : getitem (pre ++ (encode_list [] ++ 101 :: rest)) pre.length = some 101 :=
      getitem_append
    rw [decode_list, hget]
    rfl
  | cons v l ih =>
    obtain ⟨n, rfl⟩ : ∃ k, n = k + 1 := ⟨n - 1, by omega⟩
    -- no encoded value begins with the `e` of the end
    obtain ⟨c, s, hs, hc⟩ := (h v List.mem_cons_self).head
    have hsplit : pre ++ (encode_list (v :: l) ++ 101 :: rest) =
        pre ++ (bencode v ++ (encode_list l ++ 101 :: rest)) := by
      rw [encode_list, List.append_assoc]
    have hlength : (encode_list (v :: l)).length = (bencode v).length + (encode_list l).length := by
      rw [encode_list, List.length_append]
    have hpos : 0 < (bencode v).length := by
      rw [hs]
      exact Nat.succ_pos _
    have hget : getitem (pre ++ (bencode v ++ (encode_list l ++ 101 :: rest))) pre.length =
      some c := by
      rw [hs, List.cons_append]
      exact getitem_append
    have hv := h v List.mem_cons_self n (by omega) pre (encode_list l ++ 101 :: rest)
    -- the rest stands behind the value, and one call less is enough for it
    have hl := ih (fun v hv => h v (List.mem_cons_of_mem _ hv)) n (by omega) (pre ++ bencode v)
    rw [List.append_assoc, List.length_append] at hl
    rw [hsplit, decode_list, hget]
    dsimp only
    rw [if_neg hc, hv]
    dsimp only
    rw [hl]
    show Except.ok (canonical v :: canonical_list l, _) = _
    rw [canonical_list, hlength]
    refine congrArg (fun n : Nat => Except.ok (canonical v :: canonical_list l, (n : Int))) ?_
    omega

/-- What is written for items, in their order. -/
def written (d : List (Str × Value)) : Str := d.flatMap fun e => encode_string e.1 ++ bencode e.2

/-- The items of a dictionary one after the other, if their keys ascend. -/
theorem decode_encode_items {d : List (Str × Value)} (h : ∀ e ∈ d, Reads e.2)
    (hascending : Ascending d) (last : Option Str)
    (hlast : ∀ k ∈ last, ∀ e ∈ d, before e.1 k = false) (n : Nat)
    (hn : (written d).length + 1 ≤ n) (pre rest : Str) :
    decode_dict n (pre ++ (written d ++ 101 :: rest)) pre.length last =
      .ok (d.map (fun e => (e.1, canonical e.2)), (pre.length + (written d).length + 1 : Nat)) := by
  induction d generalizing n pre last with
  | nil =>
    obtain ⟨n, rfl⟩ : ∃ k, n = k + 1 := ⟨n - 1, by omega⟩
    have hget : getitem (pre ++ (written [] ++ 101 :: rest)) pre.length = some 101 := getitem_append
    rw [decode_dict, hget]
    rfl
  | cons e d ih =>
    obtain ⟨n, rfl⟩ : ∃ k, n = k + 1 := ⟨n - 1, by omega⟩
    obtain ⟨k, v⟩ := e
    obtain ⟨hfirst, hrest⟩ := List.pairwise_cons.mp hascending
    -- a key does not begin with the `e` of the end
    obtain ⟨c, s, hs, hc⟩ := encode_string_head k
    have hsplit : pre ++ (written ((k, v) :: d) ++ 101 :: rest) =
        pre ++ (encode_string k ++ (bencode v ++ (written d ++ 101 :: rest))) := by
      rw [written, List.flatMap_cons, List.append_assoc, List.append_assoc]
      rfl
    have hlength : (written ((k, v) :: d)).length =
        (encode_string k).length + (bencode v).length + (written d).length := by
      rw [written, List.flatMap_cons, List.length_append, List.length_append]
      rfl
    have hpos : 0 < (encode_string k).length := by
      rw [hs]
      exact Nat.succ_pos _
    have hget : getitem (pre ++ (encode_string k ++ (bencode v ++ (written d ++ 101 :: rest))))
        pre.length = some c := by
      rw [hs, List.cons_append]
      exact getitem_append
    have hk := decode_encode_string pre k (bencode v ++ (written d ++ 101 :: rest))
    have hshort : (bencode v).length ≤ n := by omega
    have hv := h (k, v) List.mem_cons_self n hshort (pre ++ encode_string k)
      (written d ++ 101 :: rest)
    -- for the rest this key is the last one, and all others are behind it
    have hd := ih (fun e he => h e (List.mem_cons_of_mem _ he)) hrest (some k)
      (fun k' hk' e he => Option.some.inj hk' ▸ hfirst e he) n (by omega)
      (pre ++ (encode_string k ++ bencode v))
    -- so the comparison of the keys lets this one through
    have hafter : ¬last.any (before k) = true := by
      cases last with
      | none => exact Bool.false_ne_true
      | some l =>
        show ¬before k l = true
        rw [hlast l rfl (k, v) List.mem_cons_self]
        exact Bool.false_ne_true
    rw [List.append_assoc, List.length_append] at hv
    rw [List.append_assoc, List.append_assoc, List.length_append, List.length_append,
      ← Nat.add_assoc] at hd
    rw [hsplit, decode_dict, hget]
    dsimp only
    rw [if_neg hc, hk]
    dsimp only
    rw [if_neg hafter, hv]
    dsimp only
    rw [hd]
    show Except.ok ((k, canonical v) :: d.map _, _) = _
    rw [hlength, List.map_cons]
    refine congrArg (fun n : Nat => Except.ok (_, (n : Int))) ?_
    omega

/-- Integers. -/
theorem reads_int (m : Int) : Reads (.int m) := by
  intro n hn pre rest
  rw [bencode] at hn ⊢
  have hpos : 0 < (encode_int m).length := Nat.succ_pos _
  obtain ⟨n, rfl⟩ : ∃ k, n = k + 1 := ⟨n - 1, by omega⟩
  have hget : getitem (pre ++ (encode_int m ++ rest)) pre.length = some 105 := getitem_append
  rw [decode, hget]
  dsimp only
  rw [if_neg (by decide), if_neg (by decide), if_pos rfl, decode_encode_int]
  rfl

/-- Strings. -/
theorem reads_str (s : Str) : Reads (.str s) := by
  intro n hn pre rest
  obtain ⟨c, ds, hds⟩ := List.exists_cons_of_ne_nil (digits_ne_nil s.length)
  have hdigit := digits_isDigit (n := s.length) (c := c) (by rw [hds]; exact List.mem_cons_self)
  have hs : encode_string s = c :: (ds ++ 58 :: s) := by
    rw [encode_string, show str s.length = digits s.length from rfl, hds, List.cons_append]
  rw [bencode] at hn ⊢
  have hpos : 0 < (encode_string s).length := by
    rw [hs]
    exact Nat.succ_pos _
  obtain ⟨n, rfl⟩ : ∃ k, n = k + 1 := ⟨n - 1, by omega⟩
  have hget : getitem (pre ++ (encode_string s ++ rest)) pre.length = some c := by
    rw [hs, List.cons_append]
    exact getitem_append
  -- a digit is not the letter of another kind
  have hother (x : UInt8) (hx : isDigit x = false) : c ≠ x := fun hsame => by
    rw [hsame, hx] at hdigit
    cases hdigit
  rw [decode, hget]
  dsimp only
  rw [if_neg (hother 108 rfl), if_neg (hother 100 rfl), if_neg (hother 105 rfl), if_pos hdigit,
    decode_encode_string]
  rfl

/-- Lists, of values that are read back. -/
theorem reads_of_list {l : List Value} (hall : ∀ v ∈ l, Reads v) : Reads (.list l) := by
  intro n hn pre rest
  have hlength : (bencode (.list l)).length = (encode_list l).length + 2 := by
    rw [bencode, List.length_cons, List.length_append]
    rfl
  obtain ⟨n, rfl⟩ : ∃ k, n = k + 1 := ⟨n - 1, by omega⟩
  have hsplit : pre ++ (bencode (.list l) ++ rest) = pre ++
    108 :: (encode_list l ++ 101 :: rest) := by
    rw [bencode]
    simp
  -- the items stand one byte further on, behind the `l`
  have hinner := decode_encode_list hall n (by omega) (pre ++ [108]) rest
  rw [List.append_assoc, List.singleton_append] at hinner
  have hplace : ((pre ++ [108]).length : Int) = (pre.length : Int) + 1 := by simp
  rw [hplace] at hinner
  rw [hsplit, decode, getitem_append]
  dsimp only
  rw [if_pos rfl, hinner]
  show Except.ok (Value.list (canonical_list l), _) = _
  rw [canonical, hlength]
  refine congrArg (fun n : Nat => Except.ok (_, (n : Int))) ?_
  simp
  omega

/-- Dictionaries, of values that are read back. -/
theorem reads_of_items {d : List (Str × Value)} (hkeys : (d.map Prod.fst).Nodup)
    (hall : ∀ e ∈ d, Reads e.2) : Reads (.dict d) := by
  intro n hn pre rest
  -- the items are written by their keys, whatever their order is
  have hsorted : ∀ e ∈ byKey d, Reads e.2 := fun e he => hall e (List.mem_mergeSort.mp he)
  have hwritten : (byKey (encode_items d)).flatMap (fun e => encode_string e.1 ++ e.2) =
      written (byKey d) := by
    rw [encode_items_map, byKey_map, List.flatMap_map]
    rfl
  have hlength : (bencode (.dict d)).length = (written (byKey d)).length + 2 := by
    rw [bencode, hwritten, List.length_cons, List.length_append]
    rfl
  obtain ⟨n, rfl⟩ : ∃ k, n = k + 1 := ⟨n - 1, by omega⟩
  have hsplit : pre ++ (bencode (.dict d) ++ rest) =
      pre ++ 100 :: (written (byKey d) ++ 101 :: rest) := by
    rw [bencode, hwritten]
    simp
  have hinner := decode_encode_items hsorted (byKey_ascending hkeys) none nofun n (by omega)
    (pre ++ [100]) rest
  rw [List.append_assoc, List.singleton_append] at hinner
  have hplace : ((pre ++ [100]).length : Int) = (pre.length : Int) + 1 := by simp
  rw [hplace] at hinner
  rw [hsplit, decode, getitem_append]
  dsimp only
  rw [if_neg (by decide), if_pos rfl, hinner]
  show Except.ok (Value.dict ((byKey d).map fun e => (e.1, canonical e.2)), _) = _
  rw [canonical, canonical_items_map, byKey_map, hlength]
  refine congrArg (fun n : Nat => Except.ok (_, (n : Int))) ?_
  simp
  omega

/-- What is encoded as another value, and stands for the same, is read as that. -/
theorem Reads.same {v w : Value} (h : Reads v) (hstring : bencode w = bencode v)
    (hvalue : canonical w = canonical v) : Reads w := by
  intro n hn pre rest
  rw [hstring] at hn
  rw [hstring, hvalue]
  exact h n hn pre rest

/-- A value that stands alone. -/
theorem Reads.alone {v : Value} (h : Reads v) (sloppy : Bool) {fuel : Nat}
    (hfuel : (bencode v).length ≤ fuel) :
    bdecode fuel (bencode v) sloppy = .ok (canonical v) := by
  have hread : decode fuel (bencode v) 0 = .ok (canonical v, ((bencode v).length : Nat)) := by
    simpa using h fuel hfuel [] []
  rw [bdecode, hread]
  exact if_neg fun hbad => hbad.2 rfl

/-- What is already encoded is put down as it is. -/
theorem reads_bencached {v : Value} (h : Reads v) : Reads (.bencached (bencode v)) := by
  refine h.same (by rw [bencode]) ?_
  rw [canonical, h.alone false (Nat.le_refl _)]

/-- **Every value is read back**, by the rule for `Proper`. -/
theorem reads {v : Value} (h : Proper v) : Reads v := by
  induction h with
  | int m => exact reads_int m
  | bool b => exact (reads_int b.toInt).same (by rw [bencode, bencode, encode_bool]) rfl
  | str s => exact reads_str s
  | unicode s => exact (reads_str (utf8 s)).same (by rw [bencode, bencode, encode_unicode]) rfl
  | list _ ih => exact reads_of_list ih
  | tuple _ ih =>
    exact (reads_of_list ih).same (by rw [bencode, bencode]) (by rw [canonical, canonical])
  | dict hkeys _ ih => exact reads_of_items hkeys ih
  | bencached _ ih => exact reads_bencached ih

/-! ## Whole strings

The decoder starts at the first character, and a value is to be all of the string. -/

/-- **A value is decoded from what it is encoded as**, up to what the format does not distinguish:
its dictionaries come back by their keys, tuples as lists, booleans as numbers, texts as their
bytes, and what a `Bencached` holds as its value. -/
theorem bdecode_bencode {v : Value} (h : Proper v) (sloppy : Bool) {fuel : Nat}
    (hfuel : (bencode v).length ≤ fuel) : bdecode fuel (bencode v) sloppy = .ok (canonical v) :=
  (reads h).alone sloppy hfuel

/-- **No two values are encoded the same**, but for what the format does not distinguish; nor is one
the beginning of another. -/
theorem bencode_injective {v w : Value} (hv : Proper v) (hw : Proper w) {rest rest' : Str}
    (h : bencode v ++ rest = bencode w ++ rest') : canonical v = canonical w ∧ rest = rest' := by
  have hreadv := reads hv (max (bencode v).length (bencode w).length) (Nat.le_max_left _ _) [] rest
  have hreadw := reads hw (max (bencode v).length (bencode w).length) (Nat.le_max_right _ _) []
    rest'
  rw [List.nil_append] at hreadv hreadw
  rw [h, hreadw] at hreadv
  obtain ⟨hsame, hplace⟩ := Prod.mk.inj (Except.ok.inj hreadv)
  have hlength : (bencode v).length = (bencode w).length := by
    have hplace := Int.ofNat.inj hplace
    omega
  exact ⟨hsame.symm, (List.append_inj h hlength).2⟩

/-- **What has been decoded is encoded and decoded as itself**, also where the
string was another. -/
theorem bdecode_stable {n : Nat} {x : Str} {sloppy : Bool} {v : Value}
    (h : bdecode n x sloppy = .ok v) (sloppy' : Bool) {fuel : Nat}
    (hfuel : (bencode v).length ≤ fuel) : bdecode fuel (bencode v) sloppy' = .ok v := by
  have hsorted : Sorted v := by
    unfold bdecode at h
    cases hread : decode n x 0 with
    | error e =>
      rw [hread] at h
      cases h
    | ok r =>
      rw [hread] at h
      dsimp only at h
      split at h
      · cases h
      · obtain rfl := Except.ok.inj h
        exact (decode_sorted n).1 _ _ _ _ hread
  obtain ⟨hsame, hproper⟩ := canonical_of_sorted v hsorted
  rw [(reads hproper).alone sloppy' hfuel, hsame]

/-! ## Some values

A dictionary in two orders, with a value of each kind. -/

/-- `{'b': (-10, True), 'a': u'\xe4'}`, with its items in either order. -/
def twoKeys : Value :=
  .dict [([98], .tuple [.int (-10), .bool true]), ([97], .unicode "ä")]

/-- The same with a list, a number, and a string that was encoded before. -/
def twoKeysBack : Value :=
  .dict [([97], .bencached (bencode (.str [195, 164]))), ([98], .list [.int (-10), .int 1])]

/-- It is a proper value. -/
theorem twoKeys_proper : Proper twoKeys := by
  refine .dict (by decide) ?_
  simp only [List.forall_mem_cons]
  refine ⟨.tuple ?_, .unicode _, nofun⟩
  simp only [List.forall_mem_cons]
  exact ⟨.int _, .bool _, nofun⟩

/-- In the other order as well. -/
theorem twoKeysBack_proper : Proper twoKeysBack := by
  refine .dict (by decide) ?_
  simp only [List.forall_mem_cons]
  refine ⟨.bencached (.str _), .list ?_, nofun⟩
  simp only [List.forall_mem_cons]
  exact ⟨.int _, .int _, nofun⟩

/-- It is read back. -/
theorem bdecode_bencode_twoKeys :
    bdecode (bencode twoKeys).length (bencode twoKeys) false = .ok (canonical twoKeys) :=
  bdecode_bencode twoKeys_proper false (Nat.le_refl _)

/-- And both orders are one dictionary. -/
theorem bencode_injective_twoKeys : canonical twoKeys = canonical twoKeysBack := by
  have hutf8 : utf8 "ä" = [195, 164] := rfl
  have hsame : bencode twoKeys ++ [] = bencode twoKeysBack ++ [] := by
    simp [twoKeys, twoKeysBack, bencode, encode_items, encode_list, encode_bool, encode_unicode,
      hutf8, byKey, List.mergeSort, before]
  exact (bencode_injective twoKeys_proper twoKeysBack_proper hsame).1

/-- `i+5e` is not how a number is encoded, but it is decoded. -/
theorem bdecode_stable_plus :
    bdecode 3 (bencode (.int 5)) false = .ok (.int 5) := by
  have hplus : bdecode 1 [105, 43, 53, 101] false = .ok (.int 5) := rfl
  exact bdecode_stable hplus false (by decide)

/-! ## A list without an end

The decoder goes to where a length tells it, which may be back to where it has been. -/

/-- `l3:0:ed-7:`. The length of the key leads back into the string before it, which is read as the
rest of the dictionary, so that the dictionary is read again. -/
def circular : Str := [108, 51, 58, 48, 58, 101, 100, 45, 55, 58]

/-- With fuel enough the dictionary is read, and ends where it began. -/
theorem circular_dict (n : Nat) : decode n circular 6 = .error .fuel ∨
    decode n circular 6 = .ok (.dict [([], .str [])], 6) := by
  match n with
  | 0 | 1 | 2 => exact .inl rfl
  | n + 3 => exact .inr rfl

/-- So the list reads it again and again. -/
theorem circular_list (n : Nat) : decode_list n circular 6 = .error .fuel := by
  induction n with
  | zero => rfl
  | succ n ih =>
    rw [decode_list, show getitem circular 6 = some 100 from rfl]
    dsimp only
    rw [if_neg (by decide)]
    rcases circular_dict n with h | h
    · rw [h]
    · rw [h]
      dsimp only
      rw [ih]

/-- **Some strings are read without an end**: no number of calls and rounds is enough. -/
theorem bdecode_circular (fuel : Nat) (sloppy : Bool) :
    bdecode fuel circular sloppy = .error .fuel := by
  have hread : decode fuel circular 0 = .error .fuel := by
    match fuel with
    | 0 | 1 | 2 => rfl
    | n + 3 =>
      have hstring : decode (n + 1) circular 1 = .ok (.str [48, 58, 101], 6) := rfl
      rw [decode, show getitem circular 0 = some 108 from rfl]
      dsimp only
      rw [if_pos rfl, Int.zero_add, decode_list, show getitem circular 1 = some 51 from rfl]
      dsimp only
      rw [if_neg (by decide), hstring]
      dsimp only
      rw [circular_list]
  rw [bdecode, hread]

end VirtCore.Bencode
