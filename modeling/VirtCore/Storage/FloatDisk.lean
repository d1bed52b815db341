import Mathlib.Data.List.Nodup
import VirtCore.Interact.Pair
import VirtCore.VBox.Calm
import VirtCore.VBox.Rules
import VirtCore.Operation

/-!
# VirtCore — destroying a floating disk

`destroyFloatDiskWithoutAttach` deletes the first disk whose id or name is the key, and returns
`true` whether there is one or not.

* **`HardDisks`** — the hard disks VirtualBox knows.
* **`diskView`** — VirtualBox answers truthfully about them, and refuses to delete one that is
  attached.
* **`HitsExactly`** — the disk asked for is deleted, it alone, and the result says so.
* **`destroy_hits_iff`** — exactly when.
-/

namespace VirtCore


open Interact QiVCA

variable {J : Jsoncpp}

/-- The hard disks VirtualBox knows. -/
structure HardDisks where
  disks : List IMedium
  id : IMedium → String
  name : IMedium → String
  attached : IMedium → Prop
  distinct : (disks.map id).Nodup

namespace HardDisks

variable (D : HardDisks) (key : String)

/-- The disk has the key as its id or as its name. -/
def Matches (d : IMedium) : Bool := D.id d = key || D.name d = key

/-- The first disk that matches. -/
def first : Option IMedium := D.disks.find? (D.Matches key)

variable {D key}

theorem eq_of_id {d d' : IMedium} (hd : d ∈ D.disks) (hd' : d' ∈ D.disks)
    (h : D.id d = D.id d') : d = d' :=
  List.inj_on_of_nodup_map D.distinct hd hd' h

end HardDisks

/-- What an execution has deleted, or tried to. -/
structure Disposal where
  attempted : List IMedium
  deleted : List IMedium
  message : String
  /-- A deletion was begun that does not end well. -/
  unfinished : Prop

def Disposal.start : Disposal := ⟨[], [], "", False⟩

/-- A deletion that begins and does not end with code 0. -/
def unfinished (ending : IProgress → Int) : (a : Act) → a.Ans → Prop
  | .ptr (.deleteStorage _), .ok (some p) => ending p ≠ 0
  | .ptr (.deleteStorage _), .ok none => True
  | _, _ => False

def diskNext (ending : IProgress → Int) (s : Disposal) : (a : Act) → a.Ans → Disposal
  | .ptr (.deleteStorage d), .ok (some p) =>
    { s with
      attempted := s.attempted ++ [d]
      deleted := if ending p = 0 then s.deleted ++ [d] else s.deleted
      unfinished := s.unfinished ∨ ending p ≠ 0 }
  | .ptr (.deleteStorage d), .ok none =>
    { s with attempted := s.attempted ++ [d], unfinished := True }
  | .ptr (.deleteStorage d), .error _ => { s with attempted := s.attempted ++ [d] }
  | .put .callbackdata message, _ => { s with message := message }
  | _, _ => s

theorem diskNext_unfinished {ending : IProgress → Int} (s : Disposal) (a : Act) (x : a.Ans) :
    (diskNext ending s a x).unfinished ↔ s.unfinished ∨ unfinished ending a x := by
  fun_cases diskNext ending s a x <;> simp_all [unfinished]

/-- VirtualBox tells what it knows of its disks, and does not delete one that is attached. -/
def diskOk (D : HardDisks) : (a : Act) → a.Ans → Prop
  | .val .hardDisks, x => x = .ok (D.disks.map some)
  | .val (.mediumId d), x => x = .ok (D.id d)
  | .val (.mediumName d), x => x = .ok (D.name d)
  | .ptr (.deleteStorage d), .ok _ => ¬D.attached d
  | _, _ => True

def diskView (D : HardDisks) (ending : IProgress → Int) : View vboxSig Disposal where
  next := diskNext ending
  ok _ := diskOk D

variable {D : HardDisks} {ending : IProgress → Int} {key : String}

@[simp] theorem diskView_next : (diskView D ending).next = diskNext ending := rfl

@[simp] theorem diskView_ok (s : Disposal) : (diskView D ending).ok s = diskOk D := rfl

attribute [simp] diskNext diskOk

/-- The disk asked for is deleted, and nothing else; the result and the message say so. -/
structure HitsExactly (D : HardDisks) (key : String) (s : Disposal)
    (result : Except Exit (Option Bool)) : Prop where
  success : result = .ok (some true) ↔ s.deleted ≠ []
  single : s.deleted.length ≤ 1
  byId : ∀ d ∈ D.disks, D.id d = key → ∀ d' ∈ s.attempted, d' = d
  floating : ∀ d ∈ s.deleted, ¬D.attached d
  message : result = .ok (some true) → ∀ d ∈ s.deleted, s.message = D.name d
  failure : result = .ok (some false) → s.deleted = []

/-! ## The operation

The loop goes on until a disk has the name or the id. What comes behind that disk is not looked
at. -/

/-- One round of the search. -/
def destroyRound (key : String) (disk : COMPtr IMedium) : Vb (Option Unit) := do
  let id ← via disk fun d => val (.mediumId d)
  let hit ← if id = key then pure true else do
    let name ← via disk fun d => val (.mediumName d)
    pure (name == key)
  if hit then
    let _progress : COMPtr IProgress ← via disk fun d => ptr (.deleteStorage d)
    callbackdata (← via disk fun d => val (.mediumName d))
    return some ()
  else
    return none

theorem destroyFloatDiskWithoutAttach_eq (key : String) :
    destroyFloatDiskWithoutAttach key = (do
      let disks ← val .hardDisks
      let _ ← Prog.forEach (destroyRound key) disks
      return true) := rfl

/-- How the search ends, where `first` is the first disk that matches: it has been deleted, or was
to be. -/
inductive Searched (D : HardDisks) : Option IMedium → Disposal → Except Exit Unit → Prop where
  | missed : Searched D none .start (.ok ())
  | deleted {d : IMedium} (floating : ¬D.attached d) :
    Searched D (some d) ⟨[d], [d], D.name d, False⟩ (.ok ())
  | unfinished {d : IMedium} : Searched D (some d) ⟨[d], [], D.name d, True⟩ (.ok ())
  | refused {d : IMedium} (err : COMError) :
    Searched D (some d) ⟨[d], [], "", False⟩ (.error (.threw err))

theorem destroyRound_hit {d : IMedium} (hd : D.Matches key d = true) :
    Triple (diskView D ending) (· = .start) (destroyRound key (some d))
      (fun r s => r = some () ∧ Searched D (some d) s (.ok ()))
      fun e s => Searched D (some d) s (.error e) := by
  rintro _ rfl
  simp only [HardDisks.Matches, Bool.or_eq_true, decide_eq_true_eq] at hd
  have hdelete : wp (diskView D ending) (do
      let _progress : COMPtr IProgress ← ptr (.deleteStorage d)
      callbackdata (← val (.mediumName d))
      return some ()) (outcome (fun r s => r = some () ∧ Searched D (some d) s (.ok ()))
        fun e s => Searched D (some d) s (.error e)) .start := by
    simp [Disposal.start]
    refine ⟨fun _ => .unfinished, fun p hp => ?_, fun err => .refused err⟩
    by_cases hend : ending p = 0
    · simpa [hend] using Searched.deleted hp
    · simpa [hend] using Searched.unfinished
  by_cases hid : D.id d = key
  · simpa [destroyRound, hid] using hdelete
  · simpa [destroyRound, hid, hd.resolve_left hid] using hdelete

theorem destroyRound_miss {d : IMedium} (hd : D.Matches key d = false) :
    Triple (diskView D ending) (· = .start) (destroyRound key (some d))
      (fun r s => r = none ∧ s = .start) fun _ _ => False := by
  rintro _ rfl
  simp only [HardDisks.Matches, Bool.or_eq_false_iff, decide_eq_false_iff_not] at hd
  simp [destroyRound, hd.1, hd.2]

/-- **The search**, by induction on the list. -/
theorem destroy_searches (key : String) (l : List IMedium) :
    Triple (diskView D ending) (· = .start) (Prog.forEach (destroyRound key) (l.map some))
      (fun _ s => Searched D (l.find? (D.Matches key)) s (.ok ()))
      fun e s => Searched D (l.find? (D.Matches key)) s (.error e) := by
  induction l with
  | nil => exact Triple.ret fun _ hs => hs ▸ .missed
  | cons d l ih =>
    rw [List.find?_cons]
    cases hd : D.Matches key d with
    | true =>
      refine Triple.bind (destroyRound_hit hd) fun r => ?_
      rintro s ⟨rfl, hs⟩
      exact hs
    | false =>
      refine Triple.bind ((destroyRound_miss hd).conseq (fun _ hs => hs) (fun _ _ hs => hs)
        fun _ _ hs => hs.elim) fun r => ?_
      rintro s ⟨rfl, hs⟩
      exact ih s hs

/-- What an execution of the operation ends with. -/
theorem destroy_ends {r : OpRun J} (hop : r.op = .destroyFloatDiskWithoutAttach key)
    (hadmits : (diskView D ending).Admits .start r.trace) :
    ∃ o, Searched D (D.first key) ((diskView D ending).after .start r.trace) o ∧
      r.result = o.map fun _ => some true := by
  have hprog : Triple (diskView D ending) (· = .start) (destroyFloatDiskWithoutAttach key)
      (fun b s => b = true ∧ Searched D (D.first key) s (.ok ()))
      fun e s => Searched D (D.first key) s (.error e) := by
    rw [destroyFloatDiskWithoutAttach_eq]
    rintro _ rfl
    simp
    -- behind the list of disks there is nothing but the loop over it
    refine (destroy_searches key D.disks).use rfl (fun _ s hs => ?_) fun _ _ hs => hs
    exact hs
  have hout := (triple_some hprog).runs rfl (r.runs_of hop) hadmits
  cases hresult : r.result with
  | error e =>
    rw [hresult] at hout
    exact ⟨.error e, hout, rfl⟩
  | ok b =>
    rw [hresult] at hout
    obtain ⟨b, rfl, rfl, hs⟩ := hout
    exact ⟨.ok (), hs, rfl⟩

/-- What it means that the only disk tried is the one with the id. -/
theorem byId_iff (key : String) {d : IMedium} (hd : d ∈ D.disks) :
    (∀ e ∈ D.disks, D.id e = key → ∀ d' ∈ [d], d' = e) ↔
      D.id d = key ∨ ∀ e ∈ D.disks, D.id e ≠ key := by
  constructor
  · intro h
    by_contra hneither
    obtain ⟨hne, hsome⟩ := not_or.mp hneither
    push Not at hsome
    obtain ⟨e, he, hkey⟩ := hsome
    obtain rfl := h e he hkey d (List.mem_singleton_self d)
    exact hne hkey
  · rintro h e he hkey d' hd'
    obtain rfl := List.mem_singleton.mp hd'
    rcases h with hid | hnone
    · exact HardDisks.eq_of_id hd he (hid.trans hkey.symm)
    · exact absurd hkey (hnone e he)

/-- **Exactly when the disk asked for is destroyed.** -/
theorem destroy_hits_iff {r : OpRun J} (hop : r.op = .destroyFloatDiskWithoutAttach key)
    (hadmits : (diskView D ending).Admits .start r.trace) :
    HitsExactly D key ((diskView D ending).after .start r.trace) r.result ↔
      (∃ d, D.first key = some d ∧ (D.id d = key ∨ ∀ d' ∈ D.disks, D.id d' ≠ key)) ∧
        ∀ e ∈ r.trace, ¬unfinished ending e.1 e.2 := by
  -- the view remembers whether a task of the trace has not finished
  have hevents : (∃ e ∈ r.trace, unfinished ending e.1 e.2) ↔
      ((diskView D ending).after .start r.trace).unfinished := by
    have hremembers := View.after_remembers (v := diskView D ending)
      (F := fun s => s.unfinished) diskNext_unfinished .start r.trace
    simpa [Disposal.start] using hremembers.symm
  have hnone : (∀ e ∈ r.trace, ¬unfinished ending e.1 e.2) ↔
      ¬((diskView D ending).after .start r.trace).unfinished := by
    rw [← hevents]
    push Not
    rfl
  obtain ⟨o, hs, hresult⟩ := destroy_ends hop hadmits
  rw [hnone, hresult]
  generalize (diskView D ending).after .start r.trace = s at hs
  have hmem {d : IMedium} (hd : D.first key = some d) : d ∈ D.disks :=
    List.mem_of_find?_eq_some hd
  generalize hfirst : D.first key = first at hs hmem
  cases hs with
  -- no disk answers to the key, and success is reported all the same
  | missed =>
    refine iff_of_false (fun h => h.success.mp rfl rfl) ?_
    rintro ⟨⟨d, hd, -⟩, -⟩
    cases hd
  | @deleted d floating =>
    -- the disk that was hit is the one meant, unless another has the key as its id
    have hbyId := byId_iff key (hmem rfl)
    simp only [Option.some.injEq, exists_eq_left', not_false_eq_true, and_true, ← hbyId]
    refine ⟨fun h => h.byId, fun h => ?_⟩
    refine ⟨by simp [Except.map], by simp, h, ?_, ?_, fun h => by cases h⟩
    · simpa using floating
    · simp
  | unfinished =>
    refine iff_of_false (fun h => h.success.mp rfl rfl) ?_
    exact fun h => h.2 trivial
  | @refused d err =>
    have hbyId := byId_iff key (hmem rfl)
    simp only [Option.some.injEq, exists_eq_left', not_false_eq_true, and_true, ← hbyId]
    refine ⟨fun h => h.byId, fun h => ?_⟩
    refine ⟨by simp [Except.map], by simp, h, by simp, by simp, fun h => rfl⟩

/-- Disk 0 is `u0` and named `u1`; disk 1 is `u1`. None is attached. -/
def twoDisks : HardDisks where
  disks := [⟨0⟩, ⟨1⟩]
  id d := if d.ref = 0 then "u0" else "u1"
  name d := if d.ref = 0 then "u1" else "d1"
  attached _ := False
  distinct := by decide

/-- VirtualBox with these two disks, on which every call succeeds. -/
def withTwoDisks : Oracle vboxSig := fun h a =>
  match a with
  | .val .hardDisks => .ok [some ⟨0⟩, some ⟨1⟩]
  | .val (.mediumId d) => .ok (twoDisks.id d)
  | .val (.mediumName d) => .ok (twoDisks.name d)
  | a => calm .PoweredOff h a

abbrev destroyRun (key : String) : OpRun .mute :=
  (Op.destroyFloatDiskWithoutAttach key).play .mute 1 withTwoDisks

theorem destroyRun_u0 : (destroyRun "u0").trace =
    [⟨.val .hardDisks, .ok [some ⟨0⟩, some ⟨1⟩]⟩,
      ⟨.val (.mediumId ⟨0⟩), .ok "u0"⟩,
      ⟨.ptr (.deleteStorage ⟨0⟩), .ok (some ⟨0⟩)⟩,
      ⟨.val (.mediumName ⟨0⟩), .ok "u1"⟩,
      ⟨.put .callbackdata "u1", ()⟩] := rfl

theorem destroy_hits_iff_u0 :
    HitsExactly twoDisks "u0"
      ((diskView twoDisks fun _ => 0).after .start (destroyRun "u0").trace)
      (destroyRun "u0").result := by
  refine (destroy_hits_iff rfl ?_).mpr ⟨⟨⟨0⟩, rfl, .inl rfl⟩, ?_⟩
  · rw [destroyRun_u0]
    simp [twoDisks]
  · rw [destroyRun_u0]
    simp [unfinished]

/-- Disk 0 has the name `u1` and is deleted in the place of disk 1; for a key that no disk has
nothing is deleted, and the operation returns `true` all the same. -/
theorem destroy_misses :
    (destroyRun "u1").result = .ok (some true) ∧ (destroyRun "none").result = .ok (some true) ∧
    (diskView twoDisks fun _ => 0).Admits .start (destroyRun "u1").trace ∧
    (diskView twoDisks fun _ => 0).Admits .start (destroyRun "none").trace ∧
    ¬HitsExactly twoDisks "u1"
      ((diskView twoDisks fun _ => 0).after .start (destroyRun "u1").trace)
      (destroyRun "u1").result ∧
    ¬HitsExactly twoDisks "none"
      ((diskView twoDisks fun _ => 0).after .start (destroyRun "none").trace)
      (destroyRun "none").result := by
  -- the name of the first disk is the id of the second
  have hclash : (destroyRun "u1").trace =
      [⟨.val .hardDisks, .ok [some ⟨0⟩, some ⟨1⟩]⟩,
        ⟨.val (.mediumId ⟨0⟩), .ok "u0"⟩,
        ⟨.val (.mediumName ⟨0⟩), .ok "u1"⟩,
        ⟨.ptr (.deleteStorage ⟨0⟩), .ok (some ⟨0⟩)⟩,
        ⟨.val (.mediumName ⟨0⟩), .ok "u1"⟩, ⟨.put .callbackdata "u1", ()⟩] := rfl
  have hnone : (destroyRun "none").trace =
      [⟨.val .hardDisks, .ok [some ⟨0⟩, some ⟨1⟩]⟩,
        ⟨.val (.mediumId ⟨0⟩), .ok "u0"⟩,
        ⟨.val (.mediumName ⟨0⟩), .ok "u1"⟩, ⟨.val (.mediumId ⟨1⟩), .ok "u1"⟩,
        ⟨.val (.mediumName ⟨1⟩), .ok "d1"⟩] := rfl
  rw [hclash, hnone]
  refine ⟨rfl, rfl, by simp [twoDisks], by simp [twoDisks], fun h => ?_, fun h => ?_⟩
  · have hwrong := h.byId ⟨1⟩ (by simp [twoDisks]) rfl ⟨0⟩ (by simp [Disposal.start])
    cases hwrong
  · exact h.success.mp rfl rfl

end VirtCore
