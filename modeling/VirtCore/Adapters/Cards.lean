import VirtCore.Adapters.Runs
import VirtCore.Interact.Pair
import VirtCore.Machines.Settings
import VirtCore.VBox.Only

/-!
# VirtCore — network cards of live machines

A machine that is not powered off may change the mode of a card, but not gain one.

* **`agrees`** — the host: what is found, told and locked agrees, and any call may fail.
* **`Permitted`** — the calls that leave the cards of live machines where they are.
* **`op_cards`** — `addBridge`, `addNat`, `setAdaptorMAC` and `disableAdaptor` make no other ones;
  `setBridge` and `setNat` ask for no state, so they need an enabled adapter or a machine that is
  powered off.
* **`cards_kept`** — what follows for sequences of executions.
* **`card_added`** — `setBridge` enables a disabled adapter of a running machine.
-/

namespace VirtCore

open Interact VcaVmConfigure

/-- The answers agree with the machines' names and states and with what is locked. -/
def agrees (machineOf : String → Nat) (states : Nat → MachineState) (h : Hub) :
    (a : Act) → a.Ans → Prop
  | .ptr (.findMachine n), .ok (some m) => machineOf n = m.vm
  | .val (.state m), .ok st => st = states m.vm
  | .ptr (.sessionMachine s), .ok (some m) => h.held s = some m.vm
  | .ptr (.getNetworkAdapter m slot), .ok (some adapter) =>
    adapter.machine.vm = m.vm ∧ adapter.slot = slot
  | _, _ => True

/-- The adapters and the locks, where any call may fail. -/
def hubView (machineOf : String → Nat) (states : Nat → MachineState) : View vboxSig Hub where
  next := hubNext
  ok := agrees machineOf states

/-- Of a machine that is not powered off, only the interface and the attachment of an adapter that
was enabled are set; to enable it again changes nothing. -/
def Permitted (states : Nat → MachineState) (before : AdapterKey → Settings) : Act → Prop
  | .cmd (.setBridgedInterface adapter _) | .cmd (.setAttachmentType adapter _)
  | .cmd (.setAdapterEnabled adapter true) =>
    states adapter.machine.vm ≠ .PoweredOff → (before adapter.key).enabled = true
  | .cmd c => ∀ w ∈ c.setting, states w.1.vm = .PoweredOff
  | _ => True

attribute [simp] agrees Permitted Cmd.setting

/-- The host, and whether every call so far was permitted. -/
def cardView (machineOf : String → Nat) (states : Nat → MachineState)
    (before : AdapterKey → Settings) : View vboxSig (Hub × Prop) :=
  (hubView machineOf states).pair (onlyView (Permitted states before))

variable {J : Jsoncpp} {machineOf : String → Nat} {states : Nat → MachineState}
  {before : AdapterKey → Settings} {α : Type}

@[simp] theorem cardView_next (s : Hub × Prop) (a : Act) (x : a.Ans) :
    (cardView machineOf states before).next s a x =
      (hubNext s.1 a x, s.2 ∧ Permitted states before a) := rfl

@[simp] theorem cardView_ok (s : Hub × Prop) (a : Act) (x : a.Ans) :
    (cardView machineOf states before).ok s a x = (agrees machineOf states s.1 a x ∧ True) := rfl

/-- A program that makes permitted calls only, on such a host. -/
abbrev KeepsCards (machineOf : String → Nat) (states : Nat → MachineState)
    (before : AdapterKey → Settings) (p : Vb α) : Prop :=
  Triple (cardView machineOf states before) (fun s => s.2) p (fun _ s => s.2) fun _ s => s.2

/-! ## The operations

Of the six operations on adapters two do not ask for the state of the machine, and on a live
machine these are harmless only where the adapter is enabled. -/

theorem keeps_of_only {p : Vb α} (h : Only (Permitted states before) p) :
    KeepsCards machineOf states before p := by
  intro s hs
  refine (wp_iff_runs p _ s).mpr fun t o hr _ => ?_
  have hafter : ((cardView machineOf states before).after s t).2 := by
    rw [cardView, View.pair_after]
    exact (onlyView_after s.2 t).mpr ⟨hs, h.runs hr⟩
  cases o <;> exact hafter

theorem keeps_tryReport {fuel : Nat} {body : Vb Bool}
    (h : KeepsCards machineOf states before body) :
    KeepsCards machineOf states before (tryReport fuel body) := by
  refine triple_catchReport (v := cardView machineOf states before) (I := fun s => s.2)
    (fun s a x ha hs _ => ⟨hs, ?_⟩) (fun _ _ hs => hs) (fun _ _ hs => hs.elim id id) h
    fun _ _ => Triple.exit fun _ hs => hs
  cases a with
  | cmd c => exact ha.elim
  | _ => trivial

section

variable {change : INetworkAdapter → Vb Unit}

/-- The adapter that is changed is the one of the machine and the slot. -/
theorem changeAdapter_keeps {m : IMachine} {slot : Int}
    (hchange : ∀ adapter : INetworkAdapter, adapter.key = (m.vm, uint32 slot) →
      Only (Permitted states before) (change adapter)) :
    KeepsCards machineOf states before (changeAdapter (some m) slot change) := by
  rintro ⟨h, fine⟩ hfine
  obtain rfl : fine = True := eq_true hfine
  simp [changeAdapter]
  intro session mutabmachine hm adapter ha hslot
  have hkey : adapter.key = (m.vm, uint32 slot) := by
    rw [INetworkAdapter.key, ha, hslot, ← hm]
  refine (keeps_of_only (hchange adapter hkey)).use trivial ?_ fun _ _ hs => hs
  rintro _ ⟨h', fine⟩ hfine
  obtain rfl : fine = True := eq_true hfine
  simp

theorem anyState_keeps {n : String} {slot : Int}
    (hchange : slotOk slot → ∀ adapter : INetworkAdapter,
      adapter.key = (machineOf n, slot.toNat) → Only (Permitted states before) (change adapter)) :
    KeepsCards machineOf states before (anyState change n slot) := by
  rintro ⟨h, fine⟩ hfine
  obtain rfl : fine = True := eq_true hfine
  by_cases hslot : slotOk slot
  · simp [anyState, hslot]
    intro m hm
    refine changeAdapter_keeps (fun adapter ha => hchange hslot adapter ?_) _ trivial
    rw [ha, hm, uint32_slot hslot]
  · simp [anyState, hslot]

theorem poweredOff_keeps {n : String} {slot : Int}
    (hchange : states (machineOf n) = .PoweredOff → ∀ adapter : INetworkAdapter,
      adapter.machine.vm = machineOf n → Only (Permitted states before) (change adapter)) :
    KeepsCards machineOf states before (poweredOff change n slot) := by
  rintro ⟨h, fine⟩ hfine
  obtain rfl : fine = True := eq_true hfine
  simp [poweredOff]
  intro _ _ m hm hoff
  refine changeAdapter_keeps (fun adapter ha => hchange (by rw [hm, ← hoff]) adapter ?_) _ trivial
  have hvm : adapter.machine.vm = m.vm := congrArg Prod.fst ha
  rw [hvm, hm]

end

/-- What an adapter operation needs to leave the cards of live machines where they are: `setBridge`
and `setNat`, of such a machine, an adapter that is enabled. -/
def ModeOnly (machineOf : String → Nat) (states : Nat → MachineState)
    (before : AdapterKey → Settings) : Op → Prop
  | .setBridge n slot _ | .setNat n slot => slotOk slot → states (machineOf n) ≠ .PoweredOff →
    (before (machineOf n, slot.toNat)).enabled = true
  | _ => True

/-- **One operation** makes permitted calls only. -/
theorem op_cards (fuel : Nat) {op : Op} (hop : (op.adapterAddress machineOf).isSome)
    (hmode : ModeOnly machineOf states before op) :
    KeepsCards machineOf states before (op.prog J fuel) := by
  have hmap {p : Vb Bool} (hp : KeepsCards machineOf states before p) :
      KeepsCards machineOf states before (some <$> p) := Triple.map hp
  -- the adapter is enabled, or the machine is powered off
  have hmodes {n : String} {slot : Int} (h : slotOk slot →
    states (machineOf n) ≠ .PoweredOff →
      (before (machineOf n, slot.toNat)).enabled = true) (hslot : slotOk slot)
      {adapter : INetworkAdapter} (ha : adapter.key = (machineOf n, slot.toNat)) :
      states adapter.machine.vm ≠ .PoweredOff → (before adapter.key).enabled = true := by
    have hvm : adapter.machine.vm = machineOf n := congrArg Prod.fst ha
    rw [hvm, ha]
    exact h hslot
  cases op <;> cases hop
  case setBridge n slot pci =>
    refine hmap (keeps_tryReport (anyState_keeps fun hslot adapter ha => only_of ?_))
    simp [bridge]
    exact hmodes hmode hslot ha
  case setNat n slot =>
    refine hmap (keeps_tryReport (anyState_keeps fun hslot adapter ha => only_of ?_))
    simp [nat]
    exact hmodes hmode hslot ha
  case addBridge n slot pci =>
    refine hmap (poweredOff_keeps fun hoff adapter ha => only_of ?_)
    simp [bridge, ha, hoff]
  case addNat n slot =>
    refine hmap (keeps_tryReport (poweredOff_keeps fun hoff adapter ha => only_of ?_))
    simp [nat, ha, hoff]
  case setAdaptorMAC n slot mac =>
    refine hmap (keeps_tryReport (poweredOff_keeps fun hoff adapter ha => only_of ?_))
    simp [setMAC, ha, hoff]
  case disableAdaptor n slot =>
    refine hmap (keeps_tryReport (poweredOff_keeps fun hoff adapter ha => only_of ?_))
    simp [disable, ha, hoff]

/-! ## What permitted calls leave

The cards of a live machine are compared with those at the start of a run, field by field. A
permitted call leaves a card alone, or gives an enabled one another mode. -/

/-- `y` is the card `x`, in another mode at most, and in the same mode where it is disabled. -/
structure SameCard (x y : Settings) : Prop where
  enabled : y.enabled = x.enabled
  MACAddress : y.MACAddress = x.MACAddress
  mode : x.enabled = false → y = x

theorem SameCard.refl (x : Settings) : SameCard x x := ⟨rfl, rfl, fun _ => rfl⟩

theorem SameCard.trans {x y z : Settings} (h : SameCard x y) (h' : SameCard y z) :
    SameCard x z where
  enabled := h'.enabled.trans h.enabled
  MACAddress := h'.MACAddress.trans h.MACAddress
  mode hx := (h'.mode (h.enabled.trans hx)).trans (h.mode hx)

/-- Live machines have the cards they had. -/
def CardsKept (states : Nat → MachineState) (before after : AdapterKey → Settings) : Prop :=
  ∀ k, states k.1 ≠ .PoweredOff → SameCard (before k) (after k)

theorem CardsKept.modify {h : AdapterKey → Settings} (hkept : CardsKept states before h)
    {k : AdapterKey} {effect : Settings → Settings} (hcard : states k.1 ≠ .PoweredOff →
      SameCard (before k) (h k) → SameCard (before k) (effect (h k))) :
    CardsKept states before (Keyed.modify h k effect) := by
  intro k' hlive
  by_cases hk : k' = k
  · subst hk
    rw [Keyed.modify_self]
    exact hcard hlive (hkept k' hlive)
  · rw [Keyed.modify_other _ _ hk]
    exact hkept k' hlive

/-- The mode of an enabled card is set. -/
theorem SameCard.set {x y : Settings} (h : SameCard x y) (hx : x.enabled = true) {z : Settings}
    (henabled : z.enabled = true) (hmac : z.MACAddress = y.MACAddress) : SameCard x z where
  enabled := henabled.trans hx.symm
  MACAddress := hmac.trans h.MACAddress
  mode hoff := by
    rw [hx] at hoff
    cases hoff

/-- A permitted call leaves live machines the cards they had before the operation. -/
theorem cards_next {h : Hub} (hkept : CardsKept states before h.adapters) {a : Act}
    (ha : Permitted states before a) (x : a.Ans) :
    CardsKept states before (hubNext h a x).adapters := by
  unfold hubNext
  split
  case h_1 adapter value u =>
    dsimp only
    -- the four setters, of which only the last two may gain or lose a card
    refine hkept.modify fun hlive hcard => hcard.set (ha hlive) ?_ rfl
    exact hcard.enabled.trans (ha hlive)
  case h_2 adapter value u =>
    dsimp only
    refine hkept.modify fun hlive hcard => hcard.set (ha hlive) ?_ rfl
    exact hcard.enabled.trans (ha hlive)
  case h_3 adapter value u =>
    dsimp only
    refine hkept.modify fun hlive hcard => ?_
    cases value with
    | true => exact hcard.set (ha hlive) rfl rfl
    | false => exact (hlive (ha _ rfl)).elim
  case h_4 adapter value u =>
    dsimp only
    exact hkept.modify fun hlive hcard => (hlive (ha _ rfl)).elim
  all_goals exact hkept

/-- Permitted calls, one after the other. Induction on the trace. -/
theorem cards_after {t : VbTrace} (ht : ∀ e ∈ t, Permitted states before e.1) {h : Hub}
    (hkept : CardsKept states before h.adapters) :
    CardsKept states before ((adapterView machineOf states).after h t).adapters := by
  induction t generalizing h with
  | nil => exact hkept
  | cons e t ih =>
    obtain ⟨he, ht⟩ := List.forall_mem_cons.mp ht
    exact ih ht (cards_next hkept he e.2)

/-! ## Runs

An execution that is permitted keeps the cards, and a run is a sequence of such executions, with
machines that change their state in between. -/

namespace AdapterRun

/-- The answers to an execution agree with the host, from the hub `h`. -/
def Agrees (r : AdapterRun J machineOf) (h : Hub) : Prop :=
  (hubView machineOf r.states).Admits h r.run.trace

/-- An execution that adds no card to a live machine: it makes permitted calls only, and every live
machine has afterwards the cards it had before. -/
structure AddsNoCard (r : AdapterRun J machineOf) (h : Hub) : Prop where
  permitted : ∀ e ∈ r.run.trace, Permitted r.states h.adapters e.1
  kept : CardsKept r.states h.adapters (r.after h).adapters

theorem adds_no_card {r : AdapterRun J machineOf} {h : Hub} (hagrees : r.Agrees h)
    (hmode : ModeOnly machineOf r.states h.adapters r.run.op) : r.AddsNoCard h := by
  have hadmits : (cardView machineOf r.states h.adapters).Admits (h, True) r.run.trace :=
    (View.pair_admits _ _).mpr ⟨hagrees, onlyView_admits _ _⟩
  have hout := (op_cards r.run.fuel r.adapter hmode).runs trivial r.run.runs hadmits
  have hafter : ((cardView machineOf r.states h.adapters).after (h, True) r.run.trace).2 := by
    revert hout
    cases r.run.result <;> exact id
  rw [cardView, View.pair_after] at hafter
  have hpermitted := ((onlyView_after True r.run.trace).mp hafter).2
  exact ⟨hpermitted, cards_after hpermitted fun k _ => SameCard.refl _⟩

end AdapterRun

/-- A property of every execution of a sequence, each from the hub at which it starts. -/
def Along (P : AdapterRun J machineOf → Hub → Prop) (h : Hub) :
    List (AdapterRun J machineOf) → Prop
  | [] => True
  | r :: rs => P r h ∧ Along P (r.after h) rs

theorem Along.imp {P P' Q : AdapterRun J machineOf → Hub → Prop}
    (himp : ∀ r h, P r h → P' r h → Q r h)
    {h : Hub} {rs : List (AdapterRun J machineOf)} (hP : Along P h rs) (hP' : Along P' h rs) :
    Along Q h rs := by
  induction rs generalizing h with
  | nil => trivial
  | cons r rs ih => exact ⟨himp r h hP.1 hP'.1, ih hP.2 hP'.2⟩

/-- A machine that is live all the time keeps the cards it had. -/
theorem cards_run {h : Hub} {rs : List (AdapterRun J machineOf)}
    (hrs : Along AdapterRun.AddsNoCard h rs) {k : AdapterKey}
    (hlive : ∀ r ∈ rs, r.states k.1 ≠ .PoweredOff) :
    SameCard (h.adapters k) ((hubAfter h rs).adapters k) := by
  induction rs generalizing h with
  | nil => exact SameCard.refl _
  | cons r rs ih =>
    obtain ⟨hr, hlive⟩ := List.forall_mem_cons.mp hlive
    exact (hrs.1.kept k hr).trans (ih hrs.2 hlive)

/-- **No card is added to a live machine**, in any sequence of executions in which every `setBridge`
and `setNat` of a live machine is for an adapter that is enabled when it starts:

* no execution asks for more than the interface and the attachment of adapters of live machines that
  were enabled before it, and none changes anything else of a live machine's adapters;
* so a machine that is live throughout has at the end the cards it had at the start. -/
theorem cards_kept {h : Hub} {rs : List (AdapterRun J machineOf)}
    (hagrees : Along AdapterRun.Agrees h rs)
    (hmodes : Along (fun r h => ModeOnly machineOf r.states h.adapters r.run.op) h rs) :
    Along AdapterRun.AddsNoCard h rs ∧
      ∀ k, (∀ r ∈ rs, r.states k.1 ≠ .PoweredOff) →
        SameCard (h.adapters k) ((hubAfter h rs).adapters k) := by
  have hrs : Along AdapterRun.AddsNoCard h rs :=
    hagrees.imp (fun r h hr hmode => r.adds_no_card hr hmode) hmodes
  exact ⟨hrs, fun k hlive => cards_run hrs hlive⟩

/-- An execution on a host whose one machine is running. -/
def liveRun (op : Op) (h : (op.adapterAddress fun _ => 0).isSome) :
    AdapterRun .mute fun _ => 0 where
  run := Op.play .mute 0 (calm .Running) op
  states _ := .Running
  adapter := h

/-- **A card is added.** `setBridge` of a running machine enables an adapter that was disabled. -/
theorem card_added : ¬∀ (J : Jsoncpp) (machineOf : String → Nat) (h : Hub)
    (rs : List (AdapterRun J machineOf)), Along AdapterRun.Agrees h rs →
    Along AdapterRun.AddsNoCard h rs := by
  intro hclaim
  have htrace : (liveRun (.setBridge "vm" 0 "eth0") rfl).run.trace =
      adapterTrace [] 0 [.setBridgedInterface ⟨⟨0, .mutable ⟨0⟩⟩, 0⟩ "eth0",
        .setAttachmentType ⟨⟨0, .mutable ⟨0⟩⟩, 0⟩ .Bridged,
        .setAdapterEnabled ⟨⟨0, .mutable ⟨0⟩⟩, 0⟩ true] := by rfl
  have hagrees : (liveRun (.setBridge "vm" 0 "eth0") rfl).Agrees oneMachineHub := by
    unfold AdapterRun.Agrees
    rw [htrace]
    simp [adapterTrace, hubView]
  have hrun := (hclaim .mute (fun _ => 0) oneMachineHub [liveRun (.setBridge "vm" 0 "eth0") rfl]
    ⟨hagrees, trivial⟩).1.permitted
      ⟨.cmd (.setAdapterEnabled ⟨⟨0, .mutable ⟨0⟩⟩, 0⟩ true), .ok ()⟩
  rw [htrace] at hrun
  have hasked := hrun (by simp [adapterTrace]) (by decide)
  exact absurd hasked (by decide)

/-- One machine, with an enabled adapter. -/
def oneCardHub : Hub :=
  { oneMachineHub with adapters := fun _ => ⟨true, .NAT, "", "0800270001"⟩ }

/-- The mode of an enabled card of a running machine is changed. -/
theorem cards_kept_mode :
    Along AdapterRun.AddsNoCard oneCardHub [liveRun (.setBridge "vm" 0 "eth0") rfl] ∧
      SameCard (oneCardHub.adapters (0, 0))
        ((hubAfter oneCardHub [liveRun (.setBridge "vm" 0 "eth0") rfl]).adapters (0, 0)) := by
  have htrace : (liveRun (.setBridge "vm" 0 "eth0") rfl).run.trace =
      adapterTrace [] 0 [.setBridgedInterface ⟨⟨0, .mutable ⟨0⟩⟩, 0⟩ "eth0",
        .setAttachmentType ⟨⟨0, .mutable ⟨0⟩⟩, 0⟩ .Bridged,
        .setAdapterEnabled ⟨⟨0, .mutable ⟨0⟩⟩, 0⟩ true] := by rfl
  have hagrees : (liveRun (.setBridge "vm" 0 "eth0") rfl).Agrees oneCardHub := by
    unfold AdapterRun.Agrees
    rw [htrace]
    simp [adapterTrace, hubView]
  have hkept : Along AdapterRun.AddsNoCard oneCardHub [liveRun (.setBridge "vm" 0 "eth0") rfl] ∧
      ∀ k, _ := cards_kept ⟨hagrees, trivial⟩ ⟨fun _ _ => rfl, trivial⟩
  refine ⟨hkept.1, hkept.2 (0, 0) fun r hr => ?_⟩
  rw [List.mem_singleton.mp hr]
  decide

end VirtCore
