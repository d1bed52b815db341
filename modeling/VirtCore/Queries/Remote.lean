import VirtCore.Locks.View
import VirtCore.Operation
import VirtCore.VBox.Calm

/-!
# VirtCore — the report on a remote display

`getRdpInfo` reports the connection of a running machine.

* **`RdpServer`** — what the VRDE server of a machine shows.
* **`Reply`** — the result and the message of an operation, and the sessions it leaves locked.
* **`Jsoncpp.ReadsTexts`** — a reader of what jsoncpp writes.
* **`HonestRdp`** — what a reply of `getRdpInfo` is to say.
* **`getRdpInfo_iff`** — it says that of a running machine with an active connection, and of no
  other.
-/

namespace VirtCore

open Interact VcaVmConfigure

/-- The state of a machine, and what its VRDE server shows. -/
structure RdpServer where
  state : MachineState
  active : Bool
  port : Int
  clientIP : String
  user : String
  domain : String
  numberOfClients : Nat
  clientName : String
  clientVersion : Nat
  encryptionStyle : Nat
  beginTime : Int
  endTime : Int
  bytesReceived : Int
  bytesReceivedTotal : Int
  bytesSent : Int
  bytesSentTotal : Int

/-- The answers of a host in which the machine found shows `R`. No call fails. -/
def rdpAnswers (R : RdpServer) : (a : Act) → a.Ans → Prop
  | .cmd _, .error _ => False
  | .ptr _, .error _ => False
  | .val _, .error _ => False
  | .ptr _, .ok none => False
  | .val (.state _), .ok st => st = R.state
  | .val (.active _), .ok b => b = R.active
  | .val (.vrdePort _), .ok n => n = R.port
  | .val (.clientIP _), .ok s => s = R.clientIP
  | .val (.user _), .ok s => s = R.user
  | .val (.domain _), .ok s => s = R.domain
  | .val (.numberOfClients _), .ok n => n = R.numberOfClients
  | .val (.clientName _), .ok s => s = R.clientName
  | .val (.clientVersion _), .ok n => n = R.clientVersion
  | .val (.encryptionStyle _), .ok n => n = R.encryptionStyle
  | .val (.beginTime _), .ok n => n = R.beginTime
  | .val (.endTime _), .ok n => n = R.endTime
  | .val (.bytesReceived _), .ok n => n = R.bytesReceived
  | .val (.bytesReceivedTotal _), .ok n => n = R.bytesReceivedTotal
  | .val (.bytesSent _), .ok n => n = R.bytesSent
  | .val (.bytesSentTotal _), .ok n => n = R.bytesSentTotal
  | _, _ => True

/-! ## What is to be reported -/

/-- A text is shown unchanged, and the empty one as `"0"`. -/
def shownText (s : String) : String := if s = "" then "0" else s

/-- A number is shown in decimal, and zero as `"0"`. -/
def shownNumber (n : Int) : String := if n = 0 then "0" else toString n

/-- The fifteen fields. -/
def rdpFields (R : RdpServer) : List (String × String) :=
  [("vdeState", "1"), ("clientIP", shownText R.clientIP), ("port", shownNumber R.port),
    ("user", shownText R.user), ("domain", shownText R.domain),
    ("connectCount", shownNumber R.numberOfClients), ("clientName", shownText R.clientName),
    ("clientVersion", shownNumber R.clientVersion),
    ("encryptionType", shownNumber R.encryptionStyle), ("beginTime", shownNumber R.beginTime),
    ("endTime", shownNumber R.endTime), ("bytesReceived", shownNumber R.bytesReceived),
    ("bytesReceivedTotal", shownNumber R.bytesReceivedTotal),
    ("bytesSent", shownNumber R.bytesSent), ("bytesSentTotal", shownNumber R.bytesSentTotal)]

/-- The report: an array whose one element is the text of the object. -/
def rdpReport (J : Jsoncpp) (R : RdpServer) : String :=
  J.write (.array [.string (J.mapTojsonstr Json.string (rdpFields R))])

/-- A reader gives back what was written: an array of one text, and an object of texts with
different names, but for the order of its members. -/
structure Jsoncpp.ReadsTexts (J : Jsoncpp) (read : String → Option Json) : Prop where
  array : ∀ s, read (J.write (.array [.string s])) = some (.array [.string s])
  object : ∀ m : List (String × String), m ≠ [] → (m.map Prod.fst).Nodup →
    ∃ l : List (String × String), read (J.mapTojsonstr Json.string m) =
      some (.object (l.map fun e => (e.1, .string e.2))) ∧ l.Perm m

/-- Whoever reads the text finds one object, with these members and no others. -/
def ParsesTo (J : Jsoncpp) (text : String) (fields : List (String × String)) : Prop :=
  ∀ read, J.ReadsTexts read → ∃ (object : String) (l : List (String × String)),
    read text = some (.array [.string object]) ∧
      read object = some (.object (l.map fun e => (e.1, .string e.2))) ∧ l.Perm fields

theorem rdpReport_parses (J : Jsoncpp) (R : RdpServer) :
    ParsesTo J (rdpReport J R) (rdpFields R) := by
  intro read hread
  have hnames : ((rdpFields R).map Prod.fst).Nodup := by
    simp [rdpFields]
  obtain ⟨l, hl, hperm⟩ := hread.object (rdpFields R) (by simp [rdpFields]) hnames
  exact ⟨_, l, hread.array _, hl, hperm⟩

/-! ## Replies

What the caller gets is the last of the messages and of the data that the operation has put out. -/

/-- The results put out, the text in `callbackdata`, and the locks. -/
structure Reply where
  results : String → Prop
  message : String
  locks : Balance

/-- Before the first call. -/
def Reply.start : Reply := ⟨fun _ => False, "", .free⟩

/-- What a call adds to the reply. -/
def replyView : View vboxSig Reply where
  next s a x :=
    { results := fun text => s.results text ∨ a = .put .result text
      message := messageNext s.message a
      locks := lockNext s.locks a x }
  ok _ _ _ := True

attribute [simp] rdpAnswers

@[simp] theorem replyView_next (s : Reply) (a : Act) (x : a.Ans) :
    replyView.next s a x = ⟨fun text => s.results text ∨ a = .put .result text,
      messageNext s.message a, lockNext s.locks a x⟩ := rfl

@[simp] theorem replyView_ok (s : Reply) (a : Act) (x : a.Ans) : replyView.ok s a x = True := rfl

theorem replyView_admits (s : Reply) (t : VbTrace) : replyView.Admits s t := by
  induction t generalizing s with
  | nil => trivial
  | cons e t ih => exact ⟨trivial, ih _⟩

variable {J : Jsoncpp} {R : RdpServer}

/-- The reply of an execution. -/
def OpRun.reply (r : OpRun J) : Reply := replyView.after .start r.trace

/-- An honest reply: success tells a running machine with an active connection, the report can be
read back, a refusal has a message, and no session stays locked. -/
structure HonestRdp (r : OpRun J) (R : RdpServer) : Prop where
  returns : r.result = .ok (some true) ↔ R.state = .Running ∧ R.active = true
  reports : r.result = .ok (some true) →
    (∀ text, r.reply.results text ↔ text = rdpReport J R) ∧
    ParsesTo J (rdpReport J R) (rdpFields R)
  tells : r.result = .ok (some false) → r.reply.message ≠ ""
  unlocks : r.reply.locks = .free

/-! ## The operation -/

theorem shownText_orZero (s : String) : shownText s = orZero s := by
  by_cases h : s = "" <;> simp [shownText, orZero, h]

theorem shownNumber_toString (n : Int) : shownNumber n = toString n := by
  by_cases h : n = 0
  · subst h
    decide
  · simp [shownNumber, h]

/-- The entries of an active connection, with all its data. -/
theorem readVRDE_reads (i : IVRDEServerInfo) (s : Reply) :
    Triple (replyView.only (rdpAnswers R)) (· = s) (readVRDE (some i))
      (fun vrde s' => vrde = rdpFields R ∧ s' = s) fun _ _ => False := by
  rintro _ rfl
  simp [readVRDE]
  simp only [rdpFields, shownText_orZero, shownNumber_toString]
  rfl

/-- What an execution returns, on every host. -/
theorem getRdpInfo_replies (fuel : Nat) (n : String) :
    Triple (replyView.only (rdpAnswers R)) (· = Reply.start) (getRdpInfo J fuel n)
      (fun b s =>
        if R.state = .Running then
          if R.active then
            b = true ∧ (∀ text, s.results text ↔ text = rdpReport J R) ∧ s.locks = .free
          else b = false ∧ s.message = ""
        else b = true) fun _ _ => False := by
  refine Triple.handle (D := fun _ _ => False) ?_ fun _ _ h => h.elim
  rintro _ rfl
  by_cases hstate : R.state = .Running
  · by_cases hactive : R.active
    · simp [hstate, hactive]
      intro session console info
      refine (readVRDE_reads info _).use rfl ?_ fun _ _ h => h
      rintro _ _ ⟨rfl, rfl⟩
      simp [Reply.start, rdpReport, Json.append, eq_comm]
    · simp [hstate, hactive, Reply.start]
  · simp [hstate]

/-- **When the report on a remote display is honest**: the machine is running and the connection
active. -/
theorem getRdpInfo_iff {r : OpRun J} {n : String} (hop : r.op = .getRdpInfo n)
    (hhost : ∀ e ∈ r.trace, rdpAnswers R e.1 e.2) :
    HonestRdp r R ↔ R.state = .Running ∧ R.active = true := by
  have hadmits : (replyView.only (rdpAnswers R)).Admits .start r.trace :=
    View.only_admits (replyView_admits _ _) hhost
  have hrun := (triple_some (getRdpInfo_replies (J := J) (R := R) r.fuel n)).runs rfl
    (r.runs_of hop) hadmits
  rw [View.only_after] at hrun
  obtain ⟨b, hresult, hreply⟩ : ∃ b, r.result = .ok (some b) ∧
      if R.state = .Running then
        if R.active then
          b = true ∧ (∀ text, r.reply.results text ↔ text = rdpReport J R) ∧
          r.reply.locks = .free
        else b = false ∧ r.reply.message = ""
      else b = true := by
    cases hresult : r.result with
    | error e =>
      rw [hresult] at hrun
      exact hrun.elim
    | ok o =>
      rw [hresult] at hrun
      obtain ⟨b, rfl, hb⟩ := hrun
      exact ⟨b, rfl, hb⟩
  -- not running falls through to `true`, and a display that is not active leaves early
  by_cases hstate : R.state = .Running
  · by_cases hactive : R.active = true
    · rw [if_pos hstate, if_pos hactive] at hreply
      obtain ⟨rfl, htexts, hlocks⟩ := hreply
      refine iff_of_true ⟨iff_of_true hresult ⟨hstate, hactive⟩, fun _ => ?_, fun h => ?_,
        hlocks⟩
        ⟨hstate, hactive⟩
      · exact ⟨htexts, rdpReport_parses J R⟩
      · rw [hresult] at h
        cases h
    · rw [if_pos hstate, if_neg hactive] at hreply
      obtain ⟨rfl, hmessage⟩ := hreply
      exact iff_of_false (fun h => h.tells hresult hmessage) fun h => hactive h.2
  · rw [if_neg hstate] at hreply
    subst hreply
    exact iff_of_false (fun h => hstate (h.returns.mp hresult).1) fun h => hstate h.1

/-- A server with nobody connected. -/
def idleServer (state : MachineState) : RdpServer :=
  ⟨state, true, 3389, "", "", "", 0, "", 0, 0, 0, 0, 0, 0, 0, 0⟩

/-- Its machine. -/
def idleHost (state : MachineState) : Oracle vboxSig := fun h a =>
  match a with
  | .val (.vrdePort _) => .ok (3389 : Int)
  | a => calm state h a

def idleRun (state : MachineState) : OpRun .mute :=
  Op.play .mute 0 (idleHost state) (.getRdpInfo "vm")

theorem idleRun_answers (state : MachineState) :
    ∀ e ∈ (idleRun state).trace, rdpAnswers (idleServer state) e.1 e.2 := by
  unfold idleRun Op.play
  refine exec_answers (h := []) (fun h a => ?_) _ fun e he => absurd he List.not_mem_nil
  cases a with
  | cmd c => trivial
  | ptr c => cases c <;> trivial
  | val c => cases c <;> trivial
  | _ => trivial

/-- A running machine with an active connection is reported. -/
theorem getRdpInfo_iff_running : HonestRdp (idleRun .Running) (idleServer .Running) :=
  (getRdpInfo_iff (R := idleServer .Running) rfl (idleRun_answers .Running)).mpr ⟨rfl, rfl⟩

/-- **A machine that is off is reported with success.** -/
theorem poweredOff_reported : ¬∀ (J : Jsoncpp) (r : OpRun J) (R : RdpServer) (n : String),
    r.op = .getRdpInfo n → (∀ e ∈ r.trace, rdpAnswers R e.1 e.2) → HonestRdp r R := by
  intro hclaim
  have hhonest := hclaim .mute (idleRun .PoweredOff) (idleServer .PoweredOff) "vm" rfl
    (idleRun_answers .PoweredOff)
  have hresult : (idleRun .PoweredOff).result = .ok (some true) := rfl
  exact absurd (hhonest.returns.mp hresult).1 (by decide)

end VirtCore
