import VirtCore.Machines.Building
import VirtCore.Machines.Calm

/-!
# VirtCore — what an installation leaves behind

* **`Installed`** — the settings that a create operation is asked for.
* **`installSystemdisk_ends`** / **`installISO_ends`** — a round returns success only with the
  machine installed.
-/

namespace VirtCore.Machines


open Interact Keyed QiVCA

variable {V : Hypervisor} {h₀ : VBoxHost}

/-- The settings that a create operation is asked for. -/
structure Installed (V : Hypervisor) (_vmname ostypeid : String) (cpucount memorysize : Int)
    (diskpath storagebustype : String) (d : Config) : Prop where
  name : d .name = .text _vmname
  OSTypeId : d .OSTypeId = .text ostypeid
  CPUCount : d .CPUCount = .nat (uint32 cpucount)
  memorySize : d .memorySize = .nat (uint32 memorysize)
  controller : ∃ bus, storageBusOf storagebustype = some bus ∧
    d (.storageController storagebustype) = .bus bus
  disk : ∃ disk, V.location disk = diskpath ∧
    d (.attachment storagebustype 0 0) = .medium .HardDisk (some disk)

/-- The DVD is elsewhere than the disk. -/
def HasDVD (V : Hypervisor) (isopath storagebustype : String) (d : Config) : Prop :=
  ∃ name port device dvd, (name, port, device) ≠ (storagebustype, (0 : Int), (0 : Int)) ∧
    V.location dvd = isopath ∧ d (.attachment name port device) = .medium .DVD (some dvd)

/-- How a round ends: it goes on with the machine installed, or returns `false`. -/
def RoundEnds (V : Hypervisor) (h₀ : VBoxHost) (x : OutParam) (bad : Prop)
    (goal : Config → Prop) (r : Option Bool) (st : VBoxHost × Log) : Prop :=
  r.elim (∃ vm d, Enlisted V h₀ x vm d st ∧ goal d) fun b => b = false ∧ Left bad h₀ st

theorem ends_false {x : OutParam} {bad : Prop} {goal : Config → Prop} :
    Triple (createView V) (Late bad h₀) (.ret (some false) : Vb (Option Bool))
      (RoundEnds V h₀ x bad goal) fun _ =>
      Late bad h₀ :=
  Triple.ret fun _ hst => ⟨rfl, .inr hst⟩

theorem installSystemdisk_ends (_vmname ostypeid : String) (cpucount memorysize : Int)
    (basefolder diskpath storagebustype : String) :
    Triple (createView V) (Fine h₀)
      (installSystemdisk _vmname ostypeid cpucount memorysize basefolder diskpath storagebustype)
      (RoundEnds V h₀ .callbackdata (storageBusOf storagebustype = none)
        (Installed V _vmname ostypeid cpucount memorysize diskpath storagebustype))
      fun _ => Left (storageBusOf storagebustype = none) h₀ := by
  refine fine_leaves.val (fun _ => ⟨fun _ => rfl, id, fun _ _ => id⟩) (fun _ => id) fun _p => ?_
  refine creates_machine (left_put (Triple.exit fun _ hst => hst)) fun t => ?_
  refine sets_up fun s => ?_
  refine drafted_ptr (F := fun m => V.location m = diskpath) (fun _ _ => ⟨rfl, rfl⟩)
    (fun _ m (hok : V.location m = diskpath) => hok) ?_ fun disk hdisk => ?_
  · -- without the disk the machine is there already, and stays registered
    exact late_put (late_cmd (fun _ => rfl) (Triple.exit fun _ hst => hst))
  refine drafted_phase.val (fun _ => ⟨fun _ => rfl, id, fun _ _ => id⟩)
    (fun _ => id) fun _ => ?_
  refine adds_bus id (Triple.exit fun _ hst => hst) fun bus c hbus hname => ?_
  refine reads_name (drafted_set rfl (drafted_set rfl (saves_unlocks ?_)))
  refine enlisted_phase.release (Triple.ret fun st hst => ⟨t.vm, _, hst, ?_⟩)
  -- what the saved draft says, setting by setting
  rw [hname]
  constructor
  · simp [firstSettings, Hypervisor.newMachine]
  · simp [firstSettings]
  · simp [firstSettings]
  · simp [firstSettings]
  · exact ⟨bus, hbus, by simp⟩
  · exact ⟨disk, hdisk, by simp⟩

theorem installISODevices_ends {_vmname ostypeid diskpath : String} {cpucount memorysize : Int}
    {vm : Nat} {s : ISession} {disk : IMedium} (isopath storagebustype : String)
    (hdisk : V.location disk = diskpath) :
    Triple (createView V)
      (Drafted V h₀ .result vm s (firstSettings V _vmname ostypeid cpucount memorysize))
      (installISODevices (some s) (some ⟨vm, .mutable s⟩) (some disk) isopath storagebustype)
      (RoundEnds V h₀ .result (storageBusOf storagebustype = none) fun d =>
        Installed V _vmname ostypeid cpucount memorysize diskpath storagebustype d ∧
          HasDVD V isopath storagebustype d)
      fun _ => Late (storageBusOf storagebustype = none) h₀ := by
  refine adds_bus id ?_ fun bus c hbus hname => ?_
  · -- without a disk controller the DVD may still be attached, but not the disk
    refine late_ptr (fun _ _ => rfl) fun c => late_ptr (fun _ _ => rfl) fun dvd => ?_
    cases dvd with
    | none => exact late_put ends_false
    | some dvd =>
      cases c with
      | none => exact Triple.exit fun _ hst => hst
      | some c =>
        refine late_val (fun _ _ => rfl) fun name => late_cmd (fun _ => rfl) ?_
        exact Triple.exit fun _ hst => hst
  refine adds_controller ?_ fun c' hname' habsent => ?_
  · refine late_ptr (fun _ _ => rfl) fun dvd => ?_
    cases dvd with
    | none => exact late_put ends_false
    | some dvd => exact Triple.exit fun _ hst => hst
  refine drafted_ptr (F := fun m => V.location m = isopath) (fun _ _ => ⟨rfl, rfl⟩)
    (fun _ m (hok : V.location m = isopath) => hok) (late_put ends_false) fun dvd hdvd => ?_
  refine reads_name (drafted_set rfl (reads_name (drafted_set rfl (reads_name ?_))))
  refine drafted_set rfl (drafted_set rfl (drafted_set rfl (saves_unlocks ?_)))
  refine Triple.ret fun st hst => ⟨vm, _, hst, ?_⟩
  have hne : storagebustype ≠ "IDE" := by
    rintro rfl
    simp at habsent
  rw [hname, hname']
  refine ⟨⟨?_, ?_, ?_, ?_, ⟨bus, hbus, ?_⟩, ⟨disk, hdisk, ?_⟩⟩, "IDE", 0, 0, dvd, ?_,
    hdvd, ?_⟩
  · simp [firstSettings, Hypervisor.newMachine]
  · simp [firstSettings]
  · simp [firstSettings]
  · simp [firstSettings]
  · simp [hne]
  · simp [hne]
  · simp [hne.symm]
  · simp

theorem installISO_ends (_vmname ostypeid : String) (cpucount memorysize : Int)
    (basefolder : String) (logicdisk_size : Int) (isopath : String)
    {diskformat diskpath : String} (storagebustype : String) (fix : Bool)
    (hpath : createVMfromISOPath _vmname diskformat basefolder = some diskpath) :
    Triple (createView V) (Fine h₀)
      (installISO _vmname ostypeid cpucount memorysize basefolder logicdisk_size isopath diskformat
        storagebustype fix)
      (RoundEnds V h₀ .result (storageBusOf storagebustype = none) fun d =>
        Installed V _vmname ostypeid cpucount memorysize diskpath storagebustype d ∧
          HasDVD V isopath storagebustype d)
      fun _ => Left (storageBusOf storagebustype = none) h₀ := by
  unfold installISO
  rw [hpath]
  refine fine_leaves.val (fun _ => ⟨fun _ => rfl, id, fun _ _ => id⟩) (fun _ => id) fun _p => ?_
  refine creates_machine (left_put (Triple.exit fun _ hst => hst)) fun t => ?_
  refine sets_up fun s => ?_
  refine drafted_ptr (F := fun m => V.location m = diskpath) (fun _ _ => ⟨rfl, rfl⟩)
    (fun _ m (hok : V.location m = diskpath) => hok) ?_ fun disk hdisk => ?_
  · exact late_put (late_cmd (fun _ => rfl) (Triple.exit fun _ hst => hst))
  refine creates_storage (fun code hcode => ?_) ?_
  · -- the disk could not be made, and the registered machine stays
    rw [if_pos hcode]
    exact late_put (late_cmd (fun _ => rfl) (late_release ends_false))
  · exact installISODevices_ends isopath storagebustype hdisk

/-! ## The operations -/

/-- A `try` around the whole body of an operation. -/
theorem left_tryReport {bad : Prop} {P : VBoxHost × Log → Prop} {fuel : Nat} {body : Vb Bool}
    {R : Bool → VBoxHost × Log → Prop}
    (h : Triple (createView V) P body R fun _ => Left bad h₀) :
    Triple (createView V) P (tryReport fuel body) R fun _ => Left bad h₀ := by
  refine triple_catchReport (fun st a x ha hst _ => hst.next (idle_reporting ha))
    (fun _ _ hst => hst) ?_ h fun _ _ => Triple.exit fun _ hst => hst
  rintro e st (hst | hst) <;> exact hst

/-- A create operation with its arguments. -/
inductive Install where
  | systemdisk (_vmname ostypeid : String) (cpucount memorysize : Int)
      (basefolder diskpath storagebustype : String)
  | iso (_vmname ostypeid : String) (cpucount memorysize : Int) (basefolder : String)
      (logicdisk_size : Int) (isopath diskformat storagebustype : String) (fix : Bool)

namespace Install

def op : Install → Op
  | .systemdisk n os cpu mem bf d bus => .createVMfromSystemdisk n os cpu mem bf d bus
  | .iso n os cpu mem bf size dvd fmt bus fix =>
    .createVMfromISO n os cpu mem bf size dvd fmt bus fix

/-- The tables of the header have the OS type, and the disk format. -/
def Known : Install → Prop
  | .systemdisk _ os .. => os ∈ osType
  | .iso _ os _ _ _ _ _ fmt .. => os ∈ osType ∧ fmt ∈ mediaType

/-- `strcmp` finds them in the tables. -/
def found : Install → Bool
  | .systemdisk _ os .. => osType.any (strcmpEq os)
  | .iso _ os _ _ _ _ _ fmt .. => osType.any (strcmpEq os) && mediaType.any (strcmpEq fmt)

def storagebustype : Install → String
  | .systemdisk _ _ _ _ _ _ bus => bus
  | .iso _ _ _ _ _ _ _ _ bus _ => bus

/-- The output parameter for the id. -/
def output : Install → OutParam
  | .systemdisk .. => .callbackdata
  | .iso .. => .result

/-- The settings that are asked for. -/
def Goal (V : Hypervisor) : Install → Config → Prop
  | .systemdisk n os cpu mem _ d bus => Installed V n os cpu mem d bus
  | .iso n os cpu mem bf _ dvd fmt bus _ => fun c =>
    (∃ d, createVMfromISOPath n fmt bf = some d ∧ Installed V n os cpu mem d bus c) ∧
      HasDVD V dvd bus c

end Install

/-- At most one entry of a table is the one asked for. -/
theorem strcmpEq_unique {l : List String} (hl : l.Nodup) (hnul : ∀ x ∈ l, cstr x = x.toList)
    (s : String) : l.Pairwise fun x y => ¬(strcmpEq s x ∧ strcmpEq s y) := by
  refine hl.imp_of_mem fun {x y} hx hy hne heq => hne (String.toList_inj.mp ?_)
  rw [← hnul x hx, ← hnul y hy, ← eq_of_beq heq.1, eq_of_beq heq.2]

theorem osType_unique (s : String) : osType.Pairwise fun x y => ¬(strcmpEq s x ∧ strcmpEq s y) :=
  strcmpEq_unique (by simp [osType]) (by decide +kernel) s

theorem mediaType_unique (s : String) :
    mediaType.Pairwise fun x y => ¬(strcmpEq s x ∧ strcmpEq s y) :=
  strcmpEq_unique (by simp [mediaType]) (by decide +kernel) s

/-- How a create operation ends that finds its request in the tables. -/
def Closes (V : Hypervisor) (h₀ : VBoxHost) (i : Install) (b : Bool)
    (st : VBoxHost × Log) : Prop :=
  if b then ∃ vm d, Enlisted V h₀ i.output vm d st ∧ i.Goal V d
  else Left (storageBusOf i.storagebustype = none) h₀ st

/-- A round that goes on is the only one, and the operation returns `true`. -/
theorem closes {i : Install} {goal : Config → Prop} (hgoal : ∀ d, goal d → i.Goal V d)
    (r : Option Bool) :
    Triple (createView V) (RoundEnds V h₀ i.output (storageBusOf i.storagebustype = none) goal r)
      (.ret (r.getD true) : Vb Bool) (Closes V h₀ i) fun _ =>
      Left (storageBusOf i.storagebustype = none) h₀ := by
  refine Triple.ret fun st hst => ?_
  cases r with
  | none =>
    obtain ⟨vm, d, henlisted, hd⟩ := hst
    exact ⟨vm, d, henlisted, hgoal d hd⟩
  | some b =>
    obtain ⟨rfl, hleft⟩ := hst
    exact hleft

theorem Install.ends {J : Jsoncpp} {i : Install} (hfound : i.found) (fuel : Nat) :
    Triple (createView V) (Fine h₀) (i.op.prog J fuel)
      (fun r st => ∃ b, r = some b ∧ Closes V h₀ i b st) fun _ =>
      Left (storageBusOf i.storagebustype = none) h₀ := by
  cases i with
  | systemdisk n os cpu mem bf d bus =>
    refine triple_some (R := Closes V h₀ (.systemdisk n os cpu mem bf d bus)) (left_tryReport ?_)
    have hos : osType.any (strcmpEq os) := hfound
    -- only one round of the loop is of the given kind of system
    rw [Prog.forEach_unique (osType_unique os), if_pos hos]
    exact (installSystemdisk_ends n os cpu mem bf d bus).bind
      (closes (i := .systemdisk n os cpu mem bf d bus) fun _ => id)
  | iso n os cpu mem bf size dvd fmt bus fix =>
    refine triple_some (R := Closes V h₀ (.iso n os cpu mem bf size dvd fmt bus fix))
      (left_tryReport ?_)
    obtain ⟨hos, hfmt⟩ := Bool.and_eq_true_iff.mp hfound
    -- the format is one of the list, so that the disk has a path
    have hpath : (createVMfromISOPath n fmt bf).isSome := by
      obtain ⟨iter_l, hl, heq⟩ := List.any_eq_true.mp hfmt
      exact createVMfromISOPath_isSome hl heq
    obtain ⟨path, hpath⟩ := Option.isSome_iff_exists.mp hpath
    rw [Prog.forEach_unique (mediaType_unique fmt), if_pos hfmt,
      Prog.forEach_unique (osType_unique os), if_pos hos]
    refine (installISO_ends n os cpu mem bf size dvd bus fix hpath).bind
      (closes (i := .iso n os cpu mem bf size dvd fmt bus fix) ?_)
    rintro c ⟨hinstalled, hdvd⟩
    exact ⟨⟨path, hpath, hinstalled⟩, hdvd⟩

/-- Without a match nothing is done, and `true` is returned. -/
theorem Install.skips {J : Jsoncpp} {i : Install} (hfound : i.found = false) (fuel : Nat) :
    i.op.prog J fuel = .ret (some true) := by
  cases i with
  | systemdisk n os cpu mem bf d bus =>
    have hos : osType.any (strcmpEq os) = false := hfound
    show some <$> createVMfromSystemdisk fuel n os cpu mem bf d bus = _
    unfold createVMfromSystemdisk
    rw [Prog.forEach_unique (osType_unique os), if_neg (by simp [hos])]
    rfl
  | iso n os cpu mem bf size dvd fmt bus fix =>
    have hnone : (osType.any (strcmpEq os) && mediaType.any (strcmpEq fmt)) = false := hfound
    show some <$> createVMfromISO fuel n os cpu mem bf size dvd fmt bus fix = _
    unfold createVMfromISO
    rw [Prog.forEach_unique (mediaType_unique fmt), Prog.forEach_unique (osType_unique os)]
    rcases Bool.and_eq_false_iff.mp hnone with h | h
    · rw [if_neg (by simp [h])]
      rfl
    · rw [if_neg (c := mediaType.any _ = true) (by simp [h]), ite_self]
      rfl

theorem Install.found_of_known {i : Install} (h : i.Known) : i.found := by
  have hrefl (s : String) : strcmpEq s s := by simp [strcmpEq]
  cases i with
  | systemdisk n os cpu mem bf d bus => exact List.any_eq_true.mpr ⟨os, h, hrefl os⟩
  | iso n os cpu mem bf size dvd fmt bus fix =>
    refine Bool.and_eq_true_iff.mpr ⟨?_, ?_⟩
    · exact List.any_eq_true.mpr ⟨os, h.1, hrefl os⟩
    · exact List.any_eq_true.mpr ⟨fmt, h.2, hrefl fmt⟩

theorem storageBusOf_eq_none {bus : String} : storageBusOf bus = none ↔ bus ∉ storageBus := by
  unfold storageBusOf
  split <;> simp_all [storageBus]

/-- The three ways a create operation ends: it has not found its request, it has installed the
machine, or it does not return `true`. -/
theorem Install.cases {J : Jsoncpp} {r : OpRun J} {i : Install} (hop : r.op = i.op)
    (hadmits : (hostView V).Admits h₀ r.trace) :
    (i.found = false ∧ r.trace = [] ∧ r.result = .ok (some true)) ∨
    (i.found ∧ r.result = .ok (some true) ∧ ∃ vm d, Enlisted V h₀ i.output vm d
      ((hostView V).after h₀ r.trace, logView.after Log.start r.trace) ∧ i.Goal V d) ∨
    (i.found ∧ r.result ≠ .ok (some true) ∧ Left (i.storagebustype ∉ storageBus) h₀
      ((hostView V).after h₀ r.trace, logView.after Log.start r.trace)) := by
  have hruns := r.runs
  rw [hop] at hruns
  cases hfound : i.found with
  | false =>
    -- every round is skipped, and behind the loops stands `return true`
    rw [Install.skips hfound] at hruns
    obtain ⟨htrace, hresult⟩ := runs_ret.mp hruns
    exact .inl ⟨rfl, htrace, hresult⟩
  | true =>
    refine .inr ?_
    have hfine : Fine h₀ (h₀, Log.start) := ⟨⟨Same.refl, id, fun _ _ => False.elim⟩, id⟩
    have hpair : (createView V).Admits (h₀, Log.start) r.trace :=
      (View.pair_admits _ _).mpr ⟨hadmits, logView_admits _ _⟩
    have hrun := Triple.runs (i.ends hfound r.fuel) hfine hruns hpair
    rw [View.pair_after] at hrun
    simp only [Closes, storageBusOf_eq_none] at hrun
    cases hresult : r.result with
    | error e =>
      rw [hresult] at hrun
      exact .inr ⟨rfl, nofun, hrun⟩
    | ok o =>
      rw [hresult] at hrun
      obtain ⟨b, rfl, hb⟩ := hrun
      cases b with
      | true => exact .inl ⟨rfl, rfl, hb⟩
      | false => exact .inr ⟨rfl, nofun, hb⟩

theorem Install.Goal.bus {i : Install} {d : Config} (h : i.Goal V d) :
    i.storagebustype ∈ storageBus := by
  have hbus : ∃ bus, storageBusOf i.storagebustype = some bus := by
    cases i with
    | systemdisk =>
      obtain ⟨bus, hbus, -⟩ := Installed.controller h
      exact ⟨bus, hbus⟩
    | iso =>
      obtain ⟨⟨path, -, hinstalled⟩, -⟩ := h
      obtain ⟨bus, hbus, -⟩ := hinstalled.controller
      exact ⟨bus, hbus⟩
  obtain ⟨bus, hbus⟩ := hbus
  by_contra hnot
  rw [storageBusOf_eq_none.mpr hnot] at hbus
  cases hbus

/-- What a create operation reports: it returns `true` exactly where the request is one of the
tables' and nothing goes wrong; then there is a registered machine with what was asked for, and
its id is handed back. -/
def Reports (V : Hypervisor) (i : Install) (t : VbTrace) (h : VBoxHost)
    (result : Except Exit (Option Bool)) : Prop :=
  (result = .ok (some true) ↔
    i.Known ∧ i.storagebustype ∈ storageBus ∧ ¬∃ e ∈ t, wrong e.1 e.2) ∧
  (result = .ok (some true) → ∃ vm d, h.registered vm = true ∧ h.store.saved vm = some d ∧
    i.Goal V d ∧ (logView.after Log.start t).output i.output = V.uuid vm)

/-- **Exactly when an installation creates what it reports.** A request that the tables do not
have must be one that `strcmp` takes for one of theirs, and must then go wrong. -/
theorem install_reports_iff {J : Jsoncpp} {r : OpRun J} {i : Install} (hop : r.op = i.op)
    (hadmits : (hostView V).Admits h₀ r.trace) :
    Reports V i r.trace ((hostView V).after h₀ r.trace) r.result ↔
      i.Known ∨
        (i.found ∧ (i.storagebustype ∉ storageBus ∨ ∃ e ∈ r.trace, wrong e.1 e.2)) := by
  have hwrong : (∃ e ∈ r.trace, wrong e.1 e.2) ↔ (logView.after Log.start r.trace).wrong := by
    simp [log_wrong, Log.start]
  unfold Reports
  rw [hwrong]
  rcases Install.cases hop hadmits with ⟨hfound, -, hresult⟩ |
    ⟨-, hresult, vm, d, hd, hgoal⟩ |
    ⟨hfound, hresult, hleft⟩
  · -- a request that is not found does nothing and reports success
    have hunknown : ¬i.Known := fun hknown => by
      rw [Install.found_of_known hknown] at hfound
      cases hfound
    refine iff_of_false (fun h => hunknown (h.1.mp hresult).1) ?_
    rintro (hknown | ⟨hf, -⟩)
    · exact hunknown hknown
    · rw [hfound] at hf
      cases hf
  · constructor
    · exact fun h => .inl (h.1.mp hresult).1
    · rintro (hknown | ⟨-, hbad⟩)
      · refine ⟨iff_of_true hresult ⟨hknown, hgoal.bus, hd.fine⟩, fun _ => ?_⟩
        exact ⟨vm, d, hd.registered.after, hd.saved, hgoal, hd.told⟩
      · exact hbad.elim (absurd hgoal.bus) fun hw => (hd.fine hw).elim
  · have hbad : (logView.after Log.start r.trace).wrong ∨ i.storagebustype ∉ storageBus := by
      rcases hleft with hleft | hleft
      · exact .inl hleft.1
      · exact hleft.1
    refine iff_of_true ⟨iff_of_false hresult ?_, fun h => absurd h hresult⟩
      (.inr ⟨hfound, ?_⟩)
    · rintro ⟨-, hbus, hnot⟩
      exact hbad.elim hnot fun hb => hb hbus
    · exact hbad.symm

/-- A disk at `/vm/new/new.vdi` on a SATA controller; tasks end with `code`. -/
def serving (code : Int) : Hypervisor :=
  { plain with
    ending := fun _ => code
    controllerName := fun _ => "SATA"
    location := fun _ => "/vm/new/new.vdi" }

/-- The new machine is machine 1; `setCPUCount` answers with `cpu`. -/
def installing (cpu : Except COMError Unit) (code : Int) : Oracle vboxSig := fun h a =>
  match a with
  | .ptr (.sessionMachine s) => .ok (some ⟨1, .mutable s⟩)
  | .ptr (.queryVirtualBoxErrorInfo _) => .ok none
  | .val (.controllerName _) => .ok "SATA"
  | .val (.resultCode _) => .ok code
  | .cmd (.setCPUCount ..) => cpu
  | a => making .PoweredOff h a

/-- A machine around a disk that exists. -/
abbrev aroundDisk (ostypeid : String) (cpucount : Int) : Install :=
  .systemdisk "new" ostypeid cpucount 1024 "/vm" "/vm/new/new.vdi" "SATA"

abbrev diskRun (ostypeid : String) (cpucount : Int) (cpu : Except COMError Unit) : OpRun .mute :=
  (aroundDisk ostypeid cpucount).op.play .mute 1 (installing cpu 0)

theorem aroundDisk_prog (cpucount : Int) : (aroundDisk "Linux_64" cpucount).op.prog .mute 1 =
    some <$> tryReport 1 (installSystemdisk "new" "Linux_64" cpucount 1024 "/vm"
      "/vm/new/new.vdi" "SATA" >>= fun r => .ret (r.getD true)) := by
  show some <$> createVMfromSystemdisk 1 "new" "Linux_64" cpucount 1024 "/vm" "/vm/new/new.vdi"
    "SATA" = _
  unfold createVMfromSystemdisk
  rw [Prog.forEach_unique (osType_unique _), if_pos (by decide +kernel)]
  rfl

/-- The calls up to the first setting. -/
def firstCalls (cpucount : Int) (cpu : Except COMError Unit) : VbTrace :=
  [⟨.val (.composeMachineFilename "new" "" "" "/vm"), .ok ""⟩,
    ⟨.ptr (.createMachine "" "new" [] "Linux_64" ""), .ok (some ⟨1, .host⟩)⟩,
    ⟨.val (.machineId ⟨1, .host⟩), .ok ""⟩,
    ⟨.put .callbackdata "", ()⟩,
    ⟨.cmd (.setCPUCount ⟨1, .host⟩ (uint32 cpucount)), cpu⟩]

def diskTrace (cpucount : Int) : VbTrace :=
  firstCalls cpucount (.ok ()) ++ [⟨.cmd (.setOSTypeId ⟨1, .host⟩ "Linux_64"), .ok ()⟩,
    ⟨.cmd (.setMemorySize ⟨1, .host⟩ 1024), .ok ()⟩,
    ⟨.ptr .session, .ok (some ⟨0⟩)⟩,
    ⟨.cmd (.registerMachine (some ⟨1, .host⟩)), .ok ()⟩,
    ⟨.cmd (.lockMachine ⟨1, .host⟩ (some ⟨0⟩) .Write), .ok ()⟩,
    ⟨.ptr (.sessionMachine ⟨0⟩), .ok (some ⟨1, .mutable ⟨0⟩⟩)⟩,
    ⟨.cmd (.setHWVirtExProperty ⟨1, .mutable ⟨0⟩⟩ .NestedPaging true), .ok ()⟩,
    ⟨.ptr (.openMedium "/vm/new/new.vdi" .HardDisk .ReadWrite true), .ok (some ⟨0⟩)⟩,
    ⟨.val (.refreshState ⟨0⟩), .ok ()⟩,
    ⟨.ptr (.addStorageController ⟨1, .mutable ⟨0⟩⟩ "SATA" .SATA),
      .ok (some ⟨⟨1, .mutable ⟨0⟩⟩, 0⟩)⟩,
    ⟨.val (.controllerName ⟨⟨1, .mutable ⟨0⟩⟩, 0⟩), .ok "SATA"⟩,
    ⟨.cmd (.attachDevice ⟨1, .mutable ⟨0⟩⟩ "SATA" 0 0 .HardDisk (some ⟨0⟩)),
      .ok ()⟩,
    ⟨.cmd (.setBootOrder ⟨1, .mutable ⟨0⟩⟩ 1 .HardDisk), .ok ()⟩,
    ⟨.cmd (.saveSettings ⟨1, .mutable ⟨0⟩⟩), .ok ()⟩,
    ⟨.cmd (.unlockMachine ⟨0⟩), .ok ()⟩,
    ⟨.release (.machine ⟨1, .host⟩), ()⟩]

/-- On any host on which machine 1 is free. -/
theorem diskTrace_admits {V : Hypervisor} {h : VBoxHost} (cpucount : Int)
    (hreg : h.registered 1 = false) (hsaved : h.store.saved 1 = none) (huuid : V.uuid 1 = "")
    (hname : ∀ c, V.controllerName c = "SATA") (hpath : ∀ d, V.location d = "/vm/new/new.vdi") :
    (hostView V).Admits h (diskTrace cpucount) := by
  simp [diskTrace, firstCalls, hostOk, hostNext, PtrCall.answers, PtrCall.effect, PtrCall.setting,
    Cmd.setting, Cmd.effect, VBoxHost.create, VBoxHost.write, VBoxHost.register, VBoxHost.lock,
    VBoxHost.openMedium, VBoxHost.Writable, VBoxHost.config, Staged.openDraft, Staged.write,
    Staged.create, Staged.put, Hypervisor.newMachine, hreg, hsaved, huuid, hname, hpath]

theorem diskRun_trace : (diskRun "Linux_64" 2 (.ok ())).trace = diskTrace 2 :=
  (play_eq (aroundDisk_prog 2)).1

theorem install_reports_iff_disk :
    Reports (serving 0) (aroundDisk "Linux_64" 2) (diskRun "Linux_64" 2 (.ok ())).trace
      ((hostView (serving 0)).after oneMachine (diskRun "Linux_64" 2 (.ok ())).trace)
      (diskRun "Linux_64" 2 (.ok ())).result := by
  refine (install_reports_iff rfl ?_).mpr (.inl ?_)
  · rw [diskRun_trace]
    exact diskTrace_admits 2 rfl rfl rfl (fun _ => rfl) fun _ => rfl
  · show "Linux_64" ∈ osType
    decide +kernel

/-- An OS type that no table has: nothing is installed, and the operation returns `true`. -/
theorem unknownOS_reports :
    (hostView plain).Admits oneMachine (diskRun "Plan9" 2 (.ok ())).trace ∧
      ¬Reports plain (aroundDisk "Plan9" 2) (diskRun "Plan9" 2 (.ok ())).trace
        ((hostView plain).after oneMachine (diskRun "Plan9" 2 (.ok ())).trace)
        (diskRun "Plan9" 2 (.ok ())).result := by
  have hprog : (aroundDisk "Plan9" 2).op.prog .mute 1 = .ret (some true) :=
    Install.skips (by decide +kernel) 1
  have htrace : (diskRun "Plan9" 2 (.ok ())).trace = [] := (play_eq hprog).1
  have hresult : (diskRun "Plan9" 2 (.ok ())).result = .ok (some true) := (play_eq hprog).2
  rw [htrace, hresult]
  refine ⟨trivial, fun h => ?_⟩
  have hknown : "Plan9" ∈ osType := (h.1.mp rfl).1
  revert hknown
  decide +kernel

/-- An operation that does not return `true` leaves no trace: the registered machines, the media,
their files and the locks are as they were. -/
def LeavesNoTrace (h₀ h : VBoxHost) (result : Except Exit (Option Bool)) : Prop :=
  result ≠ .ok (some true) → h.registered = h₀.registered ∧ h.known = h₀.known ∧
    h.files = h₀.files ∧ ∀ vm, Locked h vm ↔ Locked h₀ vm

/-- **Exactly when a failed installation leaves no trace.** -/
theorem install_clean_iff {J : Jsoncpp} {r : OpRun J} {i : Install} (hop : r.op = i.op)
    (hadmits : (hostView V).Admits h₀ r.trace) :
    LeavesNoTrace h₀ ((hostView V).after h₀ r.trace) r.result ↔
      ¬((∃ e ∈ r.trace, registers e.1 e.2) ∧
        ((∃ e ∈ r.trace, wrong e.1 e.2) ∨ i.storagebustype ∉ storageBus)) := by
  have hwrong : (∃ e ∈ r.trace, wrong e.1 e.2) ↔ (logView.after Log.start r.trace).wrong := by
    simp [log_wrong, Log.start]
  have hregisters : (∃ e ∈ r.trace, registers e.1 e.2) ↔
      (logView.after Log.start r.trace).registers := by
    simp [log_registers, Log.start]
  rw [hwrong, hregisters]
  rcases Install.cases hop hadmits with ⟨-, htrace, hresult⟩ |
    ⟨-, hresult, vm, d, hd, hgoal⟩ |
    ⟨-, hresult, hleft⟩
  · refine iff_of_true (fun h => absurd hresult h) ?_
    rw [htrace]
    exact fun h => h.1
  · refine iff_of_true (fun h => absurd hresult h) ?_
    rintro ⟨-, hw | hb⟩
    · exact hd.fine hw
    · exact hb hgoal.bus
  · -- an operation that fails has registered nothing, or the machine is left behind
    rcases hleft with ⟨-, hintact⟩ | ⟨hbad, vm, hreg⟩
    · refine iff_of_true (fun _ => ?_) fun h => hintact.registers h.1
      exact ⟨hintact.same.registered, hintact.same.known, hintact.same.files,
        hintact.same.locked⟩
    · refine iff_of_false (fun h => ?_) fun h => h ⟨hreg.registers, hbad⟩
      exact hreg.not_same (h hresult).1

/-- `setCPUCount` throws, before the machine is registered. -/
theorem install_clean_iff_early :
    LeavesNoTrace oneMachine
      ((hostView plain).after oneMachine (diskRun "Linux_64" 2 (.error ⟨0x80070057⟩)).trace)
      (diskRun "Linux_64" 2 (.error ⟨0x80070057⟩)).result := by
  have htrace : (diskRun "Linux_64" 2 (.error ⟨0x80070057⟩)).trace =
      firstCalls 2 (.error ⟨0x80070057⟩) ++
        [⟨.currentError, some ⟨0⟩⟩,
          ⟨.ptr (.queryVirtualBoxErrorInfo ⟨0⟩), .ok none⟩] :=
    (play_eq (aroundDisk_prog 2)).1
  refine (install_clean_iff (i := aroundDisk "Linux_64" 2) rfl ?_).mpr ?_
  · rw [htrace]
    simp [firstCalls, hostOk, hostNext, PtrCall.answers, PtrCall.effect, VBoxHost.create,
      Staged.create, plain, oneMachine]
  · rw [htrace]
    simp [firstCalls, registers]

/-- A new machine, its disk and a DVD. -/
abbrev fromISO : Install :=
  .iso "new" "Linux_64" 2 1024 "/vm" 32 "/linux.iso" "VDI" "SATA" false

/-- Making the disk ends with `E_FAIL`. -/
abbrev diskFull : OpRun .mute := fromISO.op.play .mute 1 (installing (.ok ()) (-2147467259))

theorem fromISO_prog : fromISO.op.prog .mute 1 =
    some <$> tryReport 1 (installISO "new" "Linux_64" 2 1024 "/vm" 32 "/linux.iso" "VDI" "SATA"
      false >>= fun r => .ret (r.getD true)) := by
  show some <$> createVMfromISO 1 "new" "Linux_64" 2 1024 "/vm" 32 "/linux.iso" "VDI" "SATA" false
    = _
  unfold createVMfromISO
  rw [Prog.forEach_unique (mediaType_unique _), if_pos (by decide +kernel),
    Prog.forEach_unique (osType_unique _), if_pos (by decide +kernel)]
  rfl

/-- The machine stays registered. -/
theorem failedInstall_registered :
    (hostView (serving (-2147467259))).Admits oneMachine diskFull.trace ∧
      diskFull.result = .ok (some false) ∧
      ¬LeavesNoTrace oneMachine
        ((hostView (serving (-2147467259))).after oneMachine diskFull.trace) diskFull.result := by
  -- everything answers but the result code of the task that makes the disk
  have htrace : diskFull.trace =
      [⟨.val (.composeMachineFilename "new" "" "" "/vm"), .ok ""⟩,
        ⟨.ptr (.createMachine "" "new" [] "Linux_64" ""), .ok (some ⟨1, .host⟩)⟩,
        ⟨.val (.machineId ⟨1, .host⟩), .ok ""⟩,
        ⟨.put .result "", ()⟩,
        ⟨.cmd (.setCPUCount ⟨1, .host⟩ 2), .ok ()⟩,
        ⟨.cmd (.setOSTypeId ⟨1, .host⟩ "Linux_64"), .ok ()⟩,
        ⟨.cmd (.setMemorySize ⟨1, .host⟩ 1024), .ok ()⟩,
        ⟨.ptr .session, .ok (some ⟨0⟩)⟩,
        ⟨.cmd (.registerMachine (some ⟨1, .host⟩)), .ok ()⟩,
        ⟨.cmd (.lockMachine ⟨1, .host⟩ (some ⟨0⟩) .Write), .ok ()⟩,
        ⟨.ptr (.sessionMachine ⟨0⟩), .ok (some ⟨1, .mutable ⟨0⟩⟩)⟩,
        ⟨.cmd (.setHWVirtExProperty ⟨1, .mutable ⟨0⟩⟩ .NestedPaging true), .ok ()⟩,
        ⟨.ptr (.createMedium "VDI" "/vm/new/new.vdi" .ReadWrite .HardDisk), .ok (some ⟨0⟩)⟩,
        ⟨.ptr (.createBaseStorage ⟨0⟩ 32 [.Standard]), .ok (some ⟨0⟩)⟩,
        ⟨.cmd (.waitForCompletion ⟨0⟩ (-1)), .ok ()⟩,
        ⟨.val (.resultCode ⟨0⟩), .ok (-2147467259 : Int)⟩,
        ⟨.put .callbackdata "Virtual machine disk creation failed!", ()⟩,
        ⟨.cmd (.unlockMachine ⟨0⟩), .ok ()⟩,
        ⟨.release (.machine ⟨1, .host⟩), ()⟩] :=
    (play_eq fromISO_prog).1
  have hresult : diskFull.result = .ok (some false) := (play_eq fromISO_prog).2
  rw [htrace, hresult]
  refine ⟨?_, rfl, fun h => ?_⟩
  · simp [hostOk, hostNext, PtrCall.answers, PtrCall.effect, PtrCall.setting,
      Cmd.setting, Cmd.effect, VBoxHost.create, VBoxHost.write, VBoxHost.register, VBoxHost.lock,
      VBoxHost.Writable, Staged.openDraft, Staged.write,
      Staged.create, Staged.put, serving, plain, oneMachine]
  · have hsame := congrFun (h (by intro hdone; cases hdone)).1 1
    cases hsame

end VirtCore.Machines
