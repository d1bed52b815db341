import VirtCore.VBox.Calm
import VirtCore.VBox.Only
import VirtCore.Operation

/-!
# VirtCore — what an import gives the systems of an appliance

`importVM` walks the warnings of the appliance, gives each of its systems final values, and waits
for the import. Its loop over the warnings does not advance, and the machine it releases at the
end is null.

* **`finalValues`** — the calls of `setFinalValues` in an execution, with their three arrays.
* **`importArrays`** — the arrays after a number of descriptions: they only grow.
* **`import_own_never`** — no system gets values of its own.
* **`import_past_never`** — no import returns; **`printWarnings_spins`** — with a warning, it
  does not even end.
-/

namespace VirtCore.QiVCA

open Interact

variable {J : Jsoncpp}

/-- The three arrays of `setFinalValues`. -/
structure FinalValues where
  enabled : List Bool
  VBoxValues : List String
  extraConfigValues : List String
  deriving DecidableEq

/-- The final values that an execution sets, in order. -/
def finalValues (t : VbTrace) : List (IVirtualSystemDescription × FinalValues) :=
  t.filterMap fun e => match e.1 with
    | .cmd (.setFinalValues d enabled VBoxValues extra) =>
        some (d, ⟨enabled, VBoxValues, extra⟩)
    | _ => none

/-- The arrays once `k` descriptions have added to them. -/
def importArrays (vmname ostypeid : String) (cpucount memory : Int) (netup : Bool)
    (basefolder : String) (k : Nat) : FinalValues where
  enabled := List.replicate (15 * k) true
  VBoxValues := (List.replicate k
    (importValues vmname ostypeid cpucount memory basefolder)).flatten
  extraConfigValues := (List.replicate k (importExtra netup)).flatten

/-! ## Values of one's own

The arrays are made outside the loop and appended to within it, and so is the name. Both are
followed from one description to the next. -/

/-- The place of the machine's name among the values, and that of its disk. -/
def nameIndex : Nat := 1

def diskIndex : Nat := 14

/-- The arrays of an earlier description with more behind them. -/
def LeftOver (earlier f : FinalValues) : Prop :=
  earlier.enabled <+: f.enabled ∧ earlier.VBoxValues <+: f.VBoxValues ∧
    earlier.extraConfigValues <+: f.extraConfigValues ∧
    earlier.VBoxValues.length < f.VBoxValues.length

/-- The values of a description with `entries` entries. -/
structure ValuesOf (vmname : String) (entries : Nat) (f : FinalValues) : Prop where
  enabled : f.enabled.length = entries
  VBoxValues : f.VBoxValues.length = entries
  extraConfigValues : f.extraConfigValues.length = entries
  name : f.VBoxValues[nameIndex]? = some vmname
  disk : f.VBoxValues[diskIndex]? = some (vmname ++ ".vmdk")

/-- Each description gets values, in order, and values of its own. -/
def OwnValues (vmname : String) (entries : IVirtualSystemDescription → Nat)
    (desc : List IVirtualSystemDescription) (t : VbTrace) : Prop :=
  (finalValues t).map Prod.fst = desc ∧
  ∀ earlier d f later, finalValues t = earlier ++ (d, f) :: later →
    ValuesOf vmname (entries d) f ∧ ∀ e ∈ earlier, ¬LeftOver e.2 f

/-- Where final values are set, they are those of some number of descriptions. -/
def growing (vmname ostypeid : String) (cpucount memory : Int) (netup : Bool)
    (basefolder : String) : Act → Prop
  | .cmd (.setFinalValues _ enabled VBoxValues extra) =>
    ∃ k, ⟨enabled, VBoxValues, extra⟩ =
      importArrays vmname ostypeid cpucount memory netup basefolder (k + 1)
  | _ => True

attribute [simp] growing

theorem importArrays_succ (vmname ostypeid : String) (cpucount memory : Int) (netup : Bool)
    (basefolder : String) (k : Nat) :
    importArrays vmname ostypeid cpucount memory netup basefolder (k + 1) =
      ⟨List.replicate (15 * k) true ++ List.replicate 15 true,
        (List.replicate k (importValues vmname ostypeid cpucount memory basefolder)).flatten ++
          importValues vmname ostypeid cpucount memory basefolder,
        (List.replicate k (importExtra netup)).flatten ++ importExtra netup⟩ := by
  have henabled : List.replicate (15 * (k + 1)) true =
      List.replicate (15 * k) true ++ List.replicate 15 true := by
    rw [List.replicate_append_replicate, Nat.mul_succ]
  simp only [importArrays, henabled, List.replicate_succ', List.flatten_append,
    List.flatten_singleton]

/-- **The loop over the descriptions.** The invariant is that the arrays are those of the
descriptions so far. -/
theorem setImportValues_growing (vmname ostypeid : String) (cpucount memory : Int) (netup : Bool)
    (basefolder : String) (desc : List (COMPtr IVirtualSystemDescription)) :
    Only (growing vmname ostypeid cpucount memory netup basefolder)
      (setImportValues vmname ostypeid cpucount memory netup basefolder desc) := by
  let arrays := importArrays vmname ostypeid cpucount memory netup basefolder
  let I : List Bool × List String × List String → Prop → Prop := fun acc s =>
    s ∧ ∃ k, ⟨acc.1, acc.2.1, acc.2.2⟩ = arrays k
  have hstart : ∃ k, ⟨[], [], []⟩ = arrays k := ⟨0, rfl⟩
  refine (Triple.fold I (E := fun _ s => s) (fun tmp _ acc => ?_) ([], [], [])).conseq
    (fun s hs => ⟨hs, hstart⟩) (fun _ _ hs => hs.1) fun _ _ hs => hs
  obtain ⟨enabled, values, extra⟩ := acc
  rintro s ⟨hs, k, hk⟩
  -- the arrays that are carried round the loop are those after `k` systems
  obtain ⟨rfl, rfl, rfl⟩ := FinalValues.mk.inj hk
  obtain rfl : s = True := eq_true hs
  cases tmp with
  | none => exact trivial
  | some d =>
    have hsucc := (importArrays_succ vmname ostypeid cpucount memory netup basefolder k).symm
    show wp _ (cmd (.setFinalValues d _ _ _) >>= fun _ => pure _) _ True
    rw [wp_bind, wp_cmd]
    exact ⟨fun _ => ⟨⟨trivial, k, hsucc⟩, k + 1, hsucc⟩,
      fun err _ => ⟨trivial, k, hsucc⟩⟩

theorem reporting_growing {vmname ostypeid : String} {cpucount memory : Int} {netup : Bool}
    {basefolder : String} (a : Act) (ha : Reporting a) :
    growing vmname ostypeid cpucount memory netup basefolder a := by
  cases a with
  | cmd c => exact ha.elim
  | _ => trivial

theorem importVM_growing (fuel : Nat) (vmname ovapath : String) (keepmac : Bool)
    (ostypeid : String) (cpucount memory : Int) (netup : Bool) (basefolder : String) :
    Only (growing vmname ostypeid cpucount memory netup basefolder)
      (importVM fuel vmname ovapath keepmac ostypeid cpucount memory netup basefolder) := by
  have hwarn (warn : List String) :
      Only (growing vmname ostypeid cpucount memory netup basefolder) (printWarnings fuel warn) :=
    only_iterate fuel (fun iter => only_of (by cases iter <;> simp)) warn
  refine only_tryReport reporting_growing (only_of ?_)
  simp
  intro app progress code hcode warn
  refine (hwarn warn).seq (fun _ => ?_) (by simp)
  simp
  intro desc
  refine (setImportValues_growing vmname ostypeid cpucount memory netup basefolder desc).seq
    (fun _ => ?_) (by simp)
  simp
  exact fun p => (only_pollCompleted (by simp) fuel _).seq (by simp) (by simp)

/-- The values of however many descriptions begin with those of the first one. -/
theorem importArrays_name (vmname ostypeid : String) (cpucount memory : Int) (netup : Bool)
    (basefolder : String) (k : Nat) :
    (importArrays vmname ostypeid cpucount memory netup basefolder (k + 1)).VBoxValues[nameIndex]? =
      some (importName vmname) := rfl

theorem importName_ne (vmname : String) : importName vmname ≠ vmname := by
  intro h
  have hlength := congrArg String.length h
  simp [importName] at hlength

/-- **No system gets values of its own**: its name is always that of its disk. -/
theorem import_own_never {r : OpRun J} {vmname ovapath : String} {keepmac : Bool}
    {ostypeid : String} {cpucount memory : Int} {netup : Bool} {basefolder : String}
    (hop : r.op =
      .importVM vmname ovapath keepmac ostypeid cpucount memory netup basefolder)
    {desc : List IVirtualSystemDescription} (hdesc : desc ≠ [])
    (entries : IVirtualSystemDescription → Nat) : ¬OwnValues vmname entries desc r.trace := by
  rintro ⟨hmap, hown⟩
  obtain ⟨⟨d, f⟩, later, hvalues⟩ : ∃ e later, finalValues r.trace = e :: later := by
    refine List.exists_cons_of_ne_nil fun hnil => hdesc ?_
    rw [← hmap, hnil]
    rfl
  obtain ⟨hf, -⟩ := hown [] d f later hvalues
  have hmem : (d, f) ∈ finalValues r.trace := hvalues ▸ List.mem_cons_self
  obtain ⟨e, he, hfe⟩ := List.mem_filterMap.mp hmem
  have honly : ∀ e ∈ r.trace, growing vmname ostypeid cpucount memory netup basefolder e.1 :=
    (only_map (importVM_growing r.fuel vmname ovapath keepmac ostypeid cpucount memory netup
      basefolder)).runs (r.runs_of hop)
  -- what any system gets, it gets with the name that has been appended to
  obtain ⟨k, hk⟩ : ∃ k, f =
      importArrays vmname ostypeid cpucount memory netup basefolder (k + 1) := by
    have he := honly e he
    split at hfe
    · rename_i d' enabled values extra ha
      rw [ha] at he
      cases hfe
      exact he
    · cases hfe
  have hname := hf.name
  rw [hk, importArrays_name] at hname
  exact importName_ne vmname (Option.some.inj hname)

/-! ## An appliance -/

/-- Everything succeeds, the appliance comes with warnings, and it describes some systems. -/
def appliance (warn : List String) (desc : List (COMPtr IVirtualSystemDescription)) :
    Oracle vboxSig := fun h a =>
  match a with
  | .val (.getWarnings _) => .ok warn
  | .val (.virtualSystemDescriptions _) => .ok desc
  | a => calm .PoweredOff h a

abbrev importRun (warn : List String) (desc : List (COMPtr IVirtualSystemDescription)) :
    OpRun .mute :=
  (Op.importVM "vm" "/vm.ova" true "Linux_64" 2 1024 true "/vms").play .mute 3
    (appliance warn desc)

theorem import_own_never_single :
    ¬OwnValues "vm" (fun _ => 15) [⟨0⟩] (importRun [] [some ⟨0⟩]).trace :=
  import_own_never rfl (List.cons_ne_nil _ _) _

/-- The second system is given thirty values, and both are named after their disk. -/
theorem twoSystems_share :
    (finalValues (importRun [] [some ⟨0⟩, some ⟨1⟩]).trace).map
        (fun e => (e.1, e.2.VBoxValues.length, e.2.VBoxValues[nameIndex]?)) =
      [(⟨0⟩, 15, some "vm.vmdk"), (⟨1⟩, 30, some "vm.vmdk")] ∧
    ¬OwnValues "vm" (fun _ => 15) [⟨0⟩, ⟨1⟩]
      (importRun [] [some ⟨0⟩, some ⟨1⟩]).trace := by
  have hvalues : finalValues (importRun [] [some ⟨0⟩, some ⟨1⟩]).trace =
      [(⟨0⟩, importArrays "vm" "Linux_64" 2 1024 true "/vms" 1),
        (⟨1⟩, importArrays "vm" "Linux_64" 2 1024 true "/vms" 2)] := rfl
  unfold OwnValues
  rw [hvalues]
  refine ⟨by decide +kernel, fun h => ?_⟩
  have hsecond := h.2 [(⟨0⟩, importArrays "vm" "Linux_64" 2 1024 true "/vms" 1)]
    ⟨1⟩ _ [] rfl
  have hlength := hsecond.1.enabled
  revert hlength
  decide

/-! ## The loops

Of the loop over the warnings and the release behind it, either is enough to keep the import from
returning. -/

/-- The texts that an execution prints. -/
def printed (t : VbTrace) : List String :=
  t.filterMap fun e => match e.1 with
    | .print text => some text
    | _ => none

/-- The import has got past its loops: it has printed each warning once, in order, and returns. -/
structure PastLoops (warn : List String) (r : OpRun J) : Prop where
  printed : printed r.trace = warn
  returned : ∃ b, r.result = .ok (some b)

/-- **With a warning the import does not end.** The iterator is not advanced. -/
theorem printWarnings_spins {fuel : Nat} {w : String} {warn : List String} {t : VbTrace}
    {o : Except Exit Unit} (h : Runs (printWarnings fuel (w :: warn)) t o) :
    o = .error .spin ∧ printed t = List.replicate fuel w := by
  induction fuel generalizing t with
  | zero =>
    obtain ⟨rfl, rfl⟩ := runs_exit.mp h
    exact ⟨rfl, rfl⟩
  | succ fuel ih =>
    obtain ⟨x, t', rfl, hrest⟩ := runs_call.mp h
    obtain ⟨rfl, hprinted⟩ := ih hrest
    refine ⟨rfl, ?_⟩
    rw [List.replicate_succ, ← hprinted]
    rfl

/-- An import does not return: a machine that is null is released on every way out. -/
theorem importVM_stuck (fuel : Nat) (vmname ovapath : String) (keepmac : Bool)
    (ostypeid : String) (cpucount memory : Int) (netup : Bool) (basefolder : String) :
    Triple (onlyView fun _ => True) (fun _ => True)
      (importVM fuel vmname ovapath keepmac ostypeid cpucount memory netup basefolder)
      (fun _ _ => False) fun _ _ => True := by
  have hany {α : Type} (p : Vb α) : Triple (onlyView fun _ => True) (fun _ => True) p
      (fun _ _ => True) fun _ _ => True :=
    Triple.of_calls (fun _ _ _ _ _ _ => trivial) p.calls_true
  refine Triple.handle (D := fun _ _ => True) ?_ fun e => ?_
  · rintro s -
    simp
    intro app progress code hcode warn
    refine (hany (printWarnings fuel warn)).use trivial (fun _ s _ => ?_) fun _ _ _ => trivial
    simp
    intro desc
    refine (hany (setImportValues vmname ostypeid cpucount memory netup basefolder desc)).use
      trivial (fun _ s _ => ?_) fun _ _ _ => trivial
    simp
    exact fun p => (hany (pollCompleted fuel (some p))).use trivial (fun _ _ _ => trivial)
      fun _ _ _ => trivial
  · cases e with
    | threw err => exact (hany (reportError fuel err)).bind fun _ => Triple.exit fun _ _ => trivial
    | nullUse => exact Triple.exit fun _ _ => trivial
    | noReturn => exact Triple.exit fun _ _ => trivial
    | spin => exact Triple.exit fun _ _ => trivial

/-- **No import gets past its loops**, however many warnings and systems there are, and however
the import ends: none returns. -/
theorem import_past_never {r : OpRun J} {vmname ovapath : String} {keepmac : Bool}
    {ostypeid : String} {cpucount memory : Int} {netup : Bool} {basefolder : String}
    (hop : r.op =
      .importVM vmname ovapath keepmac ostypeid cpucount memory netup basefolder)
    (warn : List String) : ¬PastLoops warn r := by
  rintro ⟨-, b, hb⟩
  have hstuck := importVM_stuck r.fuel vmname ovapath keepmac ostypeid cpucount memory netup
    basefolder
  have hout := (triple_some hstuck).runs (s := True) trivial (r.runs_of hop) (onlyView_admits _ _)
  rw [hb] at hout
  obtain ⟨_, -, hfalse⟩ := hout
  exact hfalse

theorem import_past_never_quiet : ¬PastLoops [] (importRun [] [some ⟨0⟩]) :=
  import_past_never rfl []

/-- Without a warning a null machine is released; with one, the loop prints it over and over. -/
theorem import_stuck :
    (importRun [] [some ⟨0⟩]).result = .error .nullUse ∧
    (importRun ["disk missing", "no network"] [some ⟨0⟩]).result = .error .spin ∧
    printed (importRun ["disk missing", "no network"] [some ⟨0⟩]).trace =
      ["disk missing", "disk missing", "disk missing"] ∧
    ¬PastLoops [] (importRun [] [some ⟨0⟩]) := by
  refine ⟨rfl, rfl, rfl, fun h => ?_⟩
  obtain ⟨b, hb⟩ := h.returned
  cases hb

end VirtCore.QiVCA
