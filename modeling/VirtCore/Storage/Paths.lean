import VirtCore.VBox.Calm
import VirtCore.VBox.Only
import VirtCore.Operation

/-!
# VirtCore — the files of hard disks

`makeFloatDisk`, `addDiskToVm` and `createVMfromISO` each build the path of a hard disk's file
from a folder, a name and a format. A file is identified here with the location that is handed to
libvbox, as a string: what VirtualBox makes of it, and which strings name one file to the system, is
not followed.

* **`append_cons_inj_of_last`** — the part behind the last separator is determined.
* **`diskPath_inj`** — for names without a separator the path determines all three.
* **`Op.diskFile`** / **`op_diskFiles`** — the one file that each operation names.
* **`disk_files_agree`** — what follows for executions.
-/

namespace VirtCore


open Interact QiVCA

variable {J : Jsoncpp}

/-! ## Paths

A path is a folder, a name and a suffix. Two of them agree where all parts do, unless a part has a
separator in it. -/

/-- What comes behind the last separator is determined by the whole. -/
theorem append_cons_inj_of_last {A : Type} {s : A} {xs xs' ys ys' : List A} (hy : s ∉ ys)
    (hy' : s ∉ ys') (h : xs ++ s :: ys = xs' ++ s :: ys') : xs = xs' ∧ ys = ys' := by
  rcases List.append_eq_append_iff.mp h with ⟨zs, rfl, hzs⟩ | ⟨zs, rfl, hzs⟩
  · cases zs with
    | nil =>
      rw [List.nil_append, List.cons.injEq] at hzs
      exact ⟨(List.append_nil xs).symm, hzs.2⟩
    | cons z zs =>
      obtain ⟨-, rfl⟩ := List.cons.inj hzs
      exact absurd (List.mem_append_right zs List.mem_cons_self) hy
  · cases zs with
    | nil =>
      rw [List.nil_append, List.cons.injEq] at hzs
      exact ⟨List.append_nil xs', hzs.2.symm⟩
    | cons z zs =>
      obtain ⟨-, rfl⟩ := List.cons.inj hzs
      exact absurd (List.mem_append_right zs List.mem_cons_self) hy'

/-- The three operations build the same path. -/
theorem diskPath_agree (name diskformat basefolder : String) :
    addDiskToVmPath name diskformat basefolder = makeFloatDiskPath name diskformat basefolder ∧
      createVMfromISOPath name diskformat basefolder =
        makeFloatDiskPath name diskformat basefolder :=
  ⟨rfl, rfl⟩

/-- The suffix that stands for a format. -/
def diskSuffix (diskformat : String) : Option String :=
  if strcmpEq diskformat "VDI" then some ".vdi"
  else if strcmpEq diskformat "VHD" then some ".vhd"
  else if strcmpEq diskformat "VMDK" then some ".vmdk"
  else none

theorem makeFloatDiskPath_eq (name diskformat basefolder : String) :
    makeFloatDiskPath name diskformat basefolder = (diskSuffix diskformat).map fun suffix =>
      basefolder ++ "/" ++ name ++ "/" ++ name ++ suffix := by
  unfold makeFloatDiskPath diskSuffix
  split
  · rfl
  split
  · rfl
  split <;> rfl

/-- The suffixes of the three formats differ, and have no separator. -/
theorem diskSuffix_inj {fmt fmt' suffix : String} (hfmt : fmt ∈ mediaType)
    (hfmt' : fmt' ∈ mediaType) (h : diskSuffix fmt = some suffix)
    (h' : diskSuffix fmt' = some suffix) : fmt = fmt' := by
  have hvdi : diskSuffix "VDI" = some ".vdi" := by decide +kernel
  have hvhd : diskSuffix "VHD" = some ".vhd" := by decide +kernel
  have hvmdk : diskSuffix "VMDK" = some ".vmdk" := by decide +kernel
  simp only [mediaType, List.mem_cons, List.not_mem_nil, or_false] at hfmt hfmt'
  rcases hfmt with rfl | rfl | rfl <;> rcases hfmt' with rfl | rfl | rfl <;>
    simp_all

theorem diskSuffix_sep {fmt suffix : String} (h : diskSuffix fmt = some suffix) :
    '/' ∉ suffix.toList := by
  unfold diskSuffix at h
  split at h
  · cases h
    decide
  split at h
  · cases h
    decide
  split at h
  · cases h
    decide
  · cases h

/-- **The path of a disk determines its folder, its name and its format.** -/
theorem diskPath_inj {folder folder' name name' fmt fmt' path : String}
    (hname : '/' ∉ name.toList)
    (hname' : '/' ∉ name'.toList) (hpath : makeFloatDiskPath name fmt folder = some path)
    (hpath' : makeFloatDiskPath name' fmt' folder' = some path) :
    folder = folder' ∧ name = name' ∧ diskSuffix fmt = diskSuffix fmt' := by
  rw [makeFloatDiskPath_eq, Option.map_eq_some_iff] at hpath hpath'
  obtain ⟨suffix, hsuffix, rfl⟩ := hpath
  obtain ⟨suffix', hsuffix', heq⟩ := hpath'
  have hlist : (folder'.toList ++ '/' :: name'.toList) ++ '/' :: (name'.toList ++ suffix'.toList) =
      (folder.toList ++ '/' :: name.toList) ++ '/' :: (name.toList ++ suffix.toList) := by
    simpa [String.toList_append] using congrArg String.toList heq
  have hsep : '/' ∉ name.toList ++ suffix.toList :=
    fun h => (List.mem_append.mp h).elim hname (diskSuffix_sep hsuffix)
  have hsep' : '/' ∉ name'.toList ++ suffix'.toList :=
    fun h => (List.mem_append.mp h).elim hname' (diskSuffix_sep hsuffix')
  obtain ⟨hfront, hfile⟩ := append_cons_inj_of_last hsep' hsep hlist
  obtain ⟨hfolder, hnames⟩ := append_cons_inj_of_last hname' hname hfront
  rw [hnames, List.append_cancel_left_eq] at hfile
  refine ⟨(String.toList_inj.mp hfolder).symm, (String.toList_inj.mp hnames).symm, ?_⟩
  rw [hsuffix, hsuffix', String.toList_inj.mp hfile]

/-! ## Executions

The location that is handed to a call that makes or opens a disk is the one that the operation
builds. -/

/-- The file of a hard disk that a call creates or opens. -/
def diskFile : Act → Option String
  | .ptr (.createMedium _ location _ .HardDisk) => some location
  | .ptr (.openMedium location .HardDisk _ _) => some location
  | _ => none

/-- What an operation that builds a path builds: for an unknown format there is none. -/
def Op.diskPath : Op → Option (Option String)
  | .makeFloatDisk n fmt bf _ => some (makeFloatDiskPath n fmt bf)
  | .addDiskToVm _ d fmt _ bf _ => some (addDiskToVmPath d fmt bf)
  | .createVMfromISO n _ _ _ bf _ _ fmt _ _ => some (createVMfromISOPath n fmt bf)
  | _ => none

/-- The files of hard disks that an execution creates or opens. -/
def diskFiles (t : VbTrace) : List String := t.filterMap fun e => diskFile e.1

/-- A call that names no other file of a hard disk than `path`. -/
def namesFile (path : Option String) : Act → Prop
  | .ptr (.createMedium _ location _ .HardDisk) => path = some location
  | .ptr (.openMedium location .HardDisk _ _) => path = some location
  | _ => True

/-- A program that names no other file of a hard disk than `path`. -/
abbrev NamesFile {α : Type} (path : Option String) (p : Vb α) : Prop := Only (namesFile path) p

attribute [simp] namesFile

theorem diskFile_of_namesFile {path : Option String} {a : Act} {file : String}
    (h : namesFile path a) (hfile : diskFile a = some file) : path = some file := by
  unfold diskFile at hfile
  split at hfile
  · exact Option.some.inj hfile ▸ h
  · exact Option.some.inj hfile ▸ h
  · cases hfile

theorem reporting_namesFile {path : Option String} (a : Act) (ha : Reporting a) :
    namesFile path a := by
  cases a <;> first | exact ha.elim | trivial | skip
  case ptr c => cases c <;> first | exact ha.elim | trivial

section

variable (fuel : Nat)

theorem pollCompleted_namesFile {path : Option String} (progress : COMPtr IProgress) :
    NamesFile path (pollCompleted fuel progress) :=
  only_pollCompleted (by simp) fuel progress

theorem makeFloatDisk_namesFile (n fmt bf : String) (size : Int) :
    NamesFile (makeFloatDiskPath n fmt bf) (makeFloatDisk fuel n fmt bf size) := by
  unfold makeFloatDisk
  cases hpath : makeFloatDiskPath n fmt bf with
  | none => exact only_of (by simp)
  | some path =>
    refine only_of ?_
    simp
    exact fun disk p => (pollCompleted_namesFile fuel _).seq (by simp) (by simp)

theorem attachDisk_namesFile {path : Option String} (m : COMPtr IMachine)
    (ctl : COMPtr IStorageController) (slot : Int) (disk : COMPtr IMedium) (full : String) :
    NamesFile path (attachDisk fuel m ctl slot disk full) := by
  refine only_catchCOM (only_of (by cases ctl <;> cases m <;> simp)) fun err =>
    only_bind (only_reportError reporting_namesFile fuel err) fun described => only_of ?_
  cases described <;> cases m <;> simp

theorem addDiskToVm_namesFile (n d fmt c bf : String) (slot : Int) :
    NamesFile (addDiskToVmPath d fmt bf) (addDiskToVm fuel n d fmt c bf slot) := by
  unfold addDiskToVm
  split
  · exact only_of (by simp)
  cases hpath : addDiskToVmPath d fmt bf with
  | none => exact only_of (by simp)
  | some path =>
    refine only_of ?_
    simp
    refine fun machine session m disk _ => ⟨?_, fun ctl => ?_⟩
    all_goals
      refine (attachDisk_namesFile fuel (some m) _ slot _ _).seq (fun r => ?_) (by simp)
      cases r <;> simp

theorem installISODevices_namesFile {path : Option String} (session : COMPtr ISession)
    (m : COMPtr IMachine) (disk : COMPtr IMedium) (iso bus : String) :
    NamesFile path (installISODevices session m disk iso bus) := by
  refine only_of ?_
  cases h : storageBusOf bus <;> cases session <;> cases m <;>
    simp [installISODevices, addBusController, h]

theorem installISO_namesFile (n os : String) (cpu mem : Int) (bf : String) (size : Int)
    (iso fmt bus : String) (fix : Bool) :
    NamesFile (createVMfromISOPath n fmt bf)
      (installISO n os cpu mem bf size iso fmt bus fix) := by
  refine only_of ?_
  cases hpath : createVMfromISOPath n fmt bf with
  | none => simp [installISO, hpath]
  | some path =>
    simp [installISO, hpath]
    exact fun session m disk =>
      installISODevices_namesFile _ _ _ iso bus _ trivial

theorem createVMfromISO_namesFile (n os : String) (cpu mem : Int) (bf : String) (size : Int)
    (iso fmt bus : String) (fix : Bool) :
    NamesFile (createVMfromISOPath n fmt bf)
      (createVMfromISO fuel n os cpu mem bf size iso fmt bus fix) := by
  refine only_tryReport reporting_namesFile
    (only_bind (only_forEach fun iter _ => ?_) fun _ => only_ret _)
  split
  · refine only_forEach fun iter_l _ => ?_
    split
    · exact installISO_namesFile n os cpu mem bf size iso fmt bus fix
    · exact only_ret _
  · exact only_ret _

end

/-- **The one file of a hard disk that an operation names** is the path that it builds. -/
theorem op_diskFiles {r : OpRun J} {path : Option String} {file : String}
    (hop : r.op.diskPath = some path) (hfile : file ∈ diskFiles r.trace) : path = some file := by
  obtain ⟨e, he, hfile⟩ := List.mem_filterMap.mp hfile
  have honly : NamesFile path (r.op.prog J r.fuel) := by
    cases hr : r.op <;> rw [hr] at hop <;> cases hop
    · exact only_map (makeFloatDisk_namesFile _ _ _ _ _)
    · exact only_map (addDiskToVm_namesFile _ _ _ _ _ _ _)
    · exact only_map (createVMfromISO_namesFile _ _ _ _ _ _ _ _ _ _ _)
  exact diskFile_of_namesFile (honly.runs r.runs e he) hfile

/-- **The three paths agree, and disks are not mixed up.**

* The three operations accept the same formats and build the same path.
* `addDiskToVm` opens the file that `makeFloatDisk` has created for the same folder, name and
  format.
* For names without a separator and the formats of `mediaType` the path determines all three.
* So a floating disk shares a file with the disk that `createVMfromISO` makes in the same folder
  only under the name of the machine. -/
theorem disk_files_agree :
    (∀ name fmt folder, addDiskToVmPath name fmt folder = makeFloatDiskPath name fmt folder ∧
      createVMfromISOPath name fmt folder = makeFloatDiskPath name fmt folder) ∧
    (∀ (r r' : OpRun J) vm name fmt ctl folder size slot,
      r.op = .makeFloatDisk name fmt folder size →
      r'.op = .addDiskToVm vm name fmt ctl folder slot →
      ∀ p ∈ diskFiles r.trace, ∀ q ∈ diskFiles r'.trace, q = p) ∧
    (∀ folder folder' name name' fmt fmt' path, '/' ∉ name.toList → '/' ∉ name'.toList →
      fmt ∈ mediaType → fmt' ∈ mediaType → makeFloatDiskPath name fmt folder = some path →
      makeFloatDiskPath name' fmt' folder' = some path →
      folder = folder' ∧ name = name' ∧ fmt = fmt') ∧
    ∀ (r r' : OpRun J) name fmt folder size vm os cpu mem isosize iso fmt' bus fix,
      r.op = .makeFloatDisk name fmt folder size →
      r'.op = .createVMfromISO vm os cpu mem folder isosize iso fmt' bus fix →
      '/' ∉ name.toList → '/' ∉ vm.toList →
      (∃ p ∈ diskFiles r.trace, p ∈ diskFiles r'.trace) → name = vm := by
  refine ⟨diskPath_agree, ?_, ?_, ?_⟩
  · intro r r' vm name fmt ctl folder size slot hop hop' p hp q hq
    -- both name the file of the same path
    have hmade := op_diskFiles (congrArg Op.diskPath hop) hp
    have hopened := op_diskFiles (congrArg Op.diskPath hop') hq
    rw [(diskPath_agree name fmt folder).1, hmade] at hopened
    exact (Option.some.inj hopened).symm
  · intro folder folder' name name' fmt fmt' path hname hname' hfmt hfmt' hpath hpath'
    -- the folder and the name end at the last slash, and the suffix tells the format
    obtain ⟨rfl, rfl, hsuffix⟩ := diskPath_inj hname hname' hpath hpath'
    rw [makeFloatDiskPath_eq, Option.map_eq_some_iff] at hpath
    obtain ⟨suffix, hfound, -⟩ := hpath
    exact ⟨rfl, rfl, diskSuffix_inj hfmt hfmt' hfound (hsuffix ▸ hfound)⟩
  · rintro r r' name fmt folder size vm os cpu mem isosize iso fmt' bus fix hop hop' hname hvm
      ⟨p, hp, hp'⟩
    -- one file is named by both, so that both paths are the same
    have hdisk := op_diskFiles (congrArg Op.diskPath hop) hp
    have hsystem := op_diskFiles (congrArg Op.diskPath hop') hp'
    rw [(diskPath_agree vm fmt' folder).2] at hsystem
    exact (diskPath_inj hname hvm hdisk hsystem).2.1

/-- The disk `d` is made, and attached to a machine. -/
abbrev makeDisk : OpRun .mute :=
  (Op.makeFloatDisk "d" "VDI" "/vms" 32).play .mute 1 (calm .PoweredOff)

abbrev attachMade : OpRun .mute :=
  (Op.addDiskToVm "vm" "d" "VDI" "SATA" "/vms" 1).play .mute 1 (calm .PoweredOff)

theorem disk_files_agree_once :
    diskFiles makeDisk.trace = ["/vms/d/d.vdi"] ∧
      ∀ q ∈ diskFiles attachMade.trace, q = "/vms/d/d.vdi" := by
  have hmade : diskFiles makeDisk.trace = ["/vms/d/d.vdi"] := by decide +kernel
  refine ⟨hmade, ?_⟩
  refine disk_files_agree.2.1 makeDisk attachMade "vm" "d" "VDI" "SATA" "/vms" 32 1 rfl rfl _ ?_
  rw [hmade]
  exact List.mem_singleton_self _

end VirtCore
