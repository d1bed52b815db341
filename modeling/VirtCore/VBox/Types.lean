/-!
# VirtCore — the VirtualBox types the service handles

The enumerations of `VCA`/`VBox`, the interface pointers of libvbox and its exception.

* An interface pointer is the object it points to: `COMPtr` is `Option`, and the handle of
  an object that belongs to another says so (a network adapter carries its machine and its
  slot), so that two pointers to the same object are equal.
* `std::string` and `std::u16string` are both `String`. Request strings are valid UTF-8
  and VirtualBox strings well-formed UTF-16; between those `vca_toCode::to_utf16` and
  `to_utf8` are mutually inverse transcodings and are not written out.
-/

namespace VirtCore

/-! ## Enumerations

Those of libvbox, with the enumerators that the service uses. The state of a machine is the only
one that is shown as a number. -/

/-- All states, in the order of their numbers. -/
inductive MachineState where
  | Null | PoweredOff | Saved | Teleported | Aborted | Running | Paused | Stuck | Teleporting
  | LiveSnapshotting | Starting | Stopping | Saving | Restoring | TeleportingPausedVM
  | TeleportingIn | FaultTolerantSyncing | DeletingSnapshotOnline | DeletingSnapshotPaused
  | OnlineSnapshotting | RestoringSnapshot | DeletingSnapshot | SettingUp | Snapshotting
  deriving DecidableEq, Repr

/-- The numeric value of a machine state (`static_cast<int>`). -/
def MachineState.toInt (st : MachineState) : Int := st.ctorIdx

/-- A session locks a machine for writing or shares the lock. -/
inductive LockType where
  | Shared | Write
  deriving DecidableEq, Repr

/-- What can be attached. -/
inductive DeviceType where
  | DVD | HardDisk
  deriving DecidableEq, Repr

/-- How a medium is opened. -/
inductive AccessMode where
  | ReadOnly | ReadWrite
  deriving DecidableEq, Repr

/-- How a disk is made: growing, or at its full size. -/
inductive MediumVariant where
  | Standard | Fixed
  deriving DecidableEq, Repr

/-- The bus of a storage controller. -/
inductive StorageBus where
  | IDE | SATA | SCSI | Floppy | SAS | USB | PCIe
  deriving DecidableEq, Repr

/-- What is deleted with a machine. -/
inductive CleanupMode where
  | UnregisterOnly | DetachAllReturnNone | DetachAllReturnHardDisksOnly | Full
  deriving DecidableEq, Repr

/-- What a network adapter is attached to. -/
inductive NetworkAttachmentType where
  | Null | NAT | Bridged | Internal | HostOnly | Generic | NATNetwork
  deriving DecidableEq, Repr

/-- The graphics controllers. -/
inductive GraphicsControllerType where
  | VBoxVGA | VMSVGA | VBoxSVGA
  deriving DecidableEq, Repr

/-- What of a machine is cloned. -/
inductive CloneMode where
  | MachineState | AllStates
  deriving DecidableEq, Repr

/-- Which names and numbers a clone keeps. -/
inductive CloneOptions where
  | Link | KeepAllMACs | KeepDiskNames | KeepHwUUIDs
  deriving DecidableEq, Repr

/-- The options of an export. -/
inductive ExportOptions where
  | CreateManifest | ExportDVDImages | StripAllMACs
  deriving DecidableEq, Repr

/-- And those of an import. -/
inductive ImportOptions where
  | KeepAllMACs | ImportToVDI
  deriving DecidableEq, Repr

/-- The properties of hardware virtualisation. -/
inductive HWVirtExPropertyType where
  | NestedPaging
  deriving DecidableEq, Repr

/-- Where a recording goes. -/
inductive RecordingDestination where
  | File
  deriving DecidableEq, Repr

/-- The codec of its pictures. -/
inductive RecordingVideoCodec where
  | AV1
  deriving DecidableEq, Repr

/-- The codec of its sound. -/
inductive RecordingAudioCodec where
  | WavPCM
  deriving DecidableEq, Repr

/-- The sound cards. -/
inductive AudioControllerType where
  | AC97
  deriving DecidableEq, Repr

/-- The drivers of the host. -/
inductive AudioDriverType where
  | ALSA
  deriving DecidableEq, Repr

/-- The USB controllers, which differ in their generation. -/
inductive USBControllerType where
  | EHCI | XHCI
  deriving DecidableEq, Repr

/-! ## Interface pointers

A number stands for an object that libvbox hands out. What can be told from the calls that led to
an object is part of it: a console knows its session, an adapter its machine and its slot. -/

/-- `VBox::COMPtr`: `none` is the null pointer. -/
abbrev COMPtr (Ifc : Type) : Type := Option Ifc

/-- Made by the operation itself. -/
structure ISession where
  ref : Nat
  deriving DecidableEq, Repr

/-- Which object of a virtual machine an `IMachine` pointer reaches: the machine VirtualBox
knows, the mutable copy of a session that holds the lock, or the machine of a snapshot. -/
inductive MachineView where
  | host
  | mutable (session : ISession)
  | snapshot (ref : Nat)
  deriving DecidableEq, Repr

/-- A machine, and how it is looked at. -/
structure IMachine where
  vm : Nat
  view : MachineView
  deriving DecidableEq, Repr

/-- The console of the machine that a session has locked. -/
structure IConsole where
  session : ISession
  deriving DecidableEq, Repr

/-- A task that VirtualBox carries out meanwhile. -/
structure IProgress where
  ref : Nat
  deriving DecidableEq, Repr

/-- A disk or an image. -/
structure IMedium where
  ref : Nat
  deriving DecidableEq, Repr

/-- An entry in the list of what is attached. -/
structure IMediumAttachment where
  ref : Nat
  deriving DecidableEq, Repr

/-- The controllers of a machine. -/
structure IStorageController where
  machine : IMachine
  ref : Nat
  deriving DecidableEq, Repr

/-- One of the network adapters of a machine. -/
structure INetworkAdapter where
  machine : IMachine
  slot : Nat
  deriving DecidableEq, Repr

/-- One of the snapshots of a machine. -/
structure ISnapshot where
  vm : Nat
  ref : Nat
  deriving DecidableEq, Repr

/-- The remote display of a machine. -/
structure IVRDEServer where
  machine : IMachine
  deriving DecidableEq, Repr

/-- What the remote display says of a running machine. -/
structure IVRDEServerInfo where
  console : IConsole
  deriving DecidableEq, Repr

/-- The recording settings of a machine. -/
structure IRecordingSettings where
  machine : IMachine
  deriving DecidableEq, Repr

/-- And those of one of its screens. -/
structure IRecordingScreenSettings where
  machine : IMachine
  screen : Nat
  deriving DecidableEq, Repr

/-- A USB controller. -/
structure IUSBController where
  ref : Nat
  deriving DecidableEq, Repr

/-- The sound card of a machine. -/
structure IAudioAdapter where
  machine : IMachine
  deriving DecidableEq, Repr

/-- One of the serial ports of a machine. -/
structure ISerialPort where
  machine : IMachine
  slot : Nat
  deriving DecidableEq, Repr

/-- An appliance that is being written or read. -/
structure IAppliance where
  ref : Nat
  deriving DecidableEq, Repr

/-- The description of one machine within it. -/
structure IVirtualSystemDescription where
  ref : Nat
  deriving DecidableEq, Repr

/-- The error information that libvbox keeps. -/
structure COMErrorInfo where
  ref : Nat
  deriving DecidableEq, Repr

/-- An error of VirtualBox, which may have a next one. -/
structure IVirtualBoxErrorInfo where
  ref : Nat
  deriving DecidableEq, Repr

/-- The objects on which the service calls `Release()` by hand. -/
inductive Released where
  | virtualBox
  | virtualBoxClient
  | machine (machine : IMachine)
  | medium (medium : IMedium)
  deriving DecidableEq, Repr

/-! ## The exception

`COMError` is the only exception that the operations catch. -/

/-- `VBox::COMError`, thrown by every libvbox call whose result code is a failure. -/
structure COMError where
  errorCode : Nat
  deriving DecidableEq, Repr

/-! ## There are objects of every kind

What holds of every object of a kind and does not depend on it, holds. -/

instance : Nonempty MachineState := ⟨.PoweredOff⟩
instance : Nonempty NetworkAttachmentType := ⟨.Null⟩
instance : Nonempty ISession := ⟨⟨0⟩⟩
instance : Nonempty IMachine := ⟨⟨0, .host⟩⟩
instance : Nonempty IConsole := ⟨⟨⟨0⟩⟩⟩
instance : Nonempty IProgress := ⟨⟨0⟩⟩
instance : Nonempty IMedium := ⟨⟨0⟩⟩
instance : Nonempty IMediumAttachment := ⟨⟨0⟩⟩
instance : Nonempty IStorageController := ⟨⟨⟨0, .host⟩, 0⟩⟩
instance : Nonempty INetworkAdapter := ⟨⟨⟨0, .host⟩, 0⟩⟩
instance : Nonempty ISnapshot := ⟨⟨0, 0⟩⟩
instance : Nonempty IVRDEServer := ⟨⟨⟨0, .host⟩⟩⟩
instance : Nonempty IVRDEServerInfo := ⟨⟨⟨⟨0⟩⟩⟩⟩
instance : Nonempty IRecordingSettings := ⟨⟨⟨0, .host⟩⟩⟩
instance : Nonempty IRecordingScreenSettings := ⟨⟨⟨0, .host⟩, 0⟩⟩
instance : Nonempty IUSBController := ⟨⟨0⟩⟩
instance : Nonempty IAudioAdapter := ⟨⟨⟨0, .host⟩⟩⟩
instance : Nonempty ISerialPort := ⟨⟨⟨0, .host⟩, 0⟩⟩
instance : Nonempty IAppliance := ⟨⟨0⟩⟩
instance : Nonempty IVirtualSystemDescription := ⟨⟨0⟩⟩
instance : Nonempty COMErrorInfo := ⟨⟨0⟩⟩
instance : Nonempty IVirtualBoxErrorInfo := ⟨⟨0⟩⟩
instance : Nonempty COMError := ⟨⟨0⟩⟩

/-- The result codes that `COMError::raise` throws under a class of their own. -/
def COMError.names : List (Nat × String) :=
  [(0x80004001, "E_NOTIMPL"), (0x80004003, "E_POINTER"), (0x80004004, "E_ABORT"),
   (0x80004005, "E_FAIL"), (0x80070005, "E_ACCESSDENIED"), (0x8007000E, "E_OUTOFMEMORY"),
   (0x80070057, "E_INVALIDARG"), (0x8000FFFF, "E_UNEXPECTED"),
   (0x80BB0001, "E_OBJECT_NOT_FOUND"), (0x80BB0002, "E_INVALID_VM_STATE"),
   (0x80BB0003, "E_VM_ERROR"), (0x80BB0004, "E_FILE_ERROR"), (0x80BB0005, "E_IPRT_ERROR"),
   (0x80BB0006, "E_PDM_ERROR"), (0x80BB0007, "E_INVALID_OBJECT_STATE"),
   (0x80BB0008, "E_HOST_ERROR"), (0x80BB0009, "E_NOT_SUPPORTED"), (0x80BB000A, "E_XML_ERROR"),
   (0x80BB000B, "E_INVALID_SESSION_STATE"), (0x80BB000C, "E_OBJECT_IN_USE"),
   (0x80BB000D, "E_PASSWORD_INCORRECT"), (0x80BB000E, "E_MAXIMUM_REACHED"),
   (0x80BB000F, "E_GSTCTL_GUEST_ERROR"), (0x80BB0010, "E_TIMEOUT")]

/-- `COMError::what()`: `COM Error %#x`, with the name of a known result code. -/
def COMError.what (err : COMError) : String :=
  let hex := String.ofList (Nat.toDigits 16 err.errorCode)
  match COMError.names.lookup err.errorCode with
  | some name => "COM Error 0x" ++ hex ++ ": " ++ name
  | none => "COM Error 0x" ++ hex

/-! ## Conversions of the language

What C++ does where a value is passed on as another type, and the parts of its library that the
operations use. -/

/-- The conversion of an `int` to `uint32_t`. -/
def uint32 (n : Int) : Nat := (n % 4294967296).toNat

/-- The conversion of a `uint32_t` to `int`. -/
def int32 (n : Nat) : Int := if n < 2147483648 then n else (n : Int) - 4294967296

/-- The characters of a string up to its first NUL, as `c_str()` shows them to C. -/
def cstr (s : String) : List Char := s.toList.takeWhile (· ≠ '\x00')

/-- `strcmp(a, b) == 0`. -/
def strcmpEq (a b : String) : Bool := cstr a == cstr b

/-- A value of `Json::Value`, as far as the service builds them. -/
inductive Json where
  | null
  | int (n : Int)
  | string (s : String)
  | array (elems : List Json)
  | object (members : List (String × Json))

/-- `Json::Value::append`: a null value becomes an array first. -/
def Json.append : Json → Json → Json
  | .array elems, x => .array (elems ++ [x])
  | .null, x => .array [x]
  | v, _ => v

/-- The writers of jsoncpp, which is not part of the repository. -/
structure Jsoncpp where
  toStyledString : Json → String
  write : Json → String

/-- `std::map::insert`: a key that is present keeps its value. -/
def mapInsert {V : Type} (m : List (String × V)) (key : String) (value : V) :
    List (String × V) :=
  match m.lookup key with
  | some _ => m
  | none => m ++ [(key, value)]

/-- A new key comes last. -/
theorem mapInsert_new {V : Type} {m : List (String × V)} {key : String} {value : V}
    (h : ∀ e ∈ m, e.1 ≠ key) : mapInsert m key value = m ++ [(key, value)] := by
  have hlookup : m.lookup key = none := by
    rw [List.lookup_eq_none_iff]
    intro e he
    simpa using (h e he).symm
  rw [mapInsert, hlookup]

/-- `vca_toCode::mapTojsonstr`: a default `Json::Value` filled member by member, so the empty
map is written as null. -/
def Jsoncpp.mapTojsonstr (J : Jsoncpp) {V : Type} (value : V → Json) :
    List (String × V) → String
  | [] => J.toStyledString .null
  | m => J.toStyledString (.object (m.map fun e => (e.1, value e.2)))

end VirtCore
