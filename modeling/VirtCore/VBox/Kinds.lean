import VirtCore.VBox.Call

/-!
# VirtCore — kinds of answers

The answers at which operations turn off their main path, as predicates on answered calls. The
tables of the later modules are put together from them.
-/

namespace VirtCore

/-- A call was answered with a `COMError`. -/
def threwError : (a : Act) → a.Ans → Prop
  | .cmd _, .error _ => True
  | .ptr _, .error _ => True
  | .val _, .error _ => True
  | _, _ => False

/-- A call that is not `fine` was answered with a null pointer. -/
def nullUnless (fine : PtrCall → Prop) : (a : Act) → a.Ans → Prop
  | .ptr c, .ok none => ¬fine c
  | _, _ => False

/-- `getNetworkAdapter` found no adapter. -/
def noAdapter : (a : Act) → a.Ans → Prop
  | .ptr (.getNetworkAdapter ..), .ok none => True
  | _, _ => False

/-- A session that is null. -/
def noSession : (a : Act) → a.Ans → Prop
  | .ptr .session, .ok none => True
  | _, _ => False

/-- A session without a mutable machine. -/
def noMutable : (a : Act) → a.Ans → Prop
  | .ptr (.sessionMachine _), .ok none => True
  | _, _ => False

/-- A medium that does not open. -/
def noMedium : (a : Act) → a.Ans → Prop
  | .ptr (.openMedium ..), .ok none => True
  | _, _ => False

/-- A medium that opens. -/
def openedMedium : (a : Act) → a.Ans → Prop
  | .ptr (.openMedium ..), .ok (some _) => True
  | _, _ => False

/-- A storage controller that is not added. -/
def noController : (a : Act) → a.Ans → Prop
  | .ptr (.addStorageController ..), .ok none => True
  | _, _ => False

/-- A medium without a parent. -/
def noParent : (a : Act) → a.Ans → Prop
  | .ptr (.mediumParent _), .ok none => True
  | _, _ => False

/-- A list of attachments with a null pointer in it. -/
def nullAttachment : (a : Act) → a.Ans → Prop
  | .val (.getMediumAttachmentsOfController ..), .ok l => none ∈ l
  | _, _ => False

/-- A machine in one of the states. -/
def stateIn (states : List MachineState) : (a : Act) → a.Ans → Prop
  | .val (.state _), .ok st => st ∈ states
  | _, _ => False

/-- A remote display that is not active. -/
def inactive : (a : Act) → a.Ans → Prop
  | .val (.active _), .ok b => b = false
  | _, _ => False

/-- The errors that the `try` inside `addDiskToVm` catches. -/
def attachError : (a : Act) → a.Ans → Prop
  | .val (.controllerName _), .error _ => True
  | .cmd (.attachDevice ..), .error _ => True
  | .cmd (.setHotPluggableForDevice ..), .error _ => True
  | _, _ => False

/-- The errors that the `try` inside `detachDiskFromVm` catches. -/
def detachError : (a : Act) → a.Ans → Prop
  | .val (.controllerName _), .error _ => True
  | .cmd (.detachDevice ..), .error _ => True
  | _, _ => False

/-- There is no information about the current error. -/
def noErrorInfo : (a : Act) → a.Ans → Prop
  | .currentError, none => True
  | _, _ => False

/-- The current error has a description. -/
def describedError : (a : Act) → a.Ans → Prop
  | .ptr (.queryVirtualBoxErrorInfo _), .ok (some _) => True
  | _, _ => False

attribute [simp] threwError nullUnless noAdapter noSession noMutable noMedium openedMedium
  noController noParent nullAttachment stateIn inactive attachError detachError noErrorInfo
  describedError

end VirtCore
