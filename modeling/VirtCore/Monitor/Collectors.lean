import VirtCore.Python.Objects

/-!
# VirtCore — `Monitor`

The monitor of the host: eleven functions of Python return a dict each, and eleven collectors of
`vca_monitorHook.cpp` copy them into maps, which `getHostInfo` puts into one array.

* **`Outcome`** — what looking up and calling a function of Python gives.
* **`collect`** — the body that ten of the collectors share; `getHostNetCount` has its own.
* **`mapTojsonstr`** — a map read back and written.
* **`getHostInfo`** — all of them in order.
* **`Collector`** — their names, what each takes from its dict, and what its failure is called.
-/

namespace VirtCore

open Python

/-- What `PyObject_GetAttrString` and `PyEval_CallObject` give for a function of Python. -/
inductive Outcome where
  | missing
  | notCallable
  | raised
  | noDict
  | dict (d : Dict)

/-- A map that a collector has filled, and the objects of Python as it returns. -/
structure Collected where
  memory : Memory
  entries : List (CharPtr × CharPtr)

/-- `strcpy` into an array of the stack. -/
def Python.Stack.strcpy (stack : Stack) (c : Nat) (s : String) : Stack :=
  fun i => if i = c then some s else stack i

namespace Monitor

/-! ## The collectors

Each has a script, the names in its dict and its own way of taking them apart. -/

/-- The body of ten collectors. They differ in the array that the code goes to, the number of items
they ask for, and the names of those that they take. -/
def collect (c size : Nat) (names : List String) (o : Outcome) (stack : Stack) :
    Except Fault (Option Collected × Stack) :=
  match o with
  -- `if (!pFunc || …) Py_DECREF(pFunc)`
  | .missing => .error .nullDecref
  | .notCallable => .ok (none, stack)
  -- `if (nullptr == pDict) Py_DECREF(pDict)`
  | .raised => .error .nullDecref
  | .noDict => .ok (none, stack)
  | .dict d =>
    if size ≠ PyDict_Size d then .ok (none, stack)
    else
      match PyArg_Parse_i d (PyDict_GetItemString d "code") with
      | none => .error .unsetRead
      | some code =>
        -- `char cc[10]; sprintf(cc, "%d", code)`
        if 10 < (toString code).length + 1 then .error .overflow
        else
          -- the pointers are kept, and the dict is released
          .ok (some ⟨Py_DECREF d, (.literal "code", .buffer c) :: names.map fun name =>
            (.literal name, PyArg_Parse_s d (PyDict_GetItemString d name))⟩,
            stack.strcpy c (toString code))

def getHostCpuPressure := collect 1 3 ["value", "obj"]

def getHostCpuTemperature := collect 2 3 ["value", "obj"]

def getHostDiskIoINfo := collect 3 4 ["read", "write", "obj"]

def getHostDiskRate := collect 4 6 ["total", "percent", "free", "used", "obj"]

def getHostSwapRate := collect 5 6 ["total", "percent", "free", "used", "obj"]

def getHostMemoryRate := collect 6 6 ["total", "percent", "free", "used", "obj"]

/-- The whole dict is taken, with its keys. -/
def getHostNetCount (o : Outcome) (stack : Stack) : Except Fault (Option Collected × Stack) :=
  match o with
  -- `pDict` is released before it is assigned
  | .missing | .notCallable => .error .nullDecref
  -- the size of a null pointer is -1
  | .raised => .error .nullDecref
  | .noDict => .ok (none, stack)
  | .dict d =>
    if PyDict_Size d < 1 then .ok (none, stack)
    else
      .ok (some ⟨Py_DECREF d, d.items.map fun e =>
        (PyString_AsString d e.1, PyString_AsString d e.2)⟩, stack)

def getHostNetInfo := collect 7 4 ["recv", "send", "obj"]

def getHostRangeLoad := collect 8 5 ["lavg_1", "lavg_5", "lavg_15", "obj"]

def getHostUptime := collect 9 3 ["value", "obj"]

/-- It shares an array with `getHostUptime`. -/
def getHostHardware := collect 9 7 ["obj", "kernel", "cpumodel", "osversion", "sockets", "cpus"]

/-! ## The report -/

variable (J : Jsoncpp)

/-- The strings behind the pointers of a map. -/
def readAll (m : Memory) (stack : Stack) :
    List (CharPtr × CharPtr) → Except Fault (List (String × String))
  | [] => .ok []
  | e :: es => do
    let key ← m.read stack e.1
    let value ← m.read stack e.2
    let members ← readAll m stack es
    return (key, value) :: members

def mapTojsonstr (map_info : Collected) (stack : Stack) : Except Fault String := do
  let members ← readAll map_info.memory stack map_info.entries
  return J.mapTojsonstr Json.string members

/-- The variables of `getHostInfo`. -/
structure Gathered where
  stack : Stack
  jsonarray : Json
  data : String

/-- One collector and what follows it. -/
def gather (collector : Outcome → Stack → Except Fault (Option Collected × Stack))
    (message : String) (o : Outcome) (s : Gathered) : Except Fault Gathered := do
  let (collected, stack) ← collector o s.stack
  match collected with
  | some map_info =>
    let text ← mapTojsonstr J map_info stack
    return { s with stack, jsonarray := s.jsonarray.append (.string text) }
  | none => return { s with stack, data := message }

/-- Before the first collector. -/
def Gathered.start : Gathered := ⟨fun _ => none, .null, ""⟩

/-- The eleven collectors. -/
inductive Collector where
  | cpuPressure
  | cpuTemperature
  | diskIo
  | diskRate
  | swapRate
  | memoryRate
  | netCount
  | netInfo
  | rangeLoad
  | uptime
  | hardware
  deriving DecidableEq

/-- The return value, `hostmes` and `data`, where the functions of Python do `o`. -/
def getHostInfo (o : Collector → Outcome) : Except Fault (Bool × String × String) := do
  let s ← gather J getHostCpuPressure "Failed to get host cpu pressure information!"
    (o .cpuPressure) .start
  let s ← gather J getHostCpuTemperature "Failed to get host cputemp information!"
    (o .cpuTemperature) s
  let s ← gather J getHostDiskIoINfo "Failed to get host io information!" (o .diskIo) s
  let s ← gather J getHostDiskRate "Failed to get host disk information!" (o .diskRate) s
  let s ← gather J getHostSwapRate "Failed to get host swap information!" (o .swapRate) s
  let s ← gather J getHostMemoryRate "Failed to get host memory information!" (o .memoryRate) s
  let s ← gather J getHostNetCount "Failed to get host network information!" (o .netCount) s
  let s ← gather J getHostNetInfo "Failed to get host netinfo information!" (o .netInfo) s
  let s ← gather J getHostRangeLoad "Failed to get host load information!" (o .rangeLoad) s
  let s ← gather J getHostUptime "Failed to get host uptime information!" (o .uptime) s
  let s ← gather J getHostHardware "Failed to get host hardware information!" (o .hardware) s
  let hostmes := J.write s.jsonarray
  return (hostmes ≠ "", hostmes, s.data)

/-! ## The collectors as a family

The eleven differ in their tables only, so that what holds of one shape holds of all. -/

namespace Collector

/-- In the order of `getHostInfo`. -/
def all : List Collector :=
  [.cpuPressure, .cpuTemperature, .diskIo, .diskRate, .swapRate, .memoryRate, .netCount, .netInfo,
    .rangeLoad, .uptime, .hardware]

/-- What a collector takes from its dict: items under fixed names, or all of them. -/
inductive Shape where
  | fields (c size : Nat) (names : List String)
  | whole

def shape : Collector → Shape
  | .cpuPressure => .fields 1 3 ["value", "obj"]
  | .cpuTemperature => .fields 2 3 ["value", "obj"]
  | .diskIo => .fields 3 4 ["read", "write", "obj"]
  | .diskRate => .fields 4 6 ["total", "percent", "free", "used", "obj"]
  | .swapRate => .fields 5 6 ["total", "percent", "free", "used", "obj"]
  | .memoryRate => .fields 6 6 ["total", "percent", "free", "used", "obj"]
  | .netCount => .whole
  | .netInfo => .fields 7 4 ["recv", "send", "obj"]
  | .rangeLoad => .fields 8 5 ["lavg_1", "lavg_5", "lavg_15", "obj"]
  | .uptime => .fields 9 3 ["value", "obj"]
  | .hardware => .fields 9 7 ["obj", "kernel", "cpumodel", "osversion", "sockets", "cpus"]

def Shape.run : Shape → Outcome → Stack → Except Fault (Option Collected × Stack)
  | .fields c size names => collect c size names
  | .whole => getHostNetCount

def run : Collector → Outcome → Stack → Except Fault (Option Collected × Stack)
  | .cpuPressure => getHostCpuPressure
  | .cpuTemperature => getHostCpuTemperature
  | .diskIo => getHostDiskIoINfo
  | .diskRate => getHostDiskRate
  | .swapRate => getHostSwapRate
  | .memoryRate => getHostMemoryRate
  | .netCount => getHostNetCount
  | .netInfo => getHostNetInfo
  | .rangeLoad => getHostRangeLoad
  | .uptime => getHostUptime
  | .hardware => getHostHardware

/-- The message of `getHostInfo` for the failure of a collector. -/
def message : Collector → String
  | .cpuPressure => "Failed to get host cpu pressure information!"
  | .cpuTemperature => "Failed to get host cputemp information!"
  | .diskIo => "Failed to get host io information!"
  | .diskRate => "Failed to get host disk information!"
  | .swapRate => "Failed to get host swap information!"
  | .memoryRate => "Failed to get host memory information!"
  | .netCount => "Failed to get host network information!"
  | .netInfo => "Failed to get host netinfo information!"
  | .rangeLoad => "Failed to get host load information!"
  | .uptime => "Failed to get host uptime information!"
  | .hardware => "Failed to get host hardware information!"

theorem run_eq (c : Collector) : c.run = c.shape.run := by
  cases c <;> rfl

theorem mem_all (c : Collector) : c ∈ all := by
  cases c <;> decide

end Collector

/-- The collectors of a list, one after the other. -/
def gatherAll (o : Collector → Outcome) : List Collector → Gathered → Except Fault Gathered
  | [], s => .ok s
  | c :: cs, s => gather J c.run c.message (o c) s >>= gatherAll o cs

theorem getHostInfo_eq (o : Collector → Outcome) :
    getHostInfo J o = gatherAll J o Collector.all .start >>= fun s =>
      .ok (decide (J.write s.jsonarray ≠ ""), J.write s.jsonarray, s.data) := by
  simp only [Collector.all, gatherAll, bind_assoc]
  rfl

end Monitor

end VirtCore
