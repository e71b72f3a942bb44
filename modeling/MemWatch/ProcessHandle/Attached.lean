/-
# Attached processes

A machine together with an open process on it is a target that can be watched and described.  An
access to memory that transfers only a part of the bytes fails.
-/
import MemWatch.ProcessHandle.Basic

namespace MemWatch

/-- A machine and an open process on it. -/
structure Attached where
  machine : Machine
  process : ProcessHandle

namespace Attached

variable {α : Type}

/-! ## Calls -/

/-- A call to the machine. -/
def call (op : Machine → α × Machine) (s : Attached) : α × Attached :=
  let (result, machine) := op s.machine
  (result, { s with machine })

/-- A call about the process that leaves the machine as it is. -/
def query (op : Handle → Machine → Except OsCode α) (s : Attached) : Except Error α × Attached :=
  (ProcessHandle.checked s.machine (op s.process.handle s.machine), s)

/-! ## Memory -/

/-- The error of a failed transfer: an error number for partial copies means a shortfall. -/
def transferError (m : Machine) (shortfall : Error) (code : OsCode) : Error :=
  if code = .partialCopy then shortfall else m.error code

/-- Reads memory of the process. -/
def read (a : Address) (size : Nat) (s : Attached) : Except Error Bytes × Attached :=
  match a.toPointer .eight with
  | .error e => (.error e, s)
  | .ok a =>
    match s.call (Machine.readMemory s.process.handle a size) with
    | (.error code, s) => (.error (transferError s.machine (.readUnderflow a) code), s)
    | (.ok bytes, s) =>
      (if bytes.length = size then .ok bytes else .error (.readUnderflow a), s)

/-- Writes memory of the process. -/
def write (a : Address) (bytes : Bytes) (s : Attached) : Except Error Unit × Attached :=
  match a.toPointer .eight with
  | .error e => (.error e, s)
  | .ok a =>
    match s.call (Machine.writeMemory s.process.handle a bytes) with
    | (.error code, s) => (.error (transferError s.machine (.writeUnderflow a) code), s)
    | (.ok size, s) =>
      (if size = bytes.length then .ok () else .error (.writeUnderflow a), s)

/-- Asks whether the process still runs. -/
def poll (s : Attached) : Except Error Bool × Attached :=
  let (result, s) := s.call (Machine.exitCode s.process.handle)
  (ProcessHandle.checked s.machine (result.map fun code => code == Machine.stillActive), s)

/-! ## Modules -/

/-- The handles of all modules, the main module first. -/
def modules (s : Attached) : Except Error (List Handle) × Attached :=
  s.call (Listing.fetch Machine.error 0 8 (Machine.listModules s.process.handle) 0x100)

/-- The handle of the module of the executable. -/
def mainModule (s : Attached) : Except Error Handle × Attached :=
  match s.modules with
  | (.error e, s) => (.error e, s)
  | (.ok [], s) => (.error .missingMainModule, s)
  | (.ok (h :: _), s) => (.ok h, s)

/-- The base of a module. -/
def moduleBase (moduleHandle : Handle) (s : Attached) : Except Error Address × Attached :=
  s.query fun h => Machine.moduleBase h moduleHandle

/-- The path of the file of a module. -/
def modulePath (moduleHandle : Handle) (s : Attached) : Except Error String × Attached :=
  let (result, s) := s.query fun h => Machine.modulePath h moduleHandle
  (result.map Text.Utf16.decode, s)

/-- An answer about the main module. -/
def onMainModule (f : Handle → Attached → Except Error α × Attached) (s : Attached) :
    Except Error α × Attached :=
  match s.mainModule with
  | (.error e, s) => (.error e, s)
  | (.ok h, s) => f h s

/-- A module as it is shown in diagnostics. -/
def moduleText (moduleHandle : Handle) : String :=
  "Module \x7b module: " ++ Numeral.decimal moduleHandle ++ " \x7d"

/-! ## Properties -/

/-- The process is a 32-bit one on a 64-bit machine. -/
def isWow64 (s : Attached) : Except Error Bool × Attached :=
  s.query Machine.isWow64

/-- The name of the main module. -/
def name (s : Attached) : Except Error String × Attached :=
  let (result, s) := s.query Machine.baseName
  (result.map Text.Utf16.decode, s)

/-- The priority class of the process; a code of zero is a failure. -/
def priority (s : Attached) : Except Error PriorityClass × Attached :=
  let (result, s) := s.query Machine.priorityCode
  (result.bind fun code => if code = 0 then .error (s.machine.error 0) else .ok (.ofCode code), s)

/-- A window can be the main window of a process: it belongs to it, is visible, and no other window
owns it. -/
def isMainWindow (pid : ProcessId) (w : WindowRecord) : Bool :=
  w.pid == pid && w.visible && w.owner == 0

/-- The main window of the process. -/
def mainWindow (s : Attached) : Except Error (Option Window) × Attached :=
  let (found, s) := s.call fun m =>
    Machine.searchWindows (isMainWindow s.process.pid) m.windows m
  (.ok (found.map fun w => ⟨w.handle, Text.Utf16.decode (Machine.windowTitle w)⟩), s)

/-- The start of the process. -/
def startTime (s : Attached) : Except Error Instant × Attached :=
  let (result, s) := s.query Machine.processTimes
  (result.bind fun times =>
    match times.creation.toInstant? with
    | some t => .ok t
    | none => .error .invalidTime, s)

/-- The time that the process has spent on the processor. -/
def processorTime (s : Attached) : Except Error Duration × Attached :=
  let (result, s) := s.query Machine.processTimes
  (result.map fun times => FileTime.span (times.kernel.word + times.user.word).toNat, s)

/-! ## The capabilities -/

instance : Target Attached where
  width s := s.process.width
  read := read
  write := write
  base := onMainModule moduleBase
  poll := poll
  lifetime s := ((s.machine.ofHandle? s.process.handle).map ProcessRecord.pollsLeft).getD 0

instance : Described Attached where
  name := name
  fileName := onMainModule modulePath
  handle s := s.process.handle
  priority := priority
  mainWindow := mainWindow
  memoryUsage := query Machine.memoryUsage
  startTime := startTime
  zone s := s.machine.zone
  processorTime := processorTime

end Attached

namespace ProcessHandle

/-- Carries out something on the process, on the machine that it is open on. -/
def attach {α : Type} (p : ProcessHandle) (action : Action Attached α) : Action Machine α :=
  fun ⟨machine, log, calls⟩ =>
    let (answer, scene) := action ⟨⟨machine, p⟩, log, calls⟩
    (answer, ⟨scene.target.machine, scene.log, scene.calls⟩)

end ProcessHandle

end MemWatch
