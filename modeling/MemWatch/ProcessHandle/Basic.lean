/-
# Processes

An open process: its id, the handle that it was opened with, and the width of its pointers.  Whoever
opens a process closes it; where opening fails after the handle was obtained, the handle is closed
on the way out.
-/
import MemWatch.Machine.Calls

namespace MemWatch

/-- An open process. -/
structure ProcessHandle where
  pid : ProcessId
  handle : Handle
  width : PointerWidth
deriving DecidableEq, Repr

namespace ProcessHandle

variable {α : Type}

/-! ## Calls -/

/-- The failure of a call to a machine as an error. -/
def checked (m : Machine) (result : Except OsCode α) : Except Error α :=
  result.mapError m.error

/-- A call that leaves the machine as it is. -/
def query (call : Machine → Except OsCode α) : Attempt Machine α := do
  let m ← get
  Attempt.ofExcept (checked m.target (call m.target))

/-! ## Opening and closing -/

/-- Closes a handle; a failure is only warned about. -/
def closeHandle (h : Handle) : Action Machine Unit := do
  match ← consult (Machine.closeHandle h) with
  | .ok () => return ()
  | .error code =>
    let m ← get
    record (.warn ("failed to close handle: " ++ code.message (m.target.errorText code)))

/-- The width of the pointers in a process: four bytes for a 32-bit process and on any machine
without 64 bits. -/
def detectWidth (h : Handle) : Attempt Machine PointerWidth := do
  if ← query (Machine.isWow64 h) then
    return .four
  else
    let m ← get
    return if m.target.is64Bit then .eight else .four

/-- The error of an opening that failed: there is no such process, or it cannot be opened. -/
def openError (m : Machine) (pid : ProcessId) (code : OsCode) : Error :=
  if code = .invalidParameter then .processNotFound (Numeral.decimal pid)
  else .openProcess pid (.os code (m.errorText code))

/-- Opens a process with the given rights. -/
def openWith (rights : AccessRights) (pid : ProcessId) : Attempt Machine ProcessHandle := do
  match ← (consult (Machine.openProcess rights pid)).always with
  | .error code =>
    let m ← get
    throw (openError m.target pid code)
  | .ok handle =>
    match ← (detectWidth handle).caught with
    | .error e =>
      (closeHandle handle).always
      throw e
    | .ok width =>
      note (.debug ("opened process " ++ Numeral.decimal pid ++ " with " ++ width.name ++
        " pointers"))
      return { pid, handle, width }

/-- Opens a process with all that it takes to watch it. -/
def openFull (pid : ProcessId) : Attempt Machine ProcessHandle :=
  openWith .full pid

/-- Closes a process. -/
def close (p : ProcessHandle) : Action Machine Unit :=
  closeHandle p.handle

/-- The process as it is shown in diagnostics. -/
def text (p : ProcessHandle) : String :=
  "Process \x7b process_id: " ++ Numeral.decimal p.pid ++ ", width: " ++ p.width.name ++ " \x7d"

/-- The name of the main module of a process. -/
def baseName (p : ProcessHandle) : Attempt Machine String := do
  let units ← query (Machine.baseName p.handle)
  return Text.Utf16.decode units

/-! ## Launching -/

/-- Launches an executable and opens the new process. -/
def launch (path : String) : Attempt Machine ProcessHandle := do
  note (.debug ("launching " ++ path))
  match ← (consult (Machine.launch path)).always with
  | .error code =>
    let m ← get
    throw (.launch path (.os code (m.target.errorText code)))
  | .ok pid => openFull pid

end ProcessHandle

end MemWatch
