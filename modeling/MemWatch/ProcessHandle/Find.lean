/-
# Finding processes by name

The processes of a machine are searched for those with a given executable.  Names are compared in
lower case.  Of several processes the one with the highest id is taken.  A process that cannot be
looked into is passed over.
-/
import MemWatch.FilePath
import MemWatch.ProcessHandle.Basic
import MemWatch.Text.Case

namespace MemWatch

namespace ProcessHandle

/-! ## The search -/

/-- The ids of all processes. -/
def allIds : Attempt Machine (List ProcessId) := do
  let result ← (consult (Listing.fetch Machine.error 0 4 Machine.listProcesses 0x400)).always
  Attempt.ofExcept result

/-- The name to look for: the last component of a path in lower case. -/
def wantedName (name : String) : String :=
  Text.lower (String.ofList ((FilePath.fileName? name.toList).getD name.toList))

/-- Looks into one process: its id, if its name in lower case is the wanted one. -/
def inspect (wanted : String) (pid : ProcessId) : Action Machine (Option ProcessId) := do
  match ← (openWith .inspect pid).outcome with
  | .error e =>
    record (.debug ("skipping process " ++ Numeral.decimal pid ++ ": " ++ e.message))
    return none
  | .ok p =>
    let found ←
      match ← p.baseName.outcome with
      | .error _ => pure none
      | .ok name =>
        if Text.lower name = wanted then do
          record (.debug ("found process " ++ Numeral.decimal pid ++ " named " ++ name))
          pure (some pid)
        else pure none
    p.close
    return found

/-- The higher of two ids, of which either may be missing. -/
def higher : Option ProcessId → Option ProcessId → Option ProcessId
  | some a, some b => some (max a b)
  | some a, none => some a
  | none, found => found

/-- Looks into processes in order, and keeps the highest id found.  Id zero is the idle process,
which cannot be opened. -/
def search (wanted : String) (best : Option ProcessId) :
    List ProcessId → Action Machine (Option ProcessId)
  | [] => return best
  | pid :: rest => do
    if pid = 0 then
      search wanted best rest
    else
      let found ← inspect wanted pid
      search wanted (higher best found) rest

/-- Finds the process of an executable, and opens it. -/
def find (name : String) : Attempt Machine ProcessHandle := do
  let ids ← allIds
  match ← (search (wantedName name) none ids).always with
  | some pid => openFull pid
  | none => throw (.processNotFound name)

end ProcessHandle

end MemWatch
