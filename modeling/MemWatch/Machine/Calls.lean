/-
# Calls to a machine

The calls that programs make to a machine: each gives an answer or an error number, and leaves the
machine as it is afterwards.  Calls that concern a process take a handle, which has to be open.
-/
import MemWatch.Machine.Basic
import MemWatch.Machine.Listing

namespace MemWatch.Machine

/-! ## Looking things up -/

/-- The machine with one more answered call. -/
def record (call : MachineCall) (m : Machine) : Machine :=
  { m with calls := m.calls.push call }

/-- An error number of the machine as an error. -/
def error (m : Machine) (code : OsCode) : Error :=
  .ofOsCode code (m.errorText code)

/-- The number of accesses to memory that were answered so far. -/
def accesses (m : Machine) : Nat :=
  m.calls.toList.countP fun call =>
    match call with
    | .read _ _ | .write _ _ => true
    | _ => false

/-- The number of times that modules were listed so far. -/
def moduleListings (m : Machine) : Nat :=
  m.calls.toList.countP fun call =>
    match call with
    | .listModules _ => true
    | _ => false

/-- The process with the given id. -/
def find? (m : Machine) (pid : ProcessId) : Option ProcessRecord :=
  m.processes.find? fun p => p.pid = pid

/-- The process that a handle is open for. -/
def ofHandle? (m : Machine) (h : Handle) : Option ProcessRecord :=
  (m.handles.lookup h).bind m.find?

/-- The answer that a process gives through an open handle. -/
def answer {α : Type} (m : Machine) (h : Handle) (f : ProcessRecord → Except OsCode α) :
    Except OsCode α :=
  match m.ofHandle? h with
  | some p => f p
  | none => .error .invalidHandle

/-- Changes the first process with the given id. -/
def updateFirst (pid : ProcessId) (f : ProcessRecord → ProcessRecord) :
    List ProcessRecord → List ProcessRecord
  | [] => []
  | p :: rest => if p.pid = pid then f p :: rest else p :: updateFirst pid f rest

/-- The machine with the process of an id changed. -/
def update (pid : ProcessId) (f : ProcessRecord → ProcessRecord) (m : Machine) : Machine :=
  { m with processes := updateFirst pid f m.processes }

/-! ## Handles -/

/-- The id belongs to one of the processes that cannot be opened. -/
def isSealed (m : Machine) (pid : ProcessId) : Bool :=
  decide (m.sealed.1 ≤ pid ∧ pid < m.sealed.1 + m.sealed.2)

/-- The error number with which opening a process with some rights fails, if it does. -/
def openRefusal? (m : Machine) (rights : AccessRights) (pid : ProcessId) : Option OsCode :=
  match m.find? pid with
  | some p => p.openFault <|> if rights.vmWrite then p.writeOpenFault else none
  | none => some (if m.isSealed pid then .accessDenied else .invalidParameter)

/-- Opens a process. -/
def openProcess (rights : AccessRights) (pid : ProcessId) (m : Machine) :
    Except OsCode Handle × Machine :=
  match m.openRefusal? rights pid with
  | some code => (.error code, m.record (.openProcess pid rights none))
  | none =>
    let h := m.nextHandle
    (.ok h, { m with
      handles := (h, pid) :: m.handles
      nextHandle := h + 4
      calls := m.calls.push (.openProcess pid rights (some h)) })

/-- Closes a handle, which is closed even if that is reported as a failure. -/
def closeHandle (h : Handle) (m : Machine) : Except OsCode Unit × Machine :=
  match m.handles.lookup h with
  | none => (.error .invalidHandle, m)
  | some pid =>
    let result :=
      match (m.find? pid).bind ProcessRecord.closeFault with
      | some code => .error code
      | none => .ok ()
    (result, { m with
      handles := m.handles.filter fun entry => entry.1 ≠ h
      calls := m.calls.push (.closeHandle h pid) })

/-! ## Lists -/

/-- The ids of all processes in the order of listing. -/
def processIds (m : Machine) : List ProcessId :=
  m.processes.map ProcessRecord.pid ++ (List.range m.sealed.2).map (m.sealed.1 + ·)

/-- Lists the ids of all processes, four bytes each; reports the bytes stored. -/
def listProcesses (size : Nat) (m : Machine) : Except OsCode (Listing ProcessId) × Machine :=
  let result :=
    match m.listFault with
    | some code => .error code
    | none =>
      let stored := m.processIds.take (size / 4)
      .ok ⟨stored, stored.length * 4⟩
  (result, m.record (.listProcesses size))

/-- Lists the modules of a process, eight bytes each; reports the bytes needed for all of them.  A
module is referred to by its place, counted from one. -/
def listModules (h : Handle) (size : Nat) (m : Machine) : Except OsCode (Listing Handle) × Machine :=
  let result := m.answer h fun p =>
    match m.trouble.listing m.moduleListings <|> p.modulesFault with
    | some code => .error code
    | none =>
      let handles := (List.range p.modules.length).map (· + 1)
      .ok ⟨handles.take (size / 8), handles.length * 8⟩
  (result, m.record (.listModules size))

/-! ## Properties of processes -/

/-- The number of units that a buffer for names and paths holds. -/
def nameLimit : Nat := 1024

/-- A name or path as it is stored in a buffer; an empty one counts as a failure. -/
def storedName (units : List UInt16) : Except OsCode (List UInt16) :=
  if units.isEmpty then .error .invalidHandle else .ok (units.take nameLimit)

/-- Whether a process is a 32-bit one on a 64-bit machine. -/
def isWow64 (h : Handle) (m : Machine) : Except OsCode Bool :=
  m.answer h ProcessRecord.isWow64

/-- The name of the main module of a process. -/
def baseName (h : Handle) (m : Machine) : Except OsCode (List UInt16) :=
  m.answer h fun p => p.name.bind storedName

/-- The module of a process with the given handle. -/
def moduleRecord (h moduleHandle : Handle) (m : Machine) : Except OsCode ModuleRecord :=
  m.answer h fun p =>
    match moduleHandle with
    | 0 => .error .invalidHandle
    | place + 1 =>
      match p.modules[place]? with
      | some r => .ok r
      | none => .error .invalidHandle

/-- The path of the file of a module. -/
def modulePath (h moduleHandle : Handle) (m : Machine) : Except OsCode (List UInt16) :=
  (m.moduleRecord h moduleHandle).bind fun r => r.path.bind storedName

/-- The base of a module. -/
def moduleBase (h moduleHandle : Handle) (m : Machine) : Except OsCode Address :=
  match m.trouble.base m.moduleListings with
  | some code => .error code
  | none => (m.moduleRecord h moduleHandle).bind ModuleRecord.base

/-- The code of the priority class of a process. -/
def priorityCode (h : Handle) (m : Machine) : Except OsCode Nat :=
  m.answer h ProcessRecord.priority

/-- The memory that a process uses. -/
def memoryUsage (h : Handle) (m : Machine) : Except OsCode MemoryUsage :=
  m.answer h ProcessRecord.memoryUsage

/-- The times of a process. -/
def processTimes (h : Handle) (m : Machine) : Except OsCode ProcessTimes :=
  m.answer h ProcessRecord.times

/-- The exit code of processes that still run. -/
def stillActive : Nat := 259

/-- The exit code of a process, which uses up one of its polls. -/
def exitCode (h : Handle) (m : Machine) : Except OsCode Nat × Machine :=
  match m.ofHandle? h with
  | none => (.error .invalidHandle, m)
  | some p =>
    let m := m.record (.exitCode p.pid)
    match p.exitCode, p.pollsLeft with
    | .error code, _ => (.error code, m)
    | .ok code, 0 => (.ok code, m)
    | .ok _, polls + 1 => (.ok stillActive, m.update p.pid fun p => { p with pollsLeft := polls })

/-! ## Memory of processes -/

/-- The limit on an access to a process, if there is one: for the moment, or for the address. -/
def transferLimit? (m : Machine) (p : ProcessRecord) (kind : AccessKind) (a : Address) :
    Option TransferLimit :=
  m.trouble.access m.accesses <|>
    (p.faults.find? fun f => f.kind = kind ∧ f.address = a).map TransferFault.limit

/-- The number of bytes that an access to a process may transfer, or the number of its error.  All
bytes have to be mapped, unless there is a limit. -/
def transferSize (m : Machine) (p : ProcessRecord) (kind : AccessKind) (a : Address) (size : Nat) :
    Except OsCode Nat :=
  match m.transferLimit? p kind a with
  | some (.fails code) => .error code
  | some (.short limit) => .ok (min limit size)
  | none => if p.memory.isMapped a size then .ok size else .error .partialCopy

/-- Reads memory of a process; fewer bytes than asked for may be transferred. -/
def readMemory (h : Handle) (a : Address) (size : Nat) (m : Machine) :
    Except OsCode Bytes × Machine :=
  let result := m.answer h fun p =>
    (m.transferSize p .read a size).map fun size => p.memory.loadPrefix a size
  (result, m.record (.read a size))

/-- Writes memory of a process; fewer bytes than given may be transferred.  The answer is their
number. -/
def writeMemory (h : Handle) (a : Address) (bytes : Bytes) (m : Machine) :
    Except OsCode Nat × Machine :=
  let after := m.record (.write a bytes.length)
  match m.ofHandle? h with
  | none => (.error .invalidHandle, after)
  | some p =>
    match m.transferSize p .write a bytes.length with
    | .error code => (.error code, after)
    | .ok size =>
      let size := (p.memory.loadPrefix a size).length
      (.ok size, after.update p.pid fun p =>
        { p with memory := p.memory.store a (bytes.take size) })

/-! ## Windows -/

/-- The number of units that a buffer for titles holds. -/
def titleBuffer : Nat := 512

/-- The units that a title fills a blank buffer with: as many as the reported length. -/
def windowTitle (w : WindowRecord) : List UInt16 :=
  match w.titleLength with
  | some n => List.replicate (min n.toNat titleBuffer) 0
  | none => w.title.take (titleBuffer - 1)

/-- Shows windows to a search in order until it accepts one. -/
def searchWindows (accept : WindowRecord → Bool) :
    List WindowRecord → Machine → Option WindowRecord × Machine
  | [], m => (none, m)
  | w :: rest, m =>
    let m := m.record (.visitWindow w.handle)
    if accept w then (some w, m) else searchWindows accept rest m

/-! ## Launching -/

/-- Starts an executable; the answer is the id of the new process. -/
def launch (path : String) (m : Machine) : Except OsCode ProcessId × Machine :=
  let result :=
    match m.launches.find? fun l => l.path = path with
    | some l => l.result
    | none => .error .fileNotFound
  (result, m.record (.launch path))

/-! ## The machine itself -/

/-- The processor has 64 bits. -/
def is64Bit (m : Machine) : Bool :=
  m.architecture == 9

end MemWatch.Machine
