/-
# Machines

A machine runs processes and shows windows.  Programs on it get hold of a process by opening it,
which gives a handle, and pass the handle to every call that concerns the process until they close
it.  A machine fails in the ways that are laid down for it, each with an error number, for which it
has its own text.  A failure may last, or come and go from call to call.
-/
import MemWatch.Memory
import MemWatch.OsError
import MemWatch.Summary.Property
import MemWatch.Text.Utf16

namespace MemWatch

/-! ## Handles and rights -/

/-- What an open process is referred to by. -/
abbrev Handle := Nat

/-- What a handle may be used for. -/
structure AccessRights where
  queryInformation : Bool := false
  vmRead : Bool := false
  vmWrite : Bool := false
  vmOperation : Bool := false
deriving DecidableEq, Repr

namespace AccessRights

/-- The rights as a number with one bit for each. -/
def mask (r : AccessRights) : Nat :=
  (if r.queryInformation then 0x400 else 0) + (if r.vmWrite then 0x20 else 0) +
    (if r.vmRead then 0x10 else 0) + (if r.vmOperation then 0x8 else 0)

/-- What it takes to find out about a process. -/
def inspect : AccessRights where
  queryInformation := true
  vmRead := true

/-- What it takes to read and write the memory of a process. -/
def full : AccessRights where
  queryInformation := true
  vmRead := true
  vmWrite := true
  vmOperation := true

end AccessRights

/-! ## Error numbers -/

namespace OsCode

/-- The file was not found. -/
def fileNotFound : OsCode := 2

/-- Access was denied. -/
def accessDenied : OsCode := 5

/-- The handle is not open, or what it was asked for is not there. -/
def invalidHandle : OsCode := 6

/-- The process does not exist. -/
def invalidParameter : OsCode := 87

/-- Only a part of the memory could be copied. -/
def partialCopy : OsCode := 299

end OsCode

/-! ## File times -/

/-- A number of 100-nanosecond ticks in two halves. -/
structure FileTime where
  low : UInt32
  high : UInt32
deriving DecidableEq, Repr

namespace FileTime

/-- The two halves as one word. -/
def word (t : FileTime) : UInt64 :=
  t.high.toUInt64 <<< 32 ||| t.low.toUInt64

/-- The number of ticks. -/
def ticks (t : FileTime) : Nat :=
  t.high.toNat * UInt32.size + t.low.toNat

/-- The file time of a number of ticks, modulo 2^64. -/
def ofTicks (n : Nat) : FileTime :=
  ⟨UInt32.ofNat n, UInt32.ofNat (n / UInt32.size)⟩

/-- Ticks in a second. -/
def ticksPerSecond : Nat := 10000000

/-- Seconds from the start of 1601, where file times begin, to the start of 1970. -/
def epochDifference : Int := 11644473600

/-- The instant of a file time, if the calendar covers it. -/
def toInstant? (t : FileTime) : Option Instant :=
  Instant.ofUnix? ((t.ticks / ticksPerSecond : Nat) - epochDifference)
    (t.ticks % ticksPerSecond * 100)

/-- The span of a number of ticks, or the greatest span of 64 bits in nanoseconds. -/
def span (ticks : Nat) : Duration :=
  .ofNanos (min (ticks * 100) (UInt64.size - 1))

end FileTime

/-- The times of a process. -/
structure ProcessTimes where
  creation : FileTime
  kernel : FileTime
  user : FileTime
deriving DecidableEq, Repr

/-! ## What a machine holds -/

/-- What happens to accesses that start exactly at an address. -/
inductive TransferLimit where
  /-- They fail. -/
  | fails (code : OsCode)
  /-- They succeed with at most so many bytes. -/
  | short (size : Nat)
deriving DecidableEq, Repr

/-- A limit on accesses of a kind that start exactly at an address. -/
structure TransferFault where
  kind : AccessKind
  address : Address
  limit : TransferLimit
deriving DecidableEq, Repr

/-- Failures that come and go.  Calls are told apart by how many have been answered before them. -/
structure Trouble where
  /-- What happens to an access to memory, after so many accesses. -/
  access : Nat → Option TransferLimit := fun _ => none
  /-- Listing modules fails, after so many listings. -/
  listing : Nat → Option OsCode := fun _ => none
  /-- Finding the base of a module fails, after so many listings. -/
  base : Nat → Option OsCode := fun _ => none

/-- A module loaded into a process. -/
structure ModuleRecord where
  base : Except OsCode Address
  path : Except OsCode (List UInt16)

/-- A process, with the answers it gives or the errors it fails with. -/
structure ProcessRecord where
  pid : ProcessId
  /-- Opening fails. -/
  openFault : Option OsCode := none
  /-- Opening fails if the right to write is asked for. -/
  writeOpenFault : Option OsCode := none
  /-- Closing a handle reports a failure. -/
  closeFault : Option OsCode := none
  /-- The process is a 32-bit one on a 64-bit machine. -/
  isWow64 : Except OsCode Bool := .ok false
  name : Except OsCode (List UInt16) := .ok []
  modules : List ModuleRecord := []
  /-- Listing the modules fails. -/
  modulesFault : Option OsCode := none
  priority : Except OsCode Nat := .ok 0x20
  memoryUsage : Except OsCode MemoryUsage := .error .invalidHandle
  times : Except OsCode ProcessTimes := .error .invalidHandle
  /-- How many more times it is found running. -/
  pollsLeft : Nat := 64
  /-- The exit code after that; an error concerns every question for it. -/
  exitCode : Except OsCode Nat := .ok 0
  memory : Memory := .empty
  faults : List TransferFault := []

/-- A top-level window. -/
structure WindowRecord where
  handle : Handle
  pid : ProcessId
  title : List UInt16 := []
  visible : Bool := true
  /-- The window that owns this one; zero is none. -/
  owner : Handle := 0
  /-- The length that is reported for the title, which is not written then. -/
  titleLength : Option Int := none

/-- What starting an executable gives. -/
structure LaunchRecord where
  path : String
  result : Except OsCode ProcessId

/-- A call that a machine answered. -/
inductive MachineCall where
  /-- Opening a process, with the handle if it succeeded. -/
  | openProcess (pid : ProcessId) (rights : AccessRights) (handle : Option Handle)
  | closeHandle (handle : Handle) (pid : ProcessId)
  /-- Listing processes into a buffer of so many bytes. -/
  | listProcesses (size : Nat)
  /-- Listing modules into a buffer of so many bytes. -/
  | listModules (size : Nat)
  | read (address : Address) (size : Nat)
  | write (address : Address) (size : Nat)
  | exitCode (pid : ProcessId)
  /-- A window was shown to a search. -/
  | visitWindow (handle : Handle)
  | launch (path : String)
deriving DecidableEq, Repr

/-- A machine. -/
structure Machine where
  /-- The code of the processor architecture. -/
  architecture : Nat := 9
  /-- The text that the system has for an error number. -/
  errorText : OsCode → String := OsCode.description
  /-- The time zone that the clocks are set by. -/
  zone : Zone := .utc
  /-- Listing the processes fails. -/
  listFault : Option OsCode := none
  processes : List ProcessRecord := []
  /-- More processes, of consecutive ids, that cannot be opened: the first id and their number. -/
  sealed : ProcessId × Nat := (0, 0)
  windows : List WindowRecord := []
  launches : List LaunchRecord := []
  /-- What fails for a while only, in any process. -/
  trouble : Trouble := {}
  /-- The open handles with the ids of their processes. -/
  handles : List (Handle × ProcessId) := []
  /-- The handle that the next successful opening gives. -/
  nextHandle : Handle := 256
  /-- The calls answered so far. -/
  calls : Array MachineCall := #[]

end MemWatch
