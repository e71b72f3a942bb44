/-
# Images

A process held in memory: sparse bytes, a module base, properties, and a number of times that it is
still found running.  Accesses at chosen addresses fail with a chosen error.
-/
import MemWatch.Memory
import MemWatch.Summary.Property

namespace MemWatch

/-- Accesses of a kind that start exactly at an address fail with an error. -/
structure Fault where
  kind : AccessKind
  address : Address
  error : Error
deriving DecidableEq, Repr

/-- The answers of an image to questions for its properties. -/
structure Properties where
  name : Except Error String := .error .unsupported
  fileName : Except Error String := .error .unsupported
  handle : Nat := 0
  priority : Except Error PriorityClass := .error .unsupported
  mainWindow : Except Error (Option Window) := .error .unsupported
  memoryUsage : Except Error MemoryUsage := .error .unsupported
  startTime : Except Error Instant := .error .unsupported
  /-- The time zone that the start is shown in. -/
  zone : Zone := .utc
  processorTime : Except Error Duration := .error .unsupported

/-- A process held in memory. -/
structure Image where
  width : PointerWidth := default
  base : Except Error Address := .error .missingMainModule
  memory : Memory := .empty
  faults : List Fault := []
  /-- How many more times it is found running. -/
  pollsLeft : Nat := 64
  properties : Properties := {}

namespace Image

/-- The error of an access of a kind that starts at an address, if there is one. -/
def faultAt? (i : Image) (kind : AccessKind) (a : Address) : Option Error :=
  (i.faults.find? fun f => f.kind = kind ∧ f.address = a).map Fault.error

/-- Reads a number of bytes; all of them have to be mapped. -/
def read (a : Address) (size : Nat) (i : Image) : Except Error Bytes :=
  match i.faultAt? .read a with
  | some e => .error e
  | none =>
    match i.memory.load? a size with
    | some bytes => .ok bytes
    | none => .error (.readUnderflow a)

/-- Writes bytes; all of them have to be mapped, and nothing is written otherwise. -/
def write (a : Address) (bytes : Bytes) (i : Image) : Except Error Unit × Image :=
  match i.faultAt? .write a with
  | some e => (.error e, i)
  | none =>
    match i.memory.write? a bytes with
    | some memory => (.ok (), { i with memory })
    | none => (.error (.writeUnderflow a), i)

/-- Finds the image running as long as polls are left. -/
def poll (i : Image) : Bool × Image :=
  match i.pollsLeft with
  | 0 => (false, i)
  | n + 1 => (true, { i with pollsLeft := n })

instance : Target Image where
  width i := i.width
  read a size i := (i.read a size, i)
  write a bytes i := i.write a bytes
  base i := (i.base, i)
  poll i := (.ok i.poll.1, i.poll.2)
  lifetime i := i.pollsLeft

instance : Described Image where
  name i := (i.properties.name, i)
  fileName i := (i.properties.fileName, i)
  handle i := i.properties.handle
  priority i := (i.properties.priority, i)
  mainWindow i := (i.properties.mainWindow, i)
  memoryUsage i := (i.properties.memoryUsage, i)
  startTime i := (i.properties.startTime, i)
  zone i := i.properties.zone
  processorTime i := (i.properties.processorTime, i)

end Image

end MemWatch
