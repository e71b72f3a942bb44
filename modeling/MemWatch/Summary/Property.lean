/-
# Properties of a process

What a summary tells about a process, and the capability to be asked for it.
-/
import MemWatch.Target
import MemWatch.Time.Instant

namespace MemWatch

/-- The scheduling priority of a process. -/
inductive PriorityClass where
  | idle
  | belowNormal
  | normal
  | aboveNormal
  | high
  | realTime
  /-- A class without a name. -/
  | other (code : Nat)
deriving DecidableEq, Repr

namespace PriorityClass

/-- The class with the given code. -/
def ofCode (code : Nat) : PriorityClass :=
  if code = 0x40 then idle
  else if code = 0x4000 then belowNormal
  else if code = 0x20 then normal
  else if code = 0x8000 then aboveNormal
  else if code = 0x80 then high
  else if code = 0x100 then realTime
  else other code

/-- The name of the class, or its code. -/
def text : PriorityClass → String
  | idle => "Idle"
  | belowNormal => "BelowNormal"
  | normal => "Normal"
  | aboveNormal => "AboveNormal"
  | high => "High"
  | realTime => "RealTime"
  | other code => "0x" ++ Numeral.hex code

end PriorityClass

/-- The main window of a process. -/
structure Window where
  handle : Nat
  title : String
deriving DecidableEq, Repr

/-- What stands for the window of a process that has none. -/
def Window.none : Window :=
  ⟨0, ""⟩

/-- The memory that a process uses, in bytes. -/
structure MemoryUsage where
  priv : Nat
  paged : Nat
deriving DecidableEq, Repr

/-- A target that can be asked for its properties.  Each question may fail on its own. -/
class Described (σ : Type) extends Target σ where
  name : σ → Except Error String × σ
  fileName : σ → Except Error String × σ
  handle : σ → Nat
  priority : σ → Except Error PriorityClass × σ
  mainWindow : σ → Except Error (Option Window) × σ
  memoryUsage : σ → Except Error MemoryUsage × σ
  startTime : σ → Except Error Instant × σ
  /-- The time zone that instants are shown in. -/
  zone : σ → Zone
  processorTime : σ → Except Error Duration × σ

end MemWatch
