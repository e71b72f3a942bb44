/-
# Targets

A target is anything whose memory can be watched: it answers reads and writes, knows the base of
its main module, and can be asked whether it still runs.  Everything that is done to a target is an
action on a scene, which keeps the target, the calls made to it, and the diagnostics.
-/
import MemWatch.Error

namespace MemWatch

/-! ## The capability -/

/-- What a target offers.  Every operation may change the target and may fail. -/
class Target (σ : Type) where
  /-- The width of pointers in the target. -/
  width : σ → PointerWidth
  /-- Reads a number of bytes at an address. -/
  read : Address → Nat → σ → Except Error Bytes × σ
  /-- Writes bytes at an address. -/
  write : Address → Bytes → σ → Except Error Unit × σ
  /-- The base of the main module. -/
  base : σ → Except Error Address × σ
  /-- Asks whether the target still runs. -/
  poll : σ → Except Error Bool × σ
  /-- A bound on how many more times in a row it can be found running. -/
  lifetime : σ → Nat

/-! ## Scenes -/

/-- A call made to a target, with whether it succeeded. -/
inductive Call where
  | read (address : Address) (size : Nat) (ok : Bool)
  | write (address : Address) (bytes : Bytes) (ok : Bool)
  | base
  | alive
deriving DecidableEq, Repr

/-- A target with the calls made to it and the diagnostics so far. -/
structure Scene (σ : Type) where
  target : σ
  log : Array LogRecord := #[]
  calls : Array Call := #[]

/-- Something done on a scene that always succeeds. -/
abbrev Action (σ : Type) := StateM (Scene σ)

/-- Something done on a scene that may fail; what was done before the failure stays done. -/
abbrev Attempt (σ : Type) := ExceptT Error (StateM (Scene σ))

section Scenes

variable {σ : Type} {α : Type}

/-- Takes down a diagnostic record. -/
def record (r : LogRecord) : Action σ Unit :=
  fun ⟨target, log, calls⟩ => ((), ⟨target, log.push r, calls⟩)

/-- Takes down diagnostic records in order. -/
def recordAll (records : List LogRecord) : Action σ Unit :=
  fun ⟨target, log, calls⟩ => ((), ⟨target, log ++ records.toArray, calls⟩)

/-- An action as an attempt that never fails. -/
def Action.always (act : Action σ α) : Attempt σ α :=
  ExceptT.lift act

/-- Carries an attempt out in the course of another one, with its failure as a result. -/
def Attempt.caught (act : Attempt σ α) : Attempt σ (Except Error α) :=
  ExceptT.lift act.run

/-- Takes down a diagnostic record in the course of an attempt. -/
def note (r : LogRecord) : Attempt σ Unit :=
  (record r).always

/-- Carries an attempt out, with its failure as a result. -/
def Attempt.outcome (act : Attempt σ α) : Action σ (Except Error α) :=
  act.run

/-- Succeeds or fails as a result says. -/
def Attempt.ofExcept (result : Except Error α) : Attempt σ α :=
  ExceptT.mk (pure result)

/-- Puts a question to the target that is no call to its memory. -/
def consult (op : σ → α × σ) : Action σ α :=
  fun ⟨target, log, calls⟩ =>
    let (answer, target) := op target
    (answer, ⟨target, log, calls⟩)

/-- The diagnostics that come with a result: those of finding its error out. -/
def resultNotes : Except Error α → List LogRecord
  | .ok _ => []
  | .error e => e.notes

/-- Puts a question to the target that it may fail to answer. -/
def ask (op : σ → Except Error α × σ) : Attempt σ α :=
  fun ⟨target, log, calls⟩ =>
    let (result, target) := op target
    (result, ⟨target, log ++ (resultNotes result).toArray, calls⟩)

/-- Makes a call to the target, which is kept with whether it succeeded. -/
def operate (op : σ → Except Error α × σ) (call : Bool → Call) : Attempt σ α :=
  fun ⟨target, log, calls⟩ =>
    let (result, target) := op target
    (result, ⟨target, log ++ (resultNotes result).toArray, calls.push (call result.isOk)⟩)

end Scenes

/-! ## Operations on a scene -/

section Operations

variable {σ : Type} [Target σ]

/-- The width of pointers in the target. -/
def pointerWidth : Attempt σ PointerWidth :=
  ExceptT.lift fun s => (Target.width s.target, s)

/-- Reads a number of bytes. -/
def readMemory (a : Address) (size : Nat) : Attempt σ Bytes :=
  operate (Target.read a size) (.read a size)

/-- Writes bytes. -/
def writeMemory (a : Address) (bytes : Bytes) : Attempt σ Unit :=
  operate (Target.write a bytes) (.write a bytes)

/-- The base of the main module. -/
def mainModuleBase : Attempt σ Address :=
  operate Target.base fun _ => .base

/-- Asks whether the target still runs; a target that cannot be asked does not. -/
def isAlive : Action σ Bool := do
  match ← (operate Target.poll fun _ => .alive).outcome with
  | .ok alive => return alive
  | .error e =>
    record (.debug ("failed to get exit code of process: " ++ e.message))
    return false

/-- Reads the pointer stored at an address. -/
def readPointer (a : Address) : Attempt σ Address := do
  let w ← pointerWidth
  let bytes ← readMemory a w.size
  return w.decode bytes

/-- Reads a value of the given type. -/
def readValue (t : ValueType) (a : Address) : Attempt σ Int64 := do
  let bytes ← readMemory a t.size
  return t.decode bytes

/-- Writes a value as the given type. -/
def writeValue (t : ValueType) (a : Address) (v : Int64) : Attempt σ Unit :=
  writeMemory a (t.encode v)

end Operations

end MemWatch
