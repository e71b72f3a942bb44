/-
# Memory

Sparse memory: some addresses hold a byte, the others are unmapped.  A range of addresses wraps
around at 2^64.  Two memories are equal if they hold the same bytes at the same addresses.
-/
import MemWatch.Address
import MemWatch.Bytes
import Std.Data.ExtTreeMap

namespace MemWatch

/-- A way to access memory. -/
inductive AccessKind where
  | read
  | write
deriving DecidableEq, Repr

/-- The bytes held at mapped addresses. -/
structure Memory where
  cells : Std.ExtTreeMap UInt64 UInt8 compare := ∅

namespace Memory

/-- Memory in which nothing is mapped. -/
def empty : Memory :=
  {}

/-! ## Single bytes -/

/-- The byte at an address; without one the address is unmapped. -/
def byte? (m : Memory) (a : Address) : Option UInt8 :=
  m.cells[a.word]?

/-- The memory with a byte at an address. -/
def setByte (m : Memory) (a : Address) (b : UInt8) : Memory :=
  ⟨m.cells.insert a.word b⟩

/-- The memory with an address unmapped. -/
def clearByte (m : Memory) (a : Address) : Memory :=
  ⟨m.cells.erase a.word⟩

@[simp] theorem byte?_empty (a : Address) : empty.byte? a = none := by
  simp [empty, byte?]

/-- Setting a byte maps its address and leaves the others as they are. -/
theorem byte?_setByte (m : Memory) (a c : Address) (b : UInt8) :
    (m.setByte a b).byte? c = if a = c then some b else m.byte? c := by
  rcases a with ⟨a⟩
  rcases c with ⟨c⟩
  simp [setByte, byte?, Std.ExtTreeMap.getElem?_insert]

/-- Clearing a byte unmaps its address and leaves the others as they are. -/
theorem byte?_clearByte (m : Memory) (a c : Address) :
    (m.clearByte a).byte? c = if a = c then none else m.byte? c := by
  rcases a with ⟨a⟩
  rcases c with ⟨c⟩
  simp [clearByte, byte?, Std.ExtTreeMap.getElem?_erase]

/-! ## Ranges -/

/-- All addresses of a range are mapped. -/
def isMapped (m : Memory) (a : Address) : Nat → Bool
  | 0 => true
  | size + 1 => (m.byte? a).isSome && isMapped m (a.offset 1) size

/-- The bytes of a range, if all of them are mapped. -/
def load? (m : Memory) (a : Address) : Nat → Option Bytes
  | 0 => some []
  | size + 1 =>
    match m.byte? a, load? m (a.offset 1) size with
    | some b, some rest => some (b :: rest)
    | _, _ => none

/-- A range that is loaded is loaded whole. -/
theorem length_of_load? {m : Memory} {a : Address} {size : Nat} {bytes : Bytes}
    (h : m.load? a size = some bytes) : bytes.length = size := by
  induction size generalizing a bytes with
  | zero => simp_all [load?]
  | succ size ih =>
    simp only [load?] at h
    split at h
    · rename_i hrest
      simp only [Option.some.injEq] at h
      simp [← h, ih hrest]
    · simp at h

/-- A range can be loaded exactly if all of it is mapped. -/
theorem isSome_load? (m : Memory) (a : Address) (size : Nat) :
    (m.load? a size).isSome = m.isMapped a size := by
  induction size generalizing a with
  | zero => rfl
  | succ size ih =>
    rw [isMapped, ← ih, load?]
    cases m.byte? a <;> cases m.load? (a.offset 1) size <;> rfl

/-- The bytes of a range up to its first unmapped address. -/
def loadPrefix (m : Memory) (a : Address) : Nat → Bytes
  | 0 => []
  | size + 1 =>
    match m.byte? a with
    | some b => b :: loadPrefix m (a.offset 1) size
    | none => []

/-- Maps a range to the given bytes. -/
def store (m : Memory) (a : Address) : Bytes → Memory
  | [] => m
  | b :: rest => store (m.setByte a b) (a.offset 1) rest

/-- Writes bytes to a range, if all of it is mapped. -/
def write? (m : Memory) (a : Address) (bytes : Bytes) : Option Memory :=
  if m.isMapped a bytes.length then some (m.store a bytes) else none

/-- Unmaps a range. -/
def unmap (m : Memory) (a : Address) : Nat → Memory
  | 0 => m
  | size + 1 => unmap (m.clearByte a) (a.offset 1) size

/-! ## Runs of mapped addresses -/

/-- A cell in front of ascending runs: it joins the first run if it lies right before it. -/
def consCell (cell : UInt64 × UInt8) : List (Address × Bytes) → List (Address × Bytes)
  | [] => [(⟨cell.1⟩, [cell.2])]
  | (a, bytes) :: rest =>
    if cell.1.toNat + 1 = a.toNat then (⟨cell.1⟩, cell.2 :: bytes) :: rest
    else (⟨cell.1⟩, [cell.2]) :: (a, bytes) :: rest

/-- The longest runs of mapped addresses in ascending order, each with its bytes. -/
def runs (m : Memory) : List (Address × Bytes) :=
  m.cells.toList.foldr consCell []

end Memory

end MemWatch
