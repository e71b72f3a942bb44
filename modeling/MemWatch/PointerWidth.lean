/-
# Pointer widths

A target holds pointers of four or of eight bytes.  Addresses in it are taken modulo the range of
its pointers.
-/
import MemWatch.Address
import MemWatch.Bytes

namespace MemWatch

/-- The width of the pointers in a target. -/
inductive PointerWidth where
  | four
  | eight
deriving DecidableEq, Repr

namespace PointerWidth

/-- Four bytes are taken for granted where nothing else is known. -/
instance : Inhabited PointerWidth where
  default := four

/-- The size of a pointer in bytes. -/
def size : PointerWidth → Nat
  | four => 4
  | eight => 8

/-- The number of addresses that a pointer can hold. -/
def range : PointerWidth → Nat
  | four => UInt32.size
  | eight => UInt64.size

/-- The word for the width in diagnostics. -/
def name : PointerWidth → String
  | four => "Four"
  | eight => "Eight"

/-- The address modulo the range of a pointer. -/
def truncate (w : PointerWidth) (a : Address) : Address :=
  .ofNat (a.toNat % w.range)

/-- The sum of two addresses modulo the range of a pointer. -/
def add (w : PointerWidth) (a b : Address) : Address :=
  w.truncate (a + b)

/-- The pointer stored in a byte string. -/
def decode (_w : PointerWidth) (bytes : Bytes) : Address :=
  .ofNat bytes.toNat

/-- A pointer of this width holds the address. -/
def holds (w : PointerWidth) (a : Address) : Bool :=
  w.truncate a == a

end PointerWidth

end MemWatch
