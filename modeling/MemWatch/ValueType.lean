/-
# Types of values in memory

The four types a location can be treated as: an unsigned byte and signed numbers of two, four and
eight bytes.  A value is a signed 64-bit number; stored in a narrower type it keeps its low bytes
only, and reading it back wraps it into the type's range.
-/
import MemWatch.Bytes

namespace MemWatch

/-- The type that a location is treated as. -/
inductive ValueType where
  | u8
  | i16
  | i32
  | i64
deriving DecidableEq, Repr

namespace ValueType

/-- Four signed bytes are the type of a location without a type letter. -/
instance : Inhabited ValueType where
  default := i32

/-! ## Names -/

/-- The letter of the type. -/
def letter : ValueType → Char
  | u8 => 'B'
  | i16 => 'S'
  | i32 => 'I'
  | i64 => 'L'

/-- The type with the given letter, in either case. -/
def ofLetter? (c : Char) : Option ValueType :=
  if c = 'B' ∨ c = 'b' then some u8
  else if c = 'S' ∨ c = 's' then some i16
  else if c = 'I' ∨ c = 'i' then some i32
  else if c = 'L' ∨ c = 'l' then some i64
  else none

/-- The name of the type in diagnostics. -/
def name : ValueType → String
  | u8 => "u8"
  | i16 => "i16"
  | i32 => "i32"
  | i64 => "i64"

/-! ## Representation -/

/-- The size of a value in bytes. -/
def size : ValueType → Nat
  | u8 => 1
  | i16 => 2
  | i32 => 4
  | i64 => 8

/-- The number of the type's range that agrees with `i` modulo the type's number of values. -/
def wrap : ValueType → Int → Int
  | u8, i => i % 256
  | i16, i => Int.bmod i UInt16.size
  | i32, i => Int.bmod i UInt32.size
  | i64, i => Int.bmod i UInt64.size

/-- The bytes of a value: its low bytes, least significant first. -/
def encode (t : ValueType) (v : Int64) : Bytes :=
  .ofNat t.size v.toUInt64.toNat

/-- The value of a byte string of the type's size. -/
def decode (t : ValueType) (bytes : Bytes) : Int64 :=
  .ofInt (t.wrap bytes.toNat)

@[simp] theorem length_encode (t : ValueType) (v : Int64) : (t.encode v).length = t.size := by
  simp [encode]

end ValueType

end MemWatch
