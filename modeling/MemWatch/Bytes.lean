/-
# Byte strings

Byte strings as lists, and little-endian numbers in them: the first byte is the least significant.
-/

namespace MemWatch

/-- A string of bytes. -/
abbrev Bytes := List UInt8

namespace Bytes

/-- The `size` low bytes of a number, least significant first. -/
def ofNat : (size : Nat) → Nat → Bytes
  | 0, _ => []
  | size + 1, n => UInt8.ofNat n :: ofNat size (n / 256)

/-- The number that a byte string spells, least significant byte first. -/
def toNat : Bytes → Nat
  | [] => 0
  | b :: rest => b.toNat + 256 * toNat rest

@[simp] theorem length_ofNat (size n : Nat) : (ofNat size n).length = size := by
  induction size generalizing n with
  | zero => rfl
  | succ size ih => simp [ofNat, ih]

/-- The encoded form of a text. -/
def ofString (text : String) : Bytes :=
  text.toUTF8.data.toList

end Bytes

end MemWatch
