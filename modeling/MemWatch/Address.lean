/-
# Addresses

Virtual addresses of 64 bits.  Addition wraps around.  An address is written in upper-case
hexadecimal, either as short as possible or as `0x` and at least eight digits; it is read from
hexadecimal digits alone, without a sign or a base marker.
-/
import MemWatch.Text.Numeral

namespace MemWatch

/-- A virtual address. -/
structure Address where
  word : UInt64
deriving DecidableEq, Inhabited, Repr

namespace Address

/-! ## Numbers and addresses -/

/-- The number of an address. -/
def toNat (a : Address) : Nat :=
  a.word.toNat

/-- The address of a number, modulo 2^64. -/
def ofNat (n : Nat) : Address :=
  ⟨UInt64.ofNat n⟩

/-- The address zero. -/
def null : Address :=
  ⟨0⟩

/-- The address is zero. -/
def isNull (a : Address) : Bool :=
  a == null

/-- Addresses are added modulo 2^64. -/
instance : Add Address where
  add a b := ⟨a.word + b.word⟩

/-- Addresses are ordered by their number. -/
instance : Ord Address where
  compare a b := compare a.word b.word

theorem toNat_lt (a : Address) : a.toNat < UInt64.size :=
  a.word.toNat_lt_size

theorem toNat_ofNat (n : Nat) : (ofNat n).toNat = n % UInt64.size := by
  simp [ofNat, toNat]

@[simp] theorem ofNat_toNat (a : Address) : ofNat a.toNat = a := by
  simp [ofNat, toNat]

theorem toNat_add (a b : Address) :
    (a + b).toNat = (a.toNat + b.toNat) % UInt64.size :=
  UInt64.toNat_add a.word b.word

/-- The address `n` bytes further on. -/
def offset (a : Address) (n : Nat) : Address :=
  a + ofNat n

/-! ## Texts -/

/-- The address in as few hexadecimal digits as possible. -/
def hex (a : Address) : String :=
  Numeral.hex a.toNat

/-- The address as `0x` and at least eight hexadecimal digits. -/
def padded (a : Address) : String :=
  "0x" ++ String.ofList (Numeral.padLeft 8 '0' (Numeral.digits 16 a.toNat))

/-- The address that a run of hexadecimal digits spells, if it fits in 64 bits. -/
def ofHex? (text : List Char) : Option Address :=
  (Numeral.valueBelow? 16 UInt64.size text).map ofNat

end Address

end MemWatch
