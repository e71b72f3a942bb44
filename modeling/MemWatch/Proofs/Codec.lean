/-
# Bytes of values

Little-endian bytes and numbers modulo a power of 256 are two forms of the same thing, and the
typed values in memory come down to that: encoding keeps the low bytes of a value, and decoding
picks the number of the type's range that agrees with them.
-/
import Mathlib.Data.Int.ModEq
import Mathlib.Tactic.Ring
import MemWatch.ValueType

namespace MemWatch

/-! ## Bytes and numbers -/

namespace Bytes

theorem toNat_ofNat (size n : Nat) : (ofNat size n).toNat = n % 256 ^ size := by
  induction size generalizing n with
  | zero => simp [ofNat, toNat, Nat.mod_one]
  | succ size ih =>
    have hsplit : n % 256 ^ (size + 1) = n % 256 + 256 * (n / 256 % 256 ^ size) := by
      rw [Nat.pow_succ', Nat.mod_mul]
    rw [ofNat, toNat, ih, UInt8.toNat_ofNat', hsplit]

/-- Bytes are written again for the number that they spell. -/
theorem ofNat_toNat (bytes : Bytes) : ofNat bytes.length bytes.toNat = bytes := by
  induction bytes with
  | nil => rfl
  | cons b rest ih =>
    have hb := b.toNat_lt
    have hlow : (b.toNat + 256 * toNat rest) % 256 = b.toNat := by omega
    have hhigh : (b.toNat + 256 * toNat rest) / 256 = toNat rest := by omega
    rw [List.length_cons, toNat, ofNat, hhigh, ih]
    congr 1
    apply UInt8.toNat.inj
    rw [UInt8.toNat_ofNat', hlow]

theorem ofNat_mod (size n : Nat) : ofNat size (n % 256 ^ size) = ofNat size n := by
  have h := ofNat_toNat (ofNat size n)
  rwa [length_ofNat, toNat_ofNat] at h

theorem toNat_lt (bytes : Bytes) : bytes.toNat < 256 ^ bytes.length := by
  have h := toNat_ofNat bytes.length bytes.toNat
  rw [ofNat_toNat] at h
  rw [h]
  exact Nat.mod_lt _ (Nat.pow_pos (by omega))

end Bytes

/-! ## Values -/

namespace ValueType

variable (t : ValueType)

/-- The value as a location of the type holds it. -/
def wrapped (v : Int64) : Int64 :=
  .ofInt (t.wrap v.toInt)

/-- The number of values of a type. -/
def range : Nat :=
  256 ^ t.size

theorem wrap_emod (i : Int) : t.wrap (i % t.range) = t.wrap i := by
  cases t with
  | u8 => exact Int.emod_emod_of_dvd i (dvd_refl _)
  | i16 => exact Int.emod_bmod (x := i) (n := UInt16.size)
  | i32 => exact Int.emod_bmod (x := i) (n := UInt32.size)
  | i64 => exact Int.emod_bmod (x := i) (n := UInt64.size)

theorem emod_wrap (i : Int) : t.wrap i % t.range = i % t.range := by
  cases t with
  | u8 => exact Int.emod_emod_of_dvd i (dvd_refl _)
  | i16 => exact Int.bmod_emod (x := i) (m := UInt16.size)
  | i32 => exact Int.bmod_emod (x := i) (m := UInt32.size)
  | i64 => exact Int.bmod_emod (x := i) (m := UInt64.size)

theorem range_dvd : t.range ∣ 2 ^ 64 := by
  cases t <;> decide

theorem wrap_emod_two_pow (i : Int) : t.wrap (i % 2 ^ 64) = t.wrap i := by
  have hdvd : (t.range : Int) ∣ 2 ^ 64 := by exact_mod_cast t.range_dvd
  rw [← wrap_emod, Int.emod_emod_of_dvd i hdvd, wrap_emod]

/-- The bits of a value, as a number without sign. -/
theorem toNat_toUInt64 (v : Int64) : (v.toUInt64.toNat : Int) = v.toInt % 2 ^ 64 := by
  have hbits : v.toInt = (v.toUInt64.toNat : Int).bmod (2 ^ 64) := by
    rw [← Int64.toInt_toBitVec, BitVec.toInt_eq_toNat_bmod]
    rfl
  have hlt : v.toUInt64.toNat < 2 ^ 64 := v.toUInt64.toNat_lt
  have hmod := Int.bmod_emod (x := v.toUInt64.toNat) (m := 2 ^ 64)
  rw [← hbits] at hmod
  rw [show (2 : Int) ^ 64 = ((2 ^ 64 : Nat) : Int) by norm_num, hmod]
  omega

/-- **Reading back.**  An encoded value is decoded as the value wrapped to the type. -/
theorem decode_encode (v : Int64) : t.decode (t.encode v) = t.wrapped v := by
  rw [decode, encode, Bytes.toNat_ofNat, wrapped, Int.natCast_mod, toNat_toUInt64]
  rw [show ((256 ^ t.size : Nat) : Int) = t.range from rfl, wrap_emod, wrap_emod_two_pow]

/-- **Writing back.**  Bytes of the type's size are encoded again from the value that they
spell. -/
theorem encode_decode {bytes : Bytes} (h : bytes.length = t.size) :
    t.encode (t.decode bytes) = bytes := by
  have hdvd : (t.range : Int) ∣ 2 ^ 64 := by exact_mod_cast t.range_dvd
  have hsize : (t.range : Int) ∣ Int64.size := by exact_mod_cast t.range_dvd
  have hlt : bytes.toNat < t.range := by
    have hbytes := bytes.toNat_lt
    rwa [h] at hbytes
  have hbits : ((t.decode bytes).toUInt64.toNat : Int) % t.range = bytes.toNat := by
    -- the number of values divides 2^64, so the way through 64 bits keeps the remainder
    calc ((t.decode bytes).toUInt64.toNat : Int) % t.range
        = (t.wrap bytes.toNat).bmod Int64.size % 2 ^ 64 % t.range := by
          rw [toNat_toUInt64, decode, Int64.toInt_ofInt]
      _ = (t.wrap bytes.toNat).bmod Int64.size % t.range := Int.emod_emod_of_dvd _ hdvd
      _ = t.wrap bytes.toNat % t.range := by
          rw [← Int.emod_emod_of_dvd _ hsize, Int.bmod_emod, Int.emod_emod_of_dvd _ hsize]
      _ = bytes.toNat % t.range := t.emod_wrap _
      _ = bytes.toNat := Int.emod_eq_of_lt (by omega) (by exact_mod_cast hlt)
  have hlow : (t.decode bytes).toUInt64.toNat % 256 ^ t.size = bytes.toNat := by
    exact_mod_cast hbits
  rw [encode, ← Bytes.ofNat_mod, hlow, ← h, Bytes.ofNat_toNat]

theorem encode_wrapped (v : Int64) : t.encode (t.wrapped v) = t.encode v := by
  rw [← decode_encode, encode_decode t (length_encode t v)]

theorem wrapped_decode {bytes : Bytes} (h : bytes.length = t.size) :
    t.wrapped (t.decode bytes) = t.decode bytes := by
  rw [← decode_encode, encode_decode t h]

end ValueType

end MemWatch
