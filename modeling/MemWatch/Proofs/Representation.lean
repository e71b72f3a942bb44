/-
# What a type can represent

A type has a range of numbers, as many as its bytes have patterns.  Every number is wrapped to the
one number of the range that agrees with it modulo that count, and nothing else is lost when a value
is encoded: the byte patterns of a type and the numbers of its range are in one-to-one
correspondence.

Main statement: an encoded value is decoded as the one number of the range that agrees with it,
bytes are encoded again from the value that they spell, and two values have the same bytes exactly
if they agree modulo the number of byte patterns.
-/
import MemWatch.Proofs.Codec

namespace MemWatch.ValueType

variable (t : ValueType)

/-! ## The range of a type -/

/-- The number can be a value of the type: a byte has no sign, the wider types are signed. -/
def Holds : ValueType → Int → Prop
  | u8, i => 0 ≤ i ∧ i < 2 ^ 8
  | i16, i => -2 ^ 15 ≤ i ∧ i < 2 ^ 15
  | i32, i => -2 ^ 31 ≤ i ∧ i < 2 ^ 31
  | i64, i => -2 ^ 63 ≤ i ∧ i < 2 ^ 63

theorem range_eq : (t.range : Int) = 2 ^ (8 * t.size) := by
  rw [range, Nat.cast_pow, Int.pow_mul]
  rfl

theorem Holds.bounds {t : ValueType} {i : Int} (h : t.Holds i) : -2 ^ 63 ≤ i ∧ i < 2 ^ 63 := by
  cases t <;> obtain ⟨hlow, hhigh⟩ := h <;> omega

/-! ## Wrapping -/

/-- A balanced remainder by a power of two is a signed number of that many bits. -/
theorem bmod_two_pow_bounds (i : Int) (k : Nat) :
    -2 ^ k ≤ i.bmod (2 ^ (k + 1)) ∧ i.bmod (2 ^ (k + 1)) < 2 ^ k := by
  have hpos : 0 < 2 ^ (k + 1) := Nat.two_pow_pos (k + 1)
  have hlow := Int.le_bmod (x := i) hpos
  have hhigh := Int.bmod_lt (x := i) hpos
  push_cast [Int.pow_succ] at hlow hhigh
  omega

/-- Wrapping leads into the range. -/
theorem holds_wrap (i : Int) : t.Holds (t.wrap i) := by
  cases t with
  | u8 => exact ⟨Int.emod_nonneg i (by decide), Int.emod_lt_of_pos i (by decide)⟩
  | i16 => exact bmod_two_pow_bounds i 15
  | i32 => exact bmod_two_pow_bounds i 31
  | i64 => exact bmod_two_pow_bounds i 63

theorem wrap_of_holds {i : Int} (h : t.Holds i) : t.wrap i = i := by
  cases t with
  | u8 => exact Int.emod_eq_of_lt h.1 h.2
  | i16 => exact Int.bmod_eq_of_le h.1 h.2
  | i32 => exact Int.bmod_eq_of_le h.1 h.2
  | i64 => exact Int.bmod_eq_of_le h.1 h.2

/-- **Wrapping.**  A number is wrapped to the one number of the range that agrees with it modulo the
number of values. -/
theorem eq_wrap_iff {i j : Int} : j = t.wrap i ↔ t.Holds j ∧ j ≡ i [ZMOD t.range] := by
  constructor
  · rintro rfl
    exact ⟨t.holds_wrap i, t.emod_wrap i⟩
  · rintro ⟨hholds, hmod⟩
    calc j = t.wrap j := (t.wrap_of_holds hholds).symm
      _ = t.wrap (j % t.range) := (t.wrap_emod j).symm
      _ = t.wrap (i % t.range) := congrArg t.wrap hmod
      _ = t.wrap i := t.wrap_emod i

/-- Numbers are wrapped to the same number exactly if they agree modulo the number of values. -/
theorem wrap_eq_wrap_iff {i j : Int} : t.wrap i = t.wrap j ↔ i ≡ j [ZMOD t.range] := by
  rw [eq_wrap_iff, and_iff_right (t.holds_wrap i)]
  unfold Int.ModEq
  rw [t.emod_wrap i]

theorem toInt_ofInt_wrap (i : Int) : (Int64.ofInt (t.wrap i)).toInt = t.wrap i :=
  Int64.toInt_ofInt_of_le (t.holds_wrap i).bounds.1 (t.holds_wrap i).bounds.2

theorem toInt_wrapped (v : Int64) : (t.wrapped v).toInt = t.wrap v.toInt :=
  t.toInt_ofInt_wrap v.toInt

/-! ## Bytes -/

/-- Values have the same bytes exactly if they are wrapped to the same value. -/
theorem encode_eq_encode_iff_wrapped {u v : Int64} :
    t.encode u = t.encode v ↔ t.wrapped u = t.wrapped v := by
  constructor
  · intro h
    rw [← t.decode_encode u, h, t.decode_encode v]
  · intro h
    rw [← t.encode_wrapped u, h, t.encode_wrapped v]

/-- **Representation.**  An encoded value is decoded as the one number of the type's range that
agrees with it modulo two to the number of bits, bytes of the type's size are encoded again from the
value that they are decoded as, and values have the same bytes exactly if they agree modulo two to
the number of bits. -/
theorem represents_modulo_range :
    (∀ (v : Int64) (i : Int), i = (t.decode (t.encode v)).toInt ↔
      t.Holds i ∧ i ≡ v.toInt [ZMOD 2 ^ (8 * t.size)]) ∧
    (∀ bytes : Bytes, bytes.length = t.size → t.encode (t.decode bytes) = bytes) ∧
    ∀ u v : Int64, t.encode u = t.encode v ↔ u.toInt ≡ v.toInt [ZMOD 2 ^ (8 * t.size)] := by
  rw [← range_eq]
  refine ⟨fun v i => ?_, fun bytes hsize => t.encode_decode hsize, fun u v => ?_⟩
  · rw [decode_encode, toInt_wrapped, eq_wrap_iff]
  · rw [encode_eq_encode_iff_wrapped, ← Int64.toInt_inj, toInt_wrapped, toInt_wrapped,
      wrap_eq_wrap_iff]

example : i16.encode 70000 = [0x70, 0x11] ∧ i16.decode [0x70, 0x11] = 4464 ∧
    u8.decode [0xFF] = 255 ∧ i16.decode [0xFF, 0xFF] = -1 := by decide

end MemWatch.ValueType
