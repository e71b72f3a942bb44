/-
# Typed access to memory

A value that is written becomes the low bytes of its number, so any part of it can be read as a
value of another type: what lies `k` bytes into it is its quotient by 256 to the power `k`, wrapped
to the type that is read.  A write takes place as a whole or not at all.

Main statement: a write fails exactly if some byte of its range is unmapped, and then it changes
nothing; otherwise every value within the range reads as a wrapped quotient, and every value apart
from it reads as before.
-/
import MemWatch.Image
import MemWatch.Proofs.Attempts
import MemWatch.Proofs.Ranges
import MemWatch.Proofs.Representation

namespace MemWatch

/-! ## Parts of an encoded value -/

namespace Bytes

/-- Without its low bytes a number is its quotient. -/
theorem drop_ofNat {size k : Nat} (h : k ≤ size) (n : Nat) :
    (ofNat size n).drop k = ofNat (size - k) (n / 256 ^ k) := by
  induction k generalizing size n with
  | zero => simp
  | succ k ih =>
    obtain ⟨size, rfl⟩ : ∃ s, size = s + 1 := ⟨size - 1, by omega⟩
    rw [ofNat, List.drop_succ_cons, ih (by omega), Nat.div_div_eq_div_mul, ← Nat.pow_succ',
      Nat.add_sub_add_right]

/-- The low bytes of a number do not depend on how many more are written. -/
theorem take_ofNat {size j : Nat} (h : j ≤ size) (n : Nat) :
    (ofNat size n).take j = ofNat j n := by
  induction j generalizing size n with
  | zero => rfl
  | succ j ih =>
    obtain ⟨size, rfl⟩ : ∃ s, size = s + 1 := ⟨size - 1, by omega⟩
    rw [ofNat, List.take_succ_cons, ih (by omega), ofNat]

end Bytes

/-- The quotient of a remainder is a remainder of the quotient. -/
theorem emod_mul_ediv (i : Int) {m : Int} (hm : 0 < m) (n : Int) :
    i % (m * n) / m = i / m % n := by
  calc i % (m * n) / m
      = (i + m * -(n * (i / (m * n)))) / m := by
        rw [Int.emod_def, Int.mul_assoc, Int.mul_neg, Int.sub_eq_add_neg]
    _ = i / m - n * (i / m / n) := by
        rw [Int.add_mul_ediv_left _ _ hm.ne', Int.ediv_ediv_of_nonneg hm.le, ← Int.sub_eq_add_neg]
    _ = i / m % n := (Int.emod_def _ _).symm

namespace ValueType

variable (t : ValueType)

theorem size_le : t.size ≤ 8 := by
  cases t <;> decide

theorem wrap_emod_of_dvd {i n : Int} (h : (t.range : Int) ∣ n) : t.wrap (i % n) = t.wrap i := by
  rw [← wrap_emod, Int.emod_emod_of_dvd i h, wrap_emod]

/-- As long as enough bits are left, the bits of a value without its low bytes are wrapped like the
quotient of the value. -/
theorem wrap_toUInt64_div {k : Nat} (hk : k + t.size ≤ 8) (v : Int64) :
    t.wrap (v.toUInt64.toNat / 256 ^ k : Nat) = t.wrap (v.toInt / 256 ^ k) := by
  have hsplit : (2 : Int) ^ 64 = 256 ^ k * 256 ^ (8 - k) := by
    rw [← Int.pow_add, show k + (8 - k) = 8 by omega]
    rfl
  have hdvd : (t.range : Int) ∣ 256 ^ (8 - k) := by
    rw [range, Nat.cast_pow]
    exact pow_dvd_pow _ (by omega)
  have hbits : ((v.toUInt64.toNat / 256 ^ k : Nat) : Int) = v.toInt / 256 ^ k % 256 ^ (8 - k) := by
    rw [Int.natCast_ediv, toNat_toUInt64, hsplit, Nat.cast_pow,
      ← emod_mul_ediv _ (Int.pow_pos (by decide))]
    rfl
  rw [hbits, wrap_emod_of_dvd t hdvd]

/-- **Parts.**  What lies `k` bytes into an encoded value is decoded as the quotient of the value,
wrapped to the type that is read. -/
theorem decode_inner {inner outer : ValueType} {k : Nat} (hk : k + inner.size ≤ outer.size)
    (v : Int64) :
    inner.decode (((outer.encode v).drop k).take inner.size) =
      .ofInt (inner.wrap (v.toInt / 256 ^ k)) := by
  have houter := outer.size_le
  rw [encode, Bytes.drop_ofNat (by omega), Bytes.take_ofNat (by omega), decode, Bytes.toNat_ofNat,
    Int.natCast_mod, show ((256 ^ inner.size : Nat) : Int) = inner.range from rfl, wrap_emod,
    wrap_toUInt64_div inner (by omega)]

end ValueType

/-- A value that was stored is loaded again as its bytes. -/
theorem Memory.load?_store_encode (m : Memory) (a : Address) (t : ValueType) (v : Int64) :
    (m.store a (t.encode v)).load? a t.size = some (t.encode v) := by
  have hword : (t.encode v).length ≤ UInt64.size := by
    rw [t.length_encode]
    exact t.size_le.trans (by decide)
  have hload := load?_store (m := m) (a := a) hword
  rwa [t.length_encode] at hload

/-! ## Images without faults -/

namespace Image

variable {i : Image}

/-- No access is made to fail. -/
theorem faultAt?_of_faults (h : i.faults = []) (kind : AccessKind) (a : Address) :
    i.faultAt? kind a = none := by
  rw [Image.faultAt?, h]
  rfl

/-- Without faults a mapped range is read as it is loaded. -/
theorem read_of_load? (h : i.faults = []) {a : Address} {n : Nat} {bytes : Bytes}
    (hload : i.memory.load? a n = some bytes) : i.read a n = .ok bytes := by
  rw [Image.read, faultAt?_of_faults h, hload]

theorem gives_readValue (i : Image) (t : ValueType) (a : Address) :
    (readValue t a).Gives i ((i.read a t.size).map t.decode) i := by
  rcases h : i.read a t.size with e | bytes
  · have hread : Target.read a t.size i = (.error e, i) := congrArg (·, i) h
    exact Attempt.gives_readValue_error hread
  · have hread : Target.read a t.size i = (.ok bytes, i) := congrArg (·, i) h
    exact Attempt.gives_readValue hread

/-- Without faults a value is written to a range that is mapped. -/
theorem exists_gives_writeValue (hfaults : i.faults = []) {t : ValueType} {a : Address}
    (hmapped : i.memory.isMapped a t.size = true) (v : Int64) :
    ∃ after : Image, (writeValue t a v).Gives i (.ok ()) after ∧ after.faults = [] ∧
      after.memory = i.memory.store a (t.encode v) := by
  have hwrite : Target.write a (t.encode v) i =
      (.ok (), { i with memory := i.memory.store a (t.encode v) }) := by
    show i.write a (t.encode v) = _
    rw [Image.write, faultAt?_of_faults hfaults, Memory.write?, t.length_encode, if_pos hmapped]
  have hgives := Attempt.gives_writeValue t a v i
  rw [hwrite] at hgives
  exact ⟨_, hgives, hfaults, rfl⟩

/-- Without faults a value is not written to a range of which some byte is unmapped. -/
theorem gives_writeValue_of_not_isMapped (hfaults : i.faults = []) {t : ValueType} {a : Address}
    (hmapped : ¬ i.memory.isMapped a t.size = true) (v : Int64) :
    (writeValue t a v).Gives i (.error (.writeUnderflow a)) i := by
  have hwrite : Target.write a (t.encode v) i = (.error (.writeUnderflow a), i) := by
    show i.write a (t.encode v) = _
    rw [Image.write, faultAt?_of_faults hfaults, Memory.write?, t.length_encode, if_neg hmapped]
  have hgives := Attempt.gives_writeValue t a v i
  rwa [hwrite] at hgives

/-- Part of a value that memory holds is read as the wrapped quotient of the value. -/
theorem exists_gives_readValue_inner (hfaults : i.faults = []) {inner outer : ValueType}
    {a : Address} {k : Nat} {v : Int64}
    (hload : i.memory.load? a outer.size = some (outer.encode v))
    (hk : k + inner.size ≤ outer.size) :
    ∃ w, (readValue inner (a.offset k)).Gives i (.ok w) i ∧
      w.toInt = inner.wrap (v.toInt / 256 ^ k) := by
  have hread := gives_readValue i inner (a.offset k)
  rw [read_of_load? hfaults (Memory.load?_inner hload hk)] at hread
  exact ⟨_, hread, by rw [ValueType.decode_inner hk, ValueType.toInt_ofInt_wrap]⟩

/-- Images with the same faults and the same bytes in a range give the same value there. -/
theorem exists_gives_readValue {after : Image} (hfaults : after.faults = i.faults) {t : ValueType}
    {a : Address} (hload : after.memory.load? a t.size = i.memory.load? a t.size) :
    ∃ r, (readValue t a).Gives i r i ∧ (readValue t a).Gives after r after := by
  have hread : after.read a t.size = i.read a t.size := by
    unfold Image.read Image.faultAt?
    rw [hfaults, hload]
  refine ⟨_, gives_readValue i t a, ?_⟩
  rw [← hread]
  exact gives_readValue after t a

open Address

/-- **Typed access.**  Over an image without faults a write of a value fails exactly if some byte of
its range is unmapped, and then it changes nothing.  Otherwise it leaves a memory in which every
value within the range is read as the quotient of the number that was written, wrapped to the type
that is read, and every value apart from the range is read as before. -/
theorem typed_access (hfaults : i.faults = []) (t : ValueType) (a : Address) (v : Int64) :
    ((∃ x, InRange a t.size x ∧ i.memory.byte? x = none) ∧
      (writeValue t a v).Gives i (.error (.writeUnderflow a)) i) ∨
    ((∀ x, InRange a t.size x → i.memory.byte? x ≠ none) ∧ ∃ after : Image,
      (writeValue t a v).Gives i (.ok ()) after ∧
      (∀ (inner : ValueType) (k : Nat), k + inner.size ≤ t.size →
        ∃ w, (readValue inner (a.offset k)).Gives after (.ok w) after ∧
          w.toInt = inner.wrap (v.toInt / 256 ^ k)) ∧
      ∀ (other : ValueType) (b : Address), Apart b other.size a t.size →
        ∃ r, (readValue other b).Gives i r i ∧ (readValue other b).Gives after r after) := by
  by_cases hmapped : i.memory.isMapped a t.size = true
  · obtain ⟨after, hwrite, hnone, hmemory⟩ := exists_gives_writeValue hfaults hmapped v
    rw [Memory.isMapped_iff] at hmapped
    refine Or.inr ⟨fun x hx => Option.isSome_iff_ne_none.mp (hmapped x hx), after, hwrite, ?_, ?_⟩
    · intro inner k hk
      have hload : after.memory.load? a t.size = some (t.encode v) := by
        rw [hmemory, Memory.load?_store_encode]
      exact exists_gives_readValue_inner hnone hload hk
    · intro other b hapart
      refine exists_gives_readValue (hnone.trans hfaults.symm) ?_
      rw [hmemory, Memory.load?_store_of_apart]
      rw [t.length_encode]
      exact hapart.symm
  · have hwrite := gives_writeValue_of_not_isMapped hfaults hmapped v
    obtain ⟨x, hx, hnone⟩ : ∃ x, InRange a t.size x ∧ i.memory.byte? x = none := by
      simpa [Memory.isMapped_iff] using hmapped
    exact Or.inl ⟨⟨x, hx, hnone⟩, hwrite⟩

/-- An image in which six bytes are mapped, two of them below the end of the address space and four
of them behind it. -/
def seam : Image where
  memory := Memory.empty.store (.ofNat 0xFFFFFFFFFFFFFFFE) [0, 0, 0, 0, 0, 0]

/-- Four bytes are written across the end of the address space, and the two in the middle of them
are read as the wrapped quotient of a negative number; a write of eight bytes fails. -/
theorem seam_access :
    seam.faults = [] ∧
      (∃ after, (writeValue .i32 (.ofNat 0xFFFFFFFFFFFFFFFE) (-70000)).Gives seam (.ok ()) after ∧
        ∃ w, (readValue .i16 (.ofNat 0xFFFFFFFFFFFFFFFF)).Gives after (.ok w) after ∧
          w.toInt = -274) ∧
      (writeValue .i64 (.ofNat 0xFFFFFFFFFFFFFFFE) 1).Gives seam
        (.error (.writeUnderflow (.ofNat 0xFFFFFFFFFFFFFFFE))) seam := by
  refine ⟨rfl, ?_, ?_⟩
  · rcases typed_access (i := seam) rfl .i32 (.ofNat 0xFFFFFFFFFFFFFFFE) (-70000) with
      ⟨⟨x, hx, hnone⟩, -⟩ | ⟨-, after, hwrite, hread, -⟩
    · have hmapped : seam.memory.isMapped (.ofNat 0xFFFFFFFFFFFFFFFE) 4 = true := by cbv
      have hsome := Memory.isMapped_iff.mp hmapped x hx
      rw [hnone] at hsome
      exact absurd hsome (by decide)
    · obtain ⟨w, hw, hvalue⟩ := hread .i16 1 (by decide)
      exact ⟨after, hwrite, w, hw, hvalue.trans (by decide)⟩
  · rcases typed_access (i := seam) rfl .i64 (.ofNat 0xFFFFFFFFFFFFFFFE) 1 with
      ⟨-, hwrite⟩ | ⟨hall, -⟩
    · exact hwrite
    · have hnone : seam.memory.byte? (.ofNat 4) = none := by cbv
      exact absurd hnone (hall _ ⟨6, by decide, by decide⟩)

end Image

end MemWatch
