/-
# Ranges of memory

A range of addresses goes on modulo 2^64.  Storing bytes changes the range that they are stored to
and nothing else, and what was stored is loaded again.
-/
import MemWatch.Memory

namespace MemWatch

/-! ## Addresses of a range -/

namespace Address

/-- The address `x` is one of the `n` addresses from `a` on. -/
def InRange (a : Address) (n : Nat) (x : Address) : Prop :=
  ∃ k < n, x = a.offset k

/-- Two ranges have no address in common. -/
def Apart (a : Address) (n : Nat) (b : Address) (m : Nat) : Prop :=
  ∀ x, InRange a n x → ¬ InRange b m x

theorem toNat_inj {a b : Address} (h : a.toNat = b.toNat) : a = b := by
  rw [← ofNat_toNat a, h, ofNat_toNat]

theorem toNat_offset (a : Address) (k : Nat) :
    (a.offset k).toNat = (a.toNat + k) % UInt64.size := by
  rw [offset, toNat_add, toNat_ofNat, Nat.add_mod_mod]

@[simp] theorem offset_zero (a : Address) : a.offset 0 = a := by
  apply toNat_inj
  rw [toNat_offset, Nat.add_zero, Nat.mod_eq_of_lt a.toNat_lt]

theorem offset_offset (a : Address) (j k : Nat) : (a.offset j).offset k = a.offset (j + k) := by
  apply toNat_inj
  rw [toNat_offset, toNat_offset, toNat_offset, Nat.mod_add_mod, Nat.add_assoc]

/-- Within 2^64 bytes no address comes twice. -/
theorem offset_inj {a : Address} {j k : Nat} (hj : j < UInt64.size) (hk : k < UInt64.size)
    (h : a.offset j = a.offset k) : j = k := by
  have hnat := congrArg toNat h
  rw [toNat_offset, toNat_offset] at hnat
  have ha := a.toNat_lt
  unfold UInt64.size at *
  omega

theorem Apart.symm {a b : Address} {n m : Nat} (h : Apart a n b m) : Apart b m a n :=
  fun x hb ha => h x ha hb

/-- A range that ends before another one starts, which does not wrap around, is apart from it. -/
theorem apart_of_le {a b : Address} {n m : Nat} (hab : a.toNat + n ≤ b.toNat)
    (hb : b.toNat + m ≤ UInt64.size) : Apart a n b m := by
  rintro x ⟨j, hj, rfl⟩ ⟨k, hk, hx⟩
  have hnat := congrArg toNat hx
  have hlt := b.toNat_lt
  rw [toNat_offset, toNat_offset, Nat.mod_eq_of_lt (by omega), Nat.mod_eq_of_lt (by omega)] at hnat
  omega

/-- A range starts with its first address and goes on behind it. -/
theorem inRange_succ {a x : Address} {n : Nat} :
    InRange a (n + 1) x ↔ x = a ∨ InRange (a.offset 1) n x := by
  constructor
  · rintro ⟨k, hk, rfl⟩
    cases k with
    | zero => exact Or.inl (offset_zero a)
    | succ k => exact Or.inr ⟨k, by omega, by rw [offset_offset, Nat.add_comm]⟩
  · rintro (rfl | ⟨k, hk, rfl⟩)
    · exact ⟨0, by omega, (offset_zero x).symm⟩
    · exact ⟨k + 1, by omega, by rw [offset_offset, Nat.add_comm]⟩

end Address

/-! ## Loading and storing -/

namespace Memory

open Address

variable {m m' : Memory} {a b x : Address} {n : Nat} {bytes : Bytes}

/-- Memories with the same bytes at all addresses are the same. -/
theorem ext_byte? (h : ∀ x, m.byte? x = m'.byte? x) : m = m' := by
  rcases m with ⟨cells⟩
  rcases m' with ⟨cells'⟩
  congr 1
  apply Std.ExtTreeMap.ext_getElem?
  intro word
  exact h ⟨word⟩

/-- What is loaded depends on the bytes of the range only. -/
theorem load?_congr (h : ∀ x, InRange a n x → m.byte? x = m'.byte? x) :
    m.load? a n = m'.load? a n := by
  induction n generalizing a with
  | zero => rfl
  | succ n ih =>
    have hfirst := h a (inRange_succ.mpr (Or.inl rfl))
    have hrest := ih fun x hx => h x (inRange_succ.mpr (Or.inr hx))
    rw [load?, load?, hfirst, hrest]

/-- Whether a range is mapped depends on the bytes of the range only. -/
theorem isMapped_congr (h : ∀ x, InRange a n x → (m.byte? x).isSome = (m'.byte? x).isSome) :
    m.isMapped a n = m'.isMapped a n := by
  induction n generalizing a with
  | zero => rfl
  | succ n ih =>
    have hfirst := h a (inRange_succ.mpr (Or.inl rfl))
    have hrest := ih fun x hx => h x (inRange_succ.mpr (Or.inr hx))
    rw [isMapped, isMapped, hfirst, hrest]

/-- A range is mapped if every address of it is. -/
theorem isMapped_iff :
    m.isMapped a n = true ↔ ∀ x, InRange a n x → (m.byte? x).isSome = true := by
  induction n generalizing a with
  | zero => simp [isMapped, InRange]
  | succ n ih =>
    rw [isMapped, Bool.and_eq_true, ih]
    simp only [inRange_succ, forall_eq_or_imp]

/-- What is loaded are the bytes at the addresses of the range, one after the other. -/
theorem load?_eq_some_iff :
    m.load? a n = some bytes ↔
      bytes.length = n ∧ ∀ k < n, m.byte? (a.offset k) = bytes[k]? := by
  induction n generalizing a bytes with
  | zero => simp [load?, eq_comm]
  | succ n ih =>
    rw [load?]
    constructor
    · intro h
      split at h
      · rename_i byte rest hbyte hrest
        obtain rfl := Option.some.inj h
        obtain ⟨hlength, hbytes⟩ := ih.mp hrest
        refine ⟨by rw [List.length_cons, hlength], fun k hk => ?_⟩
        cases k with
        | zero => rw [offset_zero, hbyte, List.getElem?_cons_zero]
        | succ k =>
          rw [List.getElem?_cons_succ, ← hbytes k (by omega), offset_offset, Nat.add_comm]
      · simp at h
    · rintro ⟨hlength, hbytes⟩
      obtain ⟨byte, rest, rfl⟩ := List.exists_cons_of_length_eq_add_one hlength
      have hbyte : m.byte? a = some byte := by simpa using hbytes 0 (by omega)
      have hrest : m.load? (a.offset 1) n = some rest := by
        refine ih.mpr ⟨by simpa using hlength, fun k hk => ?_⟩
        rw [offset_offset, Nat.add_comm, hbytes (k + 1) (by omega), List.getElem?_cons_succ]
      rw [hbyte, hrest]

/-- A range within one that was loaded is loaded as that part of the bytes. -/
theorem load?_inner {j k : Nat} (h : m.load? a n = some bytes) (hk : k + j ≤ n) :
    m.load? (a.offset k) j = some ((bytes.drop k).take j) := by
  obtain ⟨hlength, hbytes⟩ := load?_eq_some_iff.mp h
  refine load?_eq_some_iff.mpr ⟨?_, fun l hl => ?_⟩
  · rw [List.length_take, List.length_drop, hlength]
    omega
  · rw [offset_offset, hbytes (k + l) (by omega), List.getElem?_take_of_lt hl, List.getElem?_drop]

/-- A mapped range is loaded whole. -/
theorem exists_load?_of_isMapped (h : m.isMapped a n = true) :
    ∃ bytes, m.load? a n = some bytes := by
  rw [← isSome_load?] at h
  exact Option.isSome_iff_exists.mp h

/-- Storing leaves all other addresses alone. -/
theorem byte?_store_of_not_inRange (hx : ¬ InRange a bytes.length x) :
    (m.store a bytes).byte? x = m.byte? x := by
  induction bytes generalizing m a with
  | nil => rfl
  | cons byte rest ih =>
    rw [List.length_cons, inRange_succ, not_or] at hx
    rw [store, ih hx.2, byte?_setByte, if_neg (Ne.symm hx.1)]

/-- Setting a mapped byte maps nothing new. -/
theorem isSome_byte?_setByte (h : (m.byte? a).isSome = true) (byte : UInt8) (x : Address) :
    ((m.setByte a byte).byte? x).isSome = (m.byte? x).isSome := by
  rw [byte?_setByte]
  split
  · rename_i hax
    rw [← hax, h]
    rfl
  · rfl

/-- Storing to a mapped range maps nothing new. -/
theorem isSome_byte?_store (h : m.isMapped a bytes.length = true) (x : Address) :
    ((m.store a bytes).byte? x).isSome = (m.byte? x).isSome := by
  induction bytes generalizing m a with
  | nil => rfl
  | cons byte rest ih =>
    rw [List.length_cons, isMapped, Bool.and_eq_true] at h
    have hrest : (m.setByte a byte).isMapped (a.offset 1) rest.length = true := by
      rw [isMapped_congr fun y _ => isSome_byte?_setByte h.1 byte y]
      exact h.2
    rw [store, ih hrest, isSome_byte?_setByte h.1]

/-- Storing to a mapped range leaves the mapping of all ranges as it is. -/
theorem isMapped_store (h : m.isMapped a bytes.length = true) (b : Address) (n : Nat) :
    (m.store a bytes).isMapped b n = m.isMapped b n :=
  isMapped_congr fun x _ => isSome_byte?_store h x

/-- A range apart from the one stored to is loaded as before. -/
theorem load?_store_of_apart (h : Apart a bytes.length b n) :
    (m.store a bytes).load? b n = m.load? b n :=
  load?_congr fun _ hx => byte?_store_of_not_inRange fun ha => h _ ha hx

/-- What was stored is loaded again. -/
theorem load?_store (h : bytes.length ≤ UInt64.size) :
    (m.store a bytes).load? a bytes.length = some bytes := by
  induction bytes generalizing m a with
  | nil => rfl
  | cons byte rest ih =>
    rw [List.length_cons] at h
    -- the range does not come round to its first address again
    have hfirst : ¬ InRange (a.offset 1) rest.length a := by
      rintro ⟨k, hk, ha⟩
      rw [offset_offset] at ha
      have hzero : 0 = 1 + k := by
        apply offset_inj (a := a) (by decide) (by omega)
        rw [offset_zero, ← ha]
      omega
    rw [List.length_cons, store, load?, byte?_store_of_not_inRange hfirst, byte?_setByte,
      if_pos rfl, ih (by omega)]

/-- Storing the bytes that are there already changes nothing. -/
theorem store_of_load? (h : m.load? a n = some bytes) : m.store a bytes = m := by
  induction n generalizing a bytes with
  | zero =>
    obtain rfl : [] = bytes := by simpa [load?] using h
    rfl
  | succ n ih =>
    rw [load?] at h
    split at h
    · rename_i byte rest hbyte hrest
      obtain rfl := Option.some.inj h
      have hset : m.setByte a byte = m := by
        apply ext_byte?
        intro x
        rw [byte?_setByte]
        split
        · rename_i hax
          rw [← hax, hbyte]
        · rfl
      rw [store, hset, ih hrest]
    · simp at h

end Memory

end MemWatch
