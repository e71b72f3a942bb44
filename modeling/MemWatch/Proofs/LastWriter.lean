/-
# Entries that overlap

Entries with fixed values may lie over each other in any way, wrap around the end of the address
space, or lie in memory of which some bytes are unmapped.  Every turn writes an entry as a whole or
not at all, and turns come in the order of the ids, so every byte keeps what the last of the entries
that cover it wrote there.

Main statement: after a cycle every byte is that of the entry with the highest id that covers it, or
what it was if there is none; the readings are those of this memory, and it stays as it is.
-/
import Mathlib
import MemWatch.Proofs.Convergence

namespace MemWatch

/-! ## Single bytes of a write -/

/-- How many bytes an address lies behind `a`, modulo 2^64. -/
def Address.distance (a x : Address) : Nat :=
  (x.word - a.word).toNat

/-- An address lies as far behind another one as it was gone on from it. -/
theorem Address.distance_offset (a : Address) {k : Nat} (hk : k < UInt64.size) :
    a.distance (a.offset k) = k := by
  show (a.word + UInt64.ofNat k - a.word).toNat = k
  rw [add_sub_cancel_left, UInt64.toNat_ofNat_of_lt' hk]

/-- Byte `k` of an encoded value is the low byte of its quotient by 256 to the power `k`. -/
theorem ValueType.getElem?_encode (t : ValueType) {k : Nat} (hk : k < t.size) (v : Int64) :
    (t.encode v)[k]? = some (.ofInt (v.toInt / 256 ^ k)) := by
  have hsize := t.size_le
  have hlow : ((v.toUInt64.toNat / 256 ^ k : Nat) : Int) % 256 = v.toInt / 256 ^ k % 256 :=
    wrap_toUInt64_div u8 (show k + 1 ≤ 8 by omega) v
  have hbyte : UInt8.ofNat (v.toUInt64.toNat / 256 ^ k) = .ofInt (v.toInt / 256 ^ k) := by
    rw [UInt8.ofInt, ← UInt8.ofNat_mod_size]
    congr 1
    generalize v.toUInt64.toNat / 256 ^ k = n at hlow
    omega
  rw [encode, ← List.head?_drop, Bytes.drop_ofNat hk.le, ← hbyte,
    show t.size - k = t.size - k - 1 + 1 by omega, Bytes.ofNat, List.head?_cons]

/-- In a mapped place, each address holds its byte of the value that was put there. -/
theorem Entry.byte?_put_of_inRange {w : PointerWidth} {base : Address} {m : Memory} {e : Entry}
    (hmapped : m.isMapped (e.place w base) e.type.size = true) {x : Address}
    (hx : Address.InRange (e.place w base) e.type.size x) (v : Int64) :
    (e.put w base m v).byte? x =
      some (.ofInt (v.toInt / 256 ^ (e.place w base).distance x)) := by
  obtain ⟨k, hk, rfl⟩ := hx
  have hword : k < UInt64.size := hk.trans_le (e.type.size_le.trans (by decide))
  have hload := m.load?_store_encode (e.place w base) e.type v
  obtain ⟨-, hbytes⟩ := Memory.load?_eq_some_iff.mp hload
  rw [put_of_isMapped hmapped, hbytes k hk, ValueType.getElem?_encode _ hk,
    Address.distance_offset _ hword]

/-- A value that is put in a place leaves all other addresses alone. -/
theorem Entry.byte?_put_of_not_inRange {w : PointerWidth} {base : Address} {m : Memory} {e : Entry}
    {x : Address} (hx : ¬ Address.InRange (e.place w base) e.type.size x) (v : Int64) :
    (e.put w base m v).byte? x = m.byte? x := by
  unfold put Memory.write?
  split
  · rw [Option.getD_some, Memory.byte?_store_of_not_inRange]
    rwa [ValueType.length_encode]
  · rfl

namespace EntrySet

section Passes

variable {set : EntrySet} {w : PointerWidth} {base : Address} {m m' : Memory}
variable {id : RefId} {e : Entry} {v : Int64} {p : Nat} {x : Address} {b b' : Option UInt8}

/-! ## What is left at an address -/

/-- An entry with a fixed value is written over an address: its whole place is mapped, and the
address lies in it. -/
structure Covers (set : EntrySet) (w : PointerWidth) (base : Address) (m : Memory) (x : Address)
    (id : RefId) (e : Entry) (v : Int64) : Prop where
  get? : set.get? id = some e
  value : e.value = some (.literal v)
  mapped : m.isMapped (e.place w base) e.type.size = true
  inRange : Address.InRange (e.place w base) e.type.size x

/-- What is at an address when the first `p` entries had their turn: the byte that the one with the
highest id among those that cover it has there, or what was there before if there is none. -/
inductive Settles (set : EntrySet) (w : PointerWidth) (base : Address) (m : Memory) (p : Nat)
    (x : Address) : Option UInt8 → Prop where
  | last {id : RefId} {e : Entry} {v : Int64} (hid : id.index < p)
      (h : set.Covers w base m x id e v)
      (hlast : ∀ id' e' v', id'.index < p → set.Covers w base m x id' e' v' → id'.val ≤ id.val) :
      Settles set w base m p x (some (.ofInt (v.toInt / 256 ^ (e.place w base).distance x)))
  | untouched (h : ∀ id e v, id.index < p → ¬ set.Covers w base m x id e v) :
      Settles set w base m p x (m.byte? x)

/-- An id has one entry with one value. -/
theorem Covers.unique {e' : Entry} {v' : Int64} (h : set.Covers w base m x id e v)
    (h' : set.Covers w base m x id e' v') : e = e' ∧ v = v' := by
  obtain rfl : e = e' := Option.some.inj (h.get?.symm.trans h'.get?)
  have hvalue := Option.some.inj (h.value.symm.trans h'.value)
  exact ⟨rfl, EntryValue.literal.inj hvalue⟩

/-- The last entry that covers an address is the only one, so there is one byte. -/
theorem Settles.unique (h : set.Settles w base m p x b) (h' : set.Settles w base m p x b') :
    b = b' := by
  cases h with
  | last hid hcovers hlast =>
    cases h' with
    | last hid' hcovers' hlast' =>
      have hsame := Nat.le_antisymm (hlast' _ _ _ hid hcovers) (hlast _ _ _ hid' hcovers')
      rw [val_eq_index_succ, val_eq_index_succ, Nat.add_right_cancel_iff] at hsame
      obtain rfl := RefId.index_inj hsame
      obtain ⟨rfl, rfl⟩ := hcovers.unique hcovers'
      rfl
    | untouched hnone => exact absurd hcovers (hnone _ _ _ hid)
  | untouched hnone =>
    cases h' with
    | last hid' hcovers' _ => exact absurd hcovers' (hnone _ _ _ hid')
    | untouched _ => rfl

/-- A further entry that does not cover the address makes no difference. -/
theorem Settles.succ (h : set.Settles w base m id.index x b)
    (hnot : ∀ e v, ¬ set.Covers w base m x id e v) :
    set.Settles w base m (id.index + 1) x b := by
  -- an entry that covers the address is not this one, so it had its turn before
  have hbefore : ∀ id' e' v', id'.index < id.index + 1 → set.Covers w base m x id' e' v' →
      id'.index < id.index := by
    intro id' e' v' hid' hcovers
    refine Nat.lt_of_le_of_ne (Nat.le_of_lt_succ hid') fun hsame => ?_
    obtain rfl := RefId.index_inj hsame
    exact hnot e' v' hcovers
  cases h with
  | last hid hcovers hlast =>
    exact .last (Nat.lt_succ_of_lt hid) hcovers
      fun id' e' v' hid' h' => hlast id' e' v' (hbefore id' e' v' hid' h') h'
  | untouched hnone =>
    exact .untouched fun id' e' v' hid' h' => hnone id' e' v' (hbefore id' e' v' hid' h') h'

/-! ## Passes -/

/-- When the first `p` entries had their turn, the same addresses are mapped as before, and each of
them holds what these entries left there. -/
structure Overlaid (set : EntrySet) (w : PointerWidth) (base : Address) (m : Memory) (p : Nat)
    (m' : Memory) : Prop where
  mapping : ∀ a n, m'.isMapped a n = m.isMapped a n
  settled : ∀ x, set.Settles w base m p x (m'.byte? x)

/-- No entry of the set takes its value from another one. -/
def IsLiteral (set : EntrySet) : Prop :=
  ∀ id e, set.get? id = some e → e.reference? = none

/-- The turn of an entry that covers an address leaves its byte there. -/
theorem Covers.byte?_written (h : set.Covers w base m x id e v)
    (hmapping : ∀ a n, m'.isMapped a n = m.isMapped a n) :
    (set.written w base m' e).byte? x =
      some (.ofInt (v.toInt / 256 ^ (e.place w base).distance x)) := by
  have hvalue : set.valueIn? w base m' e = some v := by simp only [valueIn?, h.value]
  rw [written, hvalue]
  exact Entry.byte?_put_of_inRange ((hmapping _ _).trans h.mapped) h.inRange v

/-- The turn of an entry that does not cover an address leaves it alone. -/
theorem byte?_written_of_not_covers (hliteral : set.IsLiteral) (hget : set.get? id = some e)
    (hmapping : ∀ a n, m'.isMapped a n = m.isMapped a n)
    (hnot : ∀ v, ¬ set.Covers w base m x id e v) :
    (set.written w base m' e).byte? x = m'.byte? x := by
  rcases hvalue : e.value with _ | v | target
  · rw [written_of_value_eq_none w base set hvalue]
  · have hin : set.valueIn? w base m' e = some v := by simp only [valueIn?, hvalue]
    rw [written, hin]
    by_cases hx : Address.InRange (e.place w base) e.type.size x
    · -- the address lies in the place, so some byte of the place is unmapped
      have hmapped : ¬ m'.isMapped (e.place w base) (e.type.encode v).length = true := by
        rw [ValueType.length_encode, hmapping]
        exact fun h => hnot v ⟨hget, hvalue, h, hx⟩
      show ((m'.write? _ _).getD m').byte? x = _
      rw [Memory.write?, if_neg hmapped, Option.getD_none]
    · exact Entry.byte?_put_of_not_inRange hx v
  · have href := hliteral id e hget
    rw [Entry.reference?_eq_some_iff.mpr hvalue] at href
    injection href

/-- The turn of an entry maps and unmaps nothing. -/
theorem isMapped_written (e : Entry) (a : Address) (n : Nat) :
    (set.written w base m e).isMapped a n = m.isMapped a n := by
  unfold written
  split
  · rfl
  · exact Entry.isMapped_put _ a n

/-- **One turn.**  The entry that has its turn has the highest id so far, so its bytes come out on
top. -/
theorem Overlaid.turn (hliteral : set.IsLiteral) (h : set.Overlaid w base m id.index m')
    (hget : set.get? id = some e) :
    set.Overlaid w base m (id.index + 1) (set.written w base m' e) := by
  refine ⟨fun a n => (isMapped_written e a n).trans (h.mapping a n), fun x => ?_⟩
  by_cases hcovers : ∃ v, set.Covers w base m x id e v
  · obtain ⟨v, hv⟩ := hcovers
    rw [hv.byte?_written h.mapping]
    refine .last (Nat.lt_succ_self _) hv fun id' e' v' hid' _ => ?_
    rw [val_eq_index_succ, val_eq_index_succ]
    exact hid'
  · have hnot : ∀ v, ¬ set.Covers w base m x id e v := fun v hv => hcovers ⟨v, hv⟩
    rw [byte?_written_of_not_covers hliteral hget h.mapping hnot]
    refine (h.settled x).succ fun e' v hv => ?_
    obtain rfl : e' = e := Option.some.inj (hv.get?.symm.trans hget)
    exact hnot v hv

/-- **One pass.**  When all entries had their turn, every address holds what the last of those that
cover it left there. -/
theorem overlaid_pass (hliteral : set.IsLiteral) (w : PointerWidth) (base : Address) (m : Memory) :
    set.Overlaid w base m set.size (set.pass w base m) := by
  have hstart : set.Overlaid w base m 0 m :=
    ⟨fun _ _ => rfl, fun _ => .untouched fun _ _ _ hid => absurd hid (Nat.not_lt_zero _)⟩
  exact pass_induction w base set hstart fun id e m' hget h => h.turn hliteral hget

/-- With the same addresses mapped the same entries cover an address. -/
theorem Covers.congr (h : set.Covers w base m' x id e v)
    (hmapping : ∀ a n, m'.isMapped a n = m.isMapped a n) : set.Covers w base m x id e v :=
  ⟨h.get?, h.value, (hmapping _ _).symm.trans h.mapped, h.inRange⟩

/-- **Fixpoint.**  A second pass changes nothing. -/
theorem pass_pass (hliteral : set.IsLiteral) (w : PointerWidth) (base : Address) (m : Memory) :
    set.pass w base (set.pass w base m) = set.pass w base m := by
  have hfirst := overlaid_pass hliteral w base m
  have hsecond := overlaid_pass hliteral w base (set.pass w base m)
  have hback := fun a n => (hfirst.mapping a n).symm
  apply Memory.ext_byte?
  intro x
  -- the last entry that covers the address is the same in both passes
  have hsettled := hsecond.settled x
  generalize (set.pass w base (set.pass w base m)).byte? x = byte at hsettled ⊢
  cases hsettled with
  | last hid hcovers hlast =>
    refine Settles.unique (.last hid (hcovers.congr hfirst.mapping) ?_) (hfirst.settled x)
    exact fun id' e' v' hid' h' => hlast id' e' v' hid' (h'.congr hback)
  | untouched _ => rfl

end Passes

/-! ## Cycles -/

variable {set : EntrySet} {base : Address} {s : Scene Image}

/-- After every cycle the image is as the first one left it. -/
theorem target_rerun_succ (hdirect : set.IsDirect) (hliteral : set.IsLiteral)
    (hi : s.target.Answers base) (c : Nat) :
    (set.rerun (c + 1) s).target =
      { s.target with memory := set.pass s.target.width base s.target.memory } := by
  induction c with
  | zero => exact (yields_cycle hdirect hi s rfl).2
  | succ c ih =>
    have hcycle := (yields_cycle hdirect (hi.withMemory _) (set.rerun (c + 1) s) ih).2
    show (set.cycle (set.rerun (c + 1) s)).2.target = _
    rw [hcycle]
    simp only [pass_pass hliteral]

/-- Every cycle gives the readings of the first one. -/
theorem readings_rerun (hdirect : set.IsDirect) (hliteral : set.IsLiteral)
    (hi : s.target.Answers base) (c : Nat) :
    (set.cycle (set.rerun c s)).1 = set.readings s.target.width base
      (set.pass s.target.width base s.target.memory) := by
  cases c with
  | zero => exact (yields_cycle hdirect hi s rfl).1
  | succ c =>
    have htarget := target_rerun_succ hdirect hliteral hi c
    rw [(yields_cycle hdirect (hi.withMemory _) _ htarget).1]
    simp only [pass_pass hliteral]

/-- **The last writer wins.**  Let no entry of a set lead through a pointer or take its value from
another one, over an image that answers.  After a cycle every address holds the byte that the entry
with the highest id among those that cover it has there, or what it held before if there is none.
The readings are what this memory gives, and no further cycle changes it or gives other readings. -/
theorem last_writer_wins (hdirect : set.IsDirect) (hliteral : set.IsLiteral)
    (hi : s.target.Answers base) :
    (∀ id e, set.get? id = some e →
      (e.resolve.outcome s).1 = .ok (e.place s.target.width base)) ∧
    (∃ m, (set.cycle s).2.target = { s.target with memory := m } ∧
      (∀ x, set.Settles s.target.width base s.target.memory set.size x (m.byte? x)) ∧
      (set.cycle s).1 = set.readings s.target.width base m) ∧
    set.IsFixedAfter 1 s := by
  refine ⟨fun id e hget => (hi.resolve (hdirect id e hget) s rfl).1, ?_, fun c => ⟨fun hc => ?_,
    fun _ => ?_⟩⟩
  · exact ⟨_, target_rerun_succ hdirect hliteral hi 0, (overlaid_pass hliteral _ _ _).settled,
      readings_rerun hdirect hliteral hi 0⟩
  · obtain ⟨c, rfl⟩ := Nat.exists_eq_add_of_le' hc
    rw [target_rerun_succ hdirect hliteral hi, target_rerun_succ hdirect hliteral hi]
  · rw [readings_rerun hdirect hliteral hi, readings_rerun hdirect hliteral hi]

/-! ## Three entries across the end of the address space -/

/-- Four bytes across the end of the address space, two bytes in the middle of them, and four bytes
behind the end, of which the last one is unmapped in `overlapImage`. -/
def overlap : EntrySet where
  toList :=
    [⟨false, 0, .i32, .ofNat 0xFFFFFFFFFFFFFFFE, some (.literal (-2))⟩,
      ⟨false, 0, .i16, .ofNat 0xFFFFFFFFFFFFFFFF, some (.literal 70000)⟩,
      ⟨false, 0, .i32, .null, some (.literal 7)⟩]
  sound := by cbv

/-- An image in which the last two addresses and the first three are mapped. -/
def overlapImage : Image where
  width := .eight
  base := .ok .null
  memory := Memory.empty.store (.ofNat 0xFFFFFFFFFFFFFFFE) [0, 0, 0, 0, 0]

/-- What the entries of the overlap have in common, and where the last one lies. -/
theorem get?_overlap {id : RefId} {e : Entry} (h : overlap.get? id = some e) :
    id.index < 3 ∧ e.pointerLevels = 0 ∧ e.reference? = none ∧
      (id.index = 2 → e.place .eight .null = .null ∧ e.type = .i32) := by
  unfold get? overlap at h
  rcases hindex : id.index with _ | _ | _ | n
  all_goals rw [hindex] at h
  · obtain rfl := Option.some.inj h
    exact ⟨by decide, rfl, rfl, nofun⟩
  · obtain rfl := Option.some.inj h
    exact ⟨by decide, rfl, rfl, nofun⟩
  · obtain rfl := Option.some.inj h
    exact ⟨by decide, rfl, rfl, by decide⟩
  · simp at h

/-- Of the three entries that lie over address zero the second one has the last word there, with the
high byte of 70000 in two bytes: the third one is not written at all. -/
theorem overlap_second_wins :
    overlap.IsDirect ∧ overlap.IsLiteral ∧ overlapImage.Answers .null ∧
      ∃ m, (overlap.cycle { target := overlapImage }).2.target =
          { overlapImage with memory := m } ∧
        m.byte? .null = some 0x11 := by
  have hdirect : overlap.IsDirect := fun id e hget => (get?_overlap hget).2.1
  have hliteral : overlap.IsLiteral := fun id e hget => (get?_overlap hget).2.2.1
  have hanswers : overlapImage.Answers .null := ⟨rfl, rfl⟩
  obtain ⟨-, ⟨m, htarget, hsettles, -⟩, -⟩ :=
    last_writer_wins (s := { target := overlapImage }) hdirect hliteral hanswers
  refine ⟨hdirect, hliteral, hanswers, m, htarget, ?_⟩
  have hsecond : overlap.Covers .eight .null overlapImage.memory .null (.ofIndex 1)
      ⟨false, 0, .i16, .ofNat 0xFFFFFFFFFFFFFFFF, some (.literal 70000)⟩ 70000 :=
    ⟨rfl, rfl, by cbv, 1, by decide, by decide⟩
  have hhighest : ∀ id e v, overlap.Covers .eight .null overlapImage.memory .null id e v →
      id.index < 2 := by
    intro id e v hcovers
    obtain ⟨hid, -, -, hthird⟩ := get?_overlap hcovers.get?
    refine Nat.lt_of_le_of_ne (Nat.le_of_lt_succ hid) fun hlast => ?_
    obtain ⟨hplace, htype⟩ := hthird hlast
    have hopen : overlapImage.memory.isMapped .null ValueType.i32.size = false := by cbv
    have hmapped := hcovers.mapped
    rw [hplace, htype, hopen] at hmapped
    exact absurd hmapped (by decide)
  have hbyte : overlap.Settles .eight .null overlapImage.memory 3 .null (some 0x11) := by
    refine Settles.last (by decide) hsecond fun id e v _ hcovers => ?_
    rw [val_eq_index_succ, val_eq_index_succ]
    exact hhighest id e v hcovers
  exact (hsettles .null).unique hbyte

end EntrySet

end MemWatch
