/-
# Chains of references

In an entry set, following references from an entry arrives at an entry without a reference.  The
entries passed on the way are a chain; there is exactly one for each entry, and it passes no entry
twice.
-/
import Mathlib.Data.List.Nodup
import Mathlib.Data.List.Perm.Subperm
import MemWatch.Proofs.Codec
import MemWatch.Proofs.References

namespace MemWatch.EntrySet

open Relation

/-- The way from an entry to the one where references end. -/
inductive Chain (set : EntrySet) : RefId → Type where
  /-- The entry has no reference. -/
  | root {id : RefId} (e : Entry) (hget : set.get? id = some e) (hroot : e.reference? = none) :
      Chain set id
  /-- The entry references another one. -/
  | link {id : RefId} (e : Entry) (target : RefId) (hget : set.get? id = some e)
      (href : e.reference? = some target) (rest : Chain set target) : Chain set id

namespace Chain

variable {set : EntrySet} {id : RefId}

/-! ## What a chain says -/

/-- The ids that are passed. -/
def ids : {id : RefId} → Chain set id → List RefId
  | id, root _ _ _ => [id]
  | id, link _ _ _ _ rest => id :: rest.ids

/-- The number of links that lead to a higher id. -/
def forwardLinks : {id : RefId} → Chain set id → Nat
  | _, root _ _ _ => 0
  | id, link _ target _ _ rest => (if id.val < target.val then 1 else 0) + rest.forwardLinks

/-- The value at the end of the chain, which is a literal or what was there before, as it arrives
at the start: wrapped to the type of every entry on the way. -/
def value (before : RefId → Int64) : {id : RefId} → Chain set id → Int64
  | id, root e _ _ =>
    e.type.wrapped <|
      match e.value with
      | some (.literal v) => v
      | _ => before id
  | _, link e _ _ _ rest => e.type.wrapped (rest.value before)

/-! ## One chain for each entry -/

/-- There is at most one chain from an entry. -/
theorem unique (c c' : Chain set id) : c = c' := by
  induction c with
  | root e hget hroot =>
    cases c' with
    | root e' hget' _ =>
      obtain rfl : e = e' := Option.some.inj (hget.symm.trans hget')
      rfl
    | link e' target hget' href _ =>
      obtain rfl : e = e' := Option.some.inj (hget.symm.trans hget')
      rw [hroot] at href
      simp at href
  | link e target hget href rest ih =>
    cases c' with
    | root e' hget' hroot =>
      obtain rfl : e = e' := Option.some.inj (hget.symm.trans hget')
      rw [hroot] at href
      simp at href
    | link e' target' hget' href' rest' =>
      obtain rfl : e = e' := Option.some.inj (hget.symm.trans hget')
      obtain rfl : target = target' := Option.some.inj (href.symm.trans href')
      rw [ih rest']

/-- There is a chain from every entry of the set. -/
theorem exists_of_get? {e : Entry} (h : set.get? id = some e) : Nonempty (Chain set id) := by
  have harrives : ∃ j, ReflTransGen (RefersTo set.toList) id j ∧ IsRoot set.toList j := by
    by_contra hnone
    refine not_isEndless_of_defect?_eq_none set.sound id ⟨?_, ?_⟩
    · exact (List.getElem?_eq_some_iff.mp h).1
    · intro j hreach hroot
      exact hnone ⟨j, hreach, hroot⟩
  obtain ⟨j, hreach, hroot⟩ := harrives
  clear h
  induction hreach using ReflTransGen.head_induction_on with
  | refl =>
    obtain ⟨e, hget, href⟩ := hroot
    exact ⟨root e hget href⟩
  | head hstep _ ih =>
    obtain ⟨e, hget, href⟩ := hstep
    obtain ⟨rest⟩ := ih
    exact ⟨link e _ hget href rest⟩

/-! ## Lengths -/

/-- From every id that is passed there is a chain that is no longer. -/
theorem exists_of_mem_ids (c : Chain set id) {j : RefId} (hj : j ∈ c.ids) :
    ∃ d : Chain set j, d.ids.length ≤ c.ids.length := by
  induction c with
  | root e hget hroot =>
    obtain rfl := List.mem_singleton.mp hj
    exact ⟨root e hget hroot, Nat.le_refl _⟩
  | link e target hget href rest ih =>
    rcases List.mem_cons.mp hj with rfl | hj
    · exact ⟨link e target hget href rest, Nat.le_refl _⟩
    · obtain ⟨d, hd⟩ := ih hj
      exact ⟨d, Nat.le_succ_of_le hd⟩

/-- A chain never comes back to its start. -/
theorem not_mem_ids_rest {e : Entry} {target : RefId} (hget : set.get? id = some e)
    (href : e.reference? = some target) (rest : Chain set target) : id ∉ rest.ids := by
  intro hmem
  obtain ⟨d, hd⟩ := rest.exists_of_mem_ids hmem
  -- the chain from `id` is longer than its rest, but no longer than a part of it
  rw [unique d (link e target hget href rest)] at hd
  exact absurd hd (Nat.not_succ_le_self _)

/-- The start of a chain is passed. -/
theorem mem_ids_start (c : Chain set id) : id ∈ c.ids := by
  cases c <;> exact List.mem_cons_self

/-- A reference names another entry. -/
theorem target_ne {e : Entry} {target : RefId} (hget : set.get? id = some e)
    (href : e.reference? = some target) (rest : Chain set target) : target ≠ id := by
  rintro rfl
  exact not_mem_ids_rest hget href rest rest.mem_ids_start

/-- A chain passes no entry twice. -/
theorem nodup_ids (c : Chain set id) : c.ids.Nodup := by
  induction c with
  | root => exact List.nodup_singleton _
  | link e target hget href rest ih =>
    exact List.nodup_cons.mpr ⟨not_mem_ids_rest hget href rest, ih⟩

/-- A chain starts with an entry of the set. -/
theorem exists_get? (c : Chain set id) : ∃ e, set.get? id = some e := by
  cases c with
  | root e hget _ => exact ⟨e, hget⟩
  | link e _ hget _ _ => exact ⟨e, hget⟩

theorem index_lt_size (c : Chain set id) : id.index < set.size := by
  obtain ⟨e, hget⟩ := c.exists_get?
  exact (List.getElem?_eq_some_iff.mp hget).1

/-- A chain is no longer than there are entries. -/
theorem length_ids_le (c : Chain set id) : c.ids.length ≤ set.size := by
  have hinj : (c.ids.map RefId.index).Nodup := by
    refine c.nodup_ids.map ?_
    intro i j hij
    exact RefId.index_inj hij
  have hrange : c.ids.map RefId.index ⊆ List.range set.size := by
    intro index hindex
    obtain ⟨j, hj, rfl⟩ := List.mem_map.mp hindex
    obtain ⟨d, -⟩ := c.exists_of_mem_ids hj
    exact List.mem_range.mpr d.index_lt_size
  have hlength := (hinj.subperm hrange).length_le
  rwa [List.length_map, List.length_range] at hlength

/-- Not every entry that is passed is a link. -/
theorem forwardLinks_lt_length (c : Chain set id) : c.forwardLinks < c.ids.length := by
  induction c with
  | root => exact Nat.one_pos
  | link e target hget href rest ih =>
    rw [forwardLinks, ids, List.length_cons]
    split <;> omega

/-- There are fewer links than entries. -/
theorem forwardLinks_lt_size (c : Chain set id) : c.forwardLinks < set.size :=
  Nat.lt_of_lt_of_le c.forwardLinks_lt_length c.length_ids_le

/-- Without references to higher ids no link leads to one. -/
theorem forwardLinks_eq_zero
    (hlower : ∀ i e r, set.get? i = some e → e.reference? = some r → r.val < i.val)
    (c : Chain set id) : c.forwardLinks = 0 := by
  induction c with
  | root => rfl
  | link e target hget href rest ih =>
    have htarget := hlower _ e target hget href
    rw [forwardLinks, if_neg (by omega), ih]

end Chain

end MemWatch.EntrySet
