/-
# References between entries

The references of a list of entries form a graph in which every entry has at most one successor.
A trail follows that graph and marks what it passes.  Its marks are entries that lead to where it
stands, so a trail that meets a mark has found a loop, and a trail that meets none ends at an entry
without a reference, or at a reference beyond the list.

Main statement: a list of entries becomes a set exactly if its references stay inside the list and
go round in no loop, and otherwise the smallest offending id is reported, ranges before loops.
-/
import Mathlib.Data.List.Forall2
import Mathlib.Logic.Relation
import MemWatch.EntrySet.Basic

namespace MemWatch.EntrySet

open Relation

variable {entries : List Entry} {i j k r : RefId}

/-! ## The graph of references -/

/-- The entry with id `i` takes its value from the id `r`. -/
def RefersTo (entries : List Entry) (i r : RefId) : Prop :=
  ∃ e, entries[i.index]? = some e ∧ e.reference? = some r

/-- The entry with id `i` takes its value from no other one. -/
def IsRoot (entries : List Entry) (i : RefId) : Prop :=
  ∃ e, entries[i.index]? = some e ∧ e.reference? = none

/-- The entry with id `i` references `r`, and there is no entry `r`. -/
def IsDangling (entries : List Entry) (i r : RefId) : Prop :=
  RefersTo entries i r ∧ entries.length < r.val

/-- Following references from entry `i` never arrives at an entry without a reference. -/
def IsEndless (entries : List Entry) (i : RefId) : Prop :=
  i.index < entries.length ∧ ∀ j, ReflTransGen (RefersTo entries) i j → ¬ IsRoot entries j

/-- The smallest id with a property. -/
def IsFirst (p : RefId → Prop) (i : RefId) : Prop :=
  p i ∧ ∀ j, p j → i.val ≤ j.val

theorem val_eq_index_succ (i : RefId) : i.val = i.index + 1 := by
  have hpos := i.pos
  unfold RefId.index
  omega

/-- An entry takes its value from one other entry at most. -/
theorem RefersTo.unique (hj : RefersTo entries i j) (hk : RefersTo entries i k) : j = k := by
  obtain ⟨e, he, hej⟩ := hj
  obtain ⟨e', he', hek⟩ := hk
  obtain rfl : e = e' := Option.some.inj (he.symm.trans he')
  exact Option.some.inj (hej.symm.trans hek)

/-- An entry with a reference is no root. -/
theorem RefersTo.not_isRoot (h : RefersTo entries i j) : ¬ IsRoot entries i := by
  rintro ⟨e, he, hroot⟩
  obtain ⟨e', he', href⟩ := h
  obtain rfl : e = e' := Option.some.inj (he.symm.trans he')
  rw [hroot] at href
  exact absurd href (by simp)

/-- What refers to something is an entry of the list. -/
theorem RefersTo.index_lt (h : RefersTo entries i j) : i.index < entries.length := by
  obtain ⟨e, he, -⟩ := h
  exact (List.getElem?_eq_some_iff.mp he).1

/-- The table of references holds the graph. -/
theorem next?_references :
    next? (references entries) i = some r ↔ RefersTo entries i r := by
  simp only [next?, references, List.getElem?_toArray, List.getElem?_map, RefersTo]
  cases entries[i.index]? <;> simp

/-- An entry without a next one is a root. -/
theorem isRoot_of_next?_eq_none (hi : i.index < entries.length)
    (h : next? (references entries) i = none) : IsRoot entries i := by
  refine ⟨entries[i.index], List.getElem?_eq_getElem hi, ?_⟩
  simpa [next?, references, List.getElem?_eq_getElem hi] using h

/-! ## Loops -/

/-- Whatever is reached from an entry on a loop refers to something: there is no way out of a
loop. -/
theorem not_isRoot_of_loop (hloop : TransGen (RefersTo entries) i i)
    (hreach : ReflTransGen (RefersTo entries) i j) : ¬ IsRoot entries j := by
  induction hreach using ReflTransGen.head_induction_on with
  | refl =>
    obtain ⟨k, hstep, -⟩ := TransGen.head'_iff.mp hloop
    exact hstep.not_isRoot
  | @head a b hstep _ ih =>
    -- the loop through `a` also passes the only successor of `a`
    obtain ⟨c, hstep', hback⟩ := TransGen.head'_iff.mp hloop
    obtain rfl := hstep.unique hstep'
    exact ih (TransGen.tail' hback hstep)

/-- An entry that leads into a loop is endless. -/
theorem isEndless_of_reaches_loop (hi : i.index < entries.length)
    (hreach : ReflTransGen (RefersTo entries) i j) (hloop : TransGen (RefersTo entries) j j) :
    IsEndless entries i := by
  refine ⟨hi, fun k hk => ?_⟩
  have hright : Relator.RightUnique (RefersTo entries) := fun _ _ _ => RefersTo.unique
  rcases ReflTransGen.total_of_right_unique hright hreach hk with hjk | hkj
  · exact not_isRoot_of_loop hloop hjk
  · intro hroot
    -- a root goes nowhere, so it is the entry on the loop itself
    rcases ReflTransGen.cases_head hkj with rfl | ⟨c, hstep, -⟩
    · exact not_isRoot_of_loop hloop .refl hroot
    · exact hstep.not_isRoot hroot

/-! ## Trails -/

/-- A trail whose marks all lead to its first entry closes only if that entry leads into a loop. -/
theorem exists_loop_of_closed (marks : Array Bool) (i : RefId)
    (hmarks : ∀ j : RefId, marks[j.index]? = some true → ReflTransGen (RefersTo entries) j i)
    (hclosed : (trailFrom (references entries) marks i).closed = true) :
    ∃ j, ReflTransGen (RefersTo entries) i j ∧ TransGen (RefersTo entries) j j := by
  generalize hrefs : references entries = refs at hclosed
  fun_induction trailFrom refs marks i with
  | case1 | case4 => simp at hclosed
  | case2 marks i target hnext hlt hmark =>
    rw [← hrefs, next?_references] at hnext
    have hback : ReflTransGen (RefersTo entries) target i :=
      hmarks target (by rw [Array.getElem?_eq_getElem hlt, hmark])
    exact ⟨i, .refl, TransGen.head' hnext hback⟩
  | case3 marks i target hnext hlt _ ih =>
    rw [← hrefs, next?_references] at hnext
    obtain ⟨j, hreach, hloop⟩ := ih (by
      intro j hj
      rw [Array.getElem?_set] at hj
      split at hj
      · rename_i hindex
        rw [RefId.index_inj hindex]
      · exact (hmarks j hj).tail hnext) hclosed
    exact ⟨j, hreach.head hnext, hloop⟩

/-- A trail that does not close arrives at a root, or at a reference beyond the list. -/
theorem arrives_of_open (marks : Array Bool) (i : RefId) (hsize : marks.size = entries.length)
    (hi : i.index < entries.length)
    (hopen : (trailFrom (references entries) marks i).closed = false) :
    ∃ j, ReflTransGen (RefersTo entries) i j ∧
      (IsRoot entries j ∨ ∃ r, IsDangling entries j r) := by
  generalize hrefs : references entries = refs at hopen
  fun_induction trailFrom refs marks i with
  | case1 marks i hnext =>
    rw [← hrefs] at hnext
    exact ⟨i, .refl, Or.inl (isRoot_of_next?_eq_none hi hnext)⟩
  | case2 => simp at hopen
  | case3 marks i target hnext hlt _ ih =>
    rw [← hrefs, next?_references] at hnext
    obtain ⟨j, hreach, hend⟩ := ih (by rw [Array.size_set, hsize]) (hsize ▸ hlt) hopen
    exact ⟨j, hreach.head hnext, hend⟩
  | case4 marks i target hnext hlt =>
    rw [← hrefs, next?_references] at hnext
    refine ⟨i, .refl, Or.inr ⟨target, hnext, ?_⟩⟩
    rw [val_eq_index_succ]
    omega

@[simp] theorem size_references (entries : List Entry) :
    (references entries).size = entries.length := by
  simp [references]

/-- At the start of a trail nothing but its first entry is marked. -/
theorem eq_of_firstMark {n : Nat} (h : (firstMark n i)[j.index]? = some true) : j = i := by
  rw [firstMark, Array.getElem?_setIfInBounds] at h
  split at h
  · rename_i hindex
    exact (RefId.index_inj hindex).symm
  · rw [Array.getElem?_replicate] at h
    split at h <;> simp at h

/-- **Trails find loops.**  With all references inside the list, the trail of an entry closes
exactly if the entry is endless. -/
theorem closed_trail_iff (hrange : ∀ j r, ¬ IsDangling entries j r)
    (hi : i.index < entries.length) :
    (trail (references entries) i).closed = true ↔ IsEndless entries i := by
  constructor
  · intro hclosed
    obtain ⟨j, hreach, hloop⟩ := exists_loop_of_closed _ i
      (fun j hj => by rw [eq_of_firstMark hj]) hclosed
    exact isEndless_of_reaches_loop hi hreach hloop
  · intro hendless
    cases hopen : (trail (references entries) i).closed with
    | true => rfl
    | false =>
      obtain ⟨j, hreach, hroot | ⟨r, hdangling⟩⟩ :=
        arrives_of_open _ i (by simp [firstMark]) hi hopen
      · exact absurd hroot (hendless.2 j hreach)
      · exact absurd hdangling (hrange j r)

/-- With all references inside the list, something is endless exactly if there is a loop. -/
theorem exists_isEndless_iff (hrange : ∀ j r, ¬ IsDangling entries j r) :
    (∃ i, IsEndless entries i) ↔ ∃ i, TransGen (RefersTo entries) i i := by
  constructor
  · rintro ⟨i, hendless⟩
    obtain ⟨j, -, hloop⟩ := exists_loop_of_closed _ i
      (fun j hj => by rw [eq_of_firstMark hj]) ((closed_trail_iff hrange hendless.1).mpr hendless)
    exact ⟨j, hloop⟩
  · rintro ⟨i, hloop⟩
    obtain ⟨j, hstep, -⟩ := TransGen.head'_iff.mp hloop
    exact ⟨i, isEndless_of_reaches_loop hstep.index_lt .refl hloop⟩

/-! ## Numbered entries -/

/-- An id and an entry stand together in the numbered list if the entry has that id. -/
theorem mem_number {e : Entry} : (i, e) ∈ number entries ↔ entries[i.index]? = some e := by
  simp only [number, List.mem_map, List.mem_zipIdx_iff_getElem?, Prod.mk.injEq, Prod.exists]
  constructor
  · rintro ⟨e', index, he, rfl, rfl⟩
    exact he
  · intro he
    exact ⟨e, i.index, he, RefId.ofIndex_index i, rfl⟩

/-- The numbered list is in ascending order of ids. -/
theorem pairwise_number (entries : List Entry) :
    (number entries).Pairwise fun a b => a.1.val < b.1.val := by
  rw [number, List.pairwise_map, List.zipIdx_eq_zip_range']
  have hrange : (List.range' 0 entries.length).Pairwise (· < ·) := List.pairwise_lt_range'
  have hsnd : ((entries.zip (List.range' 0 entries.length)).map Prod.snd).Pairwise (· < ·) := by
    rw [List.map_snd_zip (by simp)]
    exact hrange
  rw [List.pairwise_map] at hsnd
  exact hsnd.imp fun h => by simpa [RefId.ofIndex] using h

/-- The ids of a list belong to its entries. -/
theorem mem_ids : i ∈ ids entries ↔ i.index < entries.length := by
  simp only [ids, List.mem_map, List.mem_range]
  constructor
  · rintro ⟨index, hlt, rfl⟩
    exact hlt
  · intro hlt
    exact ⟨i.index, hlt, RefId.ofIndex_index i⟩

/-- The ids of a list ascend. -/
theorem pairwise_ids (entries : List Entry) :
    (ids entries).Pairwise fun a b => a.val < b.val := by
  rw [ids, List.pairwise_map]
  exact List.pairwise_lt_range.imp fun h => by simpa [RefId.ofIndex] using h

/-- A search through the numbered list finds the smallest id for which there is something. -/
theorem first_of_findSome?_number {α : Type} {f : RefId × Entry → Option α} {a : α}
    (h : (number entries).findSome? f = some a) :
    ∃ i e, entries[i.index]? = some e ∧ f (i, e) = some a ∧
      ∀ j e', entries[j.index]? = some e' → f (j, e') ≠ none → i.val ≤ j.val := by
  obtain ⟨before, ⟨i, e⟩, after, hsplit, hfound, hbefore⟩ := List.findSome?_eq_some_iff.mp h
  have hpair := pairwise_number entries
  rw [hsplit, List.pairwise_append, List.pairwise_cons] at hpair
  refine ⟨i, e, mem_number.mp (by simp [hsplit]), hfound, fun j e' he' hsome => ?_⟩
  have hmem := mem_number.mpr he'
  rw [hsplit, List.mem_append, List.mem_cons] at hmem
  rcases hmem with hin | heq | hin
  · exact absurd (hbefore _ hin) hsome
  · simp only [Prod.mk.injEq] at heq
    exact Nat.le_of_eq (congrArg RefId.val heq.1.symm)
  · exact Nat.le_of_lt (hpair.2.1.1 _ hin)

/-- A search through the ids finds the smallest one that passes. -/
theorem first_of_find?_ids {p : RefId → Bool} (h : (ids entries).find? p = some i) :
    i.index < entries.length ∧ p i = true ∧
      ∀ j : RefId, j.index < entries.length → p j = true → i.val ≤ j.val := by
  obtain ⟨hfound, before, after, hsplit, hbefore⟩ := List.find?_eq_some_iff_append.mp h
  have hpair := pairwise_ids entries
  rw [hsplit, List.pairwise_append, List.pairwise_cons] at hpair
  refine ⟨mem_ids.mp (by simp [hsplit]), hfound, fun j hj hpass => ?_⟩
  have hmem := mem_ids.mpr hj
  rw [hsplit, List.mem_append, List.mem_cons] at hmem
  rcases hmem with hin | rfl | hin
  · have hfail := hbefore _ hin
    simp [hpass] at hfail
  · exact Nat.le_refl _
  · exact Nat.le_of_lt (hpair.2.1.1 _ hin)

/-! ## Acceptance -/

/-- What the range check says of one entry. -/
theorem outOfRange?_eq_some_iff {e : Entry} {n : Nat} :
    outOfRange? n (i, e) = some (j, r) ↔ i = j ∧ e.reference? = some r ∧ ¬ r.index < n := by
  cases href : e.reference? with
  | none => simp [outOfRange?, href]
  | some target =>
    by_cases h : target.index < n
    · simp only [outOfRange?, href, h, if_true]
      grind
    · simp only [outOfRange?, href, h, if_false]
      grind

/-- A reference is beyond the list exactly if its position is. -/
theorem isDangling_iff :
    IsDangling entries i r ↔ RefersTo entries i r ∧ ¬ r.index < entries.length := by
  rw [IsDangling, val_eq_index_succ, Nat.lt_succ_iff, Nat.not_lt]

/-- The reference that is reported is beyond the list, and no smaller id has such a one. -/
theorem isFirst_of_firstOutOfRange? {target : RefId}
    (h : firstOutOfRange? entries.length (number entries) = some (i, target)) :
    IsFirst (fun i => ∃ r, IsDangling entries i r) i ∧ IsDangling entries i target := by
  obtain ⟨id, e, he, hfound, hfirst⟩ := first_of_findSome?_number h
  obtain ⟨rfl, href, hrange⟩ := outOfRange?_eq_some_iff.mp hfound
  have hdangling : IsDangling entries id target := isDangling_iff.mpr ⟨⟨e, he, href⟩, hrange⟩
  refine ⟨⟨⟨target, hdangling⟩, fun j hj => ?_⟩, hdangling⟩
  obtain ⟨s, hs⟩ := hj
  obtain ⟨⟨e', he', href'⟩, hrange'⟩ := isDangling_iff.mp hs
  apply hfirst j e' he'
  rw [outOfRange?_eq_some_iff.mpr ⟨rfl, href', hrange'⟩]
  simp

/-- Nothing is reported if all references are inside the list. -/
theorem not_isDangling_of_firstOutOfRange?
    (h : firstOutOfRange? entries.length (number entries) = none) (i r : RefId) :
    ¬ IsDangling entries i r := by
  intro hdangling
  obtain ⟨⟨e, he, href⟩, hrange⟩ := isDangling_iff.mp hdangling
  have hnone := List.findSome?_eq_none_iff.mp h (i, e) (mem_number.mpr he)
  rw [outOfRange?_eq_some_iff.mpr ⟨rfl, href, hrange⟩] at hnone
  simp at hnone

/-- The loop that is reported is met from the smallest endless id. -/
theorem isFirst_of_firstClosed? (hrange : ∀ j r, ¬ IsDangling entries j r)
    (h : firstClosed? (references entries) (ids entries) = some i) :
    IsFirst (IsEndless entries) i := by
  obtain ⟨hi, hclosed, hfirst⟩ := first_of_find?_ids h
  refine ⟨(closed_trail_iff hrange hi).mp hclosed, fun j hj => ?_⟩
  exact hfirst j hj.1 ((closed_trail_iff hrange hj.1).mpr hj)

/-- No loop is reported only if nothing is endless. -/
theorem not_isEndless_of_firstClosed? (hrange : ∀ j r, ¬ IsDangling entries j r)
    (h : firstClosed? (references entries) (ids entries) = none) (i : RefId) :
    ¬ IsEndless entries i := by
  intro hendless
  have hopen := List.find?_eq_none.mp h i (mem_ids.mpr hendless.1)
  exact hopen ((closed_trail_iff hrange hendless.1).mpr hendless)

/-- A list without a defect becomes a set of the same entries. -/
theorem ofList_of_defect?_eq_none (h : defect? entries = none) :
    ∃ set, ofList entries = .ok set ∧ set.toList = entries := by
  refine ⟨⟨entries, h⟩, ?_, rfl⟩
  unfold ofList
  split
  · rfl
  · rename_i e he
    rw [h] at he
    simp at he

/-- A list with a defect becomes no set, and the defect is the reason. -/
theorem ofList_of_defect?_eq_some {e : Error} (h : defect? entries = some e) :
    ofList entries = .error e := by
  unfold ofList
  split
  · rename_i hnone
    rw [h] at hnone
    simp at hnone
  · rename_i e' he'
    rw [h] at he'
    rw [Option.some.inj he']

/-- The range check reports before the loop check. -/
theorem defect?_of_dangling (h : ∃ i r, IsDangling entries i r) :
    ∃ i r, IsFirst (fun i => ∃ r, IsDangling entries i r) i ∧ IsDangling entries i r ∧
      defect? entries = some (.referenceOutOfRange i r entries.length) := by
  cases hfound : firstOutOfRange? entries.length (number entries) with
  | none =>
    obtain ⟨i, r, hdangling⟩ := h
    exact absurd hdangling (not_isDangling_of_firstOutOfRange? hfound i r)
  | some p =>
    obtain ⟨hfirst, hdangling⟩ := isFirst_of_firstOutOfRange? hfound
    exact ⟨p.1, p.2, hfirst, hdangling, by rw [defect?, hfound]⟩

/-- Nothing is wrong with the range check if all references are inside the list. -/
theorem firstOutOfRange?_eq_none (hrange : ∀ i r, ¬ IsDangling entries i r) :
    firstOutOfRange? entries.length (number entries) = none := by
  cases hfound : firstOutOfRange? entries.length (number entries) with
  | none => rfl
  | some p => exact absurd (isFirst_of_firstOutOfRange? hfound).2 (hrange _ _)

/-- With all references inside the list, the smallest endless id is reported. -/
theorem defect?_of_endless (hrange : ∀ i r, ¬ IsDangling entries i r)
    (h : ∃ i, IsEndless entries i) :
    ∃ i, IsFirst (IsEndless entries) i ∧ defect? entries = some (.referenceCycle i) := by
  cases hfound : firstClosed? (references entries) (ids entries) with
  | none =>
    obtain ⟨i, hendless⟩ := h
    exact absurd hendless (not_isEndless_of_firstClosed? hrange hfound i)
  | some i =>
    refine ⟨i, isFirst_of_firstClosed? hrange hfound, ?_⟩
    rw [defect?, firstOutOfRange?_eq_none hrange, hfound]
    rfl

/-- A list has no defect if its references stay inside it and nothing is endless. -/
theorem defect?_eq_none (hrange : ∀ i r, ¬ IsDangling entries i r)
    (hends : ∀ i, ¬ IsEndless entries i) : defect? entries = none := by
  rw [defect?, firstOutOfRange?_eq_none hrange]
  cases hfound : firstClosed? (references entries) (ids entries) with
  | none => rfl
  | some i => exact absurd (isFirst_of_firstClosed? hrange hfound).1 (hends i)

/-- The references of an accepted list stay inside it. -/
theorem not_isDangling_of_defect?_eq_none (h : defect? entries = none) (i r : RefId) :
    ¬ IsDangling entries i r := by
  intro hdangling
  obtain ⟨j, s, -, -, hdefect⟩ := defect?_of_dangling ⟨i, r, hdangling⟩
  rw [h] at hdefect
  simp at hdefect

/-- Following the references of an accepted list always arrives at an entry without one. -/
theorem not_isEndless_of_defect?_eq_none (h : defect? entries = none) (i : RefId) :
    ¬ IsEndless entries i := by
  intro hendless
  obtain ⟨j, -, hdefect⟩ :=
    defect?_of_endless (not_isDangling_of_defect?_eq_none h) ⟨i, hendless⟩
  rw [h] at hdefect
  simp at hdefect

/-- **Acceptance.**  A list has no defect exactly if its references stay inside it and go round in
no loop. -/
theorem defect?_eq_none_iff :
    defect? entries = none ↔
      (∀ i r, RefersTo entries i r → r.val ≤ entries.length) ∧
        ∀ i, ¬ TransGen (RefersTo entries) i i := by
  constructor
  · intro h
    have hrange := not_isDangling_of_defect?_eq_none h
    refine ⟨fun i r href => Nat.not_lt.mp fun hlt => hrange i r ⟨href, hlt⟩, fun i hloop => ?_⟩
    obtain ⟨j, hendless⟩ := (exists_isEndless_iff hrange).mpr ⟨i, hloop⟩
    exact not_isEndless_of_defect?_eq_none h j hendless
  · rintro ⟨hinside, hloops⟩
    have hrange : ∀ i r, ¬ IsDangling entries i r :=
      fun i r hdangling => Nat.not_lt.mpr (hinside i r hdangling.1) hdangling.2
    refine defect?_eq_none hrange fun i hendless => ?_
    obtain ⟨j, hloop⟩ := (exists_isEndless_iff hrange).mp ⟨i, hendless⟩
    exact hloops j hloop

/-! ## Reading address expressions -/

/-- The first token that is no entry decides the error, whatever follows it. -/
theorem parseEntries_error {good rest : List String} {bad : String} {err : ParseError}
    (hgood : ∀ token ∈ good, ∃ e, Entry.parse token = .ok e) (hbad : Entry.parse bad = .error err) :
    parseEntries (good ++ bad :: rest) = .error (.parse bad err) := by
  induction good with
  | nil => rw [List.nil_append, parseEntries, hbad]
  | cons token good ih =>
    obtain ⟨e, he⟩ := hgood token (List.mem_cons_self)
    rw [List.cons_append, parseEntries, he, ih fun t ht => hgood t (List.mem_cons_of_mem _ ht)]
    rfl

/-- Tokens that are all entries are read in order. -/
theorem parseEntries_ok {tokens : List String}
    (h : List.Forall₂ (fun token e => Entry.parse token = .ok e) tokens entries) :
    parseEntries tokens = .ok entries := by
  induction h with
  | nil => rfl
  | cons htoken _ ih =>
    rw [parseEntries, htoken, ih]
    rfl

/-- **Making a set.**  A list of entries is refused for the smallest id that references something
beyond the list, else for the smallest id whose references never end, else it is kept as it is, so
it is accepted exactly if all references are inside the list and none goes round in a loop.  Tokens
are refused for the first one that is no entry, else their entries are taken in order. -/
theorem ofList_reports_first_defect (entries : List Entry) :
    ((∃ i r, IsDangling entries i r) →
      ∃ i r, IsFirst (fun i => ∃ r, IsDangling entries i r) i ∧ IsDangling entries i r ∧
        ofList entries = .error (.referenceOutOfRange i r entries.length)) ∧
    ((∀ i r, ¬ IsDangling entries i r) → (∃ i, IsEndless entries i) →
      ∃ i, IsFirst (IsEndless entries) i ∧ ofList entries = .error (.referenceCycle i)) ∧
    ((∀ i r, ¬ IsDangling entries i r) → (∀ i, ¬ IsEndless entries i) →
      ∃ set, ofList entries = .ok set ∧ set.toList = entries) ∧
    ((∃ set, ofList entries = .ok set) ↔
      (∀ i r, RefersTo entries i r → r.val ≤ entries.length) ∧
        ∀ i, ¬ TransGen (RefersTo entries) i i) ∧
    (∀ good bad rest err, (∀ token ∈ good, ∃ e, Entry.parse token = .ok e) →
      Entry.parse bad = .error err → parse (good ++ bad :: rest) = .error (.parse bad err)) ∧
    (∀ tokens, List.Forall₂ (fun token e => Entry.parse token = .ok e) tokens entries →
      parse tokens = ofList entries) := by
  refine ⟨fun h => ?_, fun hrange h => ?_, fun hrange hends => ?_, ?_, ?_, ?_⟩
  · obtain ⟨i, r, hfirst, hdangling, hdefect⟩ := defect?_of_dangling h
    exact ⟨i, r, hfirst, hdangling, ofList_of_defect?_eq_some hdefect⟩
  · obtain ⟨i, hfirst, hdefect⟩ := defect?_of_endless hrange h
    exact ⟨i, hfirst, ofList_of_defect?_eq_some hdefect⟩
  · exact ofList_of_defect?_eq_none (defect?_eq_none hrange hends)
  · rw [← defect?_eq_none_iff]
    constructor
    · rintro ⟨set, hset⟩
      cases hdefect : defect? entries with
      | none => rfl
      | some e =>
        rw [ofList_of_defect?_eq_some hdefect] at hset
        simp at hset
    · intro hdefect
      obtain ⟨set, hset, -⟩ := ofList_of_defect?_eq_none hdefect
      exact ⟨set, hset⟩
  · intro good bad rest err hgood hbad
    rw [parse, parseEntries_error hgood hbad]
    rfl
  · intro tokens htokens
    rw [parse, parseEntries_ok htokens]
    rfl

end MemWatch.EntrySet
