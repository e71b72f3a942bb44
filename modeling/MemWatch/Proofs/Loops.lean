/-
# Where references go round

References that never end run along a tail first and then round a loop.  The entry that is reported
is the one the references were followed from: it stands at the front of the tail, and belongs to the
loop only if there is no tail.

Main statement: the shape of the references from a reported entry, and when the entry is itself part
of the loop.  It need not be, so the wording of the error says too much.
-/
import Mathlib
import MemWatch.Proofs.References

namespace MemWatch.EntrySet

open Relation

variable {entries : List Entry} {ids : List RefId} {i j k : RefId}

/-! ## Paths -/

/-- The entry is part of a loop: its references lead back to it. -/
def OnLoop (entries : List Entry) (i : RefId) : Prop :=
  TransGen (RefersTo entries) i i

/-- The references from the entry arrive at a loop. -/
def LeadsToLoop (entries : List Entry) (i : RefId) : Prop :=
  ∃ j, ReflTransGen (RefersTo entries) i j ∧ OnLoop entries j

/-- From the first id references lead through the ids of a list, the first id in front, and on to the
last id, which is not part of the list. -/
inductive Passes (entries : List Entry) : RefId → List RefId → RefId → Prop where
  | none (i : RefId) : Passes entries i [] i
  | link {i k j : RefId} {ids : List RefId} (hstep : RefersTo entries i k)
      (hrest : Passes entries k ids j) : Passes entries i (i :: ids) j

namespace Passes

/-- What is passed can be reached. -/
theorem reaches (h : Passes entries i ids j) : ReflTransGen (RefersTo entries) i j := by
  induction h with
  | none i => exact .refl
  | link hstep _ ih => exact ih.head hstep

/-- A path back to its start that passes something is a loop. -/
theorem onLoop (h : Passes entries i ids i) (hne : ids ≠ []) : OnLoop entries i := by
  cases h with
  | none => exact absurd rfl hne
  | link hstep hrest => exact TransGen.head' hstep hrest.reaches

/-- A path begins with its first id, unless it passes nothing. -/
theorem start_mem_or_eq (h : Passes entries i ids j) : i ∈ ids ∨ i = j := by
  cases h with
  | none => exact Or.inr rfl
  | link _ _ => exact Or.inl List.mem_cons_self

/-- A path can be cut in front of each id that it passes. -/
theorem exists_cut (h : Passes entries i ids j) (hk : k ∈ ids) :
    ∃ front back, ids = front ++ back ∧ Passes entries i front k ∧ Passes entries k back j ∧
      back ≠ [] := by
  induction h with
  | none => exact absurd hk List.not_mem_nil
  | @link i next j ids hstep hrest ih =>
    rcases List.mem_cons.mp hk with rfl | hk
    · exact ⟨[], k :: ids, rfl, .none k, .link hstep hrest, List.cons_ne_nil k ids⟩
    · obtain ⟨front, back, rfl, hfront, hback, hne⟩ := ih hk
      exact ⟨i :: front, back, rfl, .link hstep hfront, hback, hne⟩

/-- What an id of a path refers to is passed next, or is where the path leads. -/
theorem mem_or_eq_of_refersTo {next : RefId} (h : Passes entries i ids j) (hk : k ∈ ids)
    (hstep : RefersTo entries k next) : next ∈ ids ∨ next = j := by
  induction h with
  | none => exact absurd hk List.not_mem_nil
  | @link i second j ids hfirst hrest ih =>
    rcases List.mem_cons.mp hk with rfl | hk
    · obtain rfl := hfirst.unique hstep
      exact hrest.start_mem_or_eq.imp_left (List.mem_cons_of_mem k)
    · exact (ih hk).imp_left (List.mem_cons_of_mem i)

/-- References never lead out of a loop. -/
theorem mem_of_reaches (h : Passes entries j ids j) (hne : ids ≠ [])
    (hreach : ReflTransGen (RefersTo entries) j k) : k ∈ ids := by
  have hstart : j ∈ ids := by
    cases h with
    | none => exact absurd rfl hne
    | link _ _ => exact List.mem_cons_self
  induction hreach with
  | refl => exact hstart
  | tail _ hstep ih =>
    rcases h.mem_or_eq_of_refersTo ih hstep with hmem | rfl
    · exact hmem
    · exact hstart

end Passes

/-- From an entry on a loop everything leads back to it. -/
theorem OnLoop.reaches_back (hloop : OnLoop entries i)
    (hreach : ReflTransGen (RefersTo entries) i j) : ReflTransGen (RefersTo entries) j i := by
  induction hreach using ReflTransGen.head_induction_on with
  | refl => exact .refl
  | @head i next hstep _ ih =>
    -- the loop through `i` also passes the only successor of `i`
    obtain ⟨next', hstep', hback⟩ := TransGen.head'_iff.mp hloop
    obtain rfl := hstep.unique hstep'
    exact (ih (TransGen.tail' hback hstep)).trans hback

/-! ## Tails and loops -/

/-- From an entry references run along a tail to an id, and from there round a loop.  No id is passed
twice. -/
structure RunsInto (entries : List Entry) (i : RefId) (tail : List RefId) (j : RefId)
    (loop : List RefId) : Prop where
  arrives : Passes entries i tail j
  returns : Passes entries j loop j
  loop_ne_nil : loop ≠ []
  distinct : (tail ++ loop).Nodup

namespace RunsInto

variable {tail loop : List RefId}

/-- Of the ids that are passed, those of the loop, and no others, are part of a loop. -/
theorem onLoop_iff (h : RunsInto entries i tail j loop) (hk : k ∈ tail ++ loop) :
    OnLoop entries k ↔ k ∈ loop := by
  constructor
  · intro hloop
    rcases List.mem_append.mp hk with hmem | hmem
    · obtain ⟨-, back, -, -, hback, -⟩ := h.arrives.exists_cut hmem
      exact h.returns.mem_of_reaches h.loop_ne_nil (hloop.reaches_back hback.reaches)
    · exact hmem
  · intro hmem
    obtain ⟨front, back, -, hfront, hback, hne⟩ := h.returns.exists_cut hmem
    cases hback with
    | none => exact absurd rfl hne
    | link hstep hrest => exact TransGen.head' hstep (hrest.reaches.trans hfront.reaches)

/-- The entry is part of a loop exactly if there is no tail. -/
theorem onLoop_start_iff (h : RunsInto entries i tail j loop) :
    OnLoop entries i ↔ tail = [] := by
  constructor
  · intro hloop
    cases htail : tail with
    | nil => rfl
    | cons first rest =>
      obtain rfl : first = i := by
        have hpath := h.arrives
        rw [htail] at hpath
        cases hpath
        rfl
      have hmem : first ∈ tail := htail ▸ List.mem_cons_self
      have honLoop := (h.onLoop_iff (List.mem_append_left loop hmem)).mp hloop
      have hdisjoint := (List.nodup_append.mp h.distinct).2.2
      exact absurd rfl (hdisjoint first hmem first honLoop)
  · rintro rfl
    have hstart := h.arrives
    cases hstart
    exact h.returns.onLoop h.loop_ne_nil

end RunsInto

/-! ## Trails -/

/-- A trail passes its first entry and then entries without a mark, none of them twice. -/
theorem exists_passed_eq_cons (refs : Array (Option RefId)) (marks : Array Bool) (i : RefId) :
    ∃ rest, (trailFrom refs marks i).passed = i :: rest ∧ rest.Nodup ∧
      ∀ k ∈ rest, marks[k.index]? = some false := by
  fun_induction trailFrom refs marks i with
  | case1 | case2 | case4 =>
    exact ⟨[], rfl, List.nodup_nil, fun k hk => absurd hk List.not_mem_nil⟩
  | case3 marks i target hnext hlt hmark ih =>
    obtain ⟨rest, hpassed, hnodup, hfree⟩ := ih
    have hunmarked : ∀ k ∈ rest, k ≠ target ∧ marks[k.index]? = some false := by
      intro k hk
      have hk := hfree k hk
      rw [Array.getElem?_set] at hk
      split at hk
      · simp at hk
      · rename_i hne
        exact ⟨fun heq => hne (heq ▸ rfl), hk⟩
    refine ⟨target :: rest, congrArg (i :: ·) hpassed, ?_, fun k hk => ?_⟩
    · exact List.nodup_cons.mpr ⟨fun hmem => (hunmarked target hmem).1 rfl, hnodup⟩
    · rcases List.mem_cons.mp hk with rfl | hk
      · rw [Array.getElem?_eq_getElem hlt, Bool.eq_false_iff.mpr hmark]
      · exact (hunmarked k hk).2

/-- A trail that closes follows references, to an entry that has a mark or was passed. -/
theorem exists_passes_of_closed (marks : Array Bool) (i : RefId)
    (hclosed : (trailFrom (references entries) marks i).closed = true) :
    ∃ j, Passes entries i (trailFrom (references entries) marks i).passed j ∧
      (marks[j.index]? = some true ∨ j ∈ (trailFrom (references entries) marks i).passed) := by
  generalize hrefs : references entries = refs at hclosed ⊢
  fun_induction trailFrom refs marks i with
  | case1 | case4 => simp at hclosed
  | case2 marks i target hnext hlt hmark =>
    rw [← hrefs, next?_references] at hnext
    refine ⟨target, .link hnext (.none target), Or.inl ?_⟩
    rw [Array.getElem?_eq_getElem hlt, hmark]
  | case3 marks i target hnext hlt hmark ih =>
    obtain ⟨rest, hpassed, -, -⟩ := exists_passed_eq_cons refs (marks.set target.index true) target
    rw [← hrefs, next?_references] at hnext
    obtain ⟨j, hpath, hend⟩ := ih hclosed
    refine ⟨j, .link hnext hpath, ?_⟩
    rcases hend with hmarked | hmem
    · rw [Array.getElem?_set] at hmarked
      split at hmarked
      · rename_i hindex
        obtain rfl := RefId.index_inj hindex
        refine Or.inr (List.mem_cons_of_mem i ?_)
        rw [hpassed]
        exact List.mem_cons_self
      · exact Or.inl hmarked
    · exact Or.inr (List.mem_cons_of_mem i hmem)

/-- **Tails and loops.**  The references from an entry whose trail closes run along a tail and then
round a loop. -/
theorem exists_runsInto_of_closed (hi : i.index < entries.length)
    (hclosed : (trail (references entries) i).closed = true) :
    ∃ tail j loop, RunsInto entries i tail j loop := by
  have hfirst : (firstMark (references entries).size i)[i.index]? = some true := by
    simp [firstMark, hi]
  obtain ⟨rest, hpassed, hnodup, hfree⟩ := exists_passed_eq_cons (references entries)
    (firstMark (references entries).size i) i
  obtain ⟨j, hpath, hend⟩ := exists_passes_of_closed _ i hclosed
  rw [hpassed] at hpath hend
  have hmem : j ∈ i :: rest := by
    rcases hend with hmarked | hmem
    · rw [eq_of_firstMark hmarked]
      exact List.mem_cons_self
    · exact hmem
  have hdistinct : (i :: rest).Nodup := by
    refine List.nodup_cons.mpr ⟨fun hi => ?_, hnodup⟩
    rw [hfree i hi] at hfirst
    simp at hfirst
  obtain ⟨tail, loop, hsplit, htail, hloop, hne⟩ := hpath.exists_cut hmem
  exact ⟨tail, j, loop, htail, hloop, hne, hsplit ▸ hdistinct⟩

/-! ## Reports -/

/-- With all references inside the list, an entry is endless exactly if it leads to a loop. -/
theorem isEndless_iff_leadsToLoop (hrange : ∀ j r, ¬ IsDangling entries j r) :
    IsEndless entries i ↔ LeadsToLoop entries i := by
  constructor
  · intro hendless
    obtain ⟨tail, j, loop, h⟩ :=
      exists_runsInto_of_closed hendless.1 ((closed_trail_iff hrange hendless.1).mpr hendless)
    exact ⟨j, h.arrives.reaches, h.returns.onLoop h.loop_ne_nil⟩
  · rintro ⟨j, hreach, hloop⟩
    have hstep : ∃ k, RefersTo entries i k := by
      rcases ReflTransGen.cases_head hreach with rfl | ⟨k, hstep, -⟩
      · obtain ⟨k, hstep, -⟩ := TransGen.head'_iff.mp hloop
        exact ⟨k, hstep⟩
      · exact ⟨k, hstep⟩
    obtain ⟨k, hstep⟩ := hstep
    exact isEndless_of_reaches_loop hstep.index_lt hreach hloop

/-- A list that is refused for a loop has all its references inside, and the smallest endless id is
reported. -/
theorem isFirst_of_ofList (h : ofList entries = .error (.referenceCycle i)) :
    (∀ j r, ¬ IsDangling entries j r) ∧ IsFirst (IsEndless entries) i := by
  by_cases hrange : ∃ j r, IsDangling entries j r
  · obtain ⟨j, r, -, -, hdefect⟩ := defect?_of_dangling hrange
    rw [ofList_of_defect?_eq_some hdefect] at h
    exact absurd (Except.error.inj h) nofun
  · have hrange : ∀ j r, ¬ IsDangling entries j r := fun j r hjr => hrange ⟨j, r, hjr⟩
    by_cases hends : ∃ j, IsEndless entries j
    · obtain ⟨j, hfirst, hdefect⟩ := defect?_of_endless hrange hends
      rw [ofList_of_defect?_eq_some hdefect] at h
      obtain rfl : j = i := Error.referenceCycle.inj (Except.error.inj h)
      exact ⟨hrange, hfirst⟩
    · have hends : ∀ j, ¬ IsEndless entries j := fun j hj => hends ⟨j, hj⟩
      obtain ⟨set, hset, -⟩ := ofList_of_defect?_eq_none (defect?_eq_none hrange hends)
      rw [hset] at h
      exact absurd h nofun

/-- **Reports.**  If a list is refused for a loop, the id that is reported is the smallest one that
leads to a loop.  From it references run along a tail and then round a loop, and it is itself part of
a loop exactly if the tail is empty. -/
theorem reported_entry_leads_to_loop (h : ofList entries = .error (.referenceCycle i)) :
    IsFirst (LeadsToLoop entries) i ∧
      ∃ tail j loop, RunsInto entries i tail j loop ∧ (OnLoop entries i ↔ tail = []) := by
  obtain ⟨hrange, hfirst⟩ := isFirst_of_ofList h
  have hleads : ∀ j, LeadsToLoop entries j ↔ IsEndless entries j :=
    fun j => (isEndless_iff_leadsToLoop hrange).symm
  obtain ⟨tail, j, loop, hruns⟩ :=
    exists_runsInto_of_closed hfirst.1.1 ((closed_trail_iff hrange hfirst.1.1).mpr hfirst.1)
  refine ⟨⟨(hleads i).mpr hfirst.1, fun k hk => ?_⟩, tail, j, loop, hruns, hruns.onLoop_start_iff⟩
  exact hfirst.2 k ((hleads k).mp hk)

/-- Five entries: the first is only shown, the second leads by way of the fifth to the third, and the
third and the fourth reference each other. -/
def lasso : List Entry :=
  [⟨false, 0, .i32, .ofNat 0x10, none⟩,
    ⟨false, 0, .i32, .ofNat 0x20, some (.reference (.ofIndex 4))⟩,
    ⟨false, 0, .i32, .ofNat 0x30, some (.reference (.ofIndex 3))⟩,
    ⟨false, 0, .i32, .ofNat 0x40, some (.reference (.ofIndex 2))⟩,
    ⟨false, 0, .i32, .ofNat 0x50, some (.reference (.ofIndex 2))⟩]

/-- The second entry is reported, with a tail of two entries in front of a loop of two. -/
theorem lasso_is_reported :
    ofList lasso = .error (.referenceCycle (.ofIndex 1)) ∧
      IsFirst (LeadsToLoop lasso) (.ofIndex 1) ∧
      RunsInto lasso (.ofIndex 1) [.ofIndex 1, .ofIndex 4] (.ofIndex 2) [.ofIndex 2, .ofIndex 3] ∧
      ¬ OnLoop lasso (.ofIndex 1) := by
  have hreport : ofList lasso = .error (.referenceCycle (.ofIndex 1)) :=
    ofList_of_defect?_eq_some (by cbv)
  have hruns : RunsInto lasso (.ofIndex 1) [.ofIndex 1, .ofIndex 4] (.ofIndex 2)
      [.ofIndex 2, .ofIndex 3] := by
    constructor
    case arrives => exact .link ⟨_, rfl, rfl⟩ (.link ⟨_, rfl, rfl⟩ (.none _))
    case returns => exact .link ⟨_, rfl, rfl⟩ (.link ⟨_, rfl, rfl⟩ (.none _))
    case loop_ne_nil => exact List.cons_ne_nil _ _
    case distinct => decide
  obtain ⟨hfirst, -⟩ := reported_entry_leads_to_loop hreport
  exact ⟨hreport, hfirst, hruns, fun hloop =>
    List.cons_ne_nil _ _ (hruns.onLoop_start_iff.mp hloop)⟩

/-- Two entries, each of which takes its value from the second one. -/
def hook : List Entry :=
  [⟨false, 0, .i32, .ofNat 0x10, some (.reference (.ofIndex 1))⟩,
    ⟨false, 0, .i32, .ofNat 0x20, some (.reference (.ofIndex 1))⟩]

/-- A report is not always about an entry of the loop: of two entries, the first one is reported to be
part of a loop, and only the second one is. -/
theorem reported_entry_need_not_be_on_loop :
    parse ["10=R2", "20=R2"] = .error (.referenceCycle (.ofIndex 0)) ∧
      ofList hook = .error (.referenceCycle (.ofIndex 0)) ∧
      ¬ OnLoop hook (.ofIndex 0) ∧ OnLoop hook (.ofIndex 1) := by
  have hreport : ofList hook = .error (.referenceCycle (.ofIndex 0)) :=
    ofList_of_defect?_eq_some (by cbv)
  have hread : parseEntries ["10=R2", "20=R2"] = .ok hook := by cbv
  have hruns : RunsInto hook (.ofIndex 0) [.ofIndex 0] (.ofIndex 1) [.ofIndex 1] := by
    constructor
    case arrives => exact .link ⟨_, rfl, rfl⟩ (.none _)
    case returns => exact .link ⟨_, rfl, rfl⟩ (.none _)
    case loop_ne_nil => exact List.cons_ne_nil _ _
    case distinct => decide
  refine ⟨?_, hreport, fun hloop => ?_, hruns.returns.onLoop hruns.loop_ne_nil⟩
  · rw [parse, hread]
    exact hreport
  · exact List.cons_ne_nil _ _ (hruns.onLoop_start_iff.mp hloop)

end MemWatch.EntrySet
