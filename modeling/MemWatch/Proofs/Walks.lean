/-
# Walks along references

The search for loops walks from an entry along its references.  In every round the walk puts the id
where it stands among those that it has visited, and looks at what the entry there refers to: the
start, or an id that was visited, is reported as a loop, and any other id is where the walk goes on.
The comparison with the start is a shortcut, since the start is visited in the first round.

Main statement: with all references inside the list a walk ends, after as many rounds as there are
entries or fewer, since every round visits an id that was not visited before.  It ends at an entry
without a reference, or with a report, and a report is what comes of every walk that gets into a
loop, also of one that never comes back to its start.
-/
import Mathlib.Data.Finset.Card
import Mathlib.Data.Finset.Insert
import MemWatch.Proofs.Loops

namespace MemWatch.EntrySet

open Relation

variable {entries : List Entry} {start i j next : RefId}

/-! ## Rounds -/

/-- Where a walk stands: the ids that it has visited and left, and the id that it has come to. -/
structure Walk where
  visited : Finset RefId
  current : RefId

namespace Walk

/-- How a walk ends. -/
inductive Ending where
  /-- It comes to an entry without a reference. -/
  | rests (id : RefId)
  /-- It reports a loop. -/
  | reports

/-- The visited ids after the round that begins here. -/
def visitedAfter (w : Walk) : Finset RefId :=
  insert w.current w.visited

/-- To go on to this id would be to go round in a loop. -/
def ComesBack (start : RefId) (w : Walk) (next : RefId) : Prop :=
  next = start ∨ next ∈ w.visitedAfter

/-- From where it stands, a walk that has begun at `start` makes some rounds and ends.  The rounds
are listed by where the walk stands when they begin. -/
inductive Ends (entries : List Entry) (start : RefId) : Walk → List Walk → Ending → Prop where
  /-- There is nothing to follow. -/
  | rest {w : Walk} (hroot : IsRoot entries w.current) : Ends entries start w [] (.rests w.current)
  /-- The round meets the start or a visited id. -/
  | report {w : Walk} {next : RefId} (hstep : RefersTo entries w.current next)
      (hback : w.ComesBack start next) : Ends entries start w [w] .reports
  /-- The round goes on to an id that is neither. -/
  | goOn {w : Walk} {next : RefId} {rounds : List Walk} {ending : Ending}
      (hstep : RefersTo entries w.current next) (hfree : ¬ w.ComesBack start next)
      (hrest : Ends entries start ⟨w.visitedAfter, next⟩ rounds ending) :
      Ends entries start w (w :: rounds) ending

variable {w : Walk} {rounds : List Walk} {ending : Ending}

/-! ## One way to walk -/

/-- There is only one way to walk. -/
theorem Ends.unique {rounds' : List Walk} {ending' : Ending}
    (h : Ends entries start w rounds ending) (h' : Ends entries start w rounds' ending') :
    rounds' = rounds ∧ ending' = ending := by
  induction h generalizing rounds' ending' with
  | rest hroot =>
    cases h' with
    | rest => exact ⟨rfl, rfl⟩
    | report hstep _ => exact absurd hroot hstep.not_isRoot
    | goOn hstep _ _ => exact absurd hroot hstep.not_isRoot
  | report hstep hback =>
    cases h' with
    | rest hroot => exact absurd hroot hstep.not_isRoot
    | report _ _ => exact ⟨rfl, rfl⟩
    | goOn hstep' hfree _ =>
      obtain rfl := hstep.unique hstep'
      exact absurd hback hfree
  | goOn hstep hfree _ ih =>
    cases h' with
    | rest hroot => exact absurd hroot hstep.not_isRoot
    | report hstep' hback =>
      obtain rfl := hstep.unique hstep'
      exact absurd hback hfree
    | goOn hstep' _ hrest' =>
      obtain rfl := hstep.unique hstep'
      obtain ⟨rfl, rfl⟩ := ih hrest'
      exact ⟨rfl, rfl⟩

/-- A walk that comes to rest does so at an entry without a reference, which its references lead
to. -/
theorem Ends.isRoot (h : Ends entries start w rounds ending) (hending : ending = .rests j) :
    IsRoot entries j ∧ ReflTransGen (RefersTo entries) w.current j := by
  induction h with
  | rest hroot =>
    obtain rfl := Ending.rests.inj hending
    exact ⟨hroot, .refl⟩
  | report => exact absurd hending nofun
  | goOn hstep _ _ ih =>
    obtain ⟨hroot, hreach⟩ := ih hending
    exact ⟨hroot, hreach.head hstep⟩

/-! ## What is visited -/

/-- The id that a walk goes on to is not among the visited ones. -/
theorem next_notMem_visitedAfter (h : ¬ w.ComesBack start next) : next ∉ w.visitedAfter :=
  fun hmem => h (Or.inr hmem)

/-- A round visits one id more, if the id where the walk stands was not visited. -/
theorem card_visitedAfter (h : w.current ∉ w.visited) :
    w.visitedAfter.card = w.visited.card + 1 :=
  Finset.card_insert_of_notMem h

/-- A round visits more ids, if the id where the walk stands was not visited. -/
theorem visited_ssubset_visitedAfter (h : w.current ∉ w.visited) : w.visited ⊂ w.visitedAfter :=
  Finset.ssubset_insert h

/-- **New ids.**  In every round the walk stands at an id that was not visited. -/
theorem Ends.current_notMem_visited (h : Ends entries start w rounds ending)
    (hw : w.current ∉ w.visited) : ∀ v ∈ rounds, v.current ∉ v.visited := by
  induction h with
  | rest => exact List.forall_mem_nil _
  | report => exact List.forall_mem_singleton.mpr hw
  | goOn _ hfree _ ih =>
    exact List.forall_mem_cons.mpr ⟨hw, ih (next_notMem_visitedAfter hfree)⟩

/-- What is visited once stays visited. -/
theorem Ends.visited_subset (h : Ends entries start w rounds ending) :
    ∀ v ∈ rounds, w.visited ⊆ v.visited := by
  induction h with
  | rest => exact List.forall_mem_nil _
  | report => exact List.forall_mem_singleton.mpr (Finset.Subset.refl _)
  | @goOn w _ _ _ _ _ _ ih =>
    refine List.forall_mem_cons.mpr ⟨Finset.Subset.refl _, ?_⟩
    intro v hv
    exact (Finset.subset_insert w.current w.visited).trans (ih v hv)

/-- **Growth.**  From round to round more ids are visited. -/
theorem Ends.pairwise_visited (h : Ends entries start w rounds ending)
    (hw : w.current ∉ w.visited) : rounds.Pairwise fun v v' => v.visited ⊂ v'.visited := by
  induction h with
  | rest => exact List.Pairwise.nil
  | report => exact List.pairwise_singleton _ _
  | goOn _ hfree hrest ih =>
    refine List.pairwise_cons.mpr ⟨?_, ih (next_notMem_visitedAfter hfree)⟩
    intro v hv
    exact (visited_ssubset_visitedAfter hw).trans_subset (hrest.visited_subset v hv)

/-- Ids of the list that are visited are no more than the list has entries. -/
theorem card_visitedAfter_le (hids : ∀ k ∈ w.visitedAfter, k.index < entries.length) :
    w.visitedAfter.card ≤ entries.length := by
  have hsub : w.visitedAfter ⊆ (ids entries).toFinset := by
    intro k hk
    exact List.mem_toFinset.mpr (mem_ids.mpr (hids k hk))
  have hcard := (Finset.card_le_card hsub).trans (List.toFinset_card_le _)
  simpa only [ids, List.length_map, List.length_range] using hcard

/-- **Length.**  The rounds that are left visit ids of the list that were not visited before, so
there are no more of them than there are such ids. -/
theorem Ends.length_le (h : Ends entries start w rounds ending) (hw : w.current ∉ w.visited)
    (hids : ∀ k ∈ w.visitedAfter, k.index < entries.length)
    (hrange : ∀ k r, ¬ IsDangling entries k r) :
    w.visited.card + rounds.length ≤ entries.length := by
  -- induction on the rounds; each of them counts one more id of the list as visited
  induction h with
  | @rest w hroot =>
    have hcard := card_visitedAfter_le hids
    rw [card_visitedAfter hw] at hcard
    rw [List.length_nil]
    omega
  | @report w next hstep hback =>
    have hcard := card_visitedAfter_le hids
    rw [card_visitedAfter hw] at hcard
    rw [List.length_singleton]
    exact hcard
  | @goOn w next rounds ending hstep hfree hrest ih =>
    have hnext : next.index < entries.length := by
      by_contra hlt
      exact hrange _ _ (isDangling_iff.mpr ⟨hstep, hlt⟩)
    have hleft := ih (next_notMem_visitedAfter hfree) (by
      intro k hk
      rcases Finset.mem_insert.mp hk with rfl | hk
      · exact hnext
      · exact hids k hk)
    rw [card_visitedAfter hw] at hleft
    rw [List.length_cons]
    omega

/-! ## Walks and trails -/

/-- The trail of a walk: the ids where its rounds begin, and the one where it comes to rest. -/
def trailOf (rounds : List Walk) : Ending → Trail
  | .rests id => ⟨rounds.map current ++ [id], false⟩
  | .reports => ⟨rounds.map current, true⟩

theorem trailOf_cons (w : Walk) (rounds : List Walk) (ending : Ending) :
    trailOf (w :: rounds) ending = (trailOf rounds ending).cons w.current := by
  cases ending <;> rfl

/-- **Trails are walks.**  If just the ids that a walk will have visited after its next round have
marks, the start among them, then the trail that goes on from these marks is that of the walk. -/
theorem exists_ends (hrange : ∀ k r, ¬ IsDangling entries k r) (marks : Array Bool) (w : Walk)
    (hsize : marks.size = entries.length) (hw : w.current.index < entries.length)
    (hmarks : ∀ k : RefId, marks[k.index]? = some true ↔ k ∈ w.visitedAfter)
    (hstart : start ∈ w.visitedAfter) :
    ∃ rounds ending, Ends entries start w rounds ending ∧
      trailFrom (references entries) marks w.current = trailOf rounds ending := by
  generalize hcurrent : w.current = i at hw ⊢
  generalize hrefs : references entries = refs
  -- the marks run one id ahead of the visited ones: the id where the walk stands has one already
  fun_induction trailFrom refs marks i generalizing w with
  | case1 marks i hnext =>
    subst hcurrent
    rw [← hrefs] at hnext
    exact ⟨[], .rests w.current, .rest (isRoot_of_next?_eq_none hw hnext), rfl⟩
  | case2 marks i next hnext hlt hmark =>
    subst hcurrent
    rw [← hrefs, next?_references] at hnext
    have hvisited : next ∈ w.visitedAfter :=
      (hmarks next).mp (by rw [Array.getElem?_eq_getElem hlt, hmark])
    exact ⟨[w], .reports, .report hnext (Or.inr hvisited), rfl⟩
  | case3 marks i next hnext hlt hmark ih =>
    subst hcurrent
    rw [← hrefs, next?_references] at hnext
    have hnew : next ∉ w.visitedAfter := by
      intro hmem
      have hmarked := (hmarks next).mpr hmem
      rw [Array.getElem?_eq_getElem hlt] at hmarked
      exact hmark (Option.some.inj hmarked)
    have hfree : ¬ w.ComesBack start next := by
      rintro (rfl | hmem)
      · exact hnew hstart
      · exact hnew hmem
    -- the mark that is set is that of the id where the next round begins
    have hmarks' : ∀ k : RefId, (marks.set next.index true)[k.index]? = some true ↔
        k ∈ visitedAfter ⟨w.visitedAfter, next⟩ := by
      intro k
      rw [Array.getElem?_set, visitedAfter, Finset.mem_insert]
      split
      · rename_i hindex
        simp [RefId.index_inj hindex]
      · rename_i hindex
        rw [hmarks]
        have hne : k ≠ next := fun heq => hindex (heq ▸ rfl)
        simp [hne]
    obtain ⟨rounds, ending, hends, htrail⟩ := ih ⟨w.visitedAfter, next⟩
      (by rw [Array.size_set, hsize]) hmarks' (Finset.mem_insert_of_mem hstart) rfl (hsize ▸ hlt)
    refine ⟨w :: rounds, ending, .goOn hnext hfree hends, ?_⟩
    rw [trailOf_cons, htrail]
  | case4 marks i next hnext hlt =>
    subst hcurrent
    rw [← hrefs, next?_references] at hnext
    exact absurd (isDangling_iff.mpr ⟨hnext, hsize ▸ hlt⟩) (hrange _ _)

/-- Where the walk from an entry begins: nothing is visited. -/
def first (i : RefId) : Walk :=
  ⟨∅, i⟩

/-- The first round visits the start. -/
theorem mem_visitedAfter_first : j ∈ (first i).visitedAfter ↔ j = i := by
  simp [first, visitedAfter]

/-- At the start just the first entry is marked. -/
theorem firstMark_iff (hi : i.index < entries.length) :
    (firstMark entries.length i)[j.index]? = some true ↔ j ∈ (first i).visitedAfter := by
  rw [mem_visitedAfter_first]
  constructor
  · exact eq_of_firstMark
  · rintro rfl
    simp [firstMark, hi]

/-- A walk ends with a report exactly if its trail is closed. -/
theorem closed_trailOf (rounds : List Walk) (ending : Ending) :
    (trailOf rounds ending).closed = true ↔ ending = .reports := by
  cases ending <;> simp [trailOf]

end Walk

/-- **Walks end.**  With all references inside the list, the walk from an entry ends in one way, and
its trail is the one that the search for loops follows.  It takes as many rounds as there are entries
or fewer: in every round it stands at an id that was not visited, so from round to round more ids are
visited.  Either it comes to rest at an entry without a reference, or it reports a loop, and it does
so exactly if the references from the entry lead to a loop, whether the entry is part of it or
not. -/
theorem walk_ends_within_length (hrange : ∀ k r, ¬ IsDangling entries k r)
    (hi : i.index < entries.length) :
    ∃ rounds ending, Walk.Ends entries i (.first i) rounds ending ∧
      (∀ rounds' ending', Walk.Ends entries i (.first i) rounds' ending' →
        rounds' = rounds ∧ ending' = ending) ∧
      trail (references entries) i = Walk.trailOf rounds ending ∧
      rounds.length ≤ entries.length ∧
      (∀ w ∈ rounds, w.current ∉ w.visited) ∧
      rounds.Pairwise (fun v w => v.visited ⊂ w.visited) ∧
      (∀ j, ending = .rests j → IsRoot entries j ∧ ReflTransGen (RefersTo entries) i j) ∧
      (ending = .reports ↔ LeadsToLoop entries i) := by
  have hnew : (Walk.first i).current ∉ (Walk.first i).visited := Finset.notMem_empty i
  obtain ⟨rounds, ending, hends, htrail⟩ :=
    Walk.exists_ends hrange (firstMark entries.length i) (.first i) (by simp [firstMark]) hi
      (fun k => Walk.firstMark_iff hi) (Walk.mem_visitedAfter_first.mpr rfl)
  have htrail : trail (references entries) i = Walk.trailOf rounds ending := by
    rw [trail, size_references]
    exact htrail
  have hlength := hends.length_le hnew
    (fun k hk => by rw [Walk.mem_visitedAfter_first.mp hk]; exact hi) hrange
  refine ⟨rounds, ending, hends, fun _ _ h => hends.unique h, htrail, ?_,
    hends.current_notMem_visited hnew, hends.pairwise_visited hnew, fun j => hends.isRoot, ?_⟩
  · exact (Nat.le_add_left _ _).trans hlength
  · rw [← Walk.closed_trailOf rounds, ← htrail, closed_trail_iff hrange hi,
      isEndless_iff_leadsToLoop hrange]

/-- The second entry of five leads by way of the fifth into the loop of the third and the fourth.
The walk from it never comes back to it, and ends in the fourth round. -/
theorem lasso_walk_ends :
    (∀ k r, ¬ IsDangling lasso k r) ∧
      ∃ rounds, Walk.Ends lasso (.ofIndex 1) (.first (.ofIndex 1)) rounds .reports ∧
        rounds.map Walk.current = [.ofIndex 1, .ofIndex 4, .ofIndex 2, .ofIndex 3] ∧
        ∀ w ∈ rounds, w.current ∉ w.visited := by
  have hreport : ofList lasso = .error (.referenceCycle (.ofIndex 1)) :=
    ofList_of_defect?_eq_some (by cbv)
  have hrange := (isFirst_of_ofList hreport).1
  have htrail : trail (references lasso) (.ofIndex 1) =
      ⟨[.ofIndex 1, .ofIndex 4, .ofIndex 2, .ofIndex 3], true⟩ := by cbv
  obtain ⟨rounds, ending, hends, -, hwalk, -, hnew, -⟩ :=
    walk_ends_within_length (i := .ofIndex 1) hrange (by decide)
  rw [htrail] at hwalk
  cases ending with
  | rests id =>
    have hclosed := congrArg Trail.closed hwalk
    simp [Walk.trailOf] at hclosed
  | reports => exact ⟨hrange, rounds, hends, (congrArg Trail.passed hwalk).symm, hnew⟩

end MemWatch.EntrySet
