/-
# Failures and what they leave behind

A turn that fails leaves no trace in the image, and the turns after it cannot tell it from a turn
that was not taken.  An entry that is only monitored lies where it did and can still be referenced.

Main statement: a cycle comes to the same as one over the set in which every entry whose write
failed is only monitored, and no byte changes but those that were stored.
-/
import Mathlib.Data.List.Nodup
import MemWatch.Proofs.Writes

namespace MemWatch.EntrySet

variable {set : EntrySet} {i : Image} {ids : List RefId} {entries : List Entry}

/-! ## Entries that are only monitored -/

/-- The entry without its value, if its id is one of the given ones. -/
def muteEntry (ids : List RefId) (id : RefId) (e : Entry) : Entry :=
  if id ∈ ids then { e with value := none } else e

/-- The entries with those of the given ids made monitor-only. -/
def muteList (ids : List RefId) (entries : List Entry) : List Entry :=
  (number entries).map fun p => muteEntry ids p.1 p.2

theorem getElem?_number (entries : List Entry) (k : Nat) :
    (number entries)[k]? = entries[k]?.map fun e => (RefId.ofIndex k, e) := by
  rw [number, List.getElem?_map, List.getElem?_zipIdx, Nat.zero_add, Option.map_map]
  rfl

/-- Muting keeps positions. -/
theorem getElem?_muteList (ids : List RefId) (entries : List Entry) (id : RefId) :
    (muteList ids entries)[id.index]? = entries[id.index]?.map (muteEntry ids id) := by
  rw [muteList, List.getElem?_map, getElem?_number, Option.map_map]
  cases entries[id.index]? with
  | none => rfl
  | some e =>
    show some (muteEntry ids (RefId.ofIndex id.index) e) = some (muteEntry ids id e)
    rw [RefId.ofIndex_index]

/-- Muting takes references away and adds none. -/
theorem refersTo_of_muteList {id r : RefId} (h : RefersTo (muteList ids entries) id r) :
    RefersTo entries id r := by
  obtain ⟨e, hget, href⟩ := h
  rw [getElem?_muteList] at hget
  obtain ⟨e', he', hmute⟩ := Option.map_eq_some_iff.mp hget
  refine ⟨e', he', ?_⟩
  unfold muteEntry at hmute
  split at hmute
  · rw [← hmute] at href
    simp [Entry.reference?] at href
  · rw [hmute]
    exact href

theorem length_muteList (ids : List RefId) (entries : List Entry) :
    (muteList ids entries).length = entries.length := by
  simp [muteList, number]

/-- The set with the entries of the given ids made monitor-only. -/
def muted (set : EntrySet) (ids : List RefId) : EntrySet where
  toList := muteList ids set.toList
  sound := by
    obtain ⟨hinside, hloops⟩ := defect?_eq_none_iff.mp set.sound
    refine defect?_eq_none_iff.mpr ⟨fun i r href => ?_, fun i hloop => ?_⟩
    · rw [length_muteList]
      exact hinside i r (refersTo_of_muteList href)
    · have hle : RefersTo (muteList ids set.toList) ≤ RefersTo set.toList :=
        fun _ _ => refersTo_of_muteList
      exact hloops i (Relation.TransGen.mono hle i i hloop)

/-- Muting keeps the entries with their ids. -/
theorem get?_muted (set : EntrySet) (ids : List RefId) (id : RefId) :
    (set.muted ids).get? id = (set.get? id).map (muteEntry ids id) :=
  getElem?_muteList ids set.toList id

/-- Muting keeps the numbers of the entries. -/
theorem numbered_muted (set : EntrySet) (ids : List RefId) :
    (set.muted ids).numbered = set.numbered.map fun p => (p.1, muteEntry ids p.1 p.2) := by
  apply List.ext_getElem?
  intro k
  have hget := getElem?_muteList ids set.toList (RefId.ofIndex k)
  rw [RefId.index_ofIndex] at hget
  show (number (muteList ids set.toList))[k]? = ((number set.toList).map _)[k]?
  rw [getElem?_number, hget, List.getElem?_map, getElem?_number, Option.map_map, Option.map_map]
  rfl

/-- An entry lies where it lies and holds what it holds whether or not it has a value. -/
theorem look_muteEntry (v : View) (ids : List RefId) (id : RefId) (e : Entry) :
    v.look (muteEntry ids id e) = v.look e := by
  unfold muteEntry
  split <;> rfl

/-- What an entry takes its value from may be muted. -/
theorem worth_muted (v : View) (set : EntrySet) (ids : List RefId) (e : Entry) :
    v.worth (set.muted ids) e = v.worth set e := by
  have hsize : (set.muted ids).size = set.size := length_muteList ids set.toList
  have hcurrent : ∀ r, v.current (set.muted ids) r = v.current set r := by
    intro r
    unfold View.current
    rw [get?_muted, hsize]
    rcases set.get? r with _ | t
    · rfl
    · show (v.look (muteEntry ids r t)).map _ = (v.look t).map _
      rw [look_muteEntry]
  unfold View.worth
  simp only [hcurrent]

/-- The turn of an entry is the same in a set that is partly muted. -/
theorem turn_muted (set : EntrySet) (ids : List RefId) (i : Image) (e : Entry) :
    (set.muted ids).turn i e = set.turn i e := by
  unfold turn View.aim
  rw [worth_muted]

/-! ## Turns not taken -/

/-- **Writes that fail.**  Writing entries in order comes to the same without the turns that
fail. -/
theorem writeAll_muted {l : List (RefId × Entry)} (hl : ∀ p ∈ l, set.get? p.1 = some p.2)
    (hids : ∀ t ∈ set.turnsOf l i,
      t.id ∈ ids ↔ (set.turn t.target t.entry).1.result.isOk = false) :
    ((set.muted ids).writeAll (l.map fun p => (p.1, muteEntry ids p.1 p.2))).targetOn i =
        (set.writeAll l).targetOn i ∧
      (set.muted ids).storesOf (l.map fun p => (p.1, muteEntry ids p.1 p.2)) i =
        set.storesOf l i := by
  -- both sets find the same image at every turn: induction on the entries that are left
  induction l generalizing i with
  | nil => exact ⟨rfl, rfl⟩
  | cons p rest ih =>
    rcases p with ⟨id, e⟩
    have hget := hl _ List.mem_cons_self
    have hrest := fun q hq => hl q (List.mem_cons_of_mem _ hq)
    rw [List.map_cons]
    rcases he : e.isMonitorOnly with _ | _
    · rw [turnsOf_cons_of_value id rest he] at hids
      have hid := hids _ List.mem_cons_self
      have hothers := fun t ht => hids t (List.mem_cons_of_mem _ ht)
      rw [targetOn_writeAll_cons_of_value id rest he, storesOf_cons_of_value id rest he]
      by_cases hmem : id ∈ ids
      · -- the turn failed, so the next one finds the image that this one found
        obtain ⟨hsame, hnone⟩ := turn_of_failed hget (hid.mp hmem)
        have hmute : (muteEntry ids id e).isMonitorOnly = true := by
          rw [muteEntry, if_pos hmem]
          rfl
        rw [targetOn_writeAll_cons_of_isMonitorOnly _ _ hmute,
          storesOf_cons_of_isMonitorOnly _ _ hmute, hsame, hnone, List.nil_append]
        rw [hsame] at hothers
        exact ih hrest hothers
      · have hkeep : muteEntry ids id e = e := if_neg hmem
        rw [hkeep, targetOn_writeAll_cons_of_value _ _ he, storesOf_cons_of_value _ _ he,
          turn_muted]
        obtain ⟨htarget, hstores⟩ := ih hrest hothers
        exact ⟨htarget, by rw [hstores]⟩
    · have hmute : (muteEntry ids id e).isMonitorOnly = true := by
        unfold muteEntry
        split
        · rfl
        · exact he
      rw [turnsOf_cons_of_isMonitorOnly id rest he] at hids
      rw [targetOn_writeAll_cons_of_isMonitorOnly id rest he,
        storesOf_cons_of_isMonitorOnly id rest he,
        targetOn_writeAll_cons_of_isMonitorOnly _ _ hmute,
        storesOf_cons_of_isMonitorOnly _ _ hmute]
      exact ih hrest hids

/-! ## Failed writes of a cycle -/

section Targets

variable {σ : Type} [Target σ]

/-- What comes of writing the entry that has its turn. -/
def turnResult (set : EntrySet) (t : Turn σ) : Except Error Unit :=
  (set.writeEntry t.entry).outcome.valueOn t.target

/-- The ids of the entries whose write fails in a cycle, for whatever reason. -/
def failedWrites (set : EntrySet) (s : σ) : List RefId :=
  ((set.writeTurns s).filter fun t => !(set.turnResult t).isOk).map Turn.id

/-- No entry has two turns in a cycle. -/
theorem nodup_id_writeTurns (set : EntrySet) (s : σ) : ((set.writeTurns s).map Turn.id).Nodup := by
  have hids : (set.writeTurns s).map Turn.id =
      (set.numbered.filter fun p => !p.2.isMonitorOnly).map Prod.fst := by
    rw [← set.map_turnsOf set.numbered s, List.map_map]
    rfl
  have hascend := (pairwise_number set.toList).filter fun p => !p.2.isMonitorOnly
  rw [hids, List.Nodup, List.pairwise_map]
  exact hascend.imp fun hlt heq => Nat.ne_of_lt hlt (congrArg RefId.val heq)

/-- The id of a turn is among the failed ones exactly if that turn failed. -/
theorem mem_failedWrites {s : σ} {t : Turn σ} (ht : t ∈ set.writeTurns s) :
    t.id ∈ set.failedWrites s ↔ (set.turnResult t).isOk = false := by
  rw [failedWrites, List.mem_map]
  constructor
  · -- a turn that failed and has this id is this turn
    rintro ⟨t', ht', hid⟩
    obtain ⟨hmem, hfail⟩ := List.mem_filter.mp ht'
    obtain rfl := List.inj_on_of_nodup_map (set.nodup_id_writeTurns s) hmem ht hid
    simpa using hfail
  · intro hfail
    exact ⟨t, List.mem_filter.mpr ⟨ht, by simp [hfail]⟩, rfl⟩

end Targets

/-- Over an image, what comes of a turn is what its transcript says. -/
theorem turnResult_eq (set : EntrySet) (t : Turn Image) :
    set.turnResult t = (set.turn t.target t.entry).1.result :=
  Action.Makes.valueOn_eq (makes_writeEntry set t.target t.entry)

/-- What a cycle stores is added to what was stored before. -/
theorem stores_cycle (set : EntrySet) (s : Scene Image) :
    (set.cycle s).2.stores = s.stores ++ set.storesOf set.numbered s.target := by
  have hreads : (set.readCalls s.target).filterMap Call.stored? = [] :=
    filterMap_stored?_of_isQuestion fun c hc => isQuestion_of_mem_readCalls hc
  rw [Scene.stores, (set.makes_cycle s.target).calls s rfl, List.filterMap_append,
    List.filterMap_append, hreads, List.append_nil]
  rfl

/-- **Failure isolation.**  A cycle leaves the same target as one over the set in which every entry
whose write fails is only monitored; the same bytes are stored in the same order, and every entry
reads the same.  Outside the ranges that were stored to no byte changes, and no address becomes
mapped or unmapped. -/
theorem failed_writes_leave_no_trace (set : EntrySet) (s : Scene Image) :
    let quiet := set.muted (set.failedWrites s.target)
    (quiet.cycle s).2.target = (set.cycle s).2.target ∧
    (quiet.cycle s).2.stores = (set.cycle s).2.stores ∧
    (quiet.cycle s).1.map (fun r => (r.id, r.result)) =
      (set.cycle s).1.map (fun r => (r.id, r.result)) ∧
    ∃ stores, (set.cycle s).2.stores = s.stores ++ stores ∧
      (set.cycle s).2.target = { s.target with memory := (set.cycle s).2.target.memory } ∧
      (∀ x, (∀ w ∈ stores, ¬ Address.InRange w.1 w.2.length x) →
        (set.cycle s).2.target.memory.byte? x = s.target.memory.byte? x) ∧
      ∀ x, ((set.cycle s).2.target.memory.byte? x).isSome =
        (s.target.memory.byte? x).isSome := by
  intro quiet
  have hl : ∀ p ∈ set.numbered, set.get? p.1 = some p.2 := fun p hp => mem_number.mp hp
  have hfailed : ∀ t ∈ set.turnsOf set.numbered s.target, t.id ∈ set.failedWrites s.target ↔
      (set.turn t.target t.entry).1.result.isOk = false :=
    fun t ht => by rw [mem_failedWrites ht, turnResult_eq]
  obtain ⟨htarget, hstores⟩ := writeAll_muted hl hfailed
  rw [← numbered_muted] at htarget hstores
  obtain ⟨hreadings, hafter⟩ := (set.makes_cycle s.target).yields s rfl
  obtain ⟨hreadings', hafter'⟩ := (quiet.makes_cycle s.target).yields s rfl
  have hconfined := confined_writeAll hl s.target
  refine ⟨?_, ?_, ?_, set.storesOf set.numbered s.target, set.stores_cycle s, ?_⟩
  · rw [hafter', hafter]
    exact htarget
  · rw [stores_cycle, stores_cycle, hstores]
  · rw [hreadings', hreadings, lookAll, lookAll, afterTurns, htarget, numbered_muted]
    simp only [List.map_map]
    refine List.map_congr_left fun p _ => ?_
    show (p.1, (View.look _ (muteEntry _ p.1 p.2)).result) = (p.1, (View.look _ p.2).result)
    rw [look_muteEntry]
    rfl
  · rw [hafter]
    exact ⟨hconfined.same, hconfined.byte?, hconfined.mapping⟩

end MemWatch.EntrySet
