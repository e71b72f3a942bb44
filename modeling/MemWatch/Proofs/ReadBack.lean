/-
# Reading back a write

Where an entry lies is found out anew every time, through pointers that are held in the same memory
as the values.  If nothing stores to those pointers, the entry lies where it did; and if nothing
stores to the place of a value either, what was written there is read again, wrapped to the type.

Main statement: a value that was written in a cycle is what the entry reads as at the end of the
cycle, and what is written to an entry that references it later in the same cycle.
-/
import Mathlib
import MemWatch.Proofs.FailureIsolation
import MemWatch.Proofs.TypedAccess

namespace MemWatch

/-! ## Looking again -/

/-- Of what the calls asked for, both views say the same. -/
structure View.AgreesOn (v v' : View) (calls : List Call) : Prop where
  width : v'.width = v.width
  base : v'.base = v.base
  read : ∀ a n ok, .read a n ok ∈ calls → v'.read a n = v.read a n

namespace View

variable {v v' : View}

/-- What follows an answer is the same in both views if it is so where they agree. -/
theorem AgreesOn.bind_eq {α β : Type} {t : Transcript α} {next next' : α → Transcript β}
    (h : v.AgreesOn v' (t.bind next).calls)
    (hnext : ∀ a, v.AgreesOn v' (next a).calls → next' a = next a) :
    t.bind next' = t.bind next := by
  rcases t with ⟨cs, e | a⟩
  · rfl
  · have hrest : v.AgreesOn v' (next a).calls :=
      ⟨h.width, h.base, fun b n ok hc => h.read b n ok (List.mem_append_right cs hc)⟩
    show (⟨cs ++ (next' a).calls, (next' a).result⟩ : Transcript β) = _
    rw [hnext a hrest]
    rfl

/-- The same pointers lead to the same place. -/
theorem follow_congr {levels : Nat} {a : Address}
    (h : v.AgreesOn v' (v.follow levels a).calls) : v'.follow levels a = v.follow levels a := by
  -- induction on the pointers that are left to follow
  induction levels generalizing a with
  | zero => rfl
  | succ levels ih =>
    have hpointer : v'.pointer a = v.pointer a := by
      have hcell : .read a v.width.size (v.read a v.width.size).isOk ∈
          (v.follow (levels + 1) a).calls := by
        unfold follow pointer ask Transcript.map Transcript.bind
        rcases v.read a v.width.size with e | bytes <;> simp [Except.map]
      rw [pointer, pointer, ask, ask, h.width, h.read _ _ _ hcell]
    rw [follow, follow, hpointer, h.width]
    exact h.bind_eq fun next hrest => ih hrest

/-- An entry lies where it did if its base and its pointers are what they were. -/
theorem locate_congr {e : Entry} (h : v.AgreesOn v' (v.locate e).calls) :
    v'.locate e = v.locate e := by
  have hstart : v'.start e = v.start e := by
    rw [start, start, askBase, askBase, h.width, h.base]
  rw [locate, locate, hstart]
  exact h.bind_eq fun a hrest => follow_congr hrest

/-- The value of an entry is what is read where it lies. -/
theorem result_look {e : Entry} {a : Address} {bytes : Bytes}
    (hlocate : (v.locate e).result = .ok a) (hread : v.read a e.type.size = .ok bytes) :
    (v.look e).result = .ok (a, e.type.decode bytes) := by
  refine Transcript.result_bind_eq_ok.mpr ⟨a, hlocate, ?_⟩
  refine Transcript.result_map_eq_ok.mpr ⟨e.type.decode bytes, ?_, rfl⟩
  exact Transcript.result_map_eq_ok.mpr ⟨bytes, hread, rfl⟩

end View

/-- The cell that a call read. -/
def Call.cell? : Call → Option (Address × Nat)
  | read a size _ => some (a, size)
  | _ => none

/-- The pointers that were read to resolve the entry that has its turn. -/
def Turn.cells (t : Turn Image) : List (Address × Nat) :=
  (t.entry.resolve.outcome.callsOn t.target).filterMap Call.cell?

/-- The pointers of a turn are what locating its entry reads. -/
theorem Turn.cells_eq (t : Turn Image) :
    t.cells = (t.target.view.locate t.entry).calls.filterMap Call.cell? := by
  have hresolve : t.entry.resolve.outcome.callsOn t.target = _ :=
    Action.Makes.callsOn_eq (Image.asks_resolve t.entry)
  rw [cells, hresolve]

namespace EntrySet

open Address

variable {set : EntrySet} {i j : Image} {stores : List (Address × Bytes)}

/-! ## Images that differ in what was stored -/

/-- Apart from what was stored, an image reads as before. -/
theorem Confined.read_of_apart (h : Confined stores i j) {a : Address} {n : Nat}
    (hapart : ∀ w ∈ stores, Apart a n w.1 w.2.length) : j.read a n = i.read a n := by
  have hfaults : j.faultAt? .read a = i.faultAt? .read a := by
    rw [h.same]
    rfl
  have hload : j.memory.load? a n = i.memory.load? a n :=
    Memory.load?_congr fun x hx => h.byte? x fun w hw hstored => hapart w hw x hx hstored
  unfold Image.read
  rw [hfaults, hload]

/-- What is stored apart from the pointers of an entry does not change where it lies. -/
theorem Confined.locate_of_apart (h : Confined stores i j) {e : Entry}
    (hapart : ∀ w ∈ stores, ∀ c ∈ (i.view.locate e).calls.filterMap Call.cell?,
      Apart c.1 c.2 w.1 w.2.length) : j.view.locate e = i.view.locate e := by
  refine View.locate_congr ⟨?_, ?_, fun a n ok hc => ?_⟩
  · show j.width = i.width
    rw [h.same]
  · show j.base = i.base
    rw [h.same]
  · have hcell : (a, n) ∈ (i.view.locate e).calls.filterMap Call.cell? :=
      List.mem_filterMap.mpr ⟨_, hc, rfl⟩
    exact h.read_of_apart fun w hw => hapart w hw _ hcell

/-! ## The turns before and after a turn -/

/-- The entry that has a turn divides the entries into those whose turns came before and those whose
turns come after. -/
theorem turnsOf_eq_append {l : List (RefId × Entry)} {earlier later : List (Turn Image)}
    {t : Turn Image} (h : set.turnsOf l i = earlier ++ t :: later) :
    ∃ before after, l = before ++ (t.id, t.entry) :: after ∧ t.entry.isMonitorOnly = false ∧
      earlier = set.turnsOf before i ∧ t.target = (set.writeAll before).targetOn i ∧
      later = set.turnsOf after (set.turn t.target t.entry).2 := by
  induction l generalizing i earlier with
  | nil => simp [turnsOf] at h
  | cons p rest ih =>
    rcases p with ⟨id, e⟩
    rcases he : e.isMonitorOnly with _ | _
    · rw [turnsOf_cons_of_value id rest he] at h
      rcases earlier with _ | ⟨first, earlier⟩
      · obtain ⟨rfl, rfl⟩ := List.cons.inj h
        exact ⟨[], rest, rfl, he, rfl, rfl, rfl⟩
      · obtain ⟨rfl, hrest⟩ := List.cons.inj h
        obtain ⟨before, after, hl, hvalue, hearlier, htarget, hlater⟩ := ih hrest
        refine ⟨(id, e) :: before, after, by rw [hl]; rfl, hvalue, ?_, ?_, hlater⟩
        · rw [turnsOf_cons_of_value id before he, hearlier]
        · rw [targetOn_writeAll_cons_of_value id before he, htarget]
    · rw [turnsOf_cons_of_isMonitorOnly id rest he] at h
      obtain ⟨before, after, hl, hvalue, hearlier, htarget, hlater⟩ := ih h
      refine ⟨(id, e) :: before, after, by rw [hl]; rfl, hvalue, ?_, ?_, hlater⟩
      · rw [turnsOf_cons_of_isMonitorOnly id before he, hearlier]
      · rw [targetOn_writeAll_cons_of_isMonitorOnly id before he, htarget]

/-- Entries are written one part after the other. -/
theorem targetOn_writeAll_append (set : EntrySet) (l more : List (RefId × Entry)) (i : Image) :
    (set.writeAll (l ++ more)).targetOn i =
      (set.writeAll more).targetOn ((set.writeAll l).targetOn i) := by
  induction l generalizing i with
  | nil => rfl
  | cons p rest ih =>
    rcases p with ⟨id, e⟩
    rw [List.cons_append]
    rcases he : e.isMonitorOnly with _ | _
    · rw [targetOn_writeAll_cons_of_value id _ he, targetOn_writeAll_cons_of_value id _ he, ih]
    · rw [targetOn_writeAll_cons_of_isMonitorOnly id _ he,
        targetOn_writeAll_cons_of_isMonitorOnly id _ he, ih]

/-- What the turns stored, in order. -/
def storesIn (set : EntrySet) (turns : List (Turn Image)) : List (Address × Bytes) :=
  (turns.flatMap fun t => (set.tryWrite t.id t.entry).callsOn t.target).filterMap Call.stored?

/-- What the turns of a list of entries stored is what writing those entries stores. -/
theorem storesIn_turnsOf (set : EntrySet) (l : List (RefId × Entry)) (i : Image) :
    set.storesIn (set.turnsOf l i) = set.storesOf l i := by
  have hcalls : (set.turnsOf l i).flatMap
      (fun t => (set.tryWrite t.id t.entry).callsOn t.target) = set.callsOf (set.turnsOf l i) := by
    refine List.flatMap_congr fun t ht => ?_
    have hmem : (t.id, t.entry) ∈ l.filter fun p => !p.2.isMonitorOnly := by
      rw [← set.map_turnsOf l i]
      exact List.mem_map_of_mem ht
    have hvalue : t.entry.isMonitorOnly = false := by
      simpa using (List.mem_filter.mp hmem).2
    exact (makes_tryWrite t.id hvalue).callsOn_eq
  rw [storesIn, hcalls, storesOf]

/-! ## A value that was written -/

/-- In its turn the entry was resolved to `a`, the value to write to it was `v`, and writing it
succeeded. -/
structure Wrote (set : EntrySet) (t : Turn Image) (a : Address) (v : Int64) : Prop where
  resolved : t.entry.resolve.outcome.valueOn t.target = .ok a
  value : (set.valueToWrite t.entry).outcome.valueOn t.target = .ok (some v)
  result : set.turnResult t = .ok ()

/-- The turns store neither to the pointers of the entry that wrote to `a` nor to the place that it
wrote to, and neither did that entry store to its own pointers. -/
structure Spares (set : EntrySet) (t : Turn Image) (a : Address) (turns : List (Turn Image)) :
    Prop where
  own : ∀ c ∈ t.cells, Apart c.1 c.2 a t.entry.type.size
  pointers : ∀ w ∈ set.storesIn turns, ∀ c ∈ t.cells, Apart c.1 c.2 w.1 w.2.length
  place : ∀ w ∈ set.storesIn turns, Apart a t.entry.type.size w.1 w.2.length

variable {t u : Turn Image} {a b : Address} {v : Int64}

/-- What is aimed at in a turn is where the entry is resolved to, with the value to write. -/
theorem result_aim_of_resolved (hresolved : t.entry.resolve.outcome.valueOn t.target = .ok a)
    (hvalue : (set.valueToWrite t.entry).outcome.valueOn t.target = .ok (some v)) :
    (t.target.view.aim set t.entry).result = .ok (a, some v) := by
  have hlocate : t.entry.resolve.outcome.valueOn t.target = _ :=
    Action.Makes.valueOn_eq (Image.asks_resolve t.entry)
  have hworth : (set.valueToWrite t.entry).outcome.valueOn t.target = _ :=
    Action.Makes.valueOn_eq (Image.asks_valueToWrite set t.entry)
  rw [hlocate] at hresolved
  rw [hworth] at hvalue
  exact Transcript.result_bind_eq_ok.mpr
    ⟨a, hresolved, Transcript.result_map_eq_ok.mpr ⟨some v, hvalue, rfl⟩⟩

/-- A turn with a place and a value ends with a write. -/
theorem turn_of_result_aim {e : Entry} (h : (i.view.aim set e).result = .ok (a, some v)) :
    set.turn i e = (⟨(i.view.aim set e).calls ++
      [.write a (e.type.encode v) (i.write a (e.type.encode v)).1.isOk],
        (i.write a (e.type.encode v)).1⟩, (i.write a (e.type.encode v)).2) := by
  rcases set.turn_cases i e with ⟨err, hresult, -⟩ | ⟨b, hresult, -⟩ | ⟨b, x, hresult, hturn⟩
  · rw [h] at hresult
    simp at hresult
  · rw [h] at hresult
    simp at hresult
  · rw [h] at hresult
    obtain ⟨rfl, hx⟩ := Prod.mk.inj (Except.ok.inj hresult)
    obtain rfl := Option.some.inj hx
    exact hturn

/-- A value that was written is stored in mapped memory. -/
theorem Wrote.turn_eq (h : set.Wrote t a v) :
    (set.turn t.target t.entry).2 =
      { t.target with memory := t.target.memory.store a (t.entry.type.encode v) } ∧
    t.target.memory.isMapped a (t.entry.type.encode v).length = true := by
  have hturn := turn_of_result_aim (result_aim_of_resolved h.resolved h.value)
  have hok : (set.turn t.target t.entry).1.result = .ok () := by
    rw [← turnResult_eq, h.result]
  rw [hturn] at hok ⊢
  rcases t.target.write_cases a (t.entry.type.encode v) with ⟨hfail, -⟩ | ⟨-, hmapped, hafter⟩
  · rw [show (t.target.write a (t.entry.type.encode v)).1 = .ok () from hok] at hfail
    simp [Except.isOk, Except.toBool] at hfail
  · exact ⟨hafter, hmapped⟩

/-- **Reading back.**  On an image in which stores spared the pointers of the entry and the place
that it wrote to, the entry reads as what it wrote. -/
theorem Wrote.result_look (h : set.Wrote t a v) (hfaults : t.target.faults = [])
    (hconfined : Confined stores (set.turn t.target t.entry).2 j)
    (hown : ∀ c ∈ t.cells, Apart c.1 c.2 a t.entry.type.size)
    (hpointers : ∀ w ∈ stores, ∀ c ∈ t.cells, Apart c.1 c.2 w.1 w.2.length)
    (hplace : ∀ w ∈ stores, Apart a t.entry.type.size w.1 w.2.length) :
    (j.view.look t.entry).result = .ok (a, t.entry.type.wrapped v) := by
  obtain ⟨hafter, hmapped⟩ := h.turn_eq
  rw [hafter] at hconfined
  have hsize : (t.entry.type.encode v).length = t.entry.type.size := t.entry.type.length_encode v
  -- the entry's own write, and then the stores behind it, leave its pointers as they were
  have hwrite : Confined [(a, t.entry.type.encode v)] t.target
      { t.target with memory := t.target.memory.store a (t.entry.type.encode v) } := by
    refine ⟨rfl, fun x hx => ?_, fun x => Memory.isSome_byte?_store hmapped x⟩
    exact Memory.byte?_store_of_not_inRange (hx _ List.mem_cons_self)
  have hlocate : j.view.locate t.entry = t.target.view.locate t.entry := by
    refine (hwrite.trans hconfined).locate_of_apart fun w hw c hc => ?_
    rw [← Turn.cells_eq] at hc
    rcases List.mem_cons.mp hw with rfl | hw
    · rw [hsize]
      exact hown c hc
    · exact hpointers w hw c hc
  have hresolved : (t.target.view.locate t.entry).result = .ok a := by
    have hresolve : t.entry.resolve.outcome.valueOn t.target = _ :=
      Action.Makes.valueOn_eq (Image.asks_resolve t.entry)
    rw [← hresolve]
    exact h.resolved
  -- the bytes that were written are still there
  have hread : j.read a t.entry.type.size = .ok (t.entry.type.encode v) := by
    rw [hconfined.read_of_apart hplace]
    refine Image.read_of_load? ?_ (Memory.load?_store_encode _ a t.entry.type v)
    exact hfaults
  rw [View.result_look (hlocate ▸ hresolved) hread, ValueType.decode_encode]

/-- **Referencing back.**  Where an entry reads as a value, that is the value to write to an entry
that references it. -/
theorem valueOn_valueToWrite_of_look {e : Entry} {id : RefId} {r : Entry} {x : Int64}
    (href : e.reference? = some id) (hget : set.get? id = some r)
    (hlook : (i.view.look r).result = .ok (a, x)) :
    (set.valueToWrite e).outcome.valueOn i = .ok (some x) := by
  have hworth : (set.valueToWrite e).outcome.valueOn i = _ :=
    Action.Makes.valueOn_eq (Image.asks_valueToWrite set e)
  have hvalue : e.value = some (.reference id) := Entry.reference?_eq_some_iff.mp href
  have hcurrent : (i.view.current set id).result = .ok x := by
    rw [View.current, hget]
    exact Transcript.result_map_eq_ok.mpr ⟨(a, x), hlook, rfl⟩
  rw [hworth, View.worth, hvalue]
  exact Transcript.result_map_eq_ok.mpr ⟨x, hcurrent, rfl⟩

/-- A cycle has the reading of an entry at its position. -/
theorem getElem?_cycle {id : RefId} {e : Entry} (hget : set.get? id = some e) (s : Scene Image) :
    (set.cycle s).1[id.index]? =
      some ⟨id, e, ((set.afterTurns s.target).view.look e).result⟩ := by
  have hposition : set.numbered[id.index]? = some (id, e) := by
    rw [numbered, getElem?_number, show set.toList[id.index]? = some e from hget, Option.map_some,
      RefId.ofIndex_index]
  rw [((set.makes_cycle s.target).yields s rfl).1, lookAll, List.getElem?_map, hposition,
    Option.map_some]

/-- **Reading back a write.**  Over an image without faults, let an entry have written `v` to `a`.
If the turns behind it, and its own write, spare the pointers that lead to `a` and the bytes that
were written, the entry reads as `v` wrapped to its type at the end of the cycle.  If the turns up
to that of an entry which references it spare them, that entry gets the wrapped value to write, and
writes it if it can be resolved itself. -/
theorem written_value_reads_back (set : EntrySet) (s : Scene Image)
    (earlier later : List (Turn Image)) (t : Turn Image) (a : Address) (v : Int64)
    (hfaults : s.target.faults = [])
    (hturns : set.writeTurns s.target = earlier ++ t :: later) (hwrote : set.Wrote t a v) :
    (set.Spares t a later →
      (set.cycle s).1[t.id.index]? =
        some ⟨t.id, t.entry, .ok (a, t.entry.type.wrapped v)⟩) ∧
    ∀ between u rest b, later = between ++ u :: rest → u.entry.reference? = some t.id →
      u.entry.resolve.outcome.valueOn u.target = .ok b → set.Spares t a between →
      (set.valueToWrite u.entry).outcome.valueOn u.target =
        .ok (some (t.entry.type.wrapped v)) ∧
      ∃ ok, .write b (u.entry.type.encode (t.entry.type.wrapped v)) ok ∈
        (set.tryWrite u.id u.entry).callsOn u.target := by
  obtain ⟨before, after, hl, hvalue, -, htarget, hlater⟩ := turnsOf_eq_append hturns
  have hall : ∀ p ∈ before ++ (t.id, t.entry) :: after, set.get? p.1 = some p.2 :=
    fun p hp => mem_number.mp (by rwa [← hl] at hp)
  have hget : set.get? t.id = some t.entry :=
    hall _ (List.mem_append_right before List.mem_cons_self)
  have hafter : ∀ p ∈ after, set.get? p.1 = some p.2 :=
    fun p hp => hall p (List.mem_append_right before (List.mem_cons_of_mem _ hp))
  -- the turns before left the image without faults
  have hnone : t.target.faults = [] := by
    have hbefore := confined_writeAll
      (fun p hp => hall p (List.mem_append_left _ hp)) s.target
    rw [htarget, hbefore.same]
    exact hfaults
  refine ⟨fun hspares => ?_, fun between u rest b hsplit href hresolved hspares => ?_⟩
  · have hend : set.afterTurns s.target =
        (set.writeAll after).targetOn (set.turn t.target t.entry).2 := by
      rw [afterTurns, hl, targetOn_writeAll_append, ← htarget,
        targetOn_writeAll_cons_of_value _ _ hvalue]
    have hconfined := confined_writeAll hafter (set.turn t.target t.entry).2
    rw [← storesIn_turnsOf, ← hlater, ← hend] at hconfined
    rw [getElem?_cycle hget,
      hwrote.result_look hnone hconfined hspares.own hspares.pointers hspares.place]
  · rw [hsplit] at hlater
    obtain ⟨middle, others, hafter', huvalue, hbetween, hutarget, -⟩ :=
      turnsOf_eq_append hlater.symm
    have hconfined := confined_writeAll
      (fun p hp => hafter p (hafter' ▸ List.mem_append_left _ hp)) (set.turn t.target t.entry).2
    rw [← storesIn_turnsOf, ← hbetween, ← hutarget] at hconfined
    have hlook := hwrote.result_look hnone hconfined hspares.own hspares.pointers hspares.place
    have hworth := valueOn_valueToWrite_of_look href hget hlook
    refine ⟨hworth, (u.target.write b
      (u.entry.type.encode (t.entry.type.wrapped v))).1.isOk, ?_⟩
    rw [(makes_tryWrite u.id huvalue).callsOn_eq,
      turn_of_result_aim (result_aim_of_resolved hresolved hworth)]
    exact List.mem_append_right _ (List.mem_singleton.mpr rfl)

/-! ## A value behind a pointer -/

/-- Two entries: a value behind a pointer, and a copy of it. -/
def copied : EntrySet where
  toList :=
    [⟨false, 1, .i16, .ofNat 0x1000, some (.literal 70000)⟩,
      ⟨false, 0, .i32, .ofNat 0x3000, some (.reference (.ofIndex 0))⟩]
  sound := by cbv

/-- An image in which the pointer leads to a place between it and the copy. -/
def copiedImage : Image where
  memory := ((Memory.empty.store (.ofNat 0x1000) [0, 0x20, 0, 0]).store (.ofNat 0x2000)
    [0, 0]).store (.ofNat 0x3000) [0, 0, 0, 0]

/-- The turn of the value. -/
def valueTurn : Turn Image :=
  ⟨.ofIndex 0, ⟨false, 1, .i16, .ofNat 0x1000, some (.literal 70000)⟩, copiedImage⟩

/-- The turn of the copy. -/
def copyTurn : Turn Image :=
  ⟨.ofIndex 1, ⟨false, 0, .i32, .ofNat 0x3000, some (.reference (.ofIndex 0))⟩,
    (copied.tryWrite valueTurn.id valueTurn.entry).targetOn copiedImage⟩

/-- The value behind the pointer is read back as two bytes hold it, and so it is copied. -/
theorem copied_value_reads_back :
    copiedImage.faults = [] ∧ copied.writeTurns copiedImage = [] ++ valueTurn :: [copyTurn] ∧
      copied.Wrote valueTurn (.ofNat 0x2000) 70000 ∧
      copied.Spares valueTurn (.ofNat 0x2000) [copyTurn] ∧
      (copied.cycle { target := copiedImage }).1[0]? =
        some ⟨valueTurn.id, valueTurn.entry, .ok (.ofNat 0x2000, 4464)⟩ ∧
      (copied.valueToWrite copyTurn.entry).outcome.valueOn copyTurn.target = .ok (some 4464) := by
  have hturns : copied.writeTurns copiedImage = [] ++ valueTurn :: [copyTurn] := rfl
  have hwrote : copied.Wrote valueTurn (.ofNat 0x2000) 70000 := ⟨by cbv, by cbv, by cbv⟩
  have hcells : valueTurn.cells = [(.ofNat 0x1000, 4)] := by cbv
  have hstores : copied.storesIn [copyTurn] = [(.ofNat 0x3000, [0x70, 0x11, 0, 0])] := by cbv
  have hspares : copied.Spares valueTurn (.ofNat 0x2000) [copyTurn] := by
    constructor
    · rw [hcells]
      intro c hc
      obtain rfl := List.mem_singleton.mp hc
      exact apart_of_le (by decide) (by decide)
    · rw [hcells, hstores]
      intro w hw c hc
      obtain rfl := List.mem_singleton.mp hw
      obtain rfl := List.mem_singleton.mp hc
      exact apart_of_le (by decide) (by decide)
    · rw [hstores]
      intro w hw
      obtain rfl := List.mem_singleton.mp hw
      exact apart_of_le (by decide) (by decide)
  have hnothing : copied.Spares valueTurn (.ofNat 0x2000) [] :=
    ⟨hspares.own, by simp [storesIn], by simp [storesIn]⟩
  have hwrapped : ValueType.i16.wrapped 70000 = 4464 := by decide
  have hresolved : copyTurn.entry.resolve.outcome.valueOn copyTurn.target =
      .ok (.ofNat 0x3000) := by cbv
  obtain ⟨hread, hcopy⟩ := written_value_reads_back copied { target := copiedImage } []
    [copyTurn] valueTurn (.ofNat 0x2000) 70000 rfl hturns hwrote
  have hreading := hread hspares
  have hcopied := (hcopy [] copyTurn [] (.ofNat 0x3000) rfl rfl hresolved hnothing).1
  rw [show valueTurn.entry.type = .i16 from rfl, hwrapped] at hreading hcopied
  exact ⟨rfl, hturns, hwrote, hspares, hreading, hcopied⟩

end EntrySet

end MemWatch
