/-
# What writing entries does to an image

A turn to write an entry either stores bytes in mapped memory or leaves the image as it is and
stores nothing.  So writing entries in order changes the ranges that were stored to and nothing
else: no other byte, no mapping, and nothing but memory.
-/
import MemWatch.Proofs.CycleCalls
import MemWatch.Proofs.Ranges

namespace MemWatch

/-! ## Stores -/

/-- Where a write that succeeded stored which bytes. -/
def Call.stored? : Call → Option (Address × Bytes)
  | write a bytes true => some (a, bytes)
  | _ => none

/-- What the calls so far stored, in order. -/
def Scene.stores {σ : Type} (s : Scene σ) : List (Address × Bytes) :=
  s.calls.toList.filterMap Call.stored?

theorem Call.stored?_of_isQuestion {c : Call} (h : c.kind.isQuestion = true) :
    c.stored? = none := by
  cases c <;> simp_all [kind, CallKind.isQuestion, stored?]

theorem filterMap_stored?_of_isQuestion {calls : List Call}
    (h : ∀ c ∈ calls, c.kind.isQuestion = true) : calls.filterMap Call.stored? = [] :=
  List.filterMap_eq_nil_iff.mpr fun c hc => Call.stored?_of_isQuestion (h c hc)

/-- A write to an image stores its bytes in mapped memory, or it fails and changes nothing. -/
theorem Image.write_cases (i : Image) (a : Address) (bytes : Bytes) :
    ((i.write a bytes).1.isOk = false ∧ (i.write a bytes).2 = i) ∨
      ((i.write a bytes).1.isOk = true ∧ i.memory.isMapped a bytes.length = true ∧
        (i.write a bytes).2 = { i with memory := i.memory.store a bytes }) := by
  unfold Image.write
  rcases i.faultAt? .write a with _ | err
  · unfold Memory.write?
    by_cases hmapped : i.memory.isMapped a bytes.length = true
    · rw [if_pos hmapped]
      exact Or.inr ⟨rfl, hmapped, rfl⟩
    · rw [if_neg hmapped]
      exact Or.inl ⟨rfl, rfl⟩
  · exact Or.inl ⟨rfl, rfl⟩

namespace EntrySet

variable {set : EntrySet} {i : Image} {id : RefId} {e : Entry}

/-- **One turn.**  The turn of an entry stores bytes in mapped memory, or it leaves the image as it
is and stores nothing; a turn that fails is of the second kind. -/
theorem turn_effect (hget : set.get? id = some e) (i : Image) :
    ((set.turn i e).2 = i ∧ (set.turn i e).1.calls.filterMap Call.stored? = []) ∨
      ((set.turn i e).1.result.isOk = true ∧ ∃ a bytes, i.memory.isMapped a bytes.length = true ∧
        (set.turn i e).2 = { i with memory := i.memory.store a bytes } ∧
        (set.turn i e).1.calls.filterMap Call.stored? = [(a, bytes)]) := by
  -- up to the write the turn only asks, so what it stores is what the write stores
  have hasks : (i.view.aim set e).calls.filterMap Call.stored? = [] :=
    filterMap_stored?_of_isQuestion fun c hc =>
      isQuestion_of_mem_aim ((follows_aim hget i.view).kind_mem hc)
  rcases set.turn_cases i e with ⟨err, -, hturn⟩ | ⟨a, -, hturn⟩ | ⟨a, x, -, hturn⟩
  · rw [hturn]
    exact Or.inl ⟨rfl, hasks⟩
  · rw [hturn]
    exact Or.inl ⟨rfl, hasks⟩
  · rw [hturn]
    simp only [List.filterMap_append, hasks, List.nil_append]
    rcases i.write_cases a (e.type.encode x) with ⟨hfail, hsame⟩ | ⟨hok, hmapped, hafter⟩
    · rw [hfail]
      exact Or.inl ⟨hsame, rfl⟩
    · rw [hok]
      exact Or.inr ⟨rfl, a, e.type.encode x, hmapped, hafter, rfl⟩

/-- A turn that fails changes nothing and stores nothing. -/
theorem turn_of_failed (hget : set.get? id = some e)
    (h : (set.turn i e).1.result.isOk = false) :
    (set.turn i e).2 = i ∧ (set.turn i e).1.calls.filterMap Call.stored? = [] := by
  rcases turn_effect hget i with hnothing | ⟨hok, -⟩
  · exact hnothing
  · rw [h] at hok
    simp at hok

/-! ## Writes and memory -/

/-- What is stored when the entries of a numbered list are written in order. -/
def storesOf (set : EntrySet) (l : List (RefId × Entry)) (i : Image) : List (Address × Bytes) :=
  (set.callsOf (set.turnsOf l i)).filterMap Call.stored?

theorem storesOf_cons_of_value (id : RefId) (rest : List (RefId × Entry))
    (he : e.isMonitorOnly = false) :
    set.storesOf ((id, e) :: rest) i = (set.turn i e).1.calls.filterMap Call.stored? ++
      set.storesOf rest (set.turn i e).2 := by
  rw [storesOf, turnsOf_cons_of_value id rest he, callsOf, List.flatMap_cons,
    List.filterMap_append]
  rfl

theorem storesOf_cons_of_isMonitorOnly (id : RefId) (rest : List (RefId × Entry))
    (he : e.isMonitorOnly = true) : set.storesOf ((id, e) :: rest) i = set.storesOf rest i := by
  rw [storesOf, turnsOf_cons_of_isMonitorOnly id rest he]
  rfl

/-- Writing entries changes the memory of the image only, in the ranges that were stored to, and
maps or unmaps nothing. -/
structure Confined (stores : List (Address × Bytes)) (i after : Image) : Prop where
  same : after = { i with memory := after.memory }
  byte? : ∀ x, (∀ w ∈ stores, ¬ Address.InRange w.1 w.2.length x) →
    after.memory.byte? x = i.memory.byte? x
  mapping : ∀ x, (after.memory.byte? x).isSome = (i.memory.byte? x).isSome

theorem Confined.refl (i : Image) : Confined [] i i :=
  ⟨rfl, fun _ _ => rfl, fun _ => rfl⟩

theorem Confined.trans {stores more : List (Address × Bytes)} {i j k : Image}
    (h : Confined stores i j) (hmore : Confined more j k) : Confined (stores ++ more) i k := by
  refine ⟨?_, fun x hx => ?_, fun x => (hmore.mapping x).trans (h.mapping x)⟩
  · rw [hmore.same, h.same]
  · rw [hmore.byte? x fun w hw => hx w (List.mem_append_right stores hw),
      h.byte? x fun w hw => hx w (List.mem_append_left more hw)]

/-- The turn of an entry changes what it stores. -/
theorem confined_turn (hget : set.get? id = some e) (i : Image) :
    Confined ((set.turn i e).1.calls.filterMap Call.stored?) i (set.turn i e).2 := by
  rcases turn_effect hget i with ⟨hsame, hnone⟩ | ⟨-, a, bytes, hmapped, hafter, hstored⟩
  · rw [hsame, hnone]
    exact .refl i
  · rw [hafter, hstored]
    refine ⟨rfl, fun x hx => ?_, fun x => Memory.isSome_byte?_store hmapped x⟩
    exact Memory.byte?_store_of_not_inRange (hx (a, bytes) List.mem_cons_self)

/-- **Writes.**  Writing entries of the set in order changes what their turns store. -/
theorem confined_writeAll {l : List (RefId × Entry)} (hl : ∀ p ∈ l, set.get? p.1 = some p.2)
    (i : Image) : Confined (set.storesOf l i) i ((set.writeAll l).targetOn i) := by
  -- induction on the entries that are left, each of them on the image that the others left
  induction l generalizing i with
  | nil => exact .refl i
  | cons p rest ih =>
    rcases p with ⟨id, e⟩
    have hrest := ih fun q hq => hl q (List.mem_cons_of_mem _ hq)
    rcases he : e.isMonitorOnly with _ | _
    · rw [storesOf_cons_of_value id rest he, targetOn_writeAll_cons_of_value id rest he]
      exact (confined_turn (hl _ List.mem_cons_self) i).trans (hrest _)
    · rw [storesOf_cons_of_isMonitorOnly id rest he,
        targetOn_writeAll_cons_of_isMonitorOnly id rest he]
      exact hrest i

end EntrySet

end MemWatch
