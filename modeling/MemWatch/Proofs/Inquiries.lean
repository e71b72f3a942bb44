/-
# Why there is no value to write

To find out the value to write to an entry, an entry set looks up the referenced entry, if there is
one, and asks the target for what it holds.  A look-up always finds an entry, since a set has no
reference beyond its entries, and so it is only the target that can refuse an answer.

Main statement: there is no value exactly for an entry that is only monitored, a literal is the value
whatever the target, a reference is worth what reading the referenced entry gives at that moment, and
a failure is the refusal of the last call to the target.
-/
import Mathlib
import MemWatch.Proofs.CycleCalls

namespace MemWatch

/-! ## Questions and refusals -/

section Questions

variable {σ : Type} [Target σ] {α β : Type} {s t u : σ} {cs ds : List Call} {c : Call} {err : Error}

/-- The calls are made one after the other, the target answers all of them, and it goes from `s` to
`t` meanwhile. -/
inductive Answered : σ → List Call → σ → Prop where
  /-- Nothing is asked. -/
  | done (s : σ) : Answered s [] s
  /-- Bytes are read, and more is asked. -/
  | read {s t u : σ} {a : Address} {size : Nat} {bytes : Bytes} {cs : List Call}
      (h : Target.read a size s = (.ok bytes, t)) (hrest : Answered t cs u) :
      Answered s (.read a size true :: cs) u
  /-- The base is found, and more is asked. -/
  | base {s t u : σ} {a : Address} {cs : List Call}
      (h : Target.base s = (.ok a, t)) (hrest : Answered t cs u) : Answered s (.base :: cs) u

/-- The target refuses a call with an error, and goes from `s` to `t` meanwhile. -/
inductive Refused : σ → Call → Error → σ → Prop where
  /-- Bytes cannot be read. -/
  | read {s t : σ} {a : Address} {size : Nat} {err : Error}
      (h : Target.read a size s = (.error err, t)) : Refused s (.read a size false) err t
  /-- There is no base. -/
  | base {s t : σ} {err : Error} (h : Target.base s = (.error err, t)) : Refused s .base err t

theorem Answered.append (h : Answered s cs t) (h' : Answered t ds u) : Answered s (cs ++ ds) u := by
  induction h with
  | done s => exact h'
  | read hread _ ih => exact .read hread (ih h')
  | base hbase _ ih => exact .base hbase (ih h')

/-- The attempt only asks the target.  It succeeds if all of its questions are answered, and the
first one that is refused is the last one, and its error is that of the attempt. -/
def Attempt.OnlyAsks (act : Attempt σ α) : Prop :=
  ∀ s : σ, (∃ cs a t, act.Makes s cs (.ok a) t ∧ Answered s cs t) ∨
    ∃ cs c err t u, act.Makes s (cs ++ [c]) (.error err) u ∧ Answered s cs t ∧ Refused t c err u

namespace Attempt

/-- What succeeds without a call asks nothing. -/
theorem onlyAsks_of_makes_nil {act : Attempt σ α} (h : ∀ s, ∃ a, act.Makes s [] (.ok a) s) :
    act.OnlyAsks := by
  intro s
  obtain ⟨a, ha⟩ := h s
  exact Or.inl ⟨[], a, s, ha, .done s⟩

theorem onlyAsks_pure (a : α) : OnlyAsks (pure a : Attempt σ α) :=
  onlyAsks_of_makes_nil fun s => ⟨a, makes_pure a s⟩

theorem onlyAsks_note (r : LogRecord) : OnlyAsks (note r : Attempt σ Unit) :=
  onlyAsks_of_makes_nil fun s => ⟨(), makes_note r s⟩

theorem onlyAsks_pointerWidth : OnlyAsks (pointerWidth : Attempt σ PointerWidth) :=
  onlyAsks_of_makes_nil fun s => ⟨Target.width s, makes_pointerWidth s⟩

/-- Attempts one after the other: a refusal in the first one is the end of both. -/
theorem OnlyAsks.bind {act : Attempt σ α} {next : α → Attempt σ β} (h : act.OnlyAsks)
    (hnext : ∀ a, (next a).OnlyAsks) : OnlyAsks (act >>= next) := by
  intro s
  rcases h s with ⟨cs, a, t, hact, hcs⟩ | ⟨cs, c, err, t, u, hact, hcs, hrefused⟩
  · rcases hnext a t with ⟨ds, b, u, hrest, hds⟩ | ⟨ds, c, err, u, v, hrest, hds, hrefused⟩
    · exact Or.inl ⟨cs ++ ds, b, u, hact.bind hrest, hcs.append hds⟩
    · refine Or.inr ⟨cs ++ ds, c, err, u, v, ?_, hcs.append hds, hrefused⟩
      rw [List.append_assoc]
      exact hact.bind hrest
  · exact Or.inr ⟨cs, c, err, t, u, hact.bind_error next, hcs, hrefused⟩

/-- A call that the target answers or refuses only asks. -/
theorem onlyAsks_operate {op : σ → Except Error α × σ} {call : Bool → Call}
    (hok : ∀ {s t : σ} {a : α}, op s = (.ok a, t) → Answered s [call true] t)
    (herror : ∀ {s t : σ} {err : Error}, op s = (.error err, t) → Refused s (call false) err t) :
    OnlyAsks (operate op call) := by
  intro s
  have hmakes := makes_operate op call s
  rcases hop : op s with ⟨err | a, t⟩
  · rw [hop] at hmakes
    exact Or.inr ⟨[], call false, err, s, t, hmakes, .done s, herror hop⟩
  · rw [hop] at hmakes
    exact Or.inl ⟨[call true], a, t, hmakes, hok hop⟩

theorem onlyAsks_readMemory (a : Address) (size : Nat) :
    OnlyAsks (readMemory a size : Attempt σ Bytes) :=
  onlyAsks_operate (fun h => .read h (.done _)) .read

theorem onlyAsks_mainModuleBase : OnlyAsks (mainModuleBase : Attempt σ Address) :=
  onlyAsks_operate (fun h => .base h (.done _)) .base

/-- Every step of reading an entry only asks. -/
theorem closedUnderReading_onlyAsks :
    ClosedUnderReading fun α (act : Attempt σ α) => act.OnlyAsks where
  pure := onlyAsks_pure
  bind := OnlyAsks.bind
  note _ := onlyAsks_note _
  pointerWidth := onlyAsks_pointerWidth
  readMemory := onlyAsks_readMemory
  mainModuleBase := onlyAsks_mainModuleBase

/-- **Failures.**  If an attempt that only asks fails, its last call was refused with that error,
and all calls before were answered. -/
theorem OnlyAsks.exists_refused {act : Attempt σ α} (h : act.OnlyAsks) {scene : Scene σ}
    (herr : (act.outcome scene).1 = .error err) :
    ∃ cs c t, (act.outcome scene).2.calls.toList = scene.calls.toList ++ (cs ++ [c]) ∧
      Answered scene.target cs t ∧ Refused t c err (act.outcome scene).2.target := by
  rcases h scene.target with ⟨cs, a, t, hact, -⟩ | ⟨cs, c, err', t, u, hact, hcs, hrefused⟩
  · have hok := (hact.yields scene rfl).1
    rw [herr] at hok
    exact absurd hok nofun
  · obtain ⟨hresult, htarget⟩ := hact.yields scene rfl
    obtain rfl : err = err' := Except.error.inj (herr.symm.trans hresult)
    exact ⟨cs, c, t, hact.calls scene rfl, hcs, htarget.symm ▸ hrefused⟩

end Attempt

end Questions

/-! ## Values to write -/

namespace EntrySet

variable {σ : Type} [Target σ] {set : EntrySet} {id r : RefId} {e target : Entry}

/-- The referenced entry stands in the list one place before its number. -/
theorem get?_eq_getElem?_pred (set : EntrySet) (id : RefId) :
    set.get? id = set.toList[id.val - 1]? :=
  rfl

/-- What an entry of the set references is an entry of the set, by its number and by its place. -/
theorem reference_inside (hget : set.get? id = some e) (href : e.reference? = some r) :
    r.val ≤ set.size ∧ ∃ target, set.get? r = some target := by
  refine ⟨?_, exists_get?_of_reference? hget href⟩
  exact (defect?_eq_none_iff.mp set.sound).1 id r ⟨e, hget, href⟩

/-- The value of an entry that is found is what reading it gives. -/
theorem currentValue_of_get? (h : set.get? r = some target) :
    (set.currentValue r : Attempt σ Int64) = target.read >>= fun p => pure p.2 := by
  rw [currentValue, h]

/-- Finding out what to write to an entry of the set only asks. -/
theorem onlyAsks_valueToWrite (hget : set.get? id = some e) :
    Attempt.OnlyAsks (set.valueToWrite e : Attempt σ (Option Int64)) := by
  unfold valueToWrite
  rcases hvalue : e.value with _ | v | r
  · exact Attempt.onlyAsks_pure none
  · exact Attempt.onlyAsks_pure (some v)
  · obtain ⟨-, target, htarget⟩ :=
      reference_inside hget (Entry.reference?_eq_some_iff.mpr hvalue)
    refine Attempt.OnlyAsks.bind ?_ fun v =>
      (Attempt.onlyAsks_note _).bind fun _ => Attempt.onlyAsks_pure _
    rw [currentValue_of_get? htarget]
    exact (Attempt.closedUnderReading_onlyAsks.read target).bind fun p => Attempt.onlyAsks_pure p.2

/-- Without a reference nothing is done to find out the value. -/
theorem valueToWrite_of_no_reference (href : e.reference? = none) :
    (set.valueToWrite e : Attempt σ (Option Int64)) =
      pure (match e.value with
        | some (.literal v) => some v
        | _ => none) := by
  unfold valueToWrite
  rcases hvalue : e.value with _ | v | r
  · rfl
  · rfl
  · rw [Entry.reference?_eq_some_iff.mpr hvalue] at href
    exact absurd href nofun

/-- **References.**  The value of a reference is what reading the referenced entry on the same scene
gives, and the same is done to find it out, up to a note. -/
theorem valueToWrite_of_reference (href : e.reference? = some r) (h : set.get? r = some target)
    (s : Scene σ) :
    ((set.valueToWrite e).outcome s).1 = (target.read.outcome s).1.map (fun p => some p.2) ∧
      ((set.valueToWrite e).outcome s).2.target = (target.read.outcome s).2.target ∧
      ((set.valueToWrite e).outcome s).2.calls = (target.read.outcome s).2.calls := by
  unfold valueToWrite
  rw [Entry.reference?_eq_some_iff.mp href]
  simp only [currentValue_of_get? h, Attempt.outcome_bind, bind_assoc, Action.bind_run]
  generalize (target.read : Attempt σ _).outcome s = reading
  rcases reading with ⟨_ | _, after⟩ <;> exact ⟨rfl, rfl, rfl⟩

/-- **Values to write.**  For an entry of a set there is nothing to write exactly if it is only
monitored, and a literal is what it says, with nothing done to the scene.  A reference names an entry
of the set, and the value is what reading that entry gives on the same scene.  A failure is the error
with which the target refused the last call, after it had answered all the others. -/
theorem value_to_write_fails_only_by_calls {σ : Type} [Target σ] (set : EntrySet) {id : RefId}
    {e : Entry} (hget : set.get? id = some e) (s : Scene σ) :
    let result := ((set.valueToWrite e).outcome s).1
    let after := ((set.valueToWrite e).outcome s).2
    (result = .ok none ↔ e.isMonitorOnly = true) ∧
    (∀ v, e.value = some (.literal v) → result = .ok (some v) ∧ after = s) ∧
    (∀ r, e.reference? = some r → r.val ≤ set.size ∧
      ∃ target, set.toList[r.val - 1]? = some target ∧ set.get? r = some target ∧
        result = (target.read.outcome s).1.map (fun p => some p.2) ∧
        after.target = (target.read.outcome s).2.target ∧
        after.calls = (target.read.outcome s).2.calls) ∧
    ∀ err, result = .error err →
      ∃ cs c t, after.calls.toList = s.calls.toList ++ (cs ++ [c]) ∧
        Answered s.target cs t ∧ Refused t c err after.target := by
  intro result after
  have hreference : ∀ r, e.reference? = some r → r.val ≤ set.size ∧
      ∃ target, set.toList[r.val - 1]? = some target ∧ set.get? r = some target ∧
        result = (target.read.outcome s).1.map (fun p => some p.2) ∧
        after.target = (target.read.outcome s).2.target ∧
        after.calls = (target.read.outcome s).2.calls := by
    intro r href
    obtain ⟨hle, target, htarget⟩ := reference_inside hget href
    refine ⟨hle, target, ?_, htarget, valueToWrite_of_reference href htarget s⟩
    rw [← get?_eq_getElem?_pred]
    exact htarget
  have hplain : e.reference? = none →
      result = .ok (match e.value with
        | some (.literal v) => some v
        | _ => none) ∧ after = s := by
    intro href
    simp only [result, after, valueToWrite_of_no_reference href]
    exact ⟨rfl, rfl⟩
  refine ⟨?_, ?_, hreference, ?_⟩
  · rcases hvalue : e.value with _ | v | r
    · have hresult := (hplain (by rw [Entry.reference?, hvalue])).1
      rw [hvalue] at hresult
      simp [hresult, Entry.isMonitorOnly, hvalue]
    · have hresult := (hplain (by rw [Entry.reference?, hvalue])).1
      rw [hvalue] at hresult
      simp [hresult, Entry.isMonitorOnly, hvalue]
    · obtain ⟨-, target, -, -, hresult, -⟩ :=
        hreference r (Entry.reference?_eq_some_iff.mpr hvalue)
      rw [hresult]
      rcases (target.read.outcome s).1 with _ | _ <;>
        simp [Except.map, Entry.isMonitorOnly, hvalue]
  · intro v hvalue
    have hresult := hplain (by rw [Entry.reference?, hvalue])
    rwa [hvalue] at hresult
  · intro err herr
    exact (onlyAsks_valueToWrite hget).exists_refused herr

/-- An offset with one pointer, and an entry that takes its value from it. -/
def borrowed : EntrySet where
  toList :=
    [⟨true, 1, .i32, .ofNat 0x10, none⟩,
      ⟨false, 0, .i16, .ofNat 0x2000, some (.reference (.ofIndex 0))⟩]
  sound := by cbv

/-- An image with a base, in which the pointer must not be read. -/
def lockedImage : Image where
  base := .ok (.ofNat 0x1000)
  faults := [⟨.read, .ofNat 0x1010, .system .permissionDenied⟩]

/-- The base is found, the pointer is refused, and with that error there is no value. -/
theorem borrowed_is_refused :
    borrowed.get? (.ofIndex 1) = some ⟨false, 0, .i16, .ofNat 0x2000,
        some (.reference (.ofIndex 0))⟩ ∧
      ∃ cs c t after, Answered lockedImage cs t ∧
        Refused t c (.system .permissionDenied) after ∧
        cs ++ [c] = [.base, .read (.ofNat 0x1010) 4 false] := by
  have hget : borrowed.get? (.ofIndex 1) = some ⟨false, 0, .i16, .ofNat 0x2000,
      some (.reference (.ofIndex 0))⟩ := rfl
  obtain ⟨-, -, -, hfails⟩ :=
    value_to_write_fails_only_by_calls borrowed hget { target := lockedImage }
  obtain ⟨cs, c, t, hcalls, hcs, hrefused⟩ := hfails (.system .permissionDenied) (by cbv)
  refine ⟨hget, cs, c, t, _, hcs, hrefused, ?_⟩
  exact hcalls.symm.trans (by cbv)

end EntrySet

end MemWatch
