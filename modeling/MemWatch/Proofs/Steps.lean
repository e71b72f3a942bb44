/-
# Steps on any target

What one step of a monitor comes to, and what a cycle shows, on every target alike: the readings of
a cycle belong to the entries in their order, each with the result that reading the entry gave at
that moment, and a step shows them and counts, or fails and does not.
-/
import MemWatch.Monitor
import MemWatch.Proofs.Attempts
import MemWatch.Proofs.Sinks

namespace MemWatch

variable {σ : Type} [Target σ]

namespace EntrySet

/-! ## Readings -/

/-- Reading the entries of a list in order, each on the scene that the one before left, gives these
readings and leaves a scene. -/
inductive Reads : List (RefId × Entry) → Scene σ → List Reading → Scene σ → Prop where
  | nil (s : Scene σ) : Reads [] s [] s
  | cons {id : RefId} {e : Entry} {rest : List (RefId × Entry)} {s t : Scene σ}
      {readings : List Reading} (hrest : Reads rest (tryRead id e s).2 readings t) :
      Reads ((id, e) :: rest) s (⟨id, e, (e.read.outcome s).1⟩ :: readings) t

/-- The reading of an entry has the result that reading it gives. -/
theorem tryRead_eq (id : RefId) (e : Entry) (s : Scene σ) :
    (tryRead id e s).1 = ⟨id, e, (e.read.outcome s).1⟩ := by
  unfold tryRead
  generalize (e.read.outcome : Action σ _) = reading
  rw [Action.bind_run]
  cases (reading s).1 <;> rfl

/-- The readings of a list are made in order. -/
theorem reads_readAll (l : List (RefId × Entry)) (s : Scene σ) :
    Reads l s (readAll l s).1 (readAll l s).2 := by
  induction l generalizing s with
  | nil => exact .nil s
  | cons p rest ih =>
    rcases p with ⟨id, e⟩
    have hreadings : (readAll ((id, e) :: rest) s).1 =
        (tryRead id e s).1 :: (readAll rest (tryRead id e s).2).1 := rfl
    rw [hreadings, tryRead_eq]
    exact .cons (ih _)

theorem Reads.map_eq {l : List (RefId × Entry)} {s t : Scene σ} {readings : List Reading}
    (h : Reads l s readings t) : readings.map (fun r => (r.id, r.entry)) = l := by
  induction h with
  | nil s => rfl
  | cons hrest ih => rw [List.map_cons, ih]

/-- The readings of a cycle are made after all of its writes. -/
theorem reads_cycle (set : EntrySet) (s : Scene σ) :
    Reads set.numbered (set.writeAll set.numbered s).2 (set.cycle s).1 (set.cycle s).2 :=
  reads_readAll set.numbered (set.writeAll set.numbered s).2

theorem map_val_number (entries : List Entry) :
    (number entries).map (fun p => p.1.val) = List.range' 1 entries.length := by
  rw [number, List.map_map]
  show entries.zipIdx.map ((· + 1) ∘ Prod.snd) = _
  rw [← List.map_map, List.zipIdx_map_snd, ← List.range'_succ_left]

theorem map_entry_number (entries : List Entry) :
    (number entries).map Prod.snd = entries := by
  rw [number, List.map_map]
  show entries.zipIdx.map Prod.fst = _
  rw [List.zipIdx_map_fst]

end EntrySet

namespace Monitor

variable {m : Monitor} {out after : Sink} {s t u : Scene σ}

/-! ## Steps -/

/-- A stopped monitor makes no step. -/
theorem step_of_stopped (h : m.state = .stopped) (out : Sink) (s : Scene σ) :
    m.step out s = (⟨.ok .stopped, m, out⟩, s) := by
  unfold step
  rw [h]
  rfl

/-- A step that cannot be shown leaves the monitor as it was. -/
theorem step_of_error {e : Error} (hrun : m.state = .running)
    (hshow : out.putFlushed (m.draw (m.entries.cycle s).1) = (.error e, after)) :
    m.step out s = (⟨.error e, m, after⟩, (m.entries.cycle s).2) := by
  unfold step
  generalize (m.entries.cycle : Action σ _) = cycle at hshow ⊢
  rw [hrun]
  show (cycle >>= _) s = _
  rw [Action.bind_run, hshow]
  rfl

/-- A step that is shown counts, and the monitor decides how to go on. -/
theorem step_of_ok (hrun : m.state = .running)
    (hshow : out.putFlushed (m.draw (m.entries.cycle s).1) = (.ok (), after)) :
    m.step out s =
      (⟨.ok (m.nextState (m.entries.cycle s).2).1,
        { m with
          cycles := m.cycles + 1
          state := (m.nextState (m.entries.cycle s).2).1 }, after⟩,
        (m.nextState (m.entries.cycle s).2).2) := by
  unfold step
  generalize (m.entries.cycle : Action σ _) = cycle at hshow ⊢
  generalize (m.nextState : Action σ _) = next
  rw [hrun]
  show (cycle >>= _) s = _
  rw [Action.bind_run, hshow]
  rfl

/-- With one more step than the limit on the rest, a step is made first. -/
theorem runSteps_succ (limit : Nat) (m : Monitor) (out : Sink) (s : Scene σ) :
    runSteps (limit + 1) m out s =
      match (m.step out s).1.result with
      | .ok .running =>
        runSteps limit (m.step out s).1.monitor (m.step out s).1.out (m.step out s).2
      | _ => m.step out s := by
  rw [runSteps]
  show (fun r : Progress × Scene σ =>
    (match r.1.result with
      | .ok .running => runSteps limit r.1.monitor r.1.out
      | _ => pure r.1 : Action σ Progress) r.2) (m.step out s) = _
  generalize m.step out s = r
  rcases r with ⟨⟨_ | _ | _, monitor, sink⟩, after⟩ <;> rfl

end Monitor

end MemWatch
