/-
# Watching

A monitor over a sink that always works goes through one cycle after the other until it stops, and
shows all of them.  Nothing that goes wrong in a cycle ends it: a failure is one line of that cycle,
and the next entry comes.  Whether the monitor stops at all is up to the target: it has to be found
gone sooner or later, which is put here as a bound that every answer that it still runs brings down.
-/
import MemWatch.Proofs.Redraw
import MemWatch.Proofs.Upkeep

namespace MemWatch

variable {σ : Type} [Target σ]

/-! ## The question whether the target still runs -/

/-- The target is asked, and an answer that it runs is the only one that counts as such. -/
theorem isAlive_eq (s : Scene σ) :
    ((isAlive s).1 = true ↔ (Target.poll s.target).1 = .ok true) ∧
      (isAlive s).2.target = (Target.poll s.target).2 := by
  unfold isAlive
  rw [Action.bind_run]
  have hasked := Attempt.gives_operate Target.poll (fun _ => .alive) s.target s rfl
  generalize (operate Target.poll fun _ => Call.alive).outcome s = asked at hasked ⊢
  rcases asked with ⟨_ | alive, after⟩
  · obtain ⟨hpoll, htarget⟩ := hasked
    rw [← hpoll]
    exact ⟨by simp; rfl, htarget⟩
  · obtain ⟨hpoll, htarget⟩ := hasked
    rw [← hpoll]
    exact ⟨by simp; rfl, htarget⟩

namespace Monitor

variable {m : Monitor} {s t : Scene σ} {starts : List (Scene σ)} {out : Sink}

/-- The monitor stops, or the target was asked and runs. -/
theorem nextState_cases (m : Monitor) (s : Scene σ) :
    (m.nextState s).1 = .stopped ∨
      (m.nextState s).1 = .running ∧ (Target.poll s.target).1 = .ok true ∧
        (m.nextState s).2.target = (Target.poll s.target).2 := by
  obtain ⟨halive, htarget⟩ := isAlive_eq s
  unfold nextState
  cases m.once with
  | true => exact Or.inl rfl
  | false =>
    cases m.isCancelled with
    | true => exact Or.inl rfl
    | false =>
      simp only [Bool.false_eq_true, if_false]
      rw [Action.bind_run]
      generalize (isAlive s : Bool × Scene σ) = asked at halive htarget ⊢
      rcases asked with ⟨_ | _, after⟩
      · exact Or.inl rfl
      · exact Or.inr ⟨rfl, halive.mp rfl, htarget⟩

/-! ## Cycles until the monitor stops -/

/-- The cycles of the monitor from a scene on start on these scenes; after the last one it stops and
leaves a scene. -/
inductive Watches (m : Monitor) : Scene σ → List (Scene σ) → Scene σ → Prop where
  | last {s : Scene σ} (hstop : (m.nextState (m.entries.cycle s).2).1 = .stopped) :
      Watches m s [s] (m.nextState (m.entries.cycle s).2).2
  | next {s t : Scene σ} {starts : List (Scene σ)}
      (hgo : (m.nextState (m.entries.cycle s).2).1 = .running)
      (hrest : Watches m (m.nextState (m.entries.cycle s).2).2 starts t) :
      Watches m s (s :: starts) t

/-- The lines that the cycle from a scene shows. -/
def shown (m : Monitor) (s : Scene σ) : List String :=
  m.lines (m.entries.cycle s).1

/-- What is written for pictures after so many others: drawn in place, or one below the other. -/
def texts (m : Monitor) (cycles : Nat) (pictures : List (List String)) : String :=
  if m.redraw then drawnTexts cycles pictures else plainTexts pictures

/-- Every cycle is written as one picture. -/
theorem draw_eq_texts (m : Monitor) (readings : List Reading) :
    m.draw readings = m.texts m.cycles [m.lines readings] := by
  unfold texts
  cases h : m.redraw with
  | false => exact draw_plain h readings
  | true =>
    have hsame : m.withRedraw true = m := by
      rw [withRedraw, ← h]
    have hdrawn := m.draw_drawn readings
    rwa [hsame] at hdrawn

theorem texts_append (m : Monitor) (cycles : Nat) (pictures more : List (List String)) :
    m.texts cycles (pictures ++ more) =
      m.texts cycles pictures ++ m.texts (cycles + pictures.length) more := by
  unfold texts
  split
  · exact drawnTexts_append cycles pictures more
  · exact plainTexts_append pictures more

/-- A bound on how many more times in a row the target is found running, which no access to its
memory touches. -/
structure Lifespan (Q : Nat → σ → Prop) : Prop where
  access : ∀ n, KeptByAccess (Q n)
  gone : ∀ s, Q 0 s → (Target.poll s).1 ≠ .ok true
  poll : ∀ n s, Q (n + 1) s → (Target.poll s).1 = .ok true → Q n (Target.poll s).2

/-- A monitor that runs only once makes one cycle. -/
theorem watches_of_once (h : m.once = true) (s : Scene σ) :
    m.Watches s [s] (m.nextState (m.entries.cycle s).2).2 := by
  refine .last ?_
  unfold nextState
  rw [h]
  rfl

/-- A monitor stops as soon as the target is found gone. -/
theorem exists_watches {Q : Nat → σ → Prop} (hspan : Lifespan Q) (n : Nat) (h : Q n s.target) :
    ∃ starts t, m.Watches s starts t ∧ starts.length ≤ n + 1 := by
  induction n generalizing s with
  | zero =>
    have hafter := (hspan.access 0).closedUnderCycles.cycle m.entries s h
    rcases m.nextState_cases (m.entries.cycle s).2 with hstop | ⟨-, halive, -⟩
    · exact ⟨_, _, .last hstop, Nat.le_refl 1⟩
    · exact absurd halive (hspan.gone _ hafter)
  | succ n ih =>
    have hafter := (hspan.access (n + 1)).closedUnderCycles.cycle m.entries s h
    rcases m.nextState_cases (m.entries.cycle s).2 with hstop | ⟨hgo, halive, htarget⟩
    · exact ⟨_, _, .last hstop, Nat.le_add_left 1 _⟩
    · have hleft := hspan.poll n _ hafter halive
      rw [← htarget] at hleft
      obtain ⟨starts, t, hrest, hlength⟩ := ih hleft
      exact ⟨_, t, .next hgo hrest, Nat.succ_le_succ hlength⟩

/-- **Watching.**  Steps up to a limit that is no less than the number of cycles until the monitor
stops are these cycles, and all of them are shown. -/
theorem Watches.runSteps_eq (h : m.Watches s starts t) (limit : Nat) (out : Sink)
    (hlimit : starts.length ≤ limit) (hroom : out.room = none)
    (hflush : out.flushFails = false) (cycles : Nat) :
    ∃ after, runSteps limit { m with cycles, state := .running } out s =
        (⟨.ok .stopped, { m with cycles := cycles + starts.length, state := .stopped }, after⟩, t) ∧
      after.bytes = out.bytes ++ .ofString (m.texts cycles (starts.map m.shown)) := by
  -- the state plays no part in the picture, and neither does the count in what comes next
  have hnext (cycles : Nat) :
      ({ m with cycles, state := .running }.nextState : Action σ _) = m.nextState := rfl
  have hshow (cycles : Nat) (out : Sink) (s : Scene σ) (hroom : out.room = none)
      (hflush : out.flushFails = false) :
      out.putFlushed ({ m with cycles, state := .running }.draw (m.entries.cycle s).1) =
        (.ok (), out.taking (.ofString (m.texts cycles [m.shown s]))) := by
    have hdraw : { m with cycles, state := .running }.draw (m.entries.cycle s).1 =
        m.texts cycles [m.shown s] := draw_eq_texts _ _
    rw [hdraw, Sink.putFlushed_of_hasRoom (Sink.hasRoom_of_room hroom _), hflush]
    rfl
  induction h generalizing limit out cycles with
  | @last s hstop =>
    obtain ⟨limit, rfl⟩ : ∃ n, limit = n + 1 := ⟨limit - 1, by simp at hlimit; omega⟩
    have hstep := step_of_ok (m := { m with cycles, state := .running }) (s := s) rfl
      (hshow cycles out s hroom hflush)
    rw [hnext, hstop] at hstep
    refine ⟨_, ?_, Sink.bytes_taking (Sink.hasRoom_of_room hroom _)⟩
    rw [runSteps_succ, hstep]
    rfl
  | @next s t starts hgo hrest ih =>
    obtain ⟨limit, rfl⟩ : ∃ n, limit = n + 1 := ⟨limit - 1, by simp at hlimit; omega⟩
    have hstep := step_of_ok (m := { m with cycles, state := .running }) (s := s) rfl
      (hshow cycles out s hroom hflush)
    rw [hnext, hgo] at hstep
    obtain ⟨after, hrun, hbytes⟩ := ih limit (out.taking (.ofString (m.texts cycles [m.shown s])))
      (Nat.le_of_succ_le_succ hlimit) (Sink.room_taking hroom _)
      ((out.flushFails_taking _).trans hflush) (cycles + 1)
    refine ⟨after, ?_, ?_⟩
    · rw [runSteps_succ, hstep]
      show runSteps limit { m with cycles := cycles + 1, state := .running } _ _ = _
      rw [hrun, List.length_cons, Nat.add_right_comm, Nat.add_assoc]
    · have htexts := m.texts_append cycles [m.shown s] (starts.map m.shown)
      rw [List.singleton_append, ← List.map_cons, List.length_singleton] at htexts
      rw [hbytes, Sink.bytes_taking (Sink.hasRoom_of_room hroom _), htexts, Sink.ofString_append,
        List.append_assoc]

end Monitor

end MemWatch
