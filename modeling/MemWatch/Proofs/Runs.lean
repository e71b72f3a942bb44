/-
# Runs

A run is one cycle after the other, each of them shown, until the monitor stops.  How often an image
is still found running decides nothing about a cycle, and a cycle does not change it.  So the cycles
of a run are those of the image alone, one after the other, and only their number depends on the
answers to the question whether it still runs.

Main statement: a run makes one cycle, or one more than the target is found running, shows all of
them, and asks after each; and it is the loop that makes steps until one of them stops.
-/
import Mathlib
import MemWatch.Monitor
import MemWatch.Proofs.Steps
import MemWatch.Proofs.Writes

namespace MemWatch

/-! ## Cycles and polls -/

/-- The image with another number of times that it is still found running. -/
def Image.withPolls (i : Image) (n : Nat) : Image :=
  { i with pollsLeft := n }

/-- Writing does not depend on the polls that are left. -/
theorem Image.write_withPolls (i : Image) (n : Nat) (a : Address) (bytes : Bytes) :
    (i.withPolls n).write a bytes = ((i.write a bytes).1, (i.write a bytes).2.withPolls n) := by
  show (i.withPolls n).write a bytes = _
  unfold Image.write
  rw [show (i.withPolls n).faultAt? .write a = i.faultAt? .write a from rfl,
    show (i.withPolls n).memory = i.memory from rfl]
  rcases i.faultAt? .write a with _ | err
  · rcases i.memory.write? a bytes with _ | m <;> rfl
  · rfl

namespace EntrySet

variable {set : EntrySet}

/-- A turn does not depend on the polls that are left. -/
theorem turn_withPolls (set : EntrySet) (i : Image) (n : Nat) (e : Entry) :
    set.turn (i.withPolls n) e = ((set.turn i e).1, (set.turn i e).2.withPolls n) := by
  unfold turn
  rw [show (i.withPolls n).view = i.view from rfl]
  rcases i.view.aim set e with ⟨calls, err | ⟨a, _ | x⟩⟩
  · rfl
  · rfl
  · simp only [Image.write_withPolls]

/-- Writing entries in order does not depend on the polls that are left. -/
theorem writeAll_withPolls (set : EntrySet) (l : List (RefId × Entry)) (i : Image) (n : Nat) :
    set.callsOf (set.turnsOf l (i.withPolls n)) = set.callsOf (set.turnsOf l i) ∧
      (set.writeAll l).targetOn (i.withPolls n) = ((set.writeAll l).targetOn i).withPolls n := by
  induction l generalizing i with
  | nil => exact ⟨rfl, rfl⟩
  | cons p rest ih =>
    rcases p with ⟨id, e⟩
    rcases he : e.isMonitorOnly with _ | _
    · obtain ⟨hcalls, htarget⟩ := ih (set.turn i e).2
      rw [turnsOf_cons_of_value id rest he, turnsOf_cons_of_value id rest he,
        targetOn_writeAll_cons_of_value id rest he, targetOn_writeAll_cons_of_value id rest he,
        turn_withPolls, callsOf, List.flatMap_cons, turn_withPolls]
      exact ⟨congrArg (_ ++ ·) hcalls, htarget⟩
    · rw [turnsOf_cons_of_isMonitorOnly id rest he, turnsOf_cons_of_isMonitorOnly id rest he,
        targetOn_writeAll_cons_of_isMonitorOnly id rest he,
        targetOn_writeAll_cons_of_isMonitorOnly id rest he]
      exact ih i

theorem makes_cycle_on (set : EntrySet) (i : Image) :
    set.cycle.Makes i (set.cycle.callsOn i) (set.cycle.valueOn i) (set.cycle.targetOn i) := by
  have hcycle := set.makes_cycle i
  rwa [hcycle.callsOn_eq, hcycle.valueOn_eq, hcycle.targetOn_eq]

/-- **Cycles and polls.**  A cycle makes the same calls, gives the same readings and leaves the same
memory however often the image is still found running. -/
theorem makes_cycle_withPolls (set : EntrySet) (i : Image) (n : Nat) :
    set.cycle.Makes (i.withPolls n) (set.cycle.callsOn i) (set.cycle.valueOn i)
      ((set.cycle.targetOn i).withPolls n) := by
  have hcycle := set.makes_cycle i
  obtain ⟨hcalls, htarget⟩ := set.writeAll_withPolls set.numbered i n
  have hpolled := set.makes_cycle (i.withPolls n)
  have hafter : set.afterTurns (i.withPolls n) = (set.afterTurns i).withPolls n := htarget
  have hwrite : set.writeCalls (i.withPolls n) = set.writeCalls i := hcalls
  rw [hwrite, readCalls, lookAll, hafter] at hpolled
  rw [hcycle.callsOn_eq, hcycle.valueOn_eq, hcycle.targetOn_eq]
  exact hpolled

/-- A cycle leaves as many polls as there were. -/
theorem pollsLeft_cycle (set : EntrySet) (i : Image) :
    (set.cycle.targetOn i).pollsLeft = i.pollsLeft := by
  have hl : ∀ p ∈ set.numbered, set.get? p.1 = some p.2 := fun p hp => mem_number.mp hp
  rw [(set.makes_cycle i).targetOn_eq, afterTurns, (confined_writeAll hl i).same]

end EntrySet

namespace Monitor

/-! ## Steps -/

variable {m : Monitor} {out after : Sink} {i : Image}

/-- After a cycle the monitor asks whether the target still runs. -/
def polls (m : Monitor) : Bool :=
  !m.once && !m.isCancelled

/-- Asking an image whether it still runs is one call, and takes one of the polls that are left. -/
theorem makes_isAlive (i : Image) :
    isAlive.Makes i [.alive] (decide (0 < i.pollsLeft)) (i.withPolls (i.pollsLeft - 1)) := by
  have hpoll : Target.poll i =
      (.ok (decide (0 < i.pollsLeft)), i.withPolls (i.pollsLeft - 1)) := by
    show (Except.ok i.poll.1, i.poll.2) = _
    unfold Image.poll
    rcases i with ⟨width, base, memory, faults, _ | polls, properties⟩ <;> rfl
  have hcall := Attempt.makes_operate Target.poll (fun _ => .alive) i
  rw [hpoll] at hcall
  exact Action.Makes.bind hcall (Action.makes_pure _ _)

/-- A monitor that does not ask stops. -/
theorem makes_nextState_of_not_polls (h : m.polls = false) (i : Image) :
    m.nextState.Makes i [] .stopped i := by
  unfold nextState
  unfold polls at h
  rcases honce : m.once with _ | _
  · rcases hcancel : m.isCancelled with _ | _
    · simp [honce, hcancel] at h
    · exact Action.Makes.bind (Action.makes_record _ i) (Action.makes_pure _ i)
  · exact Action.makes_pure _ i

/-- A monitor that asks goes on exactly if the target is found running. -/
theorem makes_nextState_of_polls (h : m.polls = true) (i : Image) :
    m.nextState.Makes i [.alive] (if 0 < i.pollsLeft then .running else .stopped)
      (i.withPolls (i.pollsLeft - 1)) := by
  unfold nextState
  unfold polls at h
  rw [Bool.and_eq_true, Bool.not_eq_true', Bool.not_eq_true'] at h
  rw [h.1, h.2, ← List.append_nil [Call.alive]]
  refine Action.Makes.bind (makes_isAlive i) ?_
  by_cases hleft : 0 < i.pollsLeft
  · rw [if_pos hleft, decide_eq_true hleft]
    exact Action.makes_pure _ _
  · rw [if_neg hleft, decide_eq_false hleft]
    exact Action.Makes.bind (Action.makes_record _ _) (Action.makes_pure _ _)

theorem makes_step_of_stopped (h : m.state = .stopped) (out : Sink) (i : Image) :
    (m.step out).Makes i [] ⟨.ok .stopped, m, out⟩ i := by
  unfold step
  rw [h]
  exact Action.makes_pure _ i

/-- A step that cannot be shown leaves the monitor as it was, after a whole cycle. -/
theorem makes_step_of_error {e : Error} {j : Image} {cs : List Call} {readings : List Reading}
    (hrun : m.state = .running) (hcycle : m.entries.cycle.Makes i cs readings j)
    (hshow : out.putFlushed (m.draw readings) = (.error e, after)) :
    (m.step out).Makes i cs ⟨.error e, m, after⟩ j := by
  unfold step
  rw [hrun, ← List.append_nil cs]
  refine Action.Makes.bind hcycle ?_
  rw [hshow]
  exact Action.makes_pure _ j

/-- A step that is shown counts, and the monitor decides how to go on. -/
theorem makes_step_of_ok {j k : Image} {cs ds : List Call} {readings : List Reading}
    {state : MonitorState} (hrun : m.state = .running)
    (hcycle : m.entries.cycle.Makes i cs readings j)
    (hshow : out.putFlushed (m.draw readings) = (.ok (), after))
    (hnext : m.nextState.Makes j ds state k) :
    (m.step out).Makes i (cs ++ ds) ⟨.ok state, { m with cycles := m.cycles + 1, state }, after⟩
      k := by
  unfold step
  rw [hrun]
  refine Action.Makes.bind hcycle ?_
  rw [hshow, ← List.append_nil ds]
  exact Action.Makes.bind hnext (Action.makes_pure _ k)

/-- A step leaves the same, and makes the same calls, on every scene with the same target; if it
keeps the monitor running, one of the polls was taken. -/
theorem exists_makes_step (m : Monitor) (out : Sink) (i : Image) :
    ∃ cs p j, (m.step out).Makes i cs p j ∧
      (p.result = .ok .running → j.pollsLeft + 1 = i.pollsLeft) := by
  have hcycle := m.entries.makes_cycle_on i
  rcases hstate : m.state with _ | _
  · rcases hshow : out.putFlushed (m.draw (m.entries.cycle.valueOn i)) with ⟨e | _, after⟩
    · exact ⟨_, _, _, makes_step_of_error hstate hcycle hshow, by simp⟩
    · rcases hpolls : m.polls with _ | _
      · exact ⟨_, _, _, makes_step_of_ok hstate hcycle hshow
          (makes_nextState_of_not_polls hpolls _), by simp⟩
      · refine ⟨_, _, _, makes_step_of_ok hstate hcycle hshow
          (makes_nextState_of_polls hpolls _), fun hresult => ?_⟩
        show _ - 1 + 1 = _
        rw [EntrySet.pollsLeft_cycle] at hresult ⊢
        by_cases hleft : 0 < i.pollsLeft
        · omega
        · simp [if_neg hleft] at hresult
  · exact ⟨_, _, _, makes_step_of_stopped hstate out i, by simp⟩

/-- A step that keeps the monitor running takes one of the polls that are left. -/
theorem pollsLeft_step {s : Scene Image} (hgo : (m.step out s).1.result = .ok .running) :
    (m.step out s).2.target.pollsLeft + 1 = s.target.pollsLeft := by
  obtain ⟨cs, p, j, hstep, hpolls⟩ := exists_makes_step m out s.target
  obtain ⟨hp, hj⟩ := hstep.yields s rfl
  rw [hj]
  exact hpolls (hp ▸ hgo)

/-! ## The loop -/

/-- **The loop.**  A run makes a step, and if that keeps the monitor running, a run of what it left;
else it ends with what the step came to. -/
theorem run_eq_loop (m : Monitor) (out : Sink) (s : Scene Image) :
    m.run out s =
      match (m.step out s).1.result with
      | .ok .running => (m.step out s).1.monitor.run (m.step out s).1.out (m.step out s).2
      | _ => m.step out s := by
  show runSteps (s.target.pollsLeft + 1) m out s = _
  rw [runSteps_succ]
  rcases hgo : (m.step out s).1.result with e | _ | _
  · rfl
  · -- one poll was taken, so the bound on the rest of the run is the one that it sets itself
    rw [← pollsLeft_step hgo]
    rfl
  · rfl

/-- Making steps, each with what the one before left, until one of them does not keep the monitor
running, comes to `r`. -/
inductive StepsTo : Monitor → Sink → Scene Image → Progress × Scene Image → Prop where
  /-- The step ends it. -/
  | last {m : Monitor} {out : Sink} {s : Scene Image}
      (hend : (m.step out s).1.result ≠ .ok .running) : StepsTo m out s (m.step out s)
  /-- Another step follows. -/
  | next {m : Monitor} {out : Sink} {s : Scene Image} {r : Progress × Scene Image}
      (hgo : (m.step out s).1.result = .ok .running)
      (hrest : StepsTo (m.step out s).1.monitor (m.step out s).1.out (m.step out s).2 r) :
      StepsTo m out s r

/-- A run is its first step if that does not keep the monitor running. -/
theorem run_of_last {s : Scene Image} (hend : (m.step out s).1.result ≠ .ok .running) :
    m.run out s = m.step out s := by
  rw [run_eq_loop]
  rcases hgo : (m.step out s).1.result with e | _ | _
  · rfl
  · exact absurd hgo hend
  · rfl

/-- A run goes on after a first step that keeps the monitor running. -/
theorem run_of_next {s : Scene Image} (hgo : (m.step out s).1.result = .ok .running) :
    m.run out s = (m.step out s).1.monitor.run (m.step out s).1.out (m.step out s).2 := by
  rw [run_eq_loop, hgo]

/-- **Steps.**  A run is the same as making steps until one of them does not keep the monitor
running. -/
theorem stepsTo_iff_run_eq (m : Monitor) (out : Sink) (s : Scene Image)
    (r : Progress × Scene Image) : m.StepsTo out s r ↔ m.run out s = r := by
  constructor
  · intro h
    induction h with
    | last hend => exact run_of_last hend
    | next hgo _ ih => exact (run_of_next hgo).trans ih
  · rintro rfl
    -- every step but the last one takes one of the polls that are left
    induction hleft : s.target.pollsLeft using Nat.strongRecOn generalizing m out s with
    | ind left ih =>
      by_cases hgo : (m.step out s).1.result = .ok .running
      · have hpoll := pollsLeft_step hgo
        rw [run_of_next hgo]
        exact .next hgo (ih _ (by omega) _ _ _ rfl)
      · rw [run_of_last hgo]
        exact .last hgo

/-- A run whose first step keeps the monitor running goes on from there. -/
theorem makes_run_of_running {i j k : Image} {cs ds : List Call} {p q : Progress}
    (hstep : (m.step out).Makes i cs p j) (hgo : p.result = .ok .running)
    (hrest : (p.monitor.run p.out).Makes j ds q k) : (m.run out).Makes i (cs ++ ds) q k := by
  have hloop : ∀ s : Scene Image, s.target = i →
      m.run out s = p.monitor.run p.out (m.step out s).2 := by
    intro s hs
    have hp := (hstep.yields s hs).1
    rw [run_of_next (by rw [hp, hgo]), hp]
  refine ⟨fun s hs => ?_, fun s hs => ?_⟩
  · rw [hloop s hs]
    exact hrest.yields _ (hstep.yields s hs).2
  · rw [hloop s hs, hrest.calls _ (hstep.yields s hs).2, hstep.calls s hs, List.append_assoc]

/-- A run whose first step does not keep the monitor running is that step. -/
theorem makes_run_of_last {i j : Image} {cs : List Call} {p : Progress}
    (hstep : (m.step out).Makes i cs p j) (hend : p.result ≠ .ok .running) :
    (m.run out).Makes i cs p j := by
  have hloop : ∀ s : Scene Image, s.target = i → m.run out s = m.step out s :=
    fun s hs => run_of_last (by rwa [(hstep.yields s hs).1])
  refine ⟨fun s hs => ?_, fun s hs => ?_⟩
  · rw [hloop s hs]
    exact hstep.yields s hs
  · rw [hloop s hs]
    exact hstep.calls s hs

/-! ## Cycle after cycle -/

/-- How many cycles a run makes on a target that is found running a number of times more. -/
def cyclesLeft (m : Monitor) (pollsLeft : Nat) : Nat :=
  match m.state with
  | .stopped => 0
  | .running => if m.once then 1 else if m.isCancelled then 1 else pollsLeft + 1

/-- How many of its cycles keep a running monitor running. -/
def rounds (m : Monitor) (pollsLeft : Nat) : Nat :=
  if m.polls then pollsLeft else 0

/-- The monitor after a number of cycles more. -/
def later (m : Monitor) (k : Nat) : Monitor :=
  { m with cycles := m.cycles + k }

/-- The image after a number of cycles. -/
def cycled (m : Monitor) (i : Image) (k : Nat) : Image :=
  m.entries.cycle.targetOn^[k] i

/-- The image after a number of cycles of a run, with the polls that were taken. -/
def imageOver (m : Monitor) (i : Image) (k : Nat) : Image :=
  (m.cycled i k).withPolls (if m.polls then i.pollsLeft - k else i.pollsLeft)

/-- The bytes that show the cycle after a number of others. -/
def frame (m : Monitor) (i : Image) (k : Nat) : Bytes :=
  .ofString ((m.later k).draw (m.entries.cycle.valueOn (m.cycled i k)))

/-- The bytes that show a number of cycles, one after the other. -/
def frames (m : Monitor) (i : Image) (k : Nat) : Bytes :=
  (List.range k).flatMap (m.frame i)

/-- The calls of a number of cycles, with what is asked after each of them. -/
def callsOver (m : Monitor) (i : Image) (k : Nat) : List Call :=
  (List.range k).flatMap fun j =>
    m.entries.cycle.callsOn (m.cycled i j) ++ if m.polls then [.alive] else []

variable {k : Nat} {ds : List Call} {q : Progress} {j : Image}

/-- A running monitor makes one cycle more than keep it running. -/
theorem cyclesLeft_of_running (h : m.state = .running) (pollsLeft : Nat) :
    m.cyclesLeft pollsLeft = m.rounds pollsLeft + 1 := by
  unfold cyclesLeft rounds polls
  rw [h]
  cases m.once <;> cases m.isCancelled <;> rfl

theorem frames_succ (m : Monitor) (i : Image) (k : Nat) :
    m.frames i (k + 1) = m.frames i k ++ m.frame i k := by
  rw [frames, List.range_succ, List.flatMap_append, List.flatMap_singleton]
  rfl

theorem callsOver_succ (m : Monitor) (i : Image) (k : Nat) :
    m.callsOver i (k + 1) = m.callsOver i k ++
      (m.entries.cycle.callsOn (m.cycled i k) ++ if m.polls then [.alive] else []) := by
  rw [callsOver, List.range_succ, List.flatMap_append, List.flatMap_singleton]
  rfl

theorem imageOver_zero (m : Monitor) (i : Image) : m.imageOver i 0 = i := by
  unfold imageOver
  split <;> rfl

/-- A cycle of a run is the one of the image alone. -/
theorem makes_cycle_over (m : Monitor) (i : Image) (k polls : Nat) :
    m.entries.cycle.Makes ((m.cycled i k).withPolls polls)
      (m.entries.cycle.callsOn (m.cycled i k)) (m.entries.cycle.valueOn (m.cycled i k))
      ((m.cycled i (k + 1)).withPolls polls) := by
  have hnext : m.cycled i (k + 1) = m.entries.cycle.targetOn (m.cycled i k) :=
    Function.iterate_succ_apply' _ _ _
  rw [hnext]
  exact m.entries.makes_cycle_withPolls _ _

/-- A frame that fits is shown. -/
theorem putFlushed_frame (hfit : out.hasRoom (m.frame i k).length = true)
    (hflush : out.flushFails = false) :
    out.putFlushed ((m.later k).draw (m.entries.cycle.valueOn (m.cycled i k))) =
      (.ok (), out.taking (m.frame i k)) := by
  rw [Sink.putFlushed_of_hasRoom hfit, hflush]
  rfl

/-- How a monitor goes on after a number of cycles. -/
def stateAfter (m : Monitor) (pollsLeft k : Nat) : MonitorState :=
  if k ≤ m.rounds pollsLeft then .running else .stopped

/-- What the monitor decides after one cycle more. -/
theorem makes_nextState_over (m : Monitor) (i : Image) (k : Nat) :
    (m.later k).nextState.Makes
      ((m.cycled i (k + 1)).withPolls (if m.polls then i.pollsLeft - k else i.pollsLeft))
      (if m.polls then [.alive] else []) (m.stateAfter i.pollsLeft (k + 1))
      (m.imageOver i (k + 1)) := by
  unfold stateAfter imageOver rounds
  rcases hpolls : m.polls with _ | _
  · exact makes_nextState_of_not_polls (m := m.later k) hpolls _
  · have hnext := makes_nextState_of_polls (m := m.later k) hpolls
      ((m.cycled i (k + 1)).withPolls (i.pollsLeft - k))
    -- a poll is left after `k` of them exactly if one more cycle keeps the monitor running
    have hleft : 0 < i.pollsLeft - k ↔ k + 1 ≤ i.pollsLeft := by omega
    simp only [Image.withPolls, hleft, Nat.sub_sub] at hnext
    exact hnext

/-- **One step.**  After a number of cycles, a step that is shown is one cycle more of the run. -/
theorem makes_step_over (m : Monitor) (out : Sink) (i : Image) (k : Nat)
    (hrun : m.state = .running) (hflush : out.flushFails = false)
    (hfit : out.hasRoom (m.frame i k).length = true) :
    ((m.later k).step out).Makes (m.imageOver i k)
      (m.entries.cycle.callsOn (m.cycled i k) ++ if m.polls then [.alive] else [])
      ⟨.ok (m.stateAfter i.pollsLeft (k + 1)),
        { m.later (k + 1) with state := m.stateAfter i.pollsLeft (k + 1) },
        out.taking (m.frame i k)⟩ (m.imageOver i (k + 1)) :=
  makes_step_of_ok (m := m.later k) hrun (m.makes_cycle_over i k _)
    (putFlushed_frame hfit hflush) (m.makes_nextState_over i k)

/-- **The first cycles of a run.**  As long as the target is found running and there is room for
what is shown, a run is its first cycles and a run of what they leave. -/
theorem makes_run_later (hrun : m.state = .running) (hflush : out.flushFails = false)
    (hk : k ≤ m.rounds i.pollsLeft) (hfit : out.hasRoom (m.frames i k).length = true)
    (hrest : ((m.later k).run (out.taking (m.frames i k))).Makes (m.imageOver i k) ds q j) :
    (m.run out).Makes i (m.callsOver i k ++ ds) q j := by
  -- the induction takes one cycle more from the run that is left
  induction k generalizing ds with
  | zero =>
    rw [imageOver_zero, frames, List.range_zero, List.flatMap_nil, Sink.taking_nil] at hrest
    exact hrest
  | succ k ih =>
    rw [frames_succ, Sink.hasRoom_append, Bool.and_eq_true] at hfit
    rw [frames_succ, Sink.taking_append] at hrest
    have hstep := m.makes_step_over (out.taking (m.frames i k)) i k hrun
      ((out.flushFails_taking _).trans hflush) hfit.2
    have hgo : m.stateAfter i.pollsLeft (k + 1) = .running := if_pos hk
    rw [hgo] at hstep
    have hon : { m.later (k + 1) with state := .running } = m.later (k + 1) := by
      rw [← hrun]
      rfl
    rw [hon] at hstep
    rw [callsOver_succ, List.append_assoc]
    exact ih (Nat.le_of_succ_le hk) hfit.1 (makes_run_of_running hstep rfl hrest)

/-- **A whole run.**  A run whose cycles all fit shows them and stops. -/
theorem makes_run_whole (hflush : out.flushFails = false)
    (hfit : out.hasRoom (m.frames i (m.cyclesLeft i.pollsLeft)).length = true) :
    (m.run out).Makes i (m.callsOver i (m.cyclesLeft i.pollsLeft))
      ⟨.ok .stopped, { m.later (m.cyclesLeft i.pollsLeft) with state := .stopped },
        out.taking (m.frames i (m.cyclesLeft i.pollsLeft))⟩
      (m.imageOver i (m.cyclesLeft i.pollsLeft)) := by
  rcases hstate : m.state with _ | _
  · rw [cyclesLeft_of_running hstate] at hfit ⊢
    rw [frames_succ, Sink.hasRoom_append, Bool.and_eq_true] at hfit
    have hstep := m.makes_step_over (out.taking (m.frames i (m.rounds i.pollsLeft))) i
      (m.rounds i.pollsLeft) hstate ((out.flushFails_taking _).trans hflush) hfit.2
    have hend : m.stateAfter i.pollsLeft (m.rounds i.pollsLeft + 1) = .stopped :=
      if_neg (Nat.not_succ_le_self _)
    rw [hend, ← Sink.taking_append, ← frames_succ] at hstep
    rw [callsOver_succ]
    exact makes_run_later hstate hflush (Nat.le_refl _) hfit.1
      (makes_run_of_last hstep (by simp))
  · have hnone : m.cyclesLeft i.pollsLeft = 0 := by rw [cyclesLeft, hstate]
    have hsame : { m.later 0 with state := .stopped } = m := by rw [← hstate]; rfl
    rw [hnone, hsame, imageOver_zero, frames, List.range_zero, List.flatMap_nil, Sink.taking_nil]
    exact makes_run_of_last (makes_step_of_stopped hstate out i) (by simp)

/-- **A run cut short.**  A run fails in the first cycle that does not fit: the cycle was made, but
it does not count and nothing is asked after it. -/
theorem makes_run_cut (hrun : m.state = .running) (hflush : out.flushFails = false)
    (hk : k ≤ m.rounds i.pollsLeft) (hfit : out.hasRoom (m.frames i k).length = true)
    (hcut : out.hasRoom (m.frames i (k + 1)).length = false) :
    (m.run out).Makes i (m.callsOver i k ++ m.entries.cycle.callsOn (m.cycled i k))
      ⟨.error Sink.full, m.later k, out.taking (m.frames i (k + 1))⟩
      ((m.cycled i (k + 1)).withPolls (if m.polls then i.pollsLeft - k else i.pollsLeft)) := by
  rw [frames_succ, Sink.hasRoom_append, hfit, Bool.true_and] at hcut
  rw [frames_succ, Sink.taking_append]
  refine makes_run_later hrun hflush hk hfit (makes_run_of_last ?_ (by simp))
  exact makes_step_of_error (m := m.later k) hrun (m.makes_cycle_over i k _)
    (Sink.putFlushed_of_not_hasRoom hcut)

/-! ## Runs to the end -/

/-- The run from a scene made a number of cycles, showed all of them, and stopped. -/
structure Completes (m : Monitor) (out : Sink) (s : Scene Image) (n : Nat)
    (r : Progress × Scene Image) : Prop where
  result : r.1.result = .ok .stopped
  monitor : r.1.monitor = { m with cycles := m.cycles + n, state := .stopped }
  bytes : r.1.out.bytes = out.bytes ++ m.frames s.target n
  target : r.2.target = m.imageOver s.target n
  calls : r.2.calls.toList = s.calls.toList ++ m.callsOver s.target n

theorem count_alive_cycle (set : EntrySet) (i : Image) :
    (set.cycle.callsOn i).count .alive = 0 := by
  rw [(set.makes_cycle i).callsOn_eq]
  exact List.count_eq_zero_of_not_mem (set.alive_notMem_cycle i)

/-- A monitor that asks does so once for every cycle. -/
theorem count_alive_callsOver (m : Monitor) (i : Image) (k : Nat) :
    (m.callsOver i k).count .alive = if m.polls then k else 0 := by
  induction k with
  | zero => simp [callsOver]
  | succ k ih =>
    rw [callsOver_succ, List.count_append, List.count_append, count_alive_cycle, ih]
    cases m.polls <;> simp

/-- A run whose cycles all fit is complete. -/
theorem completes_run {s : Scene Image} (hflush : out.flushFails = false)
    (hfit : out.hasRoom (m.frames s.target (m.cyclesLeft s.target.pollsLeft)).length = true) :
    m.Completes out s (m.cyclesLeft s.target.pollsLeft) (m.run out s) := by
  have hrun := makes_run_whole hflush hfit
  obtain ⟨hp, htarget⟩ := hrun.yields s rfl
  constructor
  · rw [hp]
  · rw [hp]
    rfl
  · rw [hp]
    exact Sink.bytes_taking hfit
  · exact htarget
  · exact hrun.calls s rfl

/-- **Runs.**  Over a sink that never fails a run makes all its cycles and shows each of them: one,
or one more than the target is found running if that is asked, and it is asked once after each.  A
stopped monitor does nothing.  A run is the same as making steps until one of them does not keep the
monitor running. -/
theorem run_shows_every_cycle (m : Monitor) (out : Sink) (s : Scene Image)
    (hroom : out.room = none) (hflush : out.flushFails = false) :
    m.Completes out s (m.cyclesLeft s.target.pollsLeft) (m.run out s) ∧
    (m.callsOver s.target (m.cyclesLeft s.target.pollsLeft)).count .alive =
      (if m.polls then m.cyclesLeft s.target.pollsLeft else 0) ∧
    (m.state = .stopped → m.run out s = (⟨.ok .stopped, m, out⟩, s)) ∧
    ∀ r, m.StepsTo out s r ↔ m.run out s = r := by
  refine ⟨completes_run hflush ?_, m.count_alive_callsOver _ _, fun hstop => ?_,
    m.stepsTo_iff_run_eq out s⟩
  · rw [Sink.hasRoom, hroom]
    rfl
  · have hstep := step_of_stopped hstop out s
    rw [run_of_last (by rw [hstep]; simp), hstep]

/-- A monitor over one entry. -/
def guard : Monitor where
  entries := { toList := [⟨false, 0, .i16, .ofNat 0x1000, some (.literal 7)⟩], sound := by cbv }
  header := "ab"

/-- An image in which that entry is mapped, and which is found running twice more. -/
def guardImage : Image where
  memory := Memory.empty.store (.ofNat 0x1000) [0, 0]
  pollsLeft := 2

/-- Found running twice more, the image has three cycles, and each of them is shown. -/
theorem guard_shows_three_cycles :
    ({} : Sink).room = none ∧ ({} : Sink).flushFails = false ∧
      guard.Completes {} { target := guardImage } 3 (guard.run {} { target := guardImage }) ∧
      guard.frames guardImage 3 =
        .ofString "ab\nR1 0x00001000=7\nab\nR1 0x00001000=7\nab\nR1 0x00001000=7\n" ∧
      (guard.callsOver guardImage 3).count .alive = 3 := by
  obtain ⟨hrun, hasked, -⟩ := run_shows_every_cycle guard {} { target := guardImage } rfl rfl
  have hcount : guard.cyclesLeft guardImage.pollsLeft = 3 := by decide
  rw [hcount] at hrun hasked
  exact ⟨rfl, rfl, hrun, by cbv, hasked⟩

end Monitor

end MemWatch
