/-
# Sessions

In a session the operations come in any order, and anything may change the image between them.  A
step either does nothing, because the monitor is stopped, or it fails and leaves the monitor as it
was, or it counts.  Nothing else counts, and nothing brings a stopped monitor back.

Main statement: once a monitor is stopped, it is stopped for the rest of the session and does
nothing any more; and at every point of a session it has counted the steps that it made while it was
running and that did not fail, those of its runs included.
-/
import MemWatch.Session
import MemWatch.Proofs.Runs

namespace MemWatch

/-! ## Steps that are made -/

/-- A step that was made: the monitor that made it, and what it came to. -/
structure StepMade where
  monitor : Monitor
  result : Except Error MonitorState

/-- The monitor that made the step was running, and the step did not fail. -/
def StepMade.counts (c : StepMade) : Bool :=
  decide (c.monitor.state = .running) && c.result.isOk

namespace Monitor

variable {m : Monitor} {out : Sink} {s : Scene Image}

/-- The step of the monitor on a scene, as it is taken down. -/
def stepMade (m : Monitor) (out : Sink) (s : Scene Image) : StepMade :=
  ⟨m, (m.step out s).1.result⟩

/-- The number of cycles that a step adds. -/
def stepCount (m : Monitor) (out : Sink) (s : Scene Image) : Nat :=
  if (m.stepMade out s).counts then 1 else 0

/-- **One step.**  The step of a stopped monitor does nothing.  The step of a running one fails and
leaves the monitor as it was, or it counts and brings the monitor to the state that it answers. -/
theorem step_cases (m : Monitor) (out : Sink) (s : Scene Image) :
    (m.state = .stopped ∧ m.step out s = (⟨.ok .stopped, m, out⟩, s)) ∨
    (m.state = .running ∧ ∃ e, (m.step out s).1.result = .error e ∧
      (m.step out s).1.monitor = m) ∨
    (m.state = .running ∧ ∃ state, (m.step out s).1.result = .ok state ∧
      (m.step out s).1.monitor = { m with cycles := m.cycles + 1, state }) := by
  rcases hstate : m.state with _ | _
  · have hcycle := m.entries.makes_cycle_on s.target
    rcases hshow : out.putFlushed (m.draw (m.entries.cycle.valueOn s.target)) with ⟨e | _, after⟩
    · have hstep := (makes_step_of_error hstate hcycle hshow).yields s rfl
      rw [hstep.1]
      exact Or.inr (Or.inl ⟨rfl, e, rfl, rfl⟩)
    · -- how the monitor goes on depends on whether it asks for the target
      rcases hpolls : m.polls with _ | _
      · have hnext := makes_nextState_of_not_polls hpolls (m.entries.cycle.targetOn s.target)
        have hstep := (makes_step_of_ok hstate hcycle hshow hnext).yields s rfl
        rw [hstep.1]
        exact Or.inr (Or.inr ⟨rfl, _, rfl, rfl⟩)
      · have hnext := makes_nextState_of_polls hpolls (m.entries.cycle.targetOn s.target)
        have hstep := (makes_step_of_ok hstate hcycle hshow hnext).yields s rfl
        rw [hstep.1]
        exact Or.inr (Or.inr ⟨rfl, _, rfl, rfl⟩)
  · exact Or.inl ⟨rfl, step_of_stopped hstate out s⟩

/-- A step adds one cycle if it counts. -/
theorem cycles_step (m : Monitor) (out : Sink) (s : Scene Image) :
    (m.step out s).1.monitor.cycles = m.cycles + m.stepCount out s := by
  unfold stepCount StepMade.counts stepMade
  rcases m.step_cases out s with ⟨hstate, hstep⟩ | ⟨hstate, e, hresult, hsame⟩ |
    ⟨hstate, state, hresult, hnext⟩
  · rw [hstep, hstate]
    rfl
  · rw [hresult, hsame, hstate]
    rfl
  · rw [hresult, hnext, hstate]
    rfl

/-- The loop of a run makes these steps, each with what the one before left, and comes to `r`: the
last one is the first that does not keep the monitor running. -/
inductive Takes : Monitor → Sink → Scene Image → List StepMade → Progress × Scene Image → Prop where
  /-- The step ends the loop. -/
  | last {m : Monitor} {out : Sink} {s : Scene Image}
      (hend : (m.step out s).1.result ≠ .ok .running) :
      Takes m out s [m.stepMade out s] (m.step out s)
  /-- Another step follows. -/
  | next {m : Monitor} {out : Sink} {s : Scene Image} {made : List StepMade}
      {r : Progress × Scene Image} (hgo : (m.step out s).1.result = .ok .running)
      (hrest : Takes (m.step out s).1.monitor (m.step out s).1.out (m.step out s).2 made r) :
      Takes m out s (m.stepMade out s :: made) r

/-- A run makes the steps of some loop. -/
theorem exists_takes (m : Monitor) (out : Sink) (s : Scene Image) :
    ∃ made, m.Takes out s made (m.run out s) := by
  have hloop := (m.stepsTo_iff_run_eq out s (m.run out s)).mpr rfl
  generalize m.run out s = r at hloop
  induction hloop with
  | last hend => exact ⟨_, .last hend⟩
  | next hgo _ ih =>
    obtain ⟨made, hmade⟩ := ih
    exact ⟨_, .next hgo hmade⟩

/-- What the loop comes to is the run. -/
theorem Takes.stepsTo {made : List StepMade} {r : Progress × Scene Image}
    (h : m.Takes out s made r) : m.StepsTo out s r := by
  induction h with
  | last hend => exact .last hend
  | next hgo _ ih => exact .next hgo ih

/-- The loop adds one cycle for each of its steps that counts. -/
theorem Takes.cycles_eq {made : List StepMade} {r : Progress × Scene Image}
    (h : m.Takes out s made r) :
    r.1.monitor.cycles = m.cycles + made.countP StepMade.counts := by
  induction h with
  | @last m out s hend =>
    rw [cycles_step, List.countP_singleton]
    rfl
  | @next m out s made r hgo hrest ih =>
    have hstep := m.cycles_step out s
    rw [ih, hstep, List.countP_cons, stepCount]
    omega

/-- The run of a stopped monitor does nothing. -/
theorem run_of_stopped (hstop : m.state = .stopped) (out : Sink) (s : Scene Image) :
    m.run out s = (⟨.ok .stopped, m, out⟩, s) := by
  have hstep := step_of_stopped hstop out s
  have hend : (m.step out s).1.result ≠ .ok .running := by
    rw [hstep]
    simp
  rw [run_of_last hend, hstep]

end Monitor

namespace Session

variable {s : Session Image} {op : Operation Image} {ops : List (Operation Image)}

/-! ## Single operations -/

/-- The operation makes no step. -/
def Operation.isQuiet {σ : Type} : Operation σ → Bool
  | step _ => false
  | run _ => false
  | cycle => true
  | setHeader _ => true
  | setOnce _ => true
  | setRedraw _ => true
  | cancel => true
  | change _ => true

/-- What makes no step changes neither the state of the monitor nor its count. -/
theorem perform_of_isQuiet (s : Session Image) (h : op.isQuiet = true) :
    (s.perform op).2.monitor.state = s.monitor.state ∧
      (s.perform op).2.monitor.cycles = s.monitor.cycles := by
  rcases s with ⟨monitor, token, scene⟩
  cases op with
  | step out => simp [Operation.isQuiet] at h
  | run out => simp [Operation.isQuiet] at h
  | cycle | setHeader | setOnce | setRedraw | cancel | change => exact ⟨rfl, rfl⟩

/-- Steps and runs of a stopped monitor call nothing, write nothing and leave the session as it
is. -/
theorem perform_of_stopped (hstop : s.monitor.state = .stopped) (out : Sink) :
    s.perform (.step out) = (.progress (.ok .stopped) out, s) ∧
      s.perform (.run out) = (.progress (.ok .stopped) out, s) := by
  constructor
  · rw [perform_step, Monitor.step_of_stopped hstop]
  · rw [perform_run, Monitor.run_of_stopped hstop]

/-- No operation brings a stopped monitor back or lets it count. -/
theorem perform_keeps_stopped (hstop : s.monitor.state = .stopped) (op : Operation Image) :
    (s.perform op).2.monitor.state = .stopped ∧
      (s.perform op).2.monitor.cycles = s.monitor.cycles := by
  by_cases hquiet : op.isQuiet = true
  · obtain ⟨hstate, hcycles⟩ := s.perform_of_isQuiet hquiet
    exact ⟨hstate.trans hstop, hcycles⟩
  · cases op with
    | step out =>
      rw [(perform_of_stopped hstop out).1]
      exact ⟨hstop, rfl⟩
    | run out =>
      rw [(perform_of_stopped hstop out).2]
      exact ⟨hstop, rfl⟩
    | cycle | setHeader | setOnce | setRedraw | cancel | change =>
      simp [Operation.isQuiet] at hquiet

/-- The operation makes these steps. -/
inductive Makes (s : Session Image) : Operation Image → List StepMade → Prop where
  | step (out : Sink) : Makes s (.step out) [s.monitor.stepMade out s.scene]
  /-- A run makes the steps of its loop. -/
  | run {out : Sink} {made : List StepMade} {r : Monitor.Progress × Scene Image}
      (h : s.monitor.Takes out s.scene made r) : Makes s (.run out) made
  | quiet {op : Operation Image} (h : op.isQuiet = true) : Makes s op []

/-- Every operation makes some steps or none. -/
theorem exists_makes (s : Session Image) (op : Operation Image) : ∃ made, s.Makes op made := by
  by_cases hquiet : op.isQuiet = true
  · exact ⟨[], .quiet hquiet⟩
  · cases op with
    | step out => exact ⟨_, .step out⟩
    | run out =>
      obtain ⟨made, hmade⟩ := s.monitor.exists_takes out s.scene
      exact ⟨made, .run hmade⟩
    | cycle | setHeader | setOnce | setRedraw | cancel | change =>
      simp [Operation.isQuiet] at hquiet

/-- **One operation.**  An operation adds one cycle for each of its steps that counts. -/
theorem Makes.cycles_eq {made : List StepMade} (h : s.Makes op made) :
    (s.perform op).2.monitor.cycles = s.monitor.cycles + made.countP StepMade.counts := by
  cases h with
  | step out =>
    rw [perform_step, List.countP_singleton]
    exact s.monitor.cycles_step out s.scene
  | @run out made r htakes =>
    have hrun : s.monitor.run out s.scene = r :=
      (s.monitor.stepsTo_iff_run_eq out s.scene r).mp htakes.stepsTo
    rw [perform_run, hrun]
    exact htakes.cycles_eq
  | quiet hquiet => exact (s.perform_of_isQuiet hquiet).2

/-! ## Whole sessions -/

/-- The operations, carried out in order, make these steps. -/
inductive MakesAll : Session Image → List (Operation Image) → List StepMade → Prop where
  | nil (s : Session Image) : MakesAll s [] []
  | cons {s : Session Image} {op : Operation Image} {ops : List (Operation Image)}
      {made more : List StepMade} (h : s.Makes op made)
      (hrest : MakesAll (s.perform op).2 ops more) : MakesAll s (op :: ops) (made ++ more)

/-- Operations in order make some steps or none. -/
theorem exists_makesAll (s : Session Image) (ops : List (Operation Image)) :
    ∃ made, s.MakesAll ops made := by
  induction ops generalizing s with
  | nil => exact ⟨[], .nil s⟩
  | cons op ops ih =>
    obtain ⟨made, hmade⟩ := s.exists_makes op
    obtain ⟨more, hmore⟩ := ih (s.perform op).2
    exact ⟨made ++ more, .cons hmade hmore⟩

/-- Operations in order add one cycle for each of their steps that counts. -/
theorem MakesAll.cycles_eq {made : List StepMade} (h : s.MakesAll ops made) :
    (s.performAll ops).monitor.cycles = s.monitor.cycles + made.countP StepMade.counts := by
  induction h with
  | nil s => rfl
  | @cons s op ops made more hmade _ ih =>
    rw [performAll, ih, hmade.cycles_eq, List.countP_append]
    omega

/-- No operations bring a stopped monitor back or let it count. -/
theorem performAll_keeps_stopped (hstop : s.monitor.state = .stopped)
    (ops : List (Operation Image)) :
    (s.performAll ops).monitor.state = .stopped ∧
      (s.performAll ops).monitor.cycles = s.monitor.cycles := by
  induction ops generalizing s with
  | nil => exact ⟨hstop, rfl⟩
  | cons op ops ih =>
    obtain ⟨hstate, hcycles⟩ := perform_keeps_stopped hstop op
    obtain ⟨hlater, hcount⟩ := ih hstate
    exact ⟨hlater, hcount.trans hcycles⟩

/-- **Sessions.**  Once the monitor of a session is stopped, it is stopped after whatever operations
follow and counts no more cycles, and a step or a run then changes nothing at all: no call is made
and the sink is left as it was.  At every point of a session the monitor has counted, on top of what
it had at the start, the steps that it made while running and that did not fail.  What makes no step
changes neither its state nor its count. -/
theorem stopped_for_good (s : Session Image) (ops : List (Operation Image)) :
    let later := s.performAll ops
    (s.monitor.state = .stopped →
      later.monitor.state = .stopped ∧ later.monitor.cycles = s.monitor.cycles ∧
      ∀ out : Sink,
        later.perform (.step out) = (.progress (.ok .stopped) out, later) ∧
        later.perform (.run out) = (.progress (.ok .stopped) out, later)) ∧
    (∃ made, s.MakesAll ops made) ∧
    (∀ made, s.MakesAll ops made →
      later.monitor.cycles = s.monitor.cycles + made.countP StepMade.counts) ∧
    ∀ op : Operation Image, op.isQuiet = true →
      (later.perform op).2.monitor.state = later.monitor.state ∧
        (later.perform op).2.monitor.cycles = later.monitor.cycles := by
  intro later
  refine ⟨fun hstop => ?_, s.exists_makesAll ops, fun made hmade => hmade.cycles_eq,
    fun op hquiet => later.perform_of_isQuiet hquiet⟩
  obtain ⟨hstate, hcycles⟩ := performAll_keeps_stopped hstop ops
  exact ⟨hstate, hcycles, fun out => perform_of_stopped hstate out⟩

/-- The guard after a run that made three cycles and found the image gone. -/
def guardGone : Session Image :=
  (perform ⟨Monitor.guard, {}, { target := Monitor.guardImage }⟩ (.run {})).2

/-- Lifting the limit, bringing the image back and making steps adds nothing to the three cycles. -/
theorem guardGone_counts_three :
    guardGone.monitor.state = .stopped ∧
      (guardGone.performAll
        [.setOnce false, .change fun _ => Monitor.guardImage, .step {}, .run {}]).monitor.cycles =
        3 := by
  obtain ⟨hstopped, -⟩ := stopped_for_good guardGone
    [.setOnce false, .change fun _ => Monitor.guardImage, .step {}, .run {}]
  have hstate : guardGone.monitor.state = .stopped := by cbv
  have hthree : guardGone.monitor.cycles = 3 := by cbv
  obtain ⟨-, hcycles, -⟩ := hstopped hstate
  exact ⟨hstate, hcycles.trans hthree⟩

end Session

end MemWatch
