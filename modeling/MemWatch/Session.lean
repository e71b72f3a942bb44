/-
# Sessions

One monitor at work: the operations on it may come in any order, and anything may change the target
between them.
-/
import MemWatch.Monitor

namespace MemWatch

/-- A monitor with its token and the scene that it works on. -/
structure Session (σ : Type) where
  monitor : Monitor
  /-- The flag that a cancellation sets; the monitor heeds it only if it has a token. -/
  token : Token := {}
  scene : Scene σ

namespace Session

/-! ## Operations -/

/-- What can be done in a session. -/
inductive Operation (σ : Type) where
  /-- One step, with output to a sink. -/
  | step (out : Sink)
  /-- Steps until the monitor stops, with output to a sink. -/
  | run (out : Sink)
  /-- A cycle alone, which is not shown and does not count. -/
  | cycle
  | setHeader (header : String)
  | setOnce (once : Bool)
  | setRedraw (redraw : Bool)
  /-- Sets the token. -/
  | cancel
  /-- Something else changes the target. -/
  | change (f : σ → σ)

/-- What an operation shows. -/
inductive Answer where
  /-- A step or a run: the state reached or the failure, and the sink. -/
  | progress (result : Except Error MonitorState) (out : Sink)
  /-- The readings of a cycle. -/
  | readings (all : List Reading)
  /-- The token before and after it was set. -/
  | cancelled (before after : Bool)
  | done

variable {σ : Type}

/-- Carries out something on the scene of a session. -/
def act {α : Type} (s : Session σ) (action : Action σ α) : α × Session σ :=
  match s with
  | ⟨monitor, token, scene⟩ =>
    let (answer, scene) := action scene
    (answer, ⟨monitor, token, scene⟩)

/-- Replaces the monitor of a session. -/
def setMonitor (s : Session σ) (monitor : Monitor) : Session σ :=
  { s with monitor }

/-- Carries out one operation. -/
def perform [Target σ] (s : Session σ) : Operation σ → Answer × Session σ
  | .step out =>
    let (p, s) := s.act (s.monitor.step out)
    (.progress p.result p.out, s.setMonitor p.monitor)
  | .run out =>
    let (p, s) := s.act (s.monitor.run out)
    (.progress p.result p.out, s.setMonitor p.monitor)
  | .cycle =>
    let (readings, s) := s.act s.monitor.entries.cycle
    (.readings readings, s)
  | .setHeader header => (.done, s.setMonitor (s.monitor.withHeader header))
  | .setOnce once => (.done, s.setMonitor (s.monitor.withOnce once))
  | .setRedraw redraw => (.done, s.setMonitor (s.monitor.withRedraw redraw))
  | .cancel =>
    let token := s.token.set
    let cancel := s.monitor.cancel.map fun _ => token
    (.cancelled s.token.isSet token.isSet,
      { s with token, monitor := { s.monitor with cancel } })
  | .change f => (.done, { s with scene := { s.scene with target := f s.scene.target } })

/-- A step is that of the monitor on the scene. -/
theorem perform_step [Target σ] (s : Session σ) (out : Sink) :
    s.perform (.step out) =
      (.progress (s.monitor.step out s.scene).1.result (s.monitor.step out s.scene).1.out,
        ⟨(s.monitor.step out s.scene).1.monitor, s.token, (s.monitor.step out s.scene).2⟩) := by
  rcases s with ⟨monitor, token, scene⟩
  rfl

theorem perform_run [Target σ] (s : Session σ) (out : Sink) :
    s.perform (.run out) =
      (.progress (s.monitor.run out s.scene).1.result (s.monitor.run out s.scene).1.out,
        ⟨(s.monitor.run out s.scene).1.monitor, s.token, (s.monitor.run out s.scene).2⟩) := by
  rcases s with ⟨monitor, token, scene⟩
  rfl

/-- Carries out operations in order. -/
def performAll [Target σ] (s : Session σ) : List (Operation σ) → Session σ
  | [] => s
  | op :: rest => performAll (s.perform op).2 rest

end Session

end MemWatch
