/-
# Monitors

A monitor keeps writing and showing a set of entries.  After each cycle it decides whether another
one follows: not if it was to run only once, not if it was cancelled, and not if the target is gone.
A stopped monitor never runs again.
-/
import MemWatch.EntrySet.Cycle
import MemWatch.Sink

namespace MemWatch

/-- A flag that is set once to call something off. -/
structure Token where
  isSet : Bool := false
deriving DecidableEq, Repr

/-- The token after it was set. -/
def Token.set (_ : Token) : Token :=
  ⟨true⟩

/-- Whether a monitor goes on. -/
inductive MonitorState where
  /-- Another cycle follows. -/
  | running
  /-- No cycle follows, ever. -/
  | stopped
deriving DecidableEq, Repr

/-- A monitor over a set of entries. -/
structure Monitor where
  entries : EntrySet
  /-- The line above the entries; without text there is none. -/
  header : String := ""
  /-- Only one cycle is run. -/
  once : Bool := false
  /-- Every cycle is drawn over the one before. -/
  redraw : Bool := false
  /-- The token that is heeded, if any. -/
  cancel : Option Token := none
  state : MonitorState := .running
  /-- The number of cycles that were run and shown. -/
  cycles : Nat := 0

namespace Monitor

/-! ## Settings -/

/-- The pause between two cycles in milliseconds, unless another one is asked for. -/
def defaultInterval : Nat :=
  100

/-- The monitor with another header. -/
def withHeader (m : Monitor) (header : String) : Monitor :=
  { m with header }

/-- The monitor with or without the limit to one cycle. -/
def withOnce (m : Monitor) (once : Bool) : Monitor :=
  { m with once }

/-- The monitor with or without drawing in place. -/
def withRedraw (m : Monitor) (redraw : Bool) : Monitor :=
  { m with redraw }

/-- The monitor with a token to heed. -/
def withCancel (m : Monitor) (token : Token) : Monitor :=
  { m with cancel := some token }

/-- The token that is heeded, if any, is set. -/
def isCancelled (m : Monitor) : Bool :=
  m.cancel.any Token.isSet

/-! ## Drawing -/

/-- The control sequence that clears the whole screen. -/
def clearAll : String := "\x1b[2J"

/-- The control sequence that goes to the first column of the first line. -/
def moveHome : String := "\x1b[1;1H"

/-- The control sequence that clears the rest of the line. -/
def clearLineEnd : String := "\x1b[K"

/-- One line of the picture. -/
def drawLine (m : Monitor) (line : String) : String :=
  line ++ (if m.redraw then clearLineEnd else "") ++ "\n"

/-- The lines of the picture: the header, if there is one, and a line for every reading. -/
def lines (m : Monitor) (readings : List Reading) : List String :=
  (if m.header.isEmpty then [] else [m.header]) ++ readings.map Reading.line

/-- What is written in front of the lines. -/
def preamble (m : Monitor) : String :=
  if m.redraw then (if m.cycles = 0 then clearAll else "") ++ moveHome else ""

/-- The whole picture of the readings of a cycle. -/
def draw (m : Monitor) (readings : List Reading) : String :=
  m.preamble ++ String.join ((m.lines readings).map m.drawLine)

/-! ## Running -/

/-- What a step or a run came to: the state reached or the failure, with monitor and sink as they
are afterwards. -/
structure Progress where
  result : Except Error MonitorState
  monitor : Monitor
  out : Sink

variable {σ : Type} [Target σ]

/-- Decides whether another cycle follows. -/
def nextState (m : Monitor) : Action σ MonitorState := do
  if m.once then
    return .stopped
  else if m.isCancelled then
    record (.debug "interrupted, stopping")
    return .stopped
  else if ← isAlive then
    return .running
  else
    record (.debug "process has exited, stopping")
    return .stopped

/-- Runs one cycle, shows it, and decides whether another one follows.  If it cannot be shown, the
monitor stays as it was. -/
def step (m : Monitor) (out : Sink) : Action σ Progress := do
  match m.state with
  | .stopped => return ⟨.ok .stopped, m, out⟩
  | .running =>
    let readings ← m.entries.cycle
    match out.putFlushed (m.draw readings) with
    | (.error e, out) => return ⟨.error e, m, out⟩
    | (.ok (), out) =>
      let state ← m.nextState
      return ⟨.ok state, { m with cycles := m.cycles + 1, state }, out⟩

/-- Runs steps until the monitor stops or fails, at most a given number of them. -/
def runSteps : Nat → Monitor → Sink → Action σ Progress
  | 0, m, out => return ⟨.ok m.state, m, out⟩
  | limit + 1, m, out => do
    let p ← m.step out
    match p.result with
    | .ok .running => runSteps limit p.monitor p.out
    | _ => return p

/-- Runs until the monitor stops or fails.  After each step that keeps it running the target was
found running, so its lifetime bounds their number. -/
def run (m : Monitor) (out : Sink) : Action σ Progress := do
  let s ← get
  runSteps (Target.lifetime s.target + 1) m out

end Monitor

end MemWatch
