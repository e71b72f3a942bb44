/-
# Summaries

A summary of a process is a heading and one line for every property that can be had, in a fixed
order.  A property that cannot be had is left out and warned about instead.
-/
import MemWatch.Sink
import MemWatch.Summary.Property

namespace MemWatch

namespace Summary

/-! ## Lines -/

/-- The first line. -/
def heading : String :=
  "Process information:\n"

/-- The label with its colon, filled up to sixteen columns, and the value. -/
def propertyLine (label value : String) : String :=
  let start := (label ++ ":").toList
  String.ofList (start ++ List.replicate (16 - start.length) ' ') ++ value ++ "\n"

/-- The start of a process on the clocks of a zone, with the time since then. -/
def startText (zone : Zone) (now start : Instant) : String :=
  start.text zone ++ " (Runtime: " ++ (now.since start).text ++ ")"

/-! ## Questions -/

/-- One property: a label and either the text of its value or the reason why it cannot be had. -/
structure Property where
  label : String
  value : Except Error String

/-- The properties with the given labels and texts of an answer; a failure concerns all of them. -/
def properties {α : Type} (answer : Except Error α) (texts : List (String × (α → String))) :
    List Property :=
  texts.map fun (label, text) => ⟨label, answer.map text⟩

section Questions

variable {σ : Type} [Described σ]

/-- The questions of a summary in order, each with the properties that its answer gives. -/
def questions (now : Instant) : List (Action σ (List Property)) :=
  [ do return properties (← (ask Described.name).outcome) [("Name", id)],
    do return properties (← (ask Described.fileName).outcome) [("FileName", id)],
    do return properties (← mainModuleBase.outcome)
        [("BaseAddress", Address.padded)],
    do return [⟨"Handle", .ok (Numeral.decimal (Described.handle (← get).target))⟩],
    do return properties (← (ask Described.priority).outcome) [("Priority", PriorityClass.text)],
    do
      let window := (← (ask Described.mainWindow).outcome).map (·.getD Window.none)
      return properties window
        [("Window Handle", fun w => Numeral.decimal w.handle), ("Window Title", Window.title)],
    do return properties (← (ask Described.memoryUsage).outcome)
        [("Private Memory", fun u => Numeral.decimal u.priv),
          ("Paged Memory", fun u => Numeral.decimal u.paged)],
    do
      let start ← (ask Described.startTime).outcome
      return properties start [("StartTime", startText (Described.zone (← get).target) now)],
    do return properties (← (ask Described.processorTime).outcome)
        [("Processor Time", Duration.text)] ]

end Questions

/-! ## Writing -/

/-- How far a summary has come: the sink, and whether every property so far could be had. -/
structure Progress where
  out : Sink
  complete : Bool := true

variable {σ : Type}

/-- Writes a property, or warns about it. -/
def writeProperty (p : Property) (s : Progress) : Action σ (Except Error Unit × Progress) :=
  match p.value with
  | .ok value =>
    let (result, out) := s.out.putText (propertyLine p.label value)
    return (result, { s with out })
  | .error e => do
    record (.warn ("can't access property `" ++ p.label ++ "`: " ++ e.message))
    return (.ok (), { s with complete := false })

/-- Writes properties in order, up to the first failure of the sink. -/
def writeProperties : List Property → Progress → Action σ (Except Error Unit × Progress)
  | [], s => return (.ok (), s)
  | p :: rest, s => do
    match ← writeProperty p s with
    | (.ok (), s) => writeProperties rest s
    | (.error e, s) => return (.error e, s)

/-- Puts questions in order and writes the answers, up to the first failure of the sink. -/
def writeAnswers :
    List (Action σ (List Property)) → Progress → Action σ (Except Error Unit × Progress)
  | [], s => return (.ok (), s)
  | question :: rest, s => do
    let answer ← question
    match ← writeProperties answer s with
    | (.ok (), s) => writeAnswers rest s
    | (.error e, s) => return (.error e, s)

end Summary

/-- Writes the summary of a process.  The result tells whether every property could be had; it is an
error only if the sink failed. -/
def summarize {σ : Type} [Described σ] (now : Instant) (out : Sink) :
    Action σ (Except Error Bool × Sink) := do
  match out.putText Summary.heading with
  | (.error e, out) => return (.error e, out)
  | (.ok (), out) =>
    let (result, s) ← Summary.writeAnswers (Summary.questions now) { out }
    return (result.map fun _ => s.complete, s.out)

end MemWatch
