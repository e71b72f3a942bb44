/-
# Records of a summary

A process is asked nine questions, and eleven properties are made of the answers.  Whatever the
answers are, each of the properties either has its line in the summary or is warned about, and
neither changes the place of the others.

Main statement: the output, the warnings and the result of a summary over a sink that always works,
in terms of the answers.
-/
import MemWatch.Image
import MemWatch.Proofs.Summaries

namespace MemWatch.Summary

/-! ## Answers -/

/-- What a process answers to the questions of a summary, and the time zone in which it shows its
start. -/
structure Answers where
  name : Except Error String
  fileName : Except Error String
  base : Except Error Address
  handle : Nat
  priority : Except Error PriorityClass
  mainWindow : Except Error (Option Window)
  memoryUsage : Except Error MemoryUsage
  startTime : Except Error Instant
  zone : Zone
  processorTime : Except Error Duration

namespace Answers

variable {σ : Type} [Described σ]

/-- Asks a process one question after the other; it may change with every question. -/
def given (s : σ) : Answers :=
  let (name, s) := Described.name s
  let (fileName, s) := Described.fileName s
  let (base, s) := Target.base s
  let handle := Described.handle s
  let (priority, s) := Described.priority s
  let (mainWindow, s) := Described.mainWindow s
  let (memoryUsage, s) := Described.memoryUsage s
  let (startTime, s) := Described.startTime s
  let zone := Described.zone s
  let (processorTime, _) := Described.processorTime s
  { name, fileName, base, handle, priority, mainWindow, memoryUsage, startTime, zone, processorTime }

/-- The properties in their order, with the text of a value or the error of the question. -/
def properties (now : Instant) (a : Answers) : List Property :=
  [ ⟨"Name", a.name⟩,
    ⟨"FileName", a.fileName⟩,
    ⟨"BaseAddress", a.base.map Address.padded⟩,
    ⟨"Handle", .ok (Numeral.decimal a.handle)⟩,
    ⟨"Priority", a.priority.map PriorityClass.text⟩,
    ⟨"Window Handle", a.mainWindow.map fun w => w.elim "0" fun w => Numeral.decimal w.handle⟩,
    ⟨"Window Title", a.mainWindow.map fun w => w.elim "" Window.title⟩,
    ⟨"Private Memory", a.memoryUsage.map fun u => Numeral.decimal u.priv⟩,
    ⟨"Paged Memory", a.memoryUsage.map fun u => Numeral.decimal u.paged⟩,
    ⟨"StartTime", a.startTime.map fun t =>
      t.text a.zone ++ " (Runtime: " ++ (now.since t).text ++ ")"⟩,
    ⟨"Processor Time", a.processorTime.map Duration.text⟩ ]

/-- Every combination of answers is that of some process. -/
theorem exists_given_eq (a : Answers) : ∃ i : Image, given i = a :=
  ⟨{ base := a.base
     properties := ⟨a.name, a.fileName, a.handle, a.priority, a.mainWindow, a.memoryUsage,
       a.startTime, a.zone, a.processorTime⟩ }, rfl⟩

theorem properties_id (label : String) (answer : Except Error String) :
    Summary.properties answer [(label, id)] = [⟨label, answer⟩] := by
  cases answer <;> rfl

/-- A process without a window has the handle zero and an empty title to show. -/
theorem properties_window (answer : Except Error (Option Window)) :
    Summary.properties (answer.map (·.getD Window.none))
        [("Window Handle", fun w => Numeral.decimal w.handle), ("Window Title", Window.title)] =
      [⟨"Window Handle", answer.map fun w => w.elim "0" fun w => Numeral.decimal w.handle⟩,
        ⟨"Window Title", answer.map fun w => w.elim "" Window.title⟩] := by
  have hzero : Numeral.decimal 0 = "0" := by decide +kernel
  rcases answer with e | _ | w
  · rfl
  · show [_, _] = [Property.mk _ (.ok "0"), _]
    rw [← hzero]
    rfl
  · rfl

/-- The questions of a summary give these properties. -/
theorem answersOn_questions (now : Instant) (s : σ) :
    answersOn (questions now) s = (given s).properties now := by
  have hparts : answersOn (questions now) s =
      Summary.properties (given s).name [("Name", id)] ++
      (Summary.properties (given s).fileName [("FileName", id)] ++
      (Summary.properties (given s).base [("BaseAddress", Address.padded)] ++
      (⟨"Handle", .ok (Numeral.decimal (given s).handle)⟩ ::
      (Summary.properties (given s).priority [("Priority", PriorityClass.text)] ++
      (Summary.properties ((given s).mainWindow.map (·.getD Window.none))
        [("Window Handle", fun w => Numeral.decimal w.handle), ("Window Title", Window.title)] ++
      (Summary.properties (given s).memoryUsage
        [("Private Memory", fun u => Numeral.decimal u.priv),
          ("Paged Memory", fun u => Numeral.decimal u.paged)] ++
      (Summary.properties (given s).startTime [("StartTime", startText (given s).zone now)] ++
      Summary.properties (given s).processorTime [("Processor Time", Duration.text)]))))))) := rfl
  rw [hparts, properties_id, properties_id, properties_window]
  rfl

theorem text_since {now start : Instant} (h : now.toNanos ≤ start.toNanos) :
    (now.since start).text = "0:00:00.000" := by
  have hnone : (now.toNanos - start.toNanos).toNat = 0 := by omega
  unfold Instant.since
  rw [hnone]
  decide +kernel

/-- A process that is started later than now has run for no time yet. -/
theorem properties_of_startTime {now start : Instant} {a : Answers} (h : a.startTime = .ok start)
    (hlater : now.toNanos ≤ start.toNanos) :
    ⟨"StartTime", .ok (start.text a.zone ++ " (Runtime: 0:00:00.000)")⟩ ∈ a.properties now := by
  have htext : a.startTime.map (fun t =>
      t.text a.zone ++ " (Runtime: " ++ (now.since t).text ++ ")") =
      .ok (start.text a.zone ++ " (Runtime: 0:00:00.000)") := by
    rw [h]
    show Except.ok (_ ++ " (Runtime: " ++ (now.since start).text ++ ")") = _
    rw [text_since hlater, String.append_assoc, String.append_assoc]
    rfl
  rw [← htext]
  simp [properties]

end Answers

/-- A property either has a line or is warned about. -/
theorem Property.warning?_eq_none_iff (p : Property) : p.warning? = none ↔ p.isKnown = true := by
  rcases p with ⟨label, e | text⟩
  · exact ⟨nofun, nofun⟩
  · exact ⟨fun _ => rfl, fun _ => rfl⟩

/-- There is nothing to warn about if all properties could be had. -/
theorem filterMap_warning?_eq_nil_iff {ps : List Property} :
    ps.filterMap Property.warning? = [] ↔ ps.all Property.isKnown = true := by
  rw [List.filterMap_eq_nil_iff, List.all_eq_true]
  exact forall₂_congr fun p _ => p.warning?_eq_none_iff

/-- **Records of a summary.**  Let a sink always work, and let a process give any answers.  The
summary writes the heading and then, in the order of the properties, a line for each one that could
be had; it warns, in the same order, about each of the others; and it tells whether there was
nothing to warn about.  The start is shown on the clocks of the process, whatever zone they are set
by; a process that starts later than now has run for no time yet. -/
theorem summarize_writes_records {σ : Type} [Described σ] (now : Instant) (out : Sink)
    (scene : Scene σ) (hroom : out.room = none) :
    let answers := Answers.given scene.target
    (∃ complete after, (summarize now out scene).1 = (.ok complete, after) ∧
      after.bytes = out.bytes ++ .ofString ("Process information:\n" ++
        String.join ((answers.properties now).filterMap Property.line?)) ∧
      Warned scene.log ((answers.properties now).filterMap Property.warning?)
        (summarize now out scene).2.log ∧
      (complete = true ↔ (answers.properties now).filterMap Property.warning? = [])) ∧
    ∀ start, answers.startTime = .ok start → now.toNanos ≤ start.toNanos →
      ⟨"StartTime", .ok (start.text answers.zone ++ " (Runtime: 0:00:00.000)")⟩ ∈
        answers.properties now := by
  intro answers
  obtain ⟨q, hrun, hwrote⟩ := summarize_wrote now out scene hroom
  rw [Answers.answersOn_questions] at hwrote
  refine ⟨⟨q.complete, q.out, hrun, ?_, hwrote.warned, ?_⟩,
    fun start => Answers.properties_of_startTime⟩
  · have hheading : (out.taking (.ofString heading)).bytes = out.bytes ++ .ofString heading :=
      Sink.bytes_taking (Sink.hasRoom_of_room hroom _)
    rw [hwrote.bytes, hheading, Sink.ofString_append, List.append_assoc]
    rfl
  · rw [filterMap_warning?_eq_nil_iff, hwrote.complete, Bool.true_and]

/-- A process without a window, of which the file and the memory cannot be found out, and whose start
is a second ahead, on clocks that are five and a half hours ahead. -/
def veiled : Image where
  base := .ok (.ofNat 0x400000)
  properties := {
    name := .ok "game.exe"
    fileName := .error .missingMainModule
    handle := 44
    priority := .ok .normal
    mainWindow := .ok none
    memoryUsage := .error (.system .permissionDenied)
    startTime := .ok ⟨1, 0⟩
    zone := .fixed 19800 (by decide)
    processorTime := .ok ⟨3723, 4000000⟩ }

/-- Its summary has eight lines, and three properties are warned about. -/
theorem veiled_is_summarized :
    ({} : Sink).room = none ∧ ∃ after,
      (summarize ⟨0, 0⟩ {} { target := veiled }).1 = (.ok false, after) ∧
      after.bytes = .ofString ("Process information:\nName:           game.exe\n" ++
        "BaseAddress:    0x00400000\nHandle:         44\nPriority:       Normal\n" ++
        "Window Handle:  0\nWindow Title:   \n" ++
        "StartTime:      1970-01-01 05:30:01 (Runtime: 0:00:00.000)\n" ++
        "Processor Time: 1:02:03.004\n") ∧
      Warned #[] [.warn "can't access property `FileName`: process has no main module",
          .warn "can't access property `Private Memory`: system error: permission denied",
          .warn "can't access property `Paged Memory`: system error: permission denied"]
        (summarize ⟨0, 0⟩ {} { target := veiled }).2.log := by
  obtain ⟨⟨complete, after, hrun, hbytes, hwarned, hcomplete⟩, -⟩ :=
    summarize_writes_records ⟨0, 0⟩ {} { target := veiled } rfl
  have hwarnings : ((Answers.given veiled).properties ⟨0, 0⟩).filterMap Property.warning? =
      [.warn "can't access property `FileName`: process has no main module",
        .warn "can't access property `Private Memory`: system error: permission denied",
        .warn "can't access property `Paged Memory`: system error: permission denied"] := by
    decide +kernel
  rw [hwarnings] at hwarned hcomplete
  obtain rfl : complete = false := Bool.eq_false_iff.mpr fun h => nomatch hcomplete.mp h
  refine ⟨rfl, after, hrun, ?_, hwarned⟩
  rw [hbytes]
  decide +kernel

end MemWatch.Summary
