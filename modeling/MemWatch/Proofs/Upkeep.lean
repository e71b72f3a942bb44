/-
# What cycles, runs and summaries are made of

A cycle touches its target through reads, writes and questions for the base, in an order that
depends on their answers.  So what holds of each of these, and goes over to actions one after the
other, holds of the whole cycle, whatever fails in it, and of a whole run if it holds of the question
whether the target still runs as well.  This is used for properties of the target: what every access
keeps is kept by a whole cycle.  In the same way a summary keeps what its questions keep.
-/
import MemWatch.Monitor
import MemWatch.Proofs.Attempts
import MemWatch.Summary.Basic

namespace MemWatch

/-! ## Everything that watches a target -/

section Closures

variable {σ : Type} [Target σ]

/-- A property of actions that the single steps of a cycle have, and that actions one after the other
have if each of them has it. -/
structure Action.ClosedUnderCycles (P : (α : Type) → Action σ α → Prop) : Prop where
  pure : ∀ {α : Type} (a : α), P α (pure a)
  bind : ∀ {α β : Type} {act : Action σ α} {next : α → Action σ β},
    P α act → (∀ a, P β (next a)) → P β (act >>= next)
  debug : ∀ text : String, P Unit (record (.debug text))
  pointerWidth : P _ (pointerWidth : Attempt σ PointerWidth).outcome
  readMemory : ∀ (a : Address) (size : Nat), P _ (readMemory a size : Attempt σ Bytes).outcome
  writeMemory : ∀ (a : Address) (bytes : Bytes), P _ (writeMemory a bytes : Attempt σ Unit).outcome
  mainModuleBase : P _ (mainModuleBase : Attempt σ Address).outcome

/-- Besides the steps of a cycle, looking at the scene and asking whether the target still runs have
the property. -/
structure Action.ClosedUnderRuns (P : (α : Type) → Action σ α → Prop) : Prop
    extends Action.ClosedUnderCycles P where
  get : P (Scene σ) get
  poll : P _ (operate Target.poll fun _ => .alive : Attempt σ Bool).outcome

variable {P : (α : Type) → Action σ α → Prop}

namespace Action.ClosedUnderCycles

/-- The steps of reading an entry are some of the steps of a cycle. -/
theorem closedUnderReading (h : ClosedUnderCycles P) :
    Attempt.ClosedUnderReading fun α (act : Attempt σ α) => P (Except Error α) act.outcome where
  pure a := h.pure (Except.ok a)
  bind hact hnext := by
    rw [Attempt.outcome_bind]
    refine h.bind hact fun r => ?_
    cases r with
    | ok a => exact hnext a
    | error e => exact h.pure _
  note text := h.bind (h.debug text) fun _ => h.pure _
  pointerWidth := h.pointerWidth
  readMemory := h.readMemory
  mainModuleBase := h.mainModuleBase

/-- Finding out what to write to an entry. -/
theorem valueToWrite (h : ClosedUnderCycles P) (set : EntrySet) (e : Entry) :
    P _ (set.valueToWrite e).outcome := by
  have hreading := h.closedUnderReading
  unfold EntrySet.valueToWrite
  rcases e.value with _ | v | id
  · exact hreading.pure none
  · exact hreading.pure (some v)
  · refine hreading.bind ?_ fun v => hreading.bind (hreading.note _) fun _ => hreading.pure _
    unfold EntrySet.currentValue
    cases set.get? id with
    | none => exact h.pure _
    | some target => exact hreading.bind (hreading.read target) fun _ => hreading.pure _

/-- Writing an entry. -/
theorem writeEntry (h : ClosedUnderCycles P) (set : EntrySet) (e : Entry) :
    P _ (set.writeEntry e).outcome := by
  have hreading := h.closedUnderReading
  refine hreading.bind (hreading.resolve e) fun a =>
    hreading.bind (h.valueToWrite set e) fun v => ?_
  cases v with
  | none => exact hreading.pure ()
  | some v => exact hreading.bind (hreading.note _) fun _ => h.writeMemory a _

/-- Writing the entries of a list. -/
theorem writeAll (h : ClosedUnderCycles P) (set : EntrySet) (l : List (RefId × Entry)) :
    P _ (set.writeAll l) := by
  induction l with
  | nil => exact h.pure ()
  | cons p rest ih =>
    rcases p with ⟨id, e⟩
    refine h.bind ?_ fun _ => ih
    show P _ (if e.isMonitorOnly then _ else _)
    split
    · exact h.pure ()
    · refine h.bind (h.writeEntry set e) fun r => ?_
      cases r with
      | ok _ => exact h.pure ()
      | error err => exact h.debug _

/-- Reading the entries of a list. -/
theorem readAll (h : ClosedUnderCycles P) (l : List (RefId × Entry)) :
    P _ (EntrySet.readAll l) := by
  induction l with
  | nil => exact h.pure []
  | cons p rest ih =>
    rcases p with ⟨id, e⟩
    refine h.bind ?_ fun r => h.bind ih fun readings => h.pure _
    refine h.bind (h.closedUnderReading.read e) fun r => ?_
    cases r with
    | ok _ => exact h.pure _
    | error err => exact h.bind (h.debug _) fun _ => h.pure _

/-- **Cycles.**  What the single steps have, a whole cycle has. -/
theorem cycle (h : ClosedUnderCycles P) (set : EntrySet) : P _ set.cycle :=
  h.bind (h.writeAll set set.numbered) fun _ => h.readAll set.numbered

end Action.ClosedUnderCycles

namespace Action.ClosedUnderRuns

/-- Asking whether the target still runs. -/
theorem isAlive (h : ClosedUnderRuns P) : P _ (MemWatch.isAlive : Action σ Bool) := by
  refine h.bind h.poll fun r => ?_
  cases r with
  | ok alive => exact h.pure alive
  | error e => exact h.bind (h.debug _) fun _ => h.pure false

/-- Deciding whether another cycle follows. -/
theorem nextState (h : ClosedUnderRuns P) (m : Monitor) : P _ m.nextState := by
  unfold Monitor.nextState
  split
  · exact h.pure _
  · split
    · exact h.bind (h.debug _) fun _ => h.pure _
    · refine h.bind h.isAlive fun alive => ?_
      cases alive with
      | true => exact h.pure _
      | false => exact h.bind (h.debug _) fun _ => h.pure _

/-- A step of a monitor. -/
theorem step (h : ClosedUnderRuns P) (m : Monitor) (out : Sink) : P _ (m.step out) := by
  unfold Monitor.step
  cases m.state with
  | stopped => exact h.pure _
  | running =>
    refine h.bind (h.cycle m.entries) fun readings => ?_
    rcases out.putFlushed (m.draw readings) with ⟨_ | _, after⟩
    · exact h.pure _
    · exact h.bind (h.nextState m) fun state => h.pure _

/-- Steps of a monitor. -/
theorem runSteps (h : ClosedUnderRuns P) (limit : Nat) (m : Monitor) (out : Sink) :
    P _ (Monitor.runSteps limit m out) := by
  induction limit generalizing m out with
  | zero => exact h.pure _
  | succ limit ih =>
    refine h.bind (h.step m out) fun p => ?_
    split
    · exact ih p.monitor p.out
    · exact h.pure p

/-- **Runs.**  What the single steps have, a whole run has. -/
theorem run (h : ClosedUnderRuns P) (m : Monitor) (out : Sink) : P _ (m.run out) :=
  h.bind h.get fun _ => h.runSteps _ m out

end Action.ClosedUnderRuns

end Closures

/-! ## Properties of the target -/

section Rules

variable {σ : Type} {α β : Type} {Q : σ → Prop}

/-- From every scene whose target has the property the action leaves one whose target has it. -/
def Action.Keeps (act : Action σ α) (Q : σ → Prop) : Prop :=
  ∀ scene : Scene σ, Q scene.target → Q (act scene).2.target

theorem Action.keeps_pure (a : α) : Action.Keeps (pure a) Q :=
  fun _ hq => hq

theorem Action.keeps_record (r : LogRecord) : Action.Keeps (record r) Q :=
  fun _ hq => hq

theorem Action.Keeps.bind {act : Action σ α} {next : α → Action σ β} (h : act.Keeps Q)
    (hnext : ∀ a, (next a).Keeps Q) : Action.Keeps (act >>= next) Q := by
  intro scene hq
  exact hnext (act scene).1 (act scene).2 (h scene hq)

theorem Action.keeps_ask {op : σ → Except Error α × σ} (h : ∀ s, Q s → Q (op s).2) :
    Action.Keeps (ask op).outcome Q :=
  fun scene hq => h scene.target hq

theorem Action.keeps_operate {op : σ → Except Error α × σ} (call : Bool → Call)
    (h : ∀ s, Q s → Q (op s).2) : Action.Keeps (operate op call).outcome Q :=
  fun scene hq => h scene.target hq

end Rules

/-- Reads, writes and questions for the base keep the property, whether they succeed or fail. -/
structure KeptByAccess {σ : Type} [Target σ] (Q : σ → Prop) : Prop where
  read : ∀ (a : Address) (size : Nat) (s : σ), Q s → Q (Target.read a size s).2
  write : ∀ (a : Address) (bytes : Bytes) (s : σ), Q s → Q (Target.write a bytes s).2
  base : ∀ s : σ, Q s → Q (Target.base s).2

/-- Besides every access, the question whether the target still runs keeps the property. -/
structure KeptByWatch {σ : Type} [Target σ] (Q : σ → Prop) : Prop extends KeptByAccess Q where
  poll : ∀ s : σ, Q s → Q (Target.poll s).2

section Accesses

variable {σ : Type} [Target σ] {Q : σ → Prop}

/-- What every access keeps is kept by a whole cycle. -/
theorem KeptByAccess.closedUnderCycles (h : KeptByAccess Q) :
    Action.ClosedUnderCycles fun α (act : Action σ α) => act.Keeps Q where
  pure := Action.keeps_pure
  bind := Action.Keeps.bind
  debug _ := Action.keeps_record _
  pointerWidth _ hq := hq
  readMemory a size := Action.keeps_operate _ (h.read a size)
  writeMemory a bytes := Action.keeps_operate _ (h.write a bytes)
  mainModuleBase := Action.keeps_operate _ h.base

/-- What every access and every question keeps is kept by a whole run. -/
theorem KeptByWatch.closedUnderRuns (h : KeptByWatch Q) :
    Action.ClosedUnderRuns fun α (act : Action σ α) => act.Keeps Q where
  toClosedUnderCycles := h.toKeptByAccess.closedUnderCycles
  get _ hq := hq
  poll := Action.keeps_operate _ h.poll

end Accesses

/-! ## Summaries -/

/-- A property of actions that the questions of a summary and its warnings have, and that actions one
after the other have if each of them has it. -/
structure Action.ClosedUnderSummaries {σ : Type} [Described σ]
    (P : (α : Type) → Action σ α → Prop) : Prop where
  pure : ∀ {α : Type} (a : α), P α (pure a)
  bind : ∀ {α β : Type} {act : Action σ α} {next : α → Action σ β},
    P α act → (∀ a, P β (next a)) → P β (act >>= next)
  get : P (Scene σ) get
  warning : ∀ label reason : String,
    P Unit (record (.warn ("can't access property `" ++ label ++ "`: " ++ reason)))
  mainModuleBase : P _ (mainModuleBase : Attempt σ Address).outcome
  name : P _ (ask Described.name : Attempt σ _).outcome
  fileName : P _ (ask Described.fileName : Attempt σ _).outcome
  priority : P _ (ask Described.priority : Attempt σ _).outcome
  mainWindow : P _ (ask Described.mainWindow : Attempt σ _).outcome
  memoryUsage : P _ (ask Described.memoryUsage : Attempt σ _).outcome
  startTime : P _ (ask Described.startTime : Attempt σ _).outcome
  processorTime : P _ (ask Described.processorTime : Attempt σ _).outcome

namespace Action.ClosedUnderSummaries

variable {σ : Type} [Described σ] {P : (α : Type) → Action σ α → Prop}

/-- Writing properties. -/
theorem writeProperties (h : ClosedUnderSummaries P) (properties : List Summary.Property)
    (p : Summary.Progress) : P _ (Summary.writeProperties properties p) := by
  induction properties generalizing p with
  | nil => exact h.pure _
  | cons property rest ih =>
    refine h.bind ?_ fun r => ?_
    · unfold Summary.writeProperty
      cases property.value with
      | ok value => exact h.pure _
      | error e => exact h.bind (h.warning property.label e.message) fun _ => h.pure _
    · rcases r with ⟨_ | _, q⟩
      · exact h.pure _
      · exact ih q

/-- Writing the answers to questions. -/
theorem writeAnswers (h : ClosedUnderSummaries P)
    {questions : List (Action σ (List Summary.Property))}
    (hquestions : ∀ question ∈ questions, P _ question) (p : Summary.Progress) :
    P _ (Summary.writeAnswers questions p) := by
  induction questions generalizing p with
  | nil => exact h.pure _
  | cons question rest ih =>
    refine h.bind (hquestions question List.mem_cons_self) fun answer => ?_
    refine h.bind (h.writeProperties answer p) fun r => ?_
    rcases r with ⟨_ | _, q⟩
    · exact h.pure _
    · exact ih (fun other hmem => hquestions other (List.mem_cons_of_mem _ hmem)) q

/-- The questions themselves. -/
theorem of_mem_questions (h : ClosedUnderSummaries P) (now : Instant) :
    ∀ question ∈ (Summary.questions now : List (Action σ _)), P _ question := by
  have hasked {α : Type} {act : Action σ α} (hact : P _ act) (f : α → List Summary.Property) :
      P _ (do return f (← act)) :=
    h.bind hact fun _ => h.pure _
  intro question hmem
  simp only [Summary.questions, List.mem_cons, List.not_mem_nil, or_false] at hmem
  rcases hmem with rfl | rfl | rfl | rfl | rfl | rfl | rfl | rfl | rfl
  · exact hasked h.name _
  · exact hasked h.fileName _
  · exact hasked h.mainModuleBase _
  · exact hasked h.get _
  · exact hasked h.priority _
  · exact hasked h.mainWindow fun answer =>
      Summary.properties (answer.map (·.getD Window.none)) _
  · exact hasked h.memoryUsage _
  · exact h.bind h.startTime fun _ => hasked h.get _
  · exact hasked h.processorTime _

/-- **Summaries.**  What the questions and the warnings have, a whole summary has. -/
theorem summarize (h : ClosedUnderSummaries P) (now : Instant) (out : Sink) :
    P _ (MemWatch.summarize now out) := by
  unfold MemWatch.summarize
  rcases out.putText Summary.heading with ⟨_ | _, after⟩
  · exact h.pure _
  · exact h.bind (h.writeAnswers (h.of_mem_questions now) _) fun _ => h.pure _

end Action.ClosedUnderSummaries

/-- Every question of a summary keeps the property, whether it can be answered or not. -/
structure KeptBySummary {σ : Type} [Described σ] (Q : σ → Prop) : Prop where
  base : ∀ s : σ, Q s → Q (Target.base s).2
  name : ∀ s : σ, Q s → Q (Described.name s).2
  fileName : ∀ s : σ, Q s → Q (Described.fileName s).2
  priority : ∀ s : σ, Q s → Q (Described.priority s).2
  mainWindow : ∀ s : σ, Q s → Q (Described.mainWindow s).2
  memoryUsage : ∀ s : σ, Q s → Q (Described.memoryUsage s).2
  startTime : ∀ s : σ, Q s → Q (Described.startTime s).2
  processorTime : ∀ s : σ, Q s → Q (Described.processorTime s).2

/-- What every question keeps is kept by a whole summary. -/
theorem KeptBySummary.closedUnderSummaries {σ : Type} [Described σ] {Q : σ → Prop}
    (h : KeptBySummary Q) :
    Action.ClosedUnderSummaries fun α (act : Action σ α) => act.Keeps Q where
  pure := Action.keeps_pure
  bind := Action.Keeps.bind
  get _ hq := hq
  warning _ _ := Action.keeps_record _
  mainModuleBase := Action.keeps_operate _ h.base
  name := Action.keeps_ask h.name
  fileName := Action.keeps_ask h.fileName
  priority := Action.keeps_ask h.priority
  mainWindow := Action.keeps_ask h.mainWindow
  memoryUsage := Action.keeps_ask h.memoryUsage
  startTime := Action.keeps_ask h.startTime
  processorTime := Action.keeps_ask h.processorTime

end MemWatch
