/-
# Warnings

Most records are there for whoever asks for them; warnings are shown always.  What is said about an
action is therefore which warnings it adds, whatever other records come between them, or at least of
which kind they are.  Finding an error out may leave records, but no warning.
-/
import MemWatch.Target

namespace MemWatch

/-! ## Warnings among records -/

/-- The warnings among records, in order. -/
def LogRecord.warnings (records : List LogRecord) : List LogRecord :=
  records.filter fun r => r.level = .warn

/-- Records were added to the diagnostics, and the warnings among them are the given ones. -/
def Warned (before : Array LogRecord) (warnings : List LogRecord) (after : Array LogRecord) :
    Prop :=
  ∃ added : List LogRecord, after = before ++ added.toArray ∧
    LogRecord.warnings added = warnings

section Rules

variable {before log after : Array LogRecord} {ws ws' : List LogRecord}

theorem Warned.refl (log : Array LogRecord) : Warned log [] log :=
  ⟨[], (Array.append_empty).symm, rfl⟩

theorem Warned.trans (h : Warned before ws log) (h' : Warned log ws' after) :
    Warned before (ws ++ ws') after := by
  obtain ⟨added, rfl, rfl⟩ := h
  obtain ⟨added', rfl, rfl⟩ := h'
  refine ⟨added ++ added', ?_, List.filter_append added added'⟩
  simp [Array.append_assoc]

/-- Records of the lower level after warnings are no more warnings. -/
theorem Warned.quiet (h : Warned before ws log) (h' : Warned log [] after) :
    Warned before ws after := by
  have hall := h.trans h'
  rwa [List.append_nil] at hall

theorem warned_warn (log : Array LogRecord) (text : String) :
    Warned log [.warn text] (log.push (.warn text)) :=
  ⟨[.warn text], Array.push_eq_append, rfl⟩

theorem warned_debug (log : Array LogRecord) (text : String) :
    Warned log [] (log.push (.debug text)) :=
  ⟨[.debug text], Array.push_eq_append, rfl⟩

end Rules

/-! ## Records of finding an error out -/

/-- Checking the parts of an expression leaves no warning. -/
theorem Expression.warnings_notes (x : Expression) : LogRecord.warnings x.notes = [] := by
  have hdebug (text : String) : LogRecord.warnings [.debug text] = [] := rfl
  have happend (a b : List LogRecord) :
      LogRecord.warnings (a ++ b) = LogRecord.warnings a ++ LogRecord.warnings b :=
    List.filter_append a b
  unfold notes
  split
  · rfl
  · rw [happend, happend]
    have hoffset : LogRecord.warnings (if x.offsetMarks = 1 then
        [.debug "address is a base address offset"] else []) = [] := by
      split <;> rfl
    have hpointer : LogRecord.warnings (if 0 < x.pointerMarks then
        [.debug ("address is a pointer with " ++ Numeral.decimal x.pointerMarks ++ " levels")]
        else []) = [] := by
      split <;> rfl
    rw [hoffset, hpointer]
    cases x.type with
    | error fault => rfl
    | ok type =>
      show LogRecord.warnings (_ ++ _) = []
      rw [happend]
      cases x.typeLetter <;> cases x.value <;> rfl

/-- The records that come with a result are no warnings. -/
theorem warnings_resultNotes {α : Type} (result : Except Error α) :
    LogRecord.warnings (resultNotes result) = [] := by
  cases result with
  | ok a => rfl
  | error e =>
    show LogRecord.warnings e.notes = []
    unfold Error.notes
    split
    · exact Expression.warnings_notes _
    · rfl

/-! ## Actions without warnings -/

section Quiet

variable {σ : Type} {α β : Type}

/-- The action adds no warning. -/
def Action.IsQuiet (act : Action σ α) : Prop :=
  ∀ scene : Scene σ, Warned scene.log [] (act scene).2.log

theorem Action.isQuiet_pure (a : α) : Action.IsQuiet (pure a : Action σ α) :=
  fun scene => .refl scene.log

theorem Action.IsQuiet.bind {act : Action σ α} {next : α → Action σ β} (h : act.IsQuiet)
    (hnext : ∀ a, (next a).IsQuiet) : Action.IsQuiet (act >>= next) :=
  fun scene => (h scene).trans (hnext (act scene).1 (act scene).2)

theorem Action.isQuiet_ask (op : σ → Except Error α × σ) : Action.IsQuiet (ask op).outcome :=
  fun scene => ⟨_, rfl, warnings_resultNotes (op scene.target).1⟩

theorem Action.isQuiet_operate (op : σ → Except Error α × σ) (call : Bool → Call) :
    Action.IsQuiet (operate op call).outcome :=
  fun scene => ⟨_, rfl, warnings_resultNotes (op scene.target).1⟩

theorem Action.isQuiet_debug (text : String) :
    Action.IsQuiet (record (.debug text) : Action σ Unit) :=
  fun scene => warned_debug scene.log text

/-! ## Actions with warnings of one kind -/

/-- All warnings that the action adds are of a kind. -/
def Action.WarnsOnly (act : Action σ α) (W : LogRecord → Prop) : Prop :=
  ∀ scene : Scene σ, ∃ ws, Warned scene.log ws (act scene).2.log ∧ ∀ w ∈ ws, W w

variable {W : LogRecord → Prop}

/-- No warnings are warnings of any kind. -/
theorem Action.IsQuiet.warnsOnly {act : Action σ α} (h : act.IsQuiet) : act.WarnsOnly W :=
  fun scene => ⟨[], h scene, nofun⟩

theorem Action.warnsOnly_warn {text : String} (h : W (.warn text)) :
    Action.WarnsOnly (record (.warn text) : Action σ Unit) W :=
  fun scene => ⟨[.warn text], warned_warn scene.log text, List.forall_mem_singleton.mpr h⟩

theorem Action.WarnsOnly.bind {act : Action σ α} {next : α → Action σ β} (h : act.WarnsOnly W)
    (hnext : ∀ a, (next a).WarnsOnly W) : Action.WarnsOnly (act >>= next) W := by
  intro scene
  obtain ⟨ws, hwarned, hkind⟩ := h scene
  obtain ⟨ws', hwarned', hkind'⟩ := hnext (act scene).1 (act scene).2
  exact ⟨ws ++ ws', hwarned.trans hwarned', List.forall_mem_append.mpr ⟨hkind, hkind'⟩⟩

end Quiet

end MemWatch
