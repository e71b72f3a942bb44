/-
# Answers of a summary

What a summary finds out depends on the process alone: each question has one answer and leaves one
state, whatever was noted before.  A failure is left out and remembered, and the next question comes.
So over a sink that always works a summary is complete exactly if every property could be had.
-/
import MemWatch.Proofs.Attempts
import MemWatch.Proofs.Sinks
import MemWatch.Proofs.Transcripts
import MemWatch.Proofs.Warnings
import MemWatch.Summary.Basic

namespace MemWatch

/-! ## Answers that depend on the target alone -/

section Steady

variable {σ : Type} {α β : Type}

/-- From every target the action gives one answer and leaves one target, on every scene. -/
def Action.IsSteady (act : Action σ α) : Prop :=
  ∀ s, ∃ a t, act.Yields s a t

/-- On every scene a steady action does what it does without a history. -/
theorem Action.IsSteady.yields {act : Action σ α} (h : act.IsSteady) (s : σ) :
    act.Yields s (act.valueOn s) (act.targetOn s) := by
  obtain ⟨a, t, hact⟩ := h s
  obtain ⟨ha, ht⟩ := hact { target := s } rfl
  rwa [← ha, ← ht] at hact

theorem Action.isSteady_pure (a : α) : Action.IsSteady (pure a : Action σ α) :=
  fun s => ⟨a, s, Action.yields_pure a s⟩

theorem Action.IsSteady.bind {act : Action σ α} {next : α → Action σ β} (h : act.IsSteady)
    (hnext : ∀ a, (next a).IsSteady) : Action.IsSteady (act >>= next) := by
  intro s
  obtain ⟨a, t, hact⟩ := h s
  obtain ⟨b, u, hb⟩ := hnext a t
  exact ⟨b, u, hact.bind hb⟩

theorem Action.isSteady_ask (op : σ → Except Error α × σ) : Action.IsSteady (ask op).outcome := by
  intro s
  refine ⟨(op s).1, (op s).2, ?_⟩
  rintro scene rfl
  exact ⟨rfl, rfl⟩

theorem Action.isSteady_operate (op : σ → Except Error α × σ) (call : Bool → Call) :
    Action.IsSteady (operate op call).outcome :=
  fun s => ⟨_, _, Attempt.gives_operate op call s⟩

theorem Action.isSteady_look (f : σ → α) :
    Action.IsSteady (do return f (← get).target : Action σ α) := by
  intro s
  refine ⟨f s, s, ?_⟩
  rintro scene rfl
  exact ⟨rfl, rfl⟩

end Steady

namespace Summary

variable {σ : Type}

/-! ## Questions -/

/-- The properties that questions give on a target, put one after the other. -/
def answersOn : List (Action σ (List Property)) → σ → List Property
  | [], _ => []
  | question :: rest, s => question.valueOn s ++ answersOn rest (question.targetOn s)

/-- Every question of a summary is steady. -/
theorem isSteady_of_mem_questions [Described σ] (now : Instant) :
    ∀ question ∈ (questions now : List (Action σ _)), question.IsSteady := by
  intro question hmem
  simp only [questions, List.mem_cons, List.not_mem_nil, or_false] at hmem
  rcases hmem with rfl | rfl | rfl | rfl | rfl | rfl | rfl | rfl | rfl
  case inr.inr.inl =>
    exact (Action.isSteady_operate _ _).bind fun _ => Action.isSteady_pure _
  case inr.inr.inr.inl =>
    exact Action.isSteady_look fun s : σ =>
      [Property.mk "Handle" (.ok (Numeral.decimal (Described.handle s)))]
  case inr.inr.inr.inr.inr.inr.inr.inl =>
    exact (Action.isSteady_ask _).bind fun start => Action.isSteady_look fun s : σ =>
      properties start [("StartTime", startText (Described.zone s) now)]
  all_goals exact (Action.isSteady_ask _).bind fun _ => Action.isSteady_pure _

/-- No question of a summary adds a warning. -/
theorem isQuiet_of_mem_questions [Described σ] (now : Instant) :
    ∀ question ∈ (questions now : List (Action σ _)), question.IsQuiet := by
  intro question hmem
  simp only [questions, List.mem_cons, List.not_mem_nil, or_false] at hmem
  rcases hmem with rfl | rfl | rfl | rfl | rfl | rfl | rfl | rfl | rfl
  case inr.inr.inl =>
    exact (Action.isQuiet_operate _ _).bind fun _ => Action.isQuiet_pure _
  case inr.inr.inr.inl => exact fun scene => .refl scene.log
  case inr.inr.inr.inr.inr.inr.inr.inl =>
    exact (Action.isQuiet_ask _).bind fun _ scene => .refl scene.log
  all_goals exact (Action.isQuiet_ask _).bind fun _ => Action.isQuiet_pure _

/-! ## Writing the answers -/

/-- The property could be had. -/
def Property.isKnown (p : Property) : Bool :=
  p.value.isOk

/-- The line of a property that could be had: the label with its colon in sixteen columns, and the
value. -/
def Property.line? (p : Property) : Option String :=
  match p.value with
  | .ok value => some (p.label ++ ":" ++ String.ofList (List.replicate (15 - p.label.length) ' ') ++
      value ++ "\n")
  | .error _ => none

/-- The warning about a property that could not be had. -/
def Property.warning? (p : Property) : Option LogRecord :=
  match p.value with
  | .ok _ => none
  | .error e => some (.warn ("can't access property `" ++ p.label ++ "`: " ++ e.message))

/-- The colon is a part of the sixteen columns. -/
theorem propertyLine_eq (label value : String) :
    propertyLine label value =
      label ++ ":" ++ String.ofList (List.replicate (15 - label.length) ' ') ++ value ++ "\n" := by
  have hlength : (label ++ ":").toList.length = label.length + 1 := by
    rw [String.length_toList, String.length_append]
    rfl
  unfold propertyLine
  dsimp only
  rw [hlength, String.ofList_append, String.ofList_toList, Nat.add_sub_add_right 15 1]

/-- Properties were written over a sink that always works: those that could be had to the sink, in
order; the others were warned about and remembered. -/
structure Wrote (properties : List Property) (p : Progress) (scene : Scene σ) (q : Progress)
    (after : Scene σ) : Prop where
  room : q.out.room = none
  bytes : q.out.bytes =
    p.out.bytes ++ .ofString (String.join (properties.filterMap Property.line?))
  complete : q.complete = (p.complete && properties.all Property.isKnown)
  warned : Warned scene.log (properties.filterMap Property.warning?) after.log

theorem Wrote.refl (p : Progress) (scene : Scene σ) (hroom : p.out.room = none) :
    Wrote [] p scene p scene := by
  constructor
  case room => exact hroom
  case bytes => exact (List.append_nil _).symm
  case complete => exact (Bool.and_true _).symm
  case warned => exact .refl scene.log

/-- Properties written one after the other. -/
theorem Wrote.trans {ps ps' : List Property} {p q r : Progress} {scene after last : Scene σ}
    (h : Wrote ps p scene q after) (h' : Wrote ps' q after r last) :
    Wrote (ps ++ ps') p scene r last := by
  constructor
  case room => exact h'.room
  case bytes =>
    rw [h'.bytes, h.bytes, List.filterMap_append, String.join_append, Sink.ofString_append,
      List.append_assoc]
  case complete => rw [h'.complete, h.complete, List.all_append, Bool.and_assoc]
  case warned =>
    rw [List.filterMap_append]
    exact h.warned.trans h'.warned

/-- A sink that always works takes a property, or it is warned about. -/
theorem writeProperty_eq (property : Property) (p : Progress) (scene : Scene σ)
    (hroom : p.out.room = none) :
    ∃ q, (writeProperty property p scene).1 = (.ok (), q) ∧
      Wrote [property] p scene q (writeProperty property p scene).2 ∧
      (writeProperty property p scene).2.target = scene.target := by
  rcases property with ⟨label, e | value⟩
  · refine ⟨{ p with complete := false }, rfl, ?_, rfl⟩
    constructor
    case room => exact hroom
    case bytes => exact (List.append_nil _).symm
    case complete => exact (Bool.and_false _).symm
    case warned => exact warned_warn scene.log _
  · have hput := Sink.put_eq p.out (.ofString (propertyLine label value))
    have hfits := Sink.hasRoom_of_room hroom (Bytes.ofString (propertyLine label value)).length
    rw [if_pos hfits] at hput
    have hrun : writeProperty ⟨label, .ok value⟩ p scene =
        ((.ok (), { p with out := p.out.taking (.ofString (propertyLine label value)) }), scene) := by
      unfold writeProperty Sink.putText
      simp only [hput]
      rfl
    rw [hrun]
    refine ⟨_, rfl, ?_, rfl⟩
    constructor
    case room => exact Sink.room_taking hroom _
    case bytes =>
      rw [Sink.bytes_taking hfits, propertyLine_eq]
      simp [Property.line?]
    case complete => exact (Bool.and_true _).symm
    case warned => exact .refl scene.log

/-- A sink that always works takes properties in order. -/
theorem writeProperties_eq (properties : List Property) (p : Progress) (scene : Scene σ)
    (hroom : p.out.room = none) :
    ∃ q, (writeProperties properties p scene).1 = (.ok (), q) ∧
      Wrote properties p scene q (writeProperties properties p scene).2 ∧
      (writeProperties properties p scene).2.target = scene.target := by
  induction properties generalizing p scene with
  | nil => exact ⟨p, rfl, .refl p scene hroom, rfl⟩
  | cons property rest ih =>
    obtain ⟨q, hq, hfirst, htarget⟩ := writeProperty_eq property p scene hroom
    obtain ⟨r, hr, hrest, hafter⟩ := ih q (writeProperty property p scene).2 hfirst.room
    have hrun : writeProperties (property :: rest) p scene =
        writeProperties rest q (writeProperty property p scene).2 := by
      rw [writeProperties, Action.bind_run, hq]
    rw [hrun]
    exact ⟨r, hr, hfirst.trans hrest, hafter.trans htarget⟩

/-- A sink that always works takes all answers. -/
theorem writeAnswers_eq {questions : List (Action σ (List Property))}
    (hsteady : ∀ question ∈ questions, question.IsSteady)
    (hquiet : ∀ question ∈ questions, question.IsQuiet) (p : Progress) (scene : Scene σ)
    (hroom : p.out.room = none) :
    ∃ q, (writeAnswers questions p scene).1 = (.ok (), q) ∧
      Wrote (answersOn questions scene.target) p scene q (writeAnswers questions p scene).2 := by
  induction questions generalizing p scene with
  | nil => exact ⟨p, rfl, .refl p scene hroom⟩
  | cons question rest ih =>
    obtain ⟨hvalue, htarget⟩ := (hsteady question List.mem_cons_self).yields scene.target scene rfl
    have hasked := hquiet question List.mem_cons_self scene
    obtain ⟨q, hq, hwrote, hkept⟩ := writeProperties_eq (question scene).1 p (question scene).2 hroom
    obtain ⟨r, hr, hrest⟩ := ih (fun other hmem => hsteady other (List.mem_cons_of_mem _ hmem))
      (fun other hmem => hquiet other (List.mem_cons_of_mem _ hmem)) q
      (writeProperties (question scene).1 p (question scene).2).2 hwrote.room
    have hrun : writeAnswers (question :: rest) p scene =
        writeAnswers rest q (writeProperties (question scene).1 p (question scene).2).2 := by
      rw [writeAnswers, Action.bind_run, Action.bind_run, hq]
    rw [hkept, htarget] at hrest
    rw [hvalue] at hwrote
    have hfirst : Wrote (question.valueOn scene.target) p scene q _ :=
      ⟨hwrote.room, hwrote.bytes, hwrote.complete, hasked.trans hwrote.warned⟩
    rw [hrun, answersOn]
    rw [hvalue] at hr hrest ⊢
    exact ⟨r, hr, hfirst.trans hrest⟩

end Summary

/-- **Summaries.**  Over a sink that always works a summary consists of the heading and what is
written of the properties, and tells whether every property could be had. -/
theorem summarize_wrote {σ : Type} [Described σ] (now : Instant) (out : Sink) (scene : Scene σ)
    (hroom : out.room = none) :
    ∃ q, (summarize now out scene).1 = (.ok q.complete, q.out) ∧
      Summary.Wrote (Summary.answersOn (Summary.questions now) scene.target)
        { out := out.taking (.ofString Summary.heading) } scene q (summarize now out scene).2 := by
  have hput := Sink.put_eq out (.ofString Summary.heading)
  rw [if_pos (Sink.hasRoom_of_room hroom _)] at hput
  obtain ⟨q, hq, hwrote⟩ := Summary.writeAnswers_eq (Summary.isSteady_of_mem_questions now)
    (Summary.isQuiet_of_mem_questions now) { out := out.taking (.ofString Summary.heading) } scene
    (Sink.room_taking hroom _)
  have hrun : summarize now out scene = ((.ok q.complete, q.out), (Summary.writeAnswers
      (Summary.questions now) { out := out.taking (.ofString Summary.heading) } scene).2) := by
    unfold summarize Sink.putText
    rw [hput]
    simp only [Action.bind_run, hq]
    rfl
  rw [hrun]
  exact ⟨q, rfl, hwrote⟩

/-- A summary tells whether every property could be had. -/
theorem summarize_eq {σ : Type} [Described σ] (now : Instant) (scene : Scene σ) :
    ∃ out, (summarize now {} scene).1 =
      (.ok ((Summary.answersOn (Summary.questions now) scene.target).all Summary.Property.isKnown),
        out) := by
  obtain ⟨q, hrun, hwrote⟩ := summarize_wrote now {} scene rfl
  refine ⟨q.out, ?_⟩
  rw [hrun, hwrote.complete, Bool.true_and]

end MemWatch
