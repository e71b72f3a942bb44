/-
# What attempts yield

An action is followed on the target alone: what it returns and which target it leaves, whatever
diagnostics and calls were kept before.  Every way to put actions together has one rule, and so
does every operation on a target.
-/
import MemWatch.EntrySet.Cycle

namespace MemWatch

section Rules

variable {σ : Type} {α β : Type} {s t u : σ}

/-- On every scene with target `s` the action returns `a` and leaves target `t`. -/
def Action.Yields (act : Action σ α) (s : σ) (a : α) (t : σ) : Prop :=
  ∀ scene : Scene σ, scene.target = s → (act scene).1 = a ∧ (act scene).2.target = t

/-- On every scene with target `s` the attempt has result `r` and leaves target `t`. -/
def Attempt.Gives (act : Attempt σ α) (s : σ) (r : Except Error α) (t : σ) : Prop :=
  act.outcome.Yields s r t

/-! ## Actions -/

theorem Action.yields_pure (a : α) (s : σ) : Action.Yields (pure a) s a s :=
  fun _ hs => ⟨rfl, hs⟩

theorem Action.bind_run (act : Action σ α) (next : α → Action σ β) (scene : Scene σ) :
    (act >>= next) scene = next (act scene).1 (act scene).2 :=
  rfl

/-- Actions one after the other. -/
theorem Action.Yields.bind {act : Action σ α} {next : α → Action σ β} {a : α} {b : β}
    (h : act.Yields s a t) (hnext : (next a).Yields t b u) :
    Action.Yields (act >>= next) s b u := by
  intro scene hs
  obtain ⟨ha, ht⟩ := h scene hs
  have hb := hnext (act scene).2 ht
  rw [← ha] at hb
  exact hb

theorem Action.yields_record (r : LogRecord) (s : σ) : Action.Yields (record r) s () s :=
  fun _ hs => ⟨rfl, hs⟩

/-! ## Attempts -/

theorem Attempt.gives_pure (a : α) (s : σ) : Attempt.Gives (pure a) s (.ok a) s :=
  fun _ hs => ⟨rfl, hs⟩

/-- The rest of an attempt follows the result of its beginning. -/
theorem Attempt.outcome_bind (act : Attempt σ α) (next : α → Attempt σ β) :
    Attempt.outcome (act >>= next) = act.outcome >>= fun r =>
      match r with
      | .ok a => (next a).outcome
      | .error e => pure (.error e) := by
  funext scene
  show Attempt.outcome (act >>= next) scene = _
  rcases h : act.outcome scene with ⟨r, after⟩
  have hact : act scene = (r, after) := h
  cases r <;> simp [Attempt.outcome, bind, ExceptT.bind, ExceptT.mk, ExceptT.bindCont, ExceptT.run,
    StateT.bind, hact]

theorem Attempt.Gives.bind {act : Attempt σ α} {next : α → Attempt σ β} {a : α}
    {r : Except Error β} (h : act.Gives s (.ok a) t) (hnext : (next a).Gives t r u) :
    Attempt.Gives (act >>= next) s r u := by
  unfold Attempt.Gives
  rw [Attempt.outcome_bind]
  exact Action.Yields.bind h hnext

theorem Attempt.Gives.bind_error {act : Attempt σ α} {e : Error}
    (h : act.Gives s (.error e) t) (next : α → Attempt σ β) :
    Attempt.Gives (act >>= next) s (.error e) t := by
  unfold Attempt.Gives
  rw [Attempt.outcome_bind]
  exact Action.Yields.bind h (Action.yields_pure _ t)

theorem Attempt.gives_note (r : LogRecord) (s : σ) : Attempt.Gives (note r) s (.ok ()) s :=
  fun _ hs => ⟨rfl, hs⟩

theorem Attempt.gives_operate (op : σ → Except Error α × σ) (call : Bool → Call) (s : σ) :
    Attempt.Gives (operate op call) s (op s).1 (op s).2 := by
  rintro scene rfl
  exact ⟨rfl, rfl⟩

end Rules

/-! ## Operations on a target -/

section Operations

variable {σ : Type} [Target σ] {s t : σ}

theorem Attempt.gives_pointerWidth (s : σ) :
    Attempt.Gives pointerWidth s (.ok (Target.width s)) s := by
  rintro scene rfl
  exact ⟨rfl, rfl⟩

theorem Attempt.gives_readValue {v : ValueType} {a : Address} {bytes : Bytes}
    (h : Target.read a v.size s = (.ok bytes, t)) :
    Attempt.Gives (readValue v a) s (.ok (v.decode bytes)) t := by
  have hread := Attempt.gives_operate (Target.read a v.size) (.read a v.size) s
  rw [h] at hread
  exact hread.bind (Attempt.gives_pure _ t)

theorem Attempt.gives_readValue_error {v : ValueType} {a : Address} {e : Error}
    (h : Target.read a v.size s = (.error e, t)) :
    Attempt.Gives (readValue v a) s (.error e) t := by
  have hread := Attempt.gives_operate (Target.read a v.size) (.read a v.size) s
  rw [h] at hread
  exact hread.bind_error _

theorem Attempt.gives_writeValue (v : ValueType) (a : Address) (x : Int64) (s : σ) :
    Attempt.Gives (writeValue v a x) s (Target.write a (v.encode x) s).1
      (Target.write a (v.encode x) s).2 :=
  Attempt.gives_operate _ _ s

/-! ## Everything that reads an entry -/

/-- A property of attempts that the single steps of reading an entry have, and that attempts one after
the other have if each of them has it. -/
structure Attempt.ClosedUnderReading (P : (α : Type) → Attempt σ α → Prop) : Prop where
  pure : ∀ {α : Type} (a : α), P α (pure a)
  bind : ∀ {α β : Type} {act : Attempt σ α} {next : α → Attempt σ β},
    P α act → (∀ a, P β (next a)) → P β (act >>= next)
  note : ∀ text : String, P Unit (note (.debug text))
  pointerWidth : P PointerWidth pointerWidth
  readMemory : ∀ (a : Address) (size : Nat), P Bytes (readMemory a size)
  mainModuleBase : P Address mainModuleBase

namespace Attempt.ClosedUnderReading

variable {P : (α : Type) → Attempt σ α → Prop}

/-- Finding out where an entry starts. -/
theorem start (h : ClosedUnderReading P) (e : Entry) : P Address e.start := by
  refine h.bind h.pointerWidth fun w => ?_
  show P Address (if e.isOffset then _ else _)
  split
  · refine h.bind h.mainModuleBase fun base => ?_
    exact h.bind (h.note _) fun _ => h.pure _
  · exact h.pure _

/-- Following pointers. -/
theorem follow (h : ClosedUnderReading P) (levels : Nat) (a : Address) :
    P Address (Entry.follow levels a) := by
  -- induction on the pointers that are left to follow
  induction levels generalizing a with
  | zero => exact h.pure a
  | succ levels ih =>
    refine h.bind (h.note _) fun _ => ?_
    refine h.bind h.pointerWidth fun w => ?_
    refine h.bind ?_ fun next => ih _
    refine h.bind h.pointerWidth fun w => ?_
    exact h.bind (h.readMemory a _) fun bytes => h.pure _

/-- Resolving an entry. -/
theorem resolve (h : ClosedUnderReading P) (e : Entry) : P Address e.resolve :=
  h.bind (h.start e) fun a => h.follow e.pointerLevels a

/-- **Reading.**  What the single steps have, reading an entry has. -/
theorem read (h : ClosedUnderReading P) (e : Entry) : P (Address × Int64) e.read := by
  refine h.bind (h.resolve e) fun a => ?_
  refine h.bind (h.note _) fun _ => ?_
  refine h.bind ?_ fun v => h.pure _
  exact h.bind (h.readMemory a _) fun bytes => h.pure _

end Attempt.ClosedUnderReading

end Operations

end MemWatch
