/-
# Transcripts

Which calls an action makes, next to what it returns and which target it leaves.  An attempt that
only asks leaves the target alone, so a transcript says all about it: the calls, up to the first
one that fails, and what came of them.  What an entry asks of an image comes down to a view of the
image: the width of its pointers, its base, and the bytes that can be read.
-/
import MemWatch.Image
import MemWatch.Proofs.Attempts

namespace MemWatch

/-! ## Calls of actions -/

section Rules

variable {σ : Type} {α β : Type} {s t u : σ} {cs ds : List Call}

/-- On every scene with target `s` the action makes the calls `cs`, returns `a` and leaves target
`t`. -/
structure Action.Makes (act : Action σ α) (s : σ) (cs : List Call) (a : α) (t : σ) : Prop where
  yields : act.Yields s a t
  calls : ∀ scene : Scene σ, scene.target = s →
    (act scene).2.calls.toList = scene.calls.toList ++ cs

/-- On every scene with target `s` the attempt makes the calls `cs`, has result `r` and leaves
target `t`. -/
def Attempt.Makes (act : Attempt σ α) (s : σ) (cs : List Call) (r : Except Error α) (t : σ) :
    Prop :=
  act.outcome.Makes s cs r t

theorem Action.Yields.makes_nil {act : Action σ α} {a : α} (h : act.Yields s a t)
    (hcalls : ∀ scene, (act scene).2.calls = scene.calls) : act.Makes s [] a t := by
  refine ⟨h, fun scene _ => ?_⟩
  rw [hcalls, List.append_nil]

/-- What the action returns on a target without a history. -/
def Action.valueOn (act : Action σ α) (s : σ) : α :=
  (act { target := s }).1

/-- The calls that the action makes on a target without a history. -/
def Action.callsOn (act : Action σ α) (s : σ) : List Call :=
  (act { target := s }).2.calls.toList

/-- The target that the action leaves, from a target without a history. -/
def Action.targetOn (act : Action σ α) (s : σ) : σ :=
  (act { target := s }).2.target

/-- What is returned on every scene is returned without a history. -/
theorem Action.Makes.valueOn_eq {act : Action σ α} {a : α} (h : act.Makes s cs a t) :
    act.valueOn s = a :=
  (h.yields { target := s } rfl).1

/-- The target left on every scene is left without a history. -/
theorem Action.Makes.targetOn_eq {act : Action σ α} {a : α} (h : act.Makes s cs a t) :
    act.targetOn s = t :=
  (h.yields { target := s } rfl).2

/-- The calls made on every scene are made without a history. -/
theorem Action.Makes.callsOn_eq {act : Action σ α} {a : α} (h : act.Makes s cs a t) :
    act.callsOn s = cs :=
  h.calls { target := s } rfl

theorem Action.makes_pure (a : α) (s : σ) : Action.Makes (pure a) s [] a s :=
  (Action.yields_pure a s).makes_nil fun _ => rfl

theorem Action.makes_record (r : LogRecord) (s : σ) : Action.Makes (record r) s [] () s :=
  (Action.yields_record r s).makes_nil fun _ => rfl

/-- The calls of actions one after the other. -/
theorem Action.Makes.bind {act : Action σ α} {next : α → Action σ β} {a : α} {b : β}
    (h : act.Makes s cs a t) (hnext : (next a).Makes t ds b u) :
    Action.Makes (act >>= next) s (cs ++ ds) b u := by
  refine ⟨h.yields.bind hnext.yields, fun scene hs => ?_⟩
  obtain ⟨ha, ht⟩ := h.yields scene hs
  have hcalls := hnext.calls (act scene).2 ht
  rw [h.calls scene hs, List.append_assoc, ← ha] at hcalls
  exact hcalls

theorem Attempt.makes_pure (a : α) (s : σ) : Attempt.Makes (pure a) s [] (.ok a) s :=
  (Attempt.gives_pure a s).makes_nil fun _ => rfl

theorem Attempt.makes_throw (e : Error) (s : σ) :
    Attempt.Makes (throw e : Attempt σ α) s [] (.error e) s :=
  Action.Yields.makes_nil (Action.yields_pure _ s) fun _ => rfl

theorem Attempt.makes_note (r : LogRecord) (s : σ) : Attempt.Makes (note r) s [] (.ok ()) s :=
  (Attempt.gives_note r s).makes_nil fun _ => rfl

theorem Attempt.Makes.bind {act : Attempt σ α} {next : α → Attempt σ β} {a : α}
    {r : Except Error β} (h : act.Makes s cs (.ok a) t) (hnext : (next a).Makes t ds r u) :
    Attempt.Makes (act >>= next) s (cs ++ ds) r u := by
  unfold Attempt.Makes
  rw [Attempt.outcome_bind]
  exact Action.Makes.bind h hnext

theorem Attempt.Makes.after {act : Attempt σ α} {next : α → Attempt σ β} {a : α}
    {r : Except Error β} (h : act.Makes s [] (.ok a) t) (hnext : (next a).Makes t ds r u) :
    Attempt.Makes (act >>= next) s ds r u :=
  h.bind hnext

theorem Attempt.Makes.bind_error {act : Attempt σ α} {e : Error}
    (h : act.Makes s cs (.error e) t) (next : α → Attempt σ β) :
    Attempt.Makes (act >>= next) s cs (.error e) t := by
  unfold Attempt.Makes
  rw [Attempt.outcome_bind, ← List.append_nil cs]
  exact Action.Makes.bind h (Action.makes_pure _ t)

theorem Attempt.makes_operate (op : σ → Except Error α × σ) (call : Bool → Call) (s : σ) :
    Attempt.Makes (operate op call) s [call (op s).1.isOk] (op s).1 (op s).2 := by
  refine ⟨Attempt.gives_operate op call s, ?_⟩
  rintro scene rfl
  exact Array.toList_push

theorem Attempt.makes_pointerWidth [Target σ] (s : σ) :
    Attempt.Makes pointerWidth s [] (.ok (Target.width s)) s :=
  (Attempt.gives_pointerWidth s).makes_nil fun _ => rfl

end Rules

/-! ## Transcripts -/

/-- The calls made to a target, up to the first one that failed, and what came of them. -/
structure Transcript (α : Type) where
  calls : List Call
  result : Except Error α

namespace Transcript

variable {σ : Type} {α β : Type}

/-- Nothing is asked. -/
def answer (a : α) : Transcript α :=
  ⟨[], .ok a⟩

/-- More is asked after everything before was answered. -/
def bind (t : Transcript α) (next : α → Transcript β) : Transcript β :=
  match t.result with
  | .ok a => ⟨t.calls ++ (next a).calls, (next a).result⟩
  | .error e => ⟨t.calls, .error e⟩

/-- The same calls with another form of the answer. -/
def map (f : α → β) (t : Transcript α) : Transcript β :=
  ⟨t.calls, t.result.map f⟩

/-- A transcript in two parts has an answer if both parts have one. -/
theorem result_bind_eq_ok {t : Transcript α} {next : α → Transcript β} {b : β} :
    (t.bind next).result = .ok b ↔ ∃ a, t.result = .ok a ∧ (next a).result = .ok b := by
  rcases t with ⟨calls, e | a⟩ <;> simp [bind]

/-- Another form of the answer comes from an answer. -/
theorem result_map_eq_ok {t : Transcript α} {f : α → β} {b : β} :
    (t.map f).result = .ok b ↔ ∃ a, t.result = .ok a ∧ f a = b := by
  rcases t with ⟨calls, e | a⟩ <;> simp [map, Except.map]

end Transcript

/-- The attempt leaves the target `s` alone, and the transcript says what it asks and what comes of
it. -/
def Attempt.Asks {σ α : Type} (act : Attempt σ α) (s : σ) (t : Transcript α) : Prop :=
  act.Makes s t.calls t.result s

section Asking

variable {σ : Type} {α β : Type} {s : σ}

theorem Attempt.asks_pure (a : α) (s : σ) : Attempt.Asks (pure a) s (.answer a) :=
  Attempt.makes_pure a s

theorem Attempt.Asks.bind {act : Attempt σ α} {next : α → Attempt σ β} {t : Transcript α}
    {u : α → Transcript β} (h : act.Asks s t) (hnext : ∀ a, (next a).Asks s (u a)) :
    Attempt.Asks (act >>= next) s (t.bind u) := by
  rcases t with ⟨cs, e | a⟩
  · exact Attempt.Makes.bind_error h next
  · exact Attempt.Makes.bind h (hnext a)

theorem Attempt.Asks.map {act : Attempt σ α} {next : α → Attempt σ β} {t : Transcript α}
    {f : α → β} (h : act.Asks s t) (hnext : ∀ a, (next a).Asks s (.answer (f a))) :
    Attempt.Asks (act >>= next) s (t.map f) := by
  rcases t with ⟨cs, e | a⟩
  · exact Attempt.Makes.bind_error h next
  · have hall := Attempt.Makes.bind h (hnext a)
    rwa [Transcript.answer, List.append_nil] at hall

theorem Attempt.Asks.after {act : Attempt σ α} {next : α → Attempt σ β} {a : α}
    {u : Transcript β} (h : act.Makes s [] (.ok a) s) (hnext : (next a).Asks s u) :
    Attempt.Asks (act >>= next) s u :=
  Attempt.Makes.bind h hnext

end Asking

/-! ## Views -/

/-- What can be asked of a target that nothing is written to. -/
structure View where
  width : PointerWidth
  base : Except Error Address
  read : Address → Nat → Except Error Bytes

/-- What can be asked of an image. -/
def Image.view (i : Image) : View :=
  ⟨i.width, i.base, fun a size => i.read a size⟩

namespace View

variable (v : View)

/-- One read. -/
def ask (a : Address) (size : Nat) : Transcript Bytes :=
  ⟨[.read a size (v.read a size).isOk], v.read a size⟩

/-- The base of the main module. -/
def askBase : Transcript Address :=
  ⟨[.base], v.base⟩

/-- The pointer stored at an address. -/
def pointer (a : Address) : Transcript Address :=
  (v.ask a v.width.size).map v.width.decode

/-- The value stored at an address. -/
def value (type : ValueType) (a : Address) : Transcript Int64 :=
  (v.ask a type.size).map type.decode

/-- Where an entry starts: its address, which counts from the base if it is an offset. -/
def start (e : Entry) : Transcript Address :=
  if e.isOffset then v.askBase.map (v.width.add (v.width.truncate e.address))
  else .answer (v.width.truncate e.address)

/-- Where a number of pointers lead from an address. -/
def follow : Nat → Address → Transcript Address
  | 0, a => .answer a
  | levels + 1, a => (v.pointer a).bind fun next => follow levels (v.width.truncate next)

/-- Where an entry lies. -/
def locate (e : Entry) : Transcript Address :=
  (v.start e).bind (v.follow e.pointerLevels)

/-- Where an entry lies and the value there. -/
def look (e : Entry) : Transcript (Address × Int64) :=
  (v.locate e).bind fun a => (v.value e.type a).map fun x => (a, x)

/-- The value that the entry of a set with the given id has. -/
def current (set : EntrySet) (id : RefId) : Transcript Int64 :=
  match set.get? id with
  | none => ⟨[], .error (.referenceOutOfRange id id set.size)⟩
  | some e => (v.look e).map Prod.snd

/-- The value to write to an entry of a set; there is none if it is only monitored. -/
def worth (set : EntrySet) (e : Entry) : Transcript (Option Int64) :=
  match e.value with
  | none => .answer none
  | some (.literal x) => .answer (some x)
  | some (.reference id) => (v.current set id).map some

/-- Where an entry lies and the value to write there. -/
def aim (set : EntrySet) (e : Entry) : Transcript (Address × Option Int64) :=
  (v.locate e).bind fun a => (v.worth set e).map fun x => (a, x)

end View

/-! ## Entries and images -/

namespace Image

variable {i : Image}

theorem asks_readMemory (a : Address) (size : Nat) :
    (readMemory a size).Asks i (i.view.ask a size) :=
  Attempt.makes_operate (Target.read a size) (.read a size) i

/-- The transcript of finding out where an entry starts. -/
theorem asks_start (e : Entry) : e.start.Asks i (i.view.start e) := by
  refine Attempt.Asks.after (Attempt.makes_pointerWidth i) ?_
  show Attempt.Asks (if e.isOffset then _ else _) i _
  unfold View.start
  split
  · have hbase : mainModuleBase.Asks i i.view.askBase :=
      Attempt.makes_operate Target.base (fun _ => .base) i
    refine hbase.map fun base => ?_
    exact Attempt.Asks.after (Attempt.makes_note _ i) (Attempt.asks_pure _ i)
  · exact Attempt.asks_pure _ i

theorem asks_readPointer (a : Address) : (readPointer a).Asks i (i.view.pointer a) := by
  refine Attempt.Asks.after (Attempt.makes_pointerWidth i) ?_
  exact (asks_readMemory a i.width.size).map fun bytes => Attempt.asks_pure _ i

/-- The transcript of following pointers. -/
theorem asks_follow (levels : Nat) (a : Address) :
    (Entry.follow levels a).Asks i (i.view.follow levels a) := by
  -- induction on the pointers that are left to follow
  induction levels generalizing a with
  | zero => exact Attempt.asks_pure a i
  | succ levels ih =>
    refine Attempt.Asks.after (Attempt.makes_note _ i) ?_
    refine Attempt.Asks.after (Attempt.makes_pointerWidth i) ?_
    exact (asks_readPointer a).bind fun next => ih _

theorem asks_resolve (e : Entry) : e.resolve.Asks i (i.view.locate e) :=
  (asks_start e).bind fun a => asks_follow e.pointerLevels a

theorem asks_readValue (type : ValueType) (a : Address) :
    (readValue type a).Asks i (i.view.value type a) :=
  (asks_readMemory a type.size).map fun _ => Attempt.asks_pure _ i

theorem asks_read (e : Entry) : e.read.Asks i (i.view.look e) := by
  refine (asks_resolve e).bind fun a => ?_
  refine Attempt.Asks.after (Attempt.makes_note _ i) ?_
  exact (asks_readValue e.type a).map fun x => Attempt.asks_pure _ i

theorem asks_currentValue (set : EntrySet) (id : RefId) :
    (set.currentValue id).Asks i (i.view.current set id) := by
  unfold EntrySet.currentValue View.current
  rcases set.get? id with _ | e
  · exact Attempt.makes_throw _ i
  · exact (asks_read e).map fun p => Attempt.asks_pure p.2 i

/-- The transcript of finding out what to write to an entry. -/
theorem asks_valueToWrite (set : EntrySet) (e : Entry) :
    (set.valueToWrite e).Asks i (i.view.worth set e) := by
  unfold EntrySet.valueToWrite View.worth
  rcases e.value with _ | x | id
  · exact Attempt.asks_pure none i
  · exact Attempt.asks_pure (some x) i
  · refine (asks_currentValue set id).map fun x => ?_
    exact Attempt.Asks.after (Attempt.makes_note _ i) (Attempt.asks_pure _ i)

end Image

end MemWatch
