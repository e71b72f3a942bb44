/-
# The calls of a cycle

A cycle over an image makes its calls in segments: one for every entry that has a value, in order,
and then one for every entry, in order.  What a segment asks for is known beforehand, apart from
the addresses, and it ends right after the first call that fails; the next segment is not affected.

Main statement: the calls of a cycle are those segments and nothing else, and its readings are what
came of the segments of the second kind.
-/
import MemWatch.Proofs.References
import MemWatch.Proofs.Transcripts

namespace MemWatch

/-! ## Plans -/

/-- What a call asks for, apart from where. -/
inductive CallKind where
  | base
  | read (size : Nat)
  | write (size : Nat)
  | alive
deriving DecidableEq, Repr

/-- What a call asks for. -/
def Call.kind : Call → CallKind
  | read _ size _ => .read size
  | write _ bytes _ => .write bytes.length
  | base => .base
  | alive => .alive

/-- The call writes. -/
def CallKind.isWrite : CallKind → Bool
  | write _ => true
  | _ => false

/-- The call only asks for something. -/
def CallKind.isQuestion : CallKind → Bool
  | base => true
  | read _ => true
  | _ => false

theorem CallKind.isWrite_of_isQuestion {k : CallKind} (h : k.isQuestion = true) :
    k.isWrite = false := by
  cases k <;> simp_all [isQuestion, isWrite]

/-- Whether a call succeeds: a read or a write says so, and asking for the base succeeds if the
view has one. -/
def View.grants (v : View) : Call → Bool
  | .read _ _ ok => ok
  | .write _ _ ok => ok
  | .base => v.base.isOk
  | .alive => true

/-- The calls are those of the plan in order, up to the first one that fails; `whole` says whether
none fails. -/
inductive Follows (v : View) : (plan : List CallKind) → List Call → (whole : Bool) → Prop where
  /-- Nothing is left to do. -/
  | done : Follows v [] [] true
  /-- A call fails, and the rest of the plan is dropped. -/
  | cut {c : Call} (rest : List CallKind) (h : v.grants c = false) :
      Follows v (c.kind :: rest) [c] false
  /-- A call succeeds, and the rest of the plan follows. -/
  | next {c : Call} {rest : List CallKind} {calls : List Call} {whole : Bool}
      (h : v.grants c = true) (hrest : Follows v rest calls whole) :
      Follows v (c.kind :: rest) (c :: calls) whole

namespace Follows

variable {v : View} {plan more : List CallKind} {calls others : List Call} {whole : Bool}

theorem append (h : Follows v plan calls true) (hmore : Follows v more others whole) :
    Follows v (plan ++ more) (calls ++ others) whole := by
  generalize htrue : true = ok at h
  induction h with
  | done => exact hmore
  | cut => simp at htrue
  | next hgrants _ ih => exact .next hgrants (ih htrue)

/-- After a plan that was cut nothing follows. -/
theorem append_cut (h : Follows v plan calls false) (more : List CallKind) :
    Follows v (plan ++ more) calls false := by
  generalize hfalse : false = ok at h
  induction h with
  | done => simp at hfalse
  | cut rest hgrants => exact .cut (rest ++ more) hgrants
  | next hgrants _ ih => exact .next hgrants (ih hfalse)

/-- What is asked for is the beginning of the plan. -/
theorem kinds_isPrefix (h : Follows v plan calls whole) : calls.map Call.kind <+: plan := by
  induction h with
  | done => exact List.prefix_rfl
  | cut rest _ => exact ⟨rest, rfl⟩
  | next _ _ ih => exact List.prefix_cons_inj _ |>.mpr ih

/-- Nothing is asked for that is not in the plan. -/
theorem kind_mem (h : Follows v plan calls whole) {c : Call} (hc : c ∈ calls) : c.kind ∈ plan :=
  h.kinds_isPrefix.subset (List.mem_map_of_mem hc)

end Follows

/-- The transcript follows the plan, and it has an answer exactly if no call fails. -/
def Transcript.Follows {α : Type} (t : Transcript α) (v : View) (plan : List CallKind) : Prop :=
  MemWatch.Follows v plan t.calls t.result.isOk

namespace Transcript

variable {α β : Type} {v : View} {t : Transcript α} {plan more : List CallKind}

theorem Follows.bind {next : α → Transcript β} (h : t.Follows v plan)
    (hnext : ∀ a, t.result = .ok a → (next a).Follows v more) :
    (t.bind next).Follows v (plan ++ more) := by
  rcases t with ⟨calls, e | a⟩
  · exact MemWatch.Follows.append_cut h more
  · exact MemWatch.Follows.append h (hnext a rfl)

theorem Follows.map {f : α → β} (h : t.Follows v plan) : (t.map f).Follows v plan := by
  rcases t with ⟨calls, e | a⟩
  · exact h
  · exact h

end Transcript

/-! ## The plans of entries -/

/-- What finding out where an entry lies asks for. -/
def Entry.way (w : PointerWidth) (e : Entry) : List CallKind :=
  (if e.isOffset then [.base] else []) ++ List.replicate e.pointerLevels (.read w.size)

/-- What reading an entry asks for. -/
def Entry.readPlan (w : PointerWidth) (e : Entry) : List CallKind :=
  e.way w ++ [.read e.type.size]

/-- What finding out the value to write to an entry asks for: the referenced entry is read. -/
def EntrySet.valuePlan (set : EntrySet) (w : PointerWidth) (e : Entry) : List CallKind :=
  match e.reference?.bind set.get? with
  | some r => r.readPlan w
  | none => []

/-- What writing an entry asks for. -/
def EntrySet.writePlan (set : EntrySet) (w : PointerWidth) (e : Entry) : List CallKind :=
  e.way w ++ set.valuePlan w e ++ [.write e.type.size]

section Questions

variable {set : EntrySet} {w : PointerWidth} {e : Entry} {k : CallKind}

/-- Finding out where an entry lies only asks. -/
theorem Entry.isQuestion_of_mem_way (h : k ∈ e.way w) : k.isQuestion = true := by
  rw [way, List.mem_append] at h
  rcases h with hbase | hpointer
  · split at hbase
    · rw [List.mem_singleton.mp hbase]
      rfl
    · simp at hbase
  · rw [List.eq_of_mem_replicate hpointer]
    rfl

/-- Reading an entry only asks. -/
theorem Entry.isQuestion_of_mem_readPlan (h : k ∈ e.readPlan w) : k.isQuestion = true := by
  rw [readPlan, List.mem_append] at h
  rcases h with hway | hread
  · exact isQuestion_of_mem_way hway
  · rw [List.mem_singleton.mp hread]
    rfl

/-- Finding out the value to write only asks. -/
theorem EntrySet.isQuestion_of_mem_valuePlan (h : k ∈ set.valuePlan w e) :
    k.isQuestion = true := by
  unfold valuePlan at h
  split at h
  · exact Entry.isQuestion_of_mem_readPlan h
  · simp at h

/-- Before it writes, the plan of writing an entry only asks. -/
theorem EntrySet.isQuestion_of_mem_aim (h : k ∈ e.way w ++ set.valuePlan w e) :
    k.isQuestion = true :=
  (List.mem_append.mp h).elim Entry.isQuestion_of_mem_way isQuestion_of_mem_valuePlan

/-- The plan of writing an entry has one write. -/
theorem EntrySet.countP_isWrite_writePlan (set : EntrySet) (w : PointerWidth) (e : Entry) :
    (set.writePlan w e).countP CallKind.isWrite = 1 := by
  have hbefore : (e.way w ++ set.valuePlan w e).countP CallKind.isWrite = 0 := by
    rw [List.countP_eq_zero]
    intro k hk
    simp [CallKind.isWrite_of_isQuestion (isQuestion_of_mem_aim hk)]
  rw [writePlan, List.countP_append, hbefore]
  rfl

/-- No plan of writing asks whether the target still runs. -/
theorem EntrySet.alive_notMem_writePlan (set : EntrySet) (w : PointerWidth) (e : Entry) :
    .alive ∉ set.writePlan w e := by
  rw [writePlan, List.mem_append, List.mem_singleton]
  rintro (hbefore | hwrite)
  · simpa [CallKind.isQuestion] using isQuestion_of_mem_aim hbefore
  · simp at hwrite

end Questions

namespace View

variable (v : View)

theorem follows_ask (a : Address) (size : Nat) : (v.ask a size).Follows v [.read size] := by
  show Follows v [_] [_] (v.read a size).isOk
  rcases h : (v.read a size).isOk with _ | _
  · exact .cut (c := .read a size false) [] rfl
  · exact .next (c := .read a size true) rfl .done

theorem follows_follow (levels : Nat) (a : Address) :
    (v.follow levels a).Follows v (List.replicate levels (.read v.width.size)) := by
  induction levels generalizing a with
  | zero => exact .done
  | succ levels ih => exact (v.follows_ask a v.width.size).map.bind fun next _ => ih _

/-- An offset starts with the base, and any other entry with nothing. -/
theorem follows_start (e : Entry) :
    (v.start e).Follows v (if e.isOffset then [.base] else []) := by
  unfold start
  split
  · have hbase : v.askBase.Follows v [.base] := by
      show Follows v [_] [_] v.base.isOk
      rcases h : v.base.isOk with _ | _
      · exact .cut (c := .base) [] h
      · exact .next (c := .base) h .done
    exact hbase.map
  · exact .done

theorem follows_locate (e : Entry) : (v.locate e).Follows v (e.way v.width) :=
  (v.follows_start e).bind fun a _ => v.follows_follow e.pointerLevels a

theorem follows_value (type : ValueType) (a : Address) :
    (v.value type a).Follows v [.read type.size] :=
  (v.follows_ask a type.size).map

theorem follows_look (e : Entry) : (v.look e).Follows v (e.readPlan v.width) :=
  (v.follows_locate e).bind fun a _ => (v.follows_value e.type a).map

/-- Finding out the value to write follows its plan, if the referenced entry exists. -/
theorem follows_worth {set : EntrySet} {e : Entry}
    (he : ∀ id, e.reference? = some id → ∃ r, set.get? id = some r) :
    (v.worth set e).Follows v (set.valuePlan v.width e) := by
  unfold worth EntrySet.valuePlan
  rcases hvalue : e.value with _ | x | id
  · rw [show e.reference? = none by rw [Entry.reference?, hvalue]]
    exact .done
  · rw [show e.reference? = none by rw [Entry.reference?, hvalue]]
    exact .done
  · have href : e.reference? = some id := Entry.reference?_eq_some_iff.mpr hvalue
    obtain ⟨r, hr⟩ := he id href
    rw [href, Option.bind_some, hr]
    show ((v.current set id).map some).Follows v (r.readPlan v.width)
    rw [current, hr]
    exact (v.follows_look r).map.map

end View

/-! ## Turns -/

/-- The turn of an entry to be written: the entry, and the target as it is then. -/
structure Turn (σ : Type) where
  id : RefId
  entry : Entry
  target : σ

namespace EntrySet

section Targets

variable {σ : Type} [Target σ]

/-- The turns when the entries of a numbered list are written in order: each entry with a value has
one, and finds the target as the turns before left it. -/
def turnsOf (set : EntrySet) : List (RefId × Entry) → σ → List (Turn σ)
  | [], _ => []
  | (id, e) :: rest, s =>
    if e.isMonitorOnly then turnsOf set rest s
    else ⟨id, e, s⟩ :: turnsOf set rest ((set.tryWrite id e).targetOn s)

/-- The turns of a cycle. -/
def writeTurns (set : EntrySet) (s : σ) : List (Turn σ) :=
  set.turnsOf set.numbered s

/-- The target after the turns of a cycle. -/
def afterTurns (set : EntrySet) (s : σ) : σ :=
  (set.writeAll set.numbered).targetOn s

/-- Whatever the target, the entries of a list that have a value have their turns in order. -/
theorem map_turnsOf (set : EntrySet) (l : List (RefId × Entry)) (s : σ) :
    (set.turnsOf l s).map (fun t => (t.id, t.entry)) = l.filter fun p => !p.2.isMonitorOnly := by
  induction l generalizing s with
  | nil => rfl
  | cons p rest ih =>
    rcases p with ⟨id, e⟩
    rw [turnsOf, List.filter_cons]
    rcases e.isMonitorOnly with _ | _
    · simp only [Bool.false_eq_true, if_false, Bool.not_false, if_true, List.map_cons, ih]
    · simp only [if_true, Bool.not_true, Bool.false_eq_true, if_false, ih]

end Targets

/-- What the turn of an entry asks of an image and what comes of it, with the image afterwards: the
bytes are written after everything before was answered. -/
def turn (set : EntrySet) (i : Image) (e : Entry) : Transcript Unit × Image :=
  match i.view.aim set e with
  | ⟨calls, .ok (a, some x)⟩ =>
    let (result, after) := i.write a (e.type.encode x)
    (⟨calls ++ [.write a (e.type.encode x) result.isOk], result⟩, after)
  | ⟨calls, .ok (_, none)⟩ => (⟨calls, .ok ()⟩, i)
  | ⟨calls, .error err⟩ => (⟨calls, .error err⟩, i)

/-- The calls of turns. -/
def callsOf (set : EntrySet) (turns : List (Turn Image)) : List Call :=
  turns.flatMap fun t => (set.turn t.target t.entry).1.calls

variable {set : EntrySet} {i : Image} {e : Entry}

/-- What writing an entry asks and does. -/
theorem makes_writeEntry (set : EntrySet) (i : Image) (e : Entry) :
    (set.writeEntry e).Makes i (set.turn i e).1.calls (set.turn i e).1.result
      (set.turn i e).2 := by
  have hlocate : e.resolve.Asks i (i.view.locate e) := Image.asks_resolve e
  have hworth : (set.valueToWrite e).Asks i (i.view.worth set e) := Image.asks_valueToWrite set e
  unfold writeEntry turn View.aim
  generalize i.view.locate e = t at hlocate ⊢
  generalize i.view.worth set e = u at hworth ⊢
  rcases t with ⟨cs, err | a⟩
  · exact Attempt.Makes.bind_error hlocate _
  · rcases u with ⟨ds, err | _ | x⟩
    · exact Attempt.Makes.bind hlocate (Attempt.Makes.bind_error hworth _)
    · show Attempt.Makes (e.resolve >>= _) i (cs ++ ds) (.ok ()) i
      rw [← List.append_nil ds]
      exact Attempt.Makes.bind hlocate (Attempt.Makes.bind hworth (Attempt.makes_pure () i))
    · have hwrite : (writeValue e.type a x).Makes i _ _ _ :=
        Attempt.makes_operate (Target.write a (e.type.encode x)) (.write a (e.type.encode x)) i
      show Attempt.Makes (e.resolve >>= _) i (cs ++ ds ++ [_]) _ _
      rw [List.append_assoc]
      exact Attempt.Makes.bind hlocate
        (Attempt.Makes.bind hworth (Attempt.Makes.bind (Attempt.makes_note _ i) hwrite))

/-- The turn of an entry fails before it writes, or there is nothing to write, or it ends with a
write. -/
theorem turn_cases (set : EntrySet) (i : Image) (e : Entry) :
    (∃ err, (i.view.aim set e).result = .error err ∧
      set.turn i e = (⟨(i.view.aim set e).calls, .error err⟩, i)) ∨
    (∃ a, (i.view.aim set e).result = .ok (a, none) ∧
      set.turn i e = (⟨(i.view.aim set e).calls, .ok ()⟩, i)) ∨
    ∃ a x, (i.view.aim set e).result = .ok (a, some x) ∧
      set.turn i e = (⟨(i.view.aim set e).calls ++
        [.write a (e.type.encode x) (i.write a (e.type.encode x)).1.isOk],
          (i.write a (e.type.encode x)).1⟩, (i.write a (e.type.encode x)).2) := by
  unfold turn
  rcases i.view.aim set e with ⟨calls, err | ⟨a, _ | x⟩⟩
  · exact Or.inl ⟨err, rfl, rfl⟩
  · exact Or.inr (Or.inl ⟨a, rfl, rfl⟩)
  · exact Or.inr (Or.inr ⟨a, x, rfl, rfl⟩)

/-- What the write phase asks when an entry with a value has its turn. -/
theorem makes_tryWrite (id : RefId) (he : e.isMonitorOnly = false) :
    (set.tryWrite id e).Makes i (set.turn i e).1.calls () (set.turn i e).2 := by
  have hwrite : (set.writeEntry e).outcome.Makes i _ _ _ := makes_writeEntry set i e
  unfold tryWrite
  rw [he, ← List.append_nil (set.turn i e).1.calls]
  refine Action.Makes.bind hwrite ?_
  cases (set.turn i e).1.result with
  | error err => exact Action.makes_record _ _
  | ok _ => exact Action.makes_pure () _

/-- An entry without a value is passed over. -/
theorem tryWrite_of_isMonitorOnly (id : RefId) (he : e.isMonitorOnly = true) :
    set.tryWrite (σ := Image) id e = pure () := by
  unfold tryWrite
  rw [he]
  rfl

theorem turnsOf_cons_of_value (id : RefId) (rest : List (RefId × Entry))
    (he : e.isMonitorOnly = false) :
    set.turnsOf ((id, e) :: rest) i = ⟨id, e, i⟩ :: set.turnsOf rest (set.turn i e).2 := by
  rw [turnsOf, he, (makes_tryWrite id he).targetOn_eq]
  rfl

theorem turnsOf_cons_of_isMonitorOnly (id : RefId) (rest : List (RefId × Entry))
    (he : e.isMonitorOnly = true) : set.turnsOf ((id, e) :: rest) i = set.turnsOf rest i := by
  rw [turnsOf, he]
  rfl

/-- Writing entries in order asks what their turns ask. -/
theorem makes_writeAll (set : EntrySet) (l : List (RefId × Entry)) (i : Image) :
    (set.writeAll l).Makes i (set.callsOf (set.turnsOf l i)) () ((set.writeAll l).targetOn i) := by
  -- the target left is whatever is left without a history
  suffices h : ∃ after, (set.writeAll l).Makes i (set.callsOf (set.turnsOf l i)) () after by
    obtain ⟨after, hafter⟩ := h
    rwa [hafter.targetOn_eq]
  induction l generalizing i with
  | nil => exact ⟨i, Action.makes_pure () i⟩
  | cons p rest ih =>
    rcases p with ⟨id, e⟩
    rcases he : e.isMonitorOnly with _ | _
    · rw [turnsOf_cons_of_value id rest he]
      obtain ⟨after, hrest⟩ := ih (set.turn i e).2
      exact ⟨after, Action.Makes.bind (makes_tryWrite id he) hrest⟩
    · rw [turnsOf_cons_of_isMonitorOnly id rest he]
      obtain ⟨after, hrest⟩ := ih i
      refine ⟨after, ?_⟩
      show Action.Makes (set.tryWrite id e >>= _) i _ () after
      rw [tryWrite_of_isMonitorOnly id he]
      exact Action.Makes.bind (Action.makes_pure () i) hrest

theorem targetOn_writeAll_cons_of_value (id : RefId) (rest : List (RefId × Entry))
    (he : e.isMonitorOnly = false) :
    (set.writeAll ((id, e) :: rest)).targetOn i =
      (set.writeAll rest).targetOn (set.turn i e).2 :=
  (Action.Makes.bind (makes_tryWrite id he) (makes_writeAll set rest _)).targetOn_eq

theorem targetOn_writeAll_cons_of_isMonitorOnly (id : RefId) (rest : List (RefId × Entry))
    (he : e.isMonitorOnly = true) :
    (set.writeAll ((id, e) :: rest)).targetOn i = (set.writeAll rest).targetOn i := by
  show Action.targetOn (set.tryWrite id e >>= _) i = _
  rw [tryWrite_of_isMonitorOnly id he]
  rfl

/-- What reading one entry in a cycle asks and gives. -/
theorem makes_tryRead (id : RefId) (e : Entry) (i : Image) :
    (tryRead id e).Makes i (i.view.look e).calls ⟨id, e, (i.view.look e).result⟩ i := by
  have hread : e.read.outcome.Makes i _ _ i := Image.asks_read e
  unfold tryRead
  rw [← List.append_nil (i.view.look e).calls]
  refine Action.Makes.bind hread ?_
  cases (i.view.look e).result with
  | error err => exact Action.Makes.bind (Action.makes_record _ i) (Action.makes_pure _ i)
  | ok _ => exact Action.makes_pure _ i

/-- Reading entries in order asks what looking at each of them asks. -/
theorem makes_readAll (l : List (RefId × Entry)) (i : Image) :
    (readAll l).Makes i (l.flatMap fun p => (i.view.look p.2).calls)
      (l.map fun p => ⟨p.1, p.2, (i.view.look p.2).result⟩) i := by
  induction l with
  | nil => exact Action.makes_pure [] i
  | cons p rest ih =>
    rcases p with ⟨id, e⟩
    rw [List.flatMap_cons, ← List.append_nil (rest.flatMap _)]
    exact Action.Makes.bind (makes_tryRead id e i)
      (Action.Makes.bind ih (Action.makes_pure _ i))

/-- The calls of the write phase of a cycle. -/
def writeCalls (set : EntrySet) (i : Image) : List Call :=
  set.callsOf (set.writeTurns i)

/-- The calls of the read phase of a cycle. -/
def readCalls (set : EntrySet) (i : Image) : List Call :=
  set.numbered.flatMap fun p => ((set.afterTurns i).view.look p.2).calls

/-- The readings of a cycle. -/
def lookAll (set : EntrySet) (i : Image) : List Reading :=
  set.numbered.map fun p => ⟨p.1, p.2, ((set.afterTurns i).view.look p.2).result⟩

theorem makes_cycle (set : EntrySet) (i : Image) :
    set.cycle.Makes i (set.writeCalls i ++ set.readCalls i) (set.lookAll i) (set.afterTurns i) :=
  Action.Makes.bind (makes_writeAll set set.numbered i) (makes_readAll set.numbered _)

/-! ## Turns and plans -/

/-- A reference of an entry of the set names an entry of the set. -/
theorem exists_get?_of_reference? {id r : RefId} (hget : set.get? id = some e)
    (href : e.reference? = some r) : ∃ t, set.get? r = some t := by
  have hrange := (defect?_eq_none_iff.mp set.sound).1 id r ⟨e, hget, href⟩
  rw [val_eq_index_succ] at hrange
  exact ⟨set.toList[r.index], List.getElem?_eq_getElem hrange⟩

/-- Aiming at an entry of the set follows the plan of writing it up to the write. -/
theorem follows_aim {id : RefId} (hget : set.get? id = some e) (v : View) :
    (v.aim set e).Follows v (e.way v.width ++ set.valuePlan v.width e) := by
  have hworth : (v.worth set e).Follows v (set.valuePlan v.width e) :=
    v.follows_worth fun r href => exists_get?_of_reference? hget href
  exact (v.follows_locate e).bind fun a _ => hworth.map

/-- What is aimed at is where the entry lies, with the value to write there. -/
theorem result_aim {v : View} {a : Address} {x : Option Int64}
    (h : (v.aim set e).result = .ok (a, x)) :
    (v.locate e).result = .ok a ∧ (v.worth set e).result = .ok x := by
  obtain ⟨b, hlocate, hrest⟩ := Transcript.result_bind_eq_ok.mp h
  obtain ⟨y, hworth, hpair⟩ := Transcript.result_map_eq_ok.mp hrest
  obtain ⟨rfl, rfl⟩ := Prod.mk.inj hpair
  exact ⟨hlocate, hworth⟩

/-- For an entry with a value there is something to write. -/
theorem result_worth_ne_none {v : View} (he : e.isMonitorOnly = false) :
    (v.worth set e).result ≠ .ok none := by
  unfold View.worth
  rcases hvalue : e.value with _ | x | id
  · simp [Entry.isMonitorOnly, hvalue] at he
  · simp [Transcript.answer]
  · intro hnone
    obtain ⟨x, -, hx⟩ := Transcript.result_map_eq_ok.mp hnone
    simp at hx

/-- The turn of an entry of the set follows the plan of writing it. -/
theorem follows_turn {id : RefId} (hget : set.get? id = some e) (he : e.isMonitorOnly = false) :
    (set.turn i e).1.Follows i.view (set.writePlan i.width e) := by
  have haim := follows_aim hget i.view
  unfold Transcript.Follows at haim
  rcases set.turn_cases i e with ⟨err, hresult, hturn⟩ | ⟨a, hresult, -⟩ | ⟨a, x, hresult, hturn⟩
  · rw [hresult] at haim
    rw [hturn]
    exact haim.append_cut _
  · -- an entry with a value always has something to write
    exact absurd (result_aim hresult).2 (result_worth_ne_none he)
  · rw [hresult] at haim
    rw [hturn]
    refine haim.append ?_
    show Follows i.view [.write e.type.size] _ _
    rw [← ValueType.length_encode e.type x]
    rcases (i.write a (e.type.encode x)).1 with err | _
    · exact .cut (c := .write a (e.type.encode x) false) [] rfl
    · exact .next (c := .write a (e.type.encode x) true) rfl .done

/-- The only write in the turn of an entry of the set is the one of its value where it lies. -/
theorem write_of_mem_turn {id : RefId} (hget : set.get? id = some e) {a : Address} {bytes : Bytes}
    {ok : Bool} (h : .write a bytes ok ∈ (set.turn i e).1.calls) :
    (i.view.locate e).result = .ok a ∧
      ∃ x, (i.view.worth set e).result = .ok (some x) ∧ bytes = e.type.encode x := by
  -- before the last call the turn only asks
  have hasks : Call.write a bytes ok ∉ (i.view.aim set e).calls := by
    intro hmem
    have hkind := isQuestion_of_mem_aim ((follows_aim hget i.view).kind_mem hmem)
    simp [Call.kind, CallKind.isQuestion] at hkind
  rcases set.turn_cases i e with ⟨err, -, hturn⟩ | ⟨b, -, hturn⟩ | ⟨b, x, hresult, hturn⟩
  · rw [hturn] at h
    exact absurd h hasks
  · rw [hturn] at h
    exact absurd h hasks
  · rw [hturn, List.mem_append, List.mem_singleton] at h
    rcases h with hmem | hwrite
    · exact absurd hmem hasks
    · obtain ⟨rfl, rfl, -⟩ := Call.write.inj hwrite
      obtain ⟨hlocate, hworth⟩ := result_aim hresult
      exact ⟨hlocate, x, hworth, rfl⟩

/-- In one turn there is one write at most. -/
theorem countP_isWrite_turn_le {id : RefId} (hget : set.get? id = some e)
    (he : e.isMonitorOnly = false) :
    (set.turn i e).1.calls.countP (fun c => c.kind.isWrite) ≤ 1 := by
  have hprefix := (follows_turn (i := i) hget he).kinds_isPrefix
  have hcount := hprefix.sublist.countP_le (p := CallKind.isWrite)
  rw [List.countP_map, countP_isWrite_writePlan] at hcount
  exact hcount

/-- An entry that has a turn is an entry of the set with a value. -/
theorem of_mem_writeTurns {σ : Type} [Target σ] {s : σ} {t : Turn σ} (h : t ∈ set.writeTurns s) :
    set.get? t.id = some t.entry ∧ t.entry.isMonitorOnly = false := by
  have hmem : (t.id, t.entry) ∈ set.numbered.filter fun p => !p.2.isMonitorOnly := by
    rw [← set.map_turnsOf set.numbered s]
    exact List.mem_map_of_mem h
  obtain ⟨hnumbered, hvalue⟩ := List.mem_filter.mp hmem
  exact ⟨mem_number.mp hnumbered, by simpa using hvalue⟩

/-! ## The calls of a cycle -/

/-- The read phase only asks. -/
theorem isQuestion_of_mem_readCalls {c : Call} (h : c ∈ set.readCalls i) :
    c.kind.isQuestion = true := by
  obtain ⟨p, -, hc⟩ := List.mem_flatMap.mp h
  exact Entry.isQuestion_of_mem_readPlan ((View.follows_look _ p.2).kind_mem hc)

/-- A cycle never asks whether the target still runs. -/
theorem alive_notMem_cycle (set : EntrySet) (i : Image) :
    .alive ∉ set.writeCalls i ++ set.readCalls i := by
  rw [List.mem_append]
  rintro (hwrite | hread)
  · obtain ⟨t, ht, hc⟩ := List.mem_flatMap.mp hwrite
    obtain ⟨hget, hvalue⟩ := of_mem_writeTurns ht
    exact set.alive_notMem_writePlan _ _ ((follows_turn hget hvalue).kind_mem hc)
  · simpa [Call.kind, CallKind.isQuestion] using isQuestion_of_mem_readCalls hread

/-- The write phase makes the calls of writing the entries that have a turn. -/
theorem writeCalls_eq (set : EntrySet) (i : Image) :
    set.writeCalls i =
      (set.writeTurns i).flatMap fun t => (set.tryWrite t.id t.entry).callsOn t.target := by
  refine List.flatMap_congr fun t ht => ?_
  exact (makes_tryWrite t.id (of_mem_writeTurns ht).2).callsOn_eq.symm

/-- The read phase makes the calls of reading every entry. -/
theorem readCalls_eq (set : EntrySet) (i : Image) :
    set.readCalls i =
      set.numbered.flatMap fun p => (tryRead p.1 p.2).callsOn (set.afterTurns i) :=
  List.flatMap_congr fun p _ => (makes_tryRead p.1 p.2 _).callsOn_eq.symm

/-- What an entry reads as is what looking at it gives. -/
theorem valueOn_read (e : Entry) (i : Image) :
    e.read.outcome.valueOn i = (i.view.look e).result :=
  Action.Makes.valueOn_eq (Image.asks_read e)

/-- The calls of writing an entry of the set follow its plan, and none fails exactly if the write
succeeds. -/
theorem follows_tryWrite {id : RefId} (hget : set.get? id = some e)
    (he : e.isMonitorOnly = false) (i : Image) :
    Follows i.view (set.writePlan i.width e) ((set.tryWrite id e).callsOn i)
      ((set.writeEntry e).outcome.valueOn i).isOk := by
  rw [(makes_tryWrite id he).callsOn_eq, Action.Makes.valueOn_eq (makes_writeEntry set i e)]
  exact follows_turn hget he

/-- The calls of reading an entry follow its plan, and none fails exactly if the entry can be
read. -/
theorem follows_tryRead (id : RefId) (e : Entry) (i : Image) :
    Follows i.view (e.readPlan i.width) ((tryRead id e).callsOn i)
      (e.read.outcome.valueOn i).isOk := by
  rw [(makes_tryRead id e i).callsOn_eq, valueOn_read]
  exact i.view.follows_look e

/-- What is written to an entry of the set is its value, to where it is resolved to. -/
theorem write_of_mem_tryWrite {id : RefId} (hget : set.get? id = some e)
    (he : e.isMonitorOnly = false) {a : Address} {bytes : Bytes} {ok : Bool}
    (h : .write a bytes ok ∈ (set.tryWrite id e).callsOn i) :
    e.resolve.outcome.valueOn i = .ok a ∧
      ∃ x, (set.valueToWrite e).outcome.valueOn i = .ok (some x) ∧ bytes = e.type.encode x := by
  have hresolve : e.resolve.outcome.valueOn i = (i.view.locate e).result :=
    Action.Makes.valueOn_eq (Image.asks_resolve e)
  have hvalue : (set.valueToWrite e).outcome.valueOn i = (i.view.worth set e).result :=
    Action.Makes.valueOn_eq (Image.asks_valueToWrite set e)
  rw [(makes_tryWrite id he).callsOn_eq] at h
  rw [hresolve, hvalue]
  exact write_of_mem_turn hget h

/-- **Calls.**  A cycle makes the calls of writing the entries with a value, in the order of their
ids and each on what the ones before left, and then those of reading every entry; nothing else.
Writing and reading an entry follow their plans up to the first call that fails.  An entry is
written once at most, with its value and where it was resolved to; the read phase never writes, and
nothing asks whether the target still runs.  The readings are what the reads gave. -/
theorem cycle_calls_as_planned (set : EntrySet) (s : Scene Image) :
    let after := set.afterTurns s.target
    (set.cycle s).2.calls.toList = s.calls.toList ++
      ((set.writeTurns s.target).flatMap fun t => (set.tryWrite t.id t.entry).callsOn t.target) ++
      (set.numbered.flatMap fun p => (tryRead p.1 p.2).callsOn after) ∧
    (set.writeTurns s.target).map (fun t => (t.id, t.entry)) =
      set.numbered.filter (fun p => !p.2.isMonitorOnly) ∧
    set.numbered.Pairwise (fun p q => p.1.val < q.1.val) ∧
    (∀ t ∈ set.writeTurns s.target,
      Follows t.target.view (set.writePlan t.target.width t.entry)
        ((set.tryWrite t.id t.entry).callsOn t.target)
        ((set.writeEntry t.entry).outcome.valueOn t.target).isOk ∧
      ((set.tryWrite t.id t.entry).callsOn t.target).countP (fun c => c.kind.isWrite) ≤ 1 ∧
      .alive ∉ (set.tryWrite t.id t.entry).callsOn t.target ∧
      ∀ a bytes ok, .write a bytes ok ∈ (set.tryWrite t.id t.entry).callsOn t.target →
        t.entry.resolve.outcome.valueOn t.target = .ok a ∧
        ∃ x, (set.valueToWrite t.entry).outcome.valueOn t.target = .ok (some x) ∧
          bytes = t.entry.type.encode x) ∧
    (∀ p ∈ set.numbered,
      Follows after.view (p.2.readPlan after.width) ((tryRead p.1 p.2).callsOn after)
        (p.2.read.outcome.valueOn after).isOk ∧
      ∀ c ∈ (tryRead p.1 p.2).callsOn after, c.kind.isQuestion = true) ∧
    (set.cycle s).1 = (set.numbered.map fun p => ⟨p.1, p.2, p.2.read.outcome.valueOn after⟩) := by
  intro after
  have hcycle := set.makes_cycle s.target
  refine ⟨?_, set.map_turnsOf _ _, pairwise_number _, ?_, ?_, ?_⟩
  · rw [hcycle.calls s rfl, writeCalls_eq, readCalls_eq, List.append_assoc]
  · intro t ht
    obtain ⟨hget, hvalue⟩ := of_mem_writeTurns ht
    have hplan := follows_tryWrite hget hvalue t.target
    refine ⟨hplan, ?_, fun halive => ?_, fun a bytes ok => write_of_mem_tryWrite hget hvalue⟩
    · rw [(makes_tryWrite t.id hvalue).callsOn_eq]
      exact countP_isWrite_turn_le hget hvalue
    · exact set.alive_notMem_writePlan _ _ (hplan.kind_mem halive)
  · intro p _
    have hplan := follows_tryRead p.1 p.2 after
    exact ⟨hplan, fun c hc => Entry.isQuestion_of_mem_readPlan (hplan.kind_mem hc)⟩
  · rw [(hcycle.yields s rfl).1, lookAll]
    exact List.map_congr_left fun p _ => by rw [valueOn_read]

end EntrySet

end MemWatch
