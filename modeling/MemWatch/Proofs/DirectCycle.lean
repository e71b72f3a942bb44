/-
# Cycles without pointers

Entries that are no pointers have a fixed place in an image whose base is fixed.  If no access to
the image is made to fail, a cycle over such entries comes down to a function on the memory: one
pass of writes, each of which either stores a value or does nothing, and one look at the result.
-/
import MemWatch.Proofs.References
import MemWatch.Proofs.TypedAccess

namespace MemWatch

/-! ## Places -/

namespace Entry

variable (w : PointerWidth) (base : Address) (m : Memory) (e : Entry)

/-- Where an entry without pointers lies in a target with the given pointers and base. -/
def place : Address :=
  if e.isOffset then w.add (w.truncate e.address) base else w.truncate e.address

/-- The value that memory holds in the place of an entry, if all of it is mapped. -/
def held? : Option Int64 :=
  (m.load? (e.place w base) e.type.size).map e.type.decode

/-- What reading the entry gives. -/
def look : Except Error (Address × Int64) :=
  match e.held? w base m with
  | some v => .ok (e.place w base, v)
  | none => .error (.readUnderflow (e.place w base))

/-- The memory with a value in the place of the entry, or as it was if not all of it is mapped. -/
def put (v : Int64) : Memory :=
  (m.write? (e.place w base) (e.type.encode v)).getD m

end Entry

/-! ## A pass of writes -/

namespace EntrySet

variable (w : PointerWidth) (base : Address) (set : EntrySet)

/-- The value to write to an entry, if it has one and that can be found. -/
def valueIn? (m : Memory) (e : Entry) : Option Int64 :=
  match e.value with
  | none => none
  | some (.literal v) => some v
  | some (.reference id) => (set.get? id).bind (Entry.held? w base m)

/-- The memory after the turn of one entry to be written. -/
def written (m : Memory) (e : Entry) : Memory :=
  match set.valueIn? w base m e with
  | none => m
  | some v => e.put w base m v

/-- The memory after all entries were written in order. -/
def pass (m : Memory) : Memory :=
  set.numbered.foldl (fun m p => set.written w base m p.2) m

/-- The readings that memory gives. -/
def readings (m : Memory) : List Reading :=
  set.numbered.map fun (id, e) => ⟨id, e, e.look w base m⟩

/-- No entry leads through a pointer. -/
def IsDirect : Prop :=
  ∀ id e, set.get? id = some e → e.pointerLevels = 0

/-- The turn of an entry without a value changes nothing. -/
theorem written_of_value_eq_none {m : Memory} {e : Entry} (h : e.value = none) :
    set.written w base m e = m := by
  simp only [written, valueIn?, h]

theorem number_concat (entries : List Entry) (e : Entry) :
    number (entries ++ [e]) = number entries ++ [(RefId.ofIndex entries.length, e)] := by
  rw [number, List.zipIdx_append, List.map_append]
  simp [number]

/-- Whatever holds before the first entry and is kept by every turn holds after a pass, in terms of
the number of entries that had their turn. -/
theorem pass_induction {motive : Nat → Memory → Prop} {m : Memory} (hstart : motive 0 m)
    (hturn : ∀ id e m, set.get? id = some e → motive id.index m →
      motive (id.index + 1) (set.written w base m e)) :
    motive set.size (set.pass w base m) := by
  have hprefix : ∀ p ≤ set.size, motive p
      ((number (set.toList.take p)).foldl (fun m q => set.written w base m q.2) m) := by
    intro p hp
    -- induction on the number of entries that had their turn
    induction p with
    | zero => exact hstart
    | succ p ih =>
      have hlength : (set.toList.take p).length = p :=
        List.length_take_of_le (Nat.le_of_succ_le hp)
      have hget : set.get? (RefId.ofIndex p) = some set.toList[p] := List.getElem?_eq_getElem hp
      rw [List.take_succ_eq_append_getElem hp, number_concat, hlength, List.foldl_append]
      exact hturn _ _ _ hget (ih (by omega))
  have hall := hprefix set.size (Nat.le_refl _)
  rwa [size, List.take_length] at hall

end EntrySet

/-! ## Images that answer -/

/-- No access to the image is made to fail, and its base is known. -/
structure Image.Answers (i : Image) (base : Address) : Prop where
  faultless : i.faults = []
  base_eq : i.base = .ok base

namespace Image

variable {i : Image} {base : Address} {e : Entry}

theorem Answers.withMemory (h : i.Answers base) (m : Memory) :
    Answers { i with memory := m } base :=
  ⟨h.faultless, h.base_eq⟩

theorem Answers.faultAt? (h : i.Answers base) (kind : AccessKind) (a : Address) :
    i.faultAt? kind a = none :=
  faultAt?_of_faults h.faultless kind a

/-- Reading a mapped range gives its bytes. -/
theorem Answers.read_of_load? (h : i.Answers base) {a : Address} {size : Nat} {bytes : Bytes}
    (hload : i.memory.load? a size = some bytes) :
    Target.read a size i = (.ok bytes, i) :=
  congrArg (·, i) (Image.read_of_load? h.faultless hload)

/-- Reading a range that is not mapped as a whole fails. -/
theorem Answers.read_of_load?_eq_none (h : i.Answers base) {a : Address} {size : Nat}
    (hload : i.memory.load? a size = none) :
    Target.read a size i = (.error (.readUnderflow a), i) := by
  show (i.read a size, i) = _
  simp only [Image.read, h.faultAt?, hload]

theorem Answers.write (h : i.Answers base) (a : Address) (bytes : Bytes) :
    (i.write a bytes).2 = { i with memory := (i.memory.write? a bytes).getD i.memory } := by
  rw [Image.write, h.faultAt?]
  cases i.memory.write? a bytes <;> rfl

/-- An entry without pointers resolves to its place. -/
theorem Answers.resolve (h : i.Answers base) (he : e.pointerLevels = 0) :
    e.resolve.Gives i (.ok (e.place i.width base)) i := by
  have hstart : e.start.Gives i (.ok (e.place i.width base)) i := by
    refine (Attempt.gives_pointerWidth i).bind ?_
    show Attempt.Gives (if e.isOffset then _ else _) i _ i
    unfold Entry.place
    split
    · have hbase : Attempt.Gives mainModuleBase i (.ok base) i := by
        have hcall := Attempt.gives_operate Target.base (fun _ => .base) i
        rwa [show Target.base i = (i.base, i) from rfl, h.base_eq] at hcall
      exact hbase.bind ((Attempt.gives_note _ i).bind (Attempt.gives_pure _ i))
    · exact Attempt.gives_pure _ i
  refine hstart.bind ?_
  rw [he]
  exact Attempt.gives_pure _ i

/-- Reading an entry without pointers is a look at the memory. -/
theorem Answers.readEntry (h : i.Answers base) (he : e.pointerLevels = 0) :
    e.read.Gives i (e.look i.width base i.memory) i := by
  refine (h.resolve he).bind ((Attempt.gives_note _ i).bind ?_)
  unfold Entry.look Entry.held?
  rcases hload : i.memory.load? (e.place i.width base) e.type.size with _ | bytes
  · exact (Attempt.gives_readValue_error (h.read_of_load?_eq_none hload)).bind_error _
  · exact (Attempt.gives_readValue (h.read_of_load? hload)).bind (Attempt.gives_pure _ i)

end Image

/-! ## Cycles over images that answer -/

namespace EntrySet

variable {set : EntrySet} {i : Image} {base : Address} {e : Entry}

/-- The value of an entry is the one that memory holds, and finding it fails if there is none. -/
theorem exists_gives_currentValue (hdirect : set.IsDirect) (hi : i.Answers base) (id : RefId) :
    ∃ r, (set.currentValue id).Gives i r i ∧
      r.toOption = (set.get? id).bind (Entry.held? i.width base i.memory) := by
  unfold currentValue
  rcases hget : set.get? id with _ | e
  · exact ⟨_, Action.yields_pure _ i, rfl⟩
  · have hread := hi.readEntry (hdirect id e hget)
    rw [Option.bind_some]
    unfold Entry.look at hread
    rcases hheld : e.held? i.width base i.memory with _ | v
    · rw [hheld] at hread
      exact ⟨_, hread.bind_error _, rfl⟩
    · rw [hheld] at hread
      exact ⟨_, hread.bind (Attempt.gives_pure v i), rfl⟩

/-- The value to write is found in memory, and it is none if finding it fails. -/
theorem exists_gives_valueToWrite (hdirect : set.IsDirect) (hi : i.Answers base) (e : Entry) :
    ∃ r, (set.valueToWrite e).Gives i r i ∧
      r.toOption.join = set.valueIn? i.width base i.memory e := by
  unfold valueToWrite valueIn?
  rcases e.value with _ | v | id
  · exact ⟨_, Attempt.gives_pure _ i, rfl⟩
  · exact ⟨_, Attempt.gives_pure _ i, rfl⟩
  · obtain ⟨r, hcurrent, hr⟩ := exists_gives_currentValue hdirect hi id
    show ∃ r, _ ∧ _ = (set.get? id).bind (Entry.held? i.width base i.memory)
    rw [← hr]
    cases r with
    | error err => exact ⟨_, hcurrent.bind_error _, rfl⟩
    | ok v =>
      exact ⟨_, hcurrent.bind ((Attempt.gives_note _ i).bind (Attempt.gives_pure _ i)), rfl⟩

/-- Writing an entry puts the value there that is found in memory. -/
theorem exists_gives_writeEntry (hdirect : set.IsDirect) (hi : i.Answers base)
    (he : e.pointerLevels = 0) :
    ∃ r, (set.writeEntry e).Gives i r
      { i with memory := set.written i.width base i.memory e } := by
  obtain ⟨r, hvalue, hr⟩ := exists_gives_valueToWrite hdirect hi e
  have hplace := hi.resolve he
  unfold writeEntry written
  rw [← hr]
  rcases r with err | _ | v
  · exact ⟨_, hplace.bind (hvalue.bind_error _)⟩
  · exact ⟨_, hplace.bind (hvalue.bind (Attempt.gives_pure () i))⟩
  · have hwrite := Attempt.gives_writeValue e.type (e.place i.width base) v i
    rw [show Target.write (e.place i.width base) (e.type.encode v) i = i.write _ _ from rfl,
      hi.write] at hwrite
    exact ⟨_, hplace.bind (hvalue.bind ((Attempt.gives_note _ i).bind hwrite))⟩

/-- The turn of an entry ends well whether or not its value could be written. -/
theorem yields_tryWrite (hdirect : set.IsDirect) (hi : i.Answers base) (id : RefId)
    (he : e.pointerLevels = 0) :
    (set.tryWrite id e).Yields i () { i with memory := set.written i.width base i.memory e } := by
  unfold tryWrite
  split
  · rename_i hmonitor
    have hvalue : e.value = none := by simpa [Entry.isMonitorOnly] using hmonitor
    rw [written_of_value_eq_none _ _ _ hvalue]
    exact Action.yields_pure () i
  · obtain ⟨r, hwrite⟩ := exists_gives_writeEntry hdirect hi he
    refine Action.Yields.bind hwrite ?_
    cases r with
    | error err => exact Action.yields_record _ _
    | ok _ => exact Action.yields_pure () _

/-- Writing entries in order gives every entry its turn. -/
theorem yields_writeAll (hdirect : set.IsDirect) (hi : i.Answers base)
    {l : List (RefId × Entry)} (hl : ∀ p ∈ l, p.2.pointerLevels = 0) :
    (set.writeAll l).Yields i ()
      { i with memory := l.foldl (fun m p => set.written i.width base m p.2) i.memory } := by
  induction l generalizing i with
  | nil => exact Action.yields_pure () i
  | cons p rest ih =>
    have hturn := yields_tryWrite hdirect hi p.1 (hl p List.mem_cons_self)
    -- the other turns start from the memory that this one left
    refine Action.Yields.bind hturn ?_
    exact ih (hi.withMemory _) fun q hq => hl q (List.mem_cons_of_mem p hq)

/-- Reading entries in order is a look at the memory for each of them. -/
theorem yields_readAll (hi : i.Answers base) {l : List (RefId × Entry)}
    (hl : ∀ p ∈ l, p.2.pointerLevels = 0) :
    (readAll l).Yields i (l.map fun (id, e) => ⟨id, e, e.look i.width base i.memory⟩) i := by
  induction l with
  | nil => exact Action.yields_pure [] i
  | cons p rest ih =>
    have hrest := ih fun q hq => hl q (List.mem_cons_of_mem p hq)
    have hread := hi.readEntry (hl p List.mem_cons_self)
    have hturn : (tryRead p.1 p.2).Yields i ⟨p.1, p.2, p.2.look i.width base i.memory⟩ i := by
      refine Action.Yields.bind hread ?_
      generalize p.2.look i.width base i.memory = r
      cases r with
      | error err => exact (Action.yields_record _ i).bind (Action.yields_pure _ i)
      | ok _ => exact Action.yields_pure _ i
    exact Action.Yields.bind hturn (Action.Yields.bind hrest (Action.yields_pure _ i))

/-- **Cycles.**  Over an image that answers, a cycle is one pass of writes and one look at the
memory that they leave. -/
theorem yields_cycle (hdirect : set.IsDirect) (hi : i.Answers base) :
    set.cycle.Yields i (set.readings i.width base (set.pass i.width base i.memory))
      { i with memory := set.pass i.width base i.memory } := by
  have hl : ∀ p ∈ set.numbered, p.2.pointerLevels = 0 :=
    fun p hp => hdirect p.1 p.2 (mem_number.mp hp)
  exact Action.Yields.bind (yields_writeAll hdirect hi hl) (yields_readAll (hi.withMemory _) hl)

end EntrySet

end MemWatch
