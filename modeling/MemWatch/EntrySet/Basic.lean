/-
# Entry sets

The entries of one watch, in the order in which they were given.  A list of entries makes a set if
every reference names an entry of the list and following references never comes back to an entry
already passed.

References are followed along a trail.  Every entry that is passed gets marked, so the entries
without a mark get fewer with every step, and a trail has at most as many ids as there are entries.
-/
import MemWatch.Error

namespace MemWatch

namespace EntrySet

/-! ## References in a list of entries -/

/-- The ids of the entries of a list. -/
def ids (entries : List Entry) : List RefId :=
  (List.range entries.length).map RefId.ofIndex

/-- The entries of a list with their ids. -/
def number (entries : List Entry) : List (RefId × Entry) :=
  entries.zipIdx.map fun (e, index) => (RefId.ofIndex index, e)

/-- What each entry of a list takes its value from, if that is another entry. -/
def references (entries : List Entry) : Array (Option RefId) :=
  (entries.map Entry.reference?).toArray

/-- The id that the entry with the given id takes its value from. -/
def next? (refs : Array (Option RefId)) (id : RefId) : Option RefId :=
  refs[id.index]?.join

/-! ## Trails -/

/-- The ids passed when following references, and whether the last of them leads back to an entry
that was passed before. -/
structure Trail where
  passed : List RefId
  closed : Bool
deriving DecidableEq, Repr

/-- The trail with one more id in front. -/
def Trail.cons (id : RefId) (t : Trail) : Trail :=
  ⟨id :: t.passed, t.closed⟩

/-- Marking an entry leaves fewer entries without a mark. -/
theorem count_mark_lt {marks : Array Bool} {i : Nat} (h : i < marks.size)
    (hfree : marks[i] = false) : (marks.set i true).count false < marks.count false := by
  have hpos : 0 < marks.count false :=
    Array.count_pos_iff.2 (hfree ▸ Array.getElem_mem h)
  have hold : (marks[i] == false) = true := by rw [hfree]; rfl
  have hnew : (true == false) = false := rfl
  rw [Array.count_set h, if_pos hold, hnew, if_neg Bool.false_ne_true]
  omega

/-- Follows references from an entry; the entries passed so far, this one included, are marked. -/
def trailFrom (refs : Array (Option RefId)) (marks : Array Bool) (id : RefId) : Trail :=
  match next? refs id with
  | none => ⟨[id], false⟩
  | some target =>
    if h : target.index < marks.size then
      if hmark : marks[target.index] then ⟨[id], true⟩
      else (trailFrom refs (marks.set target.index true) target).cons id
    else ⟨[id], false⟩
termination_by marks.count false
decreasing_by exact count_mark_lt h (Bool.eq_false_iff.2 hmark)

/-- The marks at the start of a trail: that of its first entry only. -/
def firstMark (size : Nat) (id : RefId) : Array Bool :=
  (Array.replicate size false).setIfInBounds id.index true

/-- The trail that starts at an entry. -/
def trail (refs : Array (Option RefId)) (id : RefId) : Trail :=
  trailFrom refs (firstMark refs.size id) id

/-! ## Acceptance -/

/-- The id of an entry and its reference, if that names none of `count` entries. -/
def outOfRange? (count : Nat) : RefId × Entry → Option (RefId × RefId)
  | (id, e) =>
    match e.reference? with
    | some target => if target.index < count then none else some (id, target)
    | none => none

/-- The first entry whose reference names none of `count` entries, and that reference. -/
def firstOutOfRange? (count : Nat) (numbered : List (RefId × Entry)) : Option (RefId × RefId) :=
  numbered.findSome? (outOfRange? count)

/-- The first of some entries whose trail leads back to an entry it passed. -/
def firstClosed? (refs : Array (Option RefId)) (ids : List RefId) : Option RefId :=
  ids.find? fun id => (trail refs id).closed

/-- The reason why a list of entries is no entry set, if there is one. -/
def defect? (entries : List Entry) : Option Error :=
  match firstOutOfRange? entries.length (number entries) with
  | some (id, target) => some (.referenceOutOfRange id target entries.length)
  | none => (firstClosed? (references entries) (ids entries)).map .referenceCycle

end EntrySet

/-- The entries of one watch. -/
structure EntrySet where
  toList : List Entry
  sound : EntrySet.defect? toList = none

namespace EntrySet

/-- The set without entries. -/
def empty : EntrySet :=
  ⟨[], rfl⟩

/-- The set of a list of entries. -/
def ofList (entries : List Entry) : Except Error EntrySet :=
  match h : defect? entries with
  | none => .ok ⟨entries, h⟩
  | some e => .error e

/-! ## Looking entries up -/

/-- The number of entries. -/
def size (set : EntrySet) : Nat :=
  set.toList.length

/-- There are no entries. -/
def isEmpty (set : EntrySet) : Bool :=
  set.toList.isEmpty

/-- The entry with the given id. -/
def get? (set : EntrySet) (id : RefId) : Option Entry :=
  set.toList[id.index]?

/-- All entries with their ids. -/
def numbered (set : EntrySet) : List (RefId × Entry) :=
  number set.toList

/-! ## Reading address expressions -/

/-- Reads every token as an entry; the first token that is none decides the error. -/
def parseEntries : List String → Except Error (List Entry)
  | [] => .ok []
  | token :: rest =>
    match Entry.parse token with
    | .error e => .error (.parse token e)
    | .ok entry => (parseEntries rest).map (entry :: ·)

/-- Reads every token as an entry, and makes a set of the entries. -/
def parse (tokens : List String) : Except Error EntrySet :=
  (parseEntries tokens).bind ofList

/-- The diagnostics of reading the tokens, up to the first one that is no entry. -/
def tokenNotes : List String → List LogRecord
  | [] => []
  | token :: rest =>
    Entry.parseNotes token ++ if (Entry.parse token).isOk then tokenNotes rest else []

/-- The diagnostics of reading an entry set. -/
def parseNotes (tokens : List String) : List LogRecord :=
  tokenNotes tokens ++
    match parseEntries tokens with
    | .ok entries =>
      [.debug ("processing done, found " ++ Numeral.decimal entries.length ++ " addresses")]
    | .error _ => []

end EntrySet

end MemWatch
