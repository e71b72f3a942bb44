/-
# Values to write

What is to be written to an entry at the moment.  The value of a referenced entry is read from the
target when it is needed, so it is always the value that the memory holds right then.
-/
import MemWatch.Entry.Resolve
import MemWatch.EntrySet.Basic

namespace MemWatch.EntrySet

variable {σ : Type} [Target σ]

/-- The value that the entry with the given id has at the moment. -/
def currentValue (set : EntrySet) (id : RefId) : Attempt σ Int64 :=
  match set.get? id with
  | none => throw (.referenceOutOfRange id id set.size)
  | some e => do
    let (_, v) ← e.read
    return v

/-- The value to write to an entry; there is none if it is only monitored. -/
def valueToWrite (set : EntrySet) (e : Entry) : Attempt σ (Option Int64) :=
  match e.value with
  | none => return none
  | some (.literal v) => return some v
  | some (.reference id) => do
    let v ← set.currentValue id
    note (.debug ("reference " ++ id.text ++ " has the value " ++ Numeral.signed v.toInt))
    return some v

end MemWatch.EntrySet
