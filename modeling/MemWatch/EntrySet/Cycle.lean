/-
# Cycles

One cycle first writes every entry that has a value, in order, and then reads every entry back.  A
failure concerns its own entry only: it is noted, and the cycle goes on with the next one.
-/
import MemWatch.EntrySet.Value

namespace MemWatch

/-! ## Readings -/

/-- What reading one entry gave. -/
structure Reading where
  id : RefId
  entry : Entry
  result : Except Error (Address × Int64)

/-- The reading as a line of text: the id, and either address and value, or the entry itself and
two question marks. -/
def Reading.line (r : Reading) : String :=
  match r.result with
  | .ok (address, value) =>
    r.id.text ++ " " ++ address.padded ++ "=" ++ Numeral.signed value.toInt
  | .error _ => r.id.text ++ " " ++ r.entry.text ++ "=??"

namespace EntrySet

variable {σ : Type} [Target σ]

/-! ## Writing -/

/-- Writes the value of an entry that has one. -/
def writeEntry (set : EntrySet) (e : Entry) : Attempt σ Unit := do
  let a ← e.resolve
  match ← set.valueToWrite e with
  | none => return ()
  | some v =>
    note (.debug ("writing " ++ Numeral.signed v.toInt ++ " as " ++ e.type.name ++ " to " ++
      a.padded))
    writeValue e.type a v

/-- Writes an entry if it has a value, and notes a failure. -/
def tryWrite (set : EntrySet) (id : RefId) (e : Entry) : Action σ Unit := do
  if e.isMonitorOnly then
    return ()
  else
    match ← (set.writeEntry e).outcome with
    | .ok () => return ()
    | .error err => record (.debug ("skipping write to " ++ id.text ++ ": " ++ err.message))

/-- Writes the entries of a numbered list in order. -/
def writeAll (set : EntrySet) : List (RefId × Entry) → Action σ Unit
  | [] => return ()
  | (id, e) :: rest => do
    set.tryWrite id e
    writeAll set rest

/-! ## Reading -/

/-- Reads an entry, and notes a failure. -/
def tryRead (id : RefId) (e : Entry) : Action σ Reading := do
  let result ← e.read.outcome
  match result with
  | .ok _ => return ⟨id, e, result⟩
  | .error err =>
    record (.debug ("skipping read of " ++ id.text ++ ": " ++ err.message))
    return ⟨id, e, result⟩

/-- Reads the entries of a numbered list in order. -/
def readAll : List (RefId × Entry) → Action σ (List Reading)
  | [] => return []
  | (id, e) :: rest => do
    let r ← tryRead id e
    let readings ← readAll rest
    return r :: readings

/-! ## Both -/

/-- Writes every entry that has a value, then reads every entry. -/
def cycle (set : EntrySet) : Action σ (List Reading) := do
  set.writeAll set.numbered
  readAll set.numbered

end EntrySet

end MemWatch
