/-
# Resolving entries

Where an entry lies at the moment: its address, counted from the base of the main module if it is
an offset, and then followed through its pointers.  Nothing is remembered from one time to the
next, since any pointer on the way may have changed.
-/
import MemWatch.Target

namespace MemWatch.Entry

variable {σ : Type} [Target σ]

/-- The address at which resolution starts. -/
def start (e : Entry) : Attempt σ Address := do
  let w ← pointerWidth
  let address := w.truncate e.address
  if e.isOffset then
    let base ← mainModuleBase
    note (.debug ("calculating offset " ++ address.hex ++ " from base " ++ base.padded))
    return w.add address base
  else
    return address

/-- Follows a number of pointers from an address. -/
def follow : Nat → Address → Attempt σ Address
  | 0, a => return a
  | levels + 1, a => do
    note (.debug ("resolving pointer " ++ a.padded))
    let w ← pointerWidth
    let next ← readPointer a
    follow levels (w.truncate next)

/-- The location of the entry. -/
def resolve (e : Entry) : Attempt σ Address := do
  let a ← e.start
  follow e.pointerLevels a

/-- The location of the entry and the value there. -/
def read (e : Entry) : Attempt σ (Address × Int64) := do
  let a ← e.resolve
  note (.debug ("reading " ++ e.type.name ++ " at " ++ a.padded))
  let v ← readValue e.type a
  return (a, v)

end MemWatch.Entry
