/-
# Listings of unknown length

A list of unknown length is fetched into a buffer that the caller provides.  The answer tells how
many bytes the list needs, either all of it or only what was stored; so a buffer that comes back
full may have been too small, and a larger one is tried until the list ends before the buffer does.
-/
import MemWatch.Error

namespace MemWatch

/-- What a listing call puts into a buffer, and the number of bytes that it reports. -/
structure Listing (α : Type) where
  stored : List α
  needed : Nat
deriving Repr

namespace Listing

variable {σ : Type} {α : Type}

/-- The number of elements to try next, after so many were too few. -/
def nextLength (elementSize length needed : Nat) : Nat :=
  max (length * 2) (needed / elementSize + 1)

/-- A buffer that came back full is followed by a longer one. -/
theorem lt_nextLength {elementSize length needed : Nat} (hpos : 0 < elementSize)
    (hfull : length * elementSize ≤ needed) : length < nextLength elementSize length needed := by
  have h : length ≤ needed / elementSize := (Nat.le_div_iff_mul_le hpos).2 hfull
  exact Nat.lt_of_lt_of_le (Nat.lt_succ_of_le h) (Nat.le_max_right _ _)

/-- The elements of a buffer that are part of the list; the buffer held `blank` before. -/
def contents (blank : α) (elementSize length : Nat) (l : Listing α) : List α :=
  (l.stored ++ List.replicate (length - l.stored.length) blank).take (l.needed / elementSize)

/-- Fetches a list with buffers that grow from a number of elements.  A call that fails has an error
number, which the system turns into an error.  A buffer whose size is no number of 32 bits cannot be
offered. -/
def fetch (toError : σ → OsCode → Error) (blank : α) (elementSize : Nat)
    (query : Nat → σ → Except OsCode (Listing α) × σ) (length : Nat) (s : σ) :
    Except Error (List α) × σ :=
  if _h : 0 < elementSize ∧ length * elementSize < UInt32.size then
    match query (length * elementSize) s with
    | (.error code, s) => (.error (toError s code), s)
    | (.ok listing, s) =>
      if _hfull : length * elementSize ≤ listing.needed then
        fetch toError blank elementSize query (nextLength elementSize length listing.needed) s
      else (.ok (listing.contents blank elementSize length), s)
  else (.error (.system .outOfMemory), s)
termination_by UInt32.size - length
decreasing_by
  have hlt := lt_nextLength _h.1 _hfull
  have hle : length ≤ length * elementSize := Nat.le_mul_of_pos_right length _h.1
  omega

end Listing

end MemWatch
