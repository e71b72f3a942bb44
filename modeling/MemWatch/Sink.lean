/-
# Sinks

Where output goes.  A sink may have room for a limited number of bytes only: what fits of a write
is taken, and the write fails if it did not fit whole.  A sink may also fail to be flushed.
-/
import MemWatch.Error

namespace MemWatch

/-- A place that output is written to. -/
structure Sink where
  /-- How many more bytes are taken; without a number there is no limit. -/
  room : Option Nat := none
  /-- Flushing fails. -/
  flushFails : Bool := false
  /-- What was taken so far. -/
  written : Array UInt8 := #[]
deriving Repr

namespace Sink

/-- The failure of a write that did not fit. -/
def full : Error :=
  .system (.other "sink is full")

/-- The failure of a flush. -/
def flushFailed : Error :=
  .system (.other "flush failed")

/-- Writes bytes. -/
def put (out : Sink) (bytes : Bytes) : Except Error Unit × Sink :=
  match out with
  | ⟨none, flushFails, written⟩ =>
    (.ok (), ⟨none, flushFails, written ++ bytes.toArray⟩)
  | ⟨some room, flushFails, written⟩ =>
    (if bytes.length ≤ room then .ok () else .error full,
      ⟨some (room - bytes.length), flushFails, written ++ (bytes.take room).toArray⟩)

/-- Writes a text. -/
def putText (out : Sink) (text : String) : Except Error Unit × Sink :=
  out.put (.ofString text)

/-- Flushes what was written. -/
def flush (out : Sink) : Except Error Unit :=
  if out.flushFails then .error flushFailed else .ok ()

/-- Writes a text and flushes it. -/
def putFlushed (out : Sink) (text : String) : Except Error Unit × Sink :=
  match out.putText text with
  | (.ok (), out) => (out.flush, out)
  | (.error e, out) => (.error e, out)

/-- The bytes that were taken so far. -/
def bytes (out : Sink) : Bytes :=
  out.written.toList

theorem bytes_put (out : Sink) (bytes : Bytes) (h : out.room.all (bytes.length ≤ ·)) :
    (out.put bytes).2.bytes = out.bytes ++ bytes := by
  rcases out with ⟨_ | room, flushFails, written⟩
  · simp [put, Sink.bytes]
  · simp only [Option.all_some, decide_eq_true_eq] at h
    simp [put, Sink.bytes, List.take_of_length_le h]

end Sink

end MemWatch
