/-
# Durations

Spans of time in seconds and nanoseconds, and their text in hours, minutes, seconds and
milliseconds.
-/
import MemWatch.Text.Numeral

namespace MemWatch

/-- A span of time. -/
structure Duration where
  seconds : Nat
  nanos : Nat := 0
deriving DecidableEq, Repr

namespace Duration

/-- Nanoseconds in a second. -/
def nanosPerSecond : Nat :=
  1000000000

/-- Nanoseconds in a millisecond. -/
def nanosPerMilli : Nat :=
  1000000

/-- The span of a number of nanoseconds. -/
def ofNanos (n : Nat) : Duration :=
  ⟨n / nanosPerSecond, n % nanosPerSecond⟩

/-- The number of nanoseconds of a span. -/
def toNanos (d : Duration) : Nat :=
  d.seconds * nanosPerSecond + d.nanos

/-- The span as hours, minutes, seconds and milliseconds; what is less than a millisecond is cut
off. -/
def text (d : Duration) : String :=
  Numeral.decimal (d.seconds / 3600) ++ ":" ++
    Numeral.zeroPadded 2 (d.seconds / 60 % 60) ++ ":" ++
    Numeral.zeroPadded 2 (d.seconds % 60) ++ "." ++
    Numeral.zeroPadded 3 (d.nanos / nanosPerMilli)

end Duration

end MemWatch
