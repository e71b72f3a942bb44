/-
# Instants

Points in time, counted in seconds and nanoseconds from the start of 1970, and their date and time
of day in a time zone, in the calendar that has a leap day in every fourth year, except in every
hundredth, and again in every four-hundredth.
-/
import MemWatch.Time.Duration

namespace MemWatch

/-! ## The calendar -/

/-- A day of the calendar. -/
structure Date where
  year : Int
  month : Nat
  day : Nat
deriving DecidableEq, Repr

namespace Date

/-- Days in a period of four hundred years. -/
def daysPerEra : Nat := 146097

/-- Days from the first of March of year zero to the start of 1970. -/
def epochOffset : Int := 719468

/-- The year of a period, counted from March, in which a day of the period falls. -/
def yearOfEra (dayOfEra : Nat) : Nat :=
  (dayOfEra - dayOfEra / 1460 + dayOfEra / 36524 - dayOfEra / 146096) / 365

/-- The date of a day counted from the start of 1970.  Years are taken to begin in March, so that a
leap day ends its year. -/
def ofDay (day : Int) : Date :=
  let z := day + epochOffset
  let era := z / daysPerEra
  let dayOfEra := (z % daysPerEra).toNat
  let yoe := yearOfEra dayOfEra
  let dayOfYear := dayOfEra - (365 * yoe + yoe / 4 - yoe / 100)
  let shifted := (5 * dayOfYear + 2) / 153
  let month := if shifted < 10 then shifted + 3 else shifted - 9
  { year := yoe + era * 400 + if month ≤ 2 then 1 else 0
    month
    day := dayOfYear - (153 * shifted + 2) / 5 + 1 }

/-- The year in at least four digits; later years than 9999 have a plus sign, and years before zero
a minus sign. -/
def yearText (year : Int) : String :=
  (if year < 0 then "-" else if 9999 < year then "+" else "") ++
    Numeral.zeroPadded 4 year.natAbs

/-- The date as year, month and day. -/
def text (d : Date) : String :=
  yearText d.year ++ "-" ++ Numeral.zeroPadded 2 d.month ++ "-" ++ Numeral.zeroPadded 2 d.day

end Date

/-! ## Time zones -/

/-- The rules by which clocks are set at a place: how many seconds they are ahead in each second
since the start of 1970.  It is less than a day, either way. -/
structure Zone where
  offset : Int → Int
  offset_bound : ∀ second, (offset second).natAbs < 86400

namespace Zone

/-- Clocks that are always ahead by the same number of seconds. -/
def fixed (seconds : Int) (h : seconds.natAbs < 86400) : Zone :=
  ⟨fun _ => seconds, fun _ => h⟩

/-- Clocks that are never ahead. -/
def utc : Zone :=
  fixed 0 (by decide)

end Zone

/-! ## Instants -/

/-- A point in time: seconds since the start of 1970, and the nanoseconds after them. -/
structure Instant where
  seconds : Int
  nanos : Nat := 0
deriving DecidableEq, Repr

namespace Instant

/-- The first second of the calendar's range: the year -262143 begins. -/
def firstSecond : Int := -8334601228800

/-- The last second of the calendar's range: the year 262142 ends. -/
def lastSecond : Int := 8210266876799

/-- The instant, if the calendar covers it. -/
def ofUnix? (seconds : Int) (nanos : Nat) : Option Instant :=
  if firstSecond ≤ seconds ∧ seconds ≤ lastSecond then some ⟨seconds, nanos⟩ else none

/-- Nanoseconds since the start of 1970. -/
def toNanos (t : Instant) : Int :=
  t.seconds * Duration.nanosPerSecond + t.nanos

/-- The time from one instant to a later one; there is none to an earlier one. -/
def since (later earlier : Instant) : Duration :=
  .ofNanos (later.toNanos - earlier.toNanos).toNat

/-- Date and time of day in a zone, to the second. -/
def text (zone : Zone) (t : Instant) : String :=
  let clock := t.seconds + zone.offset t.seconds
  let secondOfDay := (clock % 86400).toNat
  (Date.ofDay (clock / 86400)).text ++ " " ++
    Numeral.zeroPadded 2 (secondOfDay / 3600) ++ ":" ++
    Numeral.zeroPadded 2 (secondOfDay / 60 % 60) ++ ":" ++
    Numeral.zeroPadded 2 (secondOfDay % 60)

end Instant

end MemWatch
