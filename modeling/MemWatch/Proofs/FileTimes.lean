/-
# File times

The start of a process and the time that it has spent on the processor are reported as file times of
64 bits.  They are converted in words of 64 and 32 bits, and no word is ever too small for what it
has to hold, whatever the file time is; so no start of a process is beyond the calendar.

Main statement: instants and spans of file times in terms of their ticks, and the answers that an
attached process gives.
-/
import Mathlib
import MemWatch.ProcessHandle.Attached
import MemWatch.Proofs.Calendar

namespace MemWatch

/-- An instant comes before another one: by the seconds, or by the nanoseconds in the same second. -/
def Instant.IsBefore (a b : Instant) : Prop :=
  a.seconds < b.seconds ∨ a.seconds = b.seconds ∧ a.nanos < b.nanos

namespace FileTime

/-! ## Ticks -/

theorem ticks_lt (t : FileTime) : t.ticks < 2 ^ 64 := by
  have hlow := t.low.toNat_lt
  have hhigh := t.high.toNat_lt
  unfold ticks UInt32.size
  omega

/-! ## Conversion in words -/

/-- The whole seconds as a signed word. -/
def wholeSeconds (t : FileTime) : Int64 :=
  (t.word / 10000000).toInt64

/-- The seconds since the start of 1970 as a signed word. -/
def unixSeconds (t : FileTime) : Int64 :=
  t.wholeSeconds - 11644473600

/-- The ticks beyond the whole seconds as a half word. -/
def restTicks (t : FileTime) : UInt32 :=
  (t.word % 10000000).toUInt32

/-- The nanoseconds beyond the whole seconds as a half word. -/
def restNanos (t : FileTime) : UInt32 :=
  t.restTicks * 100

/-- Every step of the conversion gives the number that it gives without bounds. -/
structure FitsWords (t : FileTime) : Prop where
  word : t.word.toNat = t.ticks
  wholeSeconds : t.wholeSeconds.toInt = (t.ticks / 10000000 : Nat)
  unixSeconds : t.unixSeconds.toInt = (t.ticks / 10000000 : Nat) - 11644473600
  restTicks : t.restTicks.toNat = t.ticks % 10000000
  restNanos : t.restNanos.toNat = t.ticks % 10000000 * 100

/-- The halves do not overlap in the word. -/
theorem toNat_word (t : FileTime) : t.word.toNat = t.ticks := by
  have hlow := t.low.toNat_lt
  have hhigh := t.high.toNat_lt
  have hshift : (t.high.toUInt64 <<< 32).toNat = t.high.toNat <<< 32 := by
    rw [UInt64.toNat_shiftLeft, UInt32.toNat_toUInt64]
    show t.high.toNat <<< 32 % 2 ^ 64 = _
    rw [Nat.shiftLeft_eq]
    omega
  calc t.word.toNat = t.high.toNat <<< 32 ||| t.low.toNat := by
        rw [word, UInt64.toNat_or, hshift, UInt32.toNat_toUInt64]
    _ = t.high.toNat <<< 32 + t.low.toNat := (Nat.shiftLeft_add_eq_or_of_lt hlow _).symm
    _ = t.ticks := by rw [Nat.shiftLeft_eq, ticks, UInt32.size]

theorem toInt_toInt64 (w : UInt64) : w.toInt64.toInt = (w.toNat : Int).bmod (2 ^ 64) :=
  BitVec.toInt_eq_toNat_bmod w.toBitVec

/-- **Conversion in words.**  No step of it overflows or cuts anything off. -/
theorem fitsWords (t : FileTime) : t.FitsWords := by
  have hticks := t.ticks_lt
  have hword := t.toNat_word
  have hsecond : (10000000 : UInt64).toNat = 10000000 := rfl
  have hepoch : (11644473600 : Int64).toInt = 11644473600 := rfl
  have hhundred : (100 : UInt32).toNat = 100 := rfl
  have hwhole : t.wholeSeconds.toInt = (t.ticks / 10000000 : Nat) := by
    rw [wholeSeconds, toInt_toInt64, UInt64.toNat_div, hword, hsecond]
    exact Int.bmod_eq_of_le (by omega) (by omega)
  have hrest : t.restTicks.toNat = t.ticks % 10000000 := by
    rw [restTicks, UInt64.toNat_toUInt32, UInt64.toNat_mod, hword, hsecond]
    exact Nat.mod_eq_of_lt (by omega)
  constructor
  case word => exact hword
  case wholeSeconds => exact hwhole
  case unixSeconds =>
    rw [unixSeconds, Int64.toInt_sub, hwhole, hepoch]
    exact Int.bmod_eq_of_le (by omega) (by omega)
  case restTicks => exact hrest
  case restNanos =>
    rw [restNanos, UInt32.toNat_mul, hrest, hhundred]
    exact Nat.mod_eq_of_lt (by omega)

/-! ## Instants -/

/-- The instant of a file time as it comes out of the words. -/
def instant (t : FileTime) : Instant :=
  ⟨t.unixSeconds.toInt, t.restNanos.toNat⟩

/-- The instant is as many ticks after the start of 1601 as the file time has, in whole seconds and in
hundreds of nanoseconds that make less than a second. -/
structure StandsFor (t : FileTime) (a : Instant) : Prop where
  ticks : a.seconds * 10 ^ 7 + (a.nanos / 100 : Nat) + 11644473600 * 10 ^ 7 = t.ticks
  dvd_nanos : 100 ∣ a.nanos
  nanos_lt : a.nanos < 10 ^ 9

/-- The instant of a file time stands for its ticks. -/
theorem standsFor_instant (t : FileTime) : t.StandsFor t.instant := by
  have hwords := t.fitsWords
  constructor
  case ticks =>
    show t.unixSeconds.toInt * 10 ^ 7 + (t.restNanos.toNat / 100 : Nat) + _ = _
    rw [hwords.unixSeconds, hwords.restNanos]
    omega
  case dvd_nanos =>
    show 100 ∣ t.restNanos.toNat
    rw [hwords.restNanos]
    exact Nat.dvd_mul_left 100 _
  case nanos_lt =>
    show t.restNanos.toNat < _
    rw [hwords.restNanos]
    omega

/-- Later ticks stand for later instants, and the other way round. -/
theorem StandsFor.ticks_lt_iff {t u : FileTime} {a b : Instant} (ha : t.StandsFor a)
    (hb : u.StandsFor b) : t.ticks < u.ticks ↔ a.IsBefore b := by
  obtain ⟨hticks, ⟨m, hm⟩, hlt⟩ := ha
  obtain ⟨hticks', ⟨n, hn⟩, hlt'⟩ := hb
  unfold Instant.IsBefore
  omega

/-- File times begin with the year 1601 and end in the year 60056. -/
theorem year_instant_bounds (t : FileTime) : 1601 ≤ t.instant.year ∧ t.instant.year ≤ 60056 := by
  have hticks := t.ticks_lt
  have hseconds : t.instant.seconds = (t.ticks / 10000000 : Nat) - 11644473600 :=
    t.fitsWords.unixSeconds
  have hfirst : Date.newYear 1601 * 86400 = -11644473600 := by decide
  have hafter : Date.newYear 60057 * 86400 = 1833048748800 := by decide
  constructor
  · rw [Instant.le_year_iff, hfirst, hseconds]
    omega
  · have hlast : ¬ 60057 ≤ t.instant.year := by
      rw [Instant.le_year_iff, hafter, hseconds]
      omega
    omega

/-- **Instants.**  The calendar covers every file time. -/
theorem toInstant?_eq (t : FileTime) : t.toInstant? = some t.instant := by
  have hwords := t.fitsWords
  obtain ⟨hfirst, hlast⟩ := t.year_instant_bounds
  unfold toInstant?
  rw [Instant.ofUnix?_eq_some_iff]
  refine ⟨?_, by omega, by omega⟩
  rw [instant, hwords.unixSeconds, hwords.restNanos]
  rfl

/-! ## Spans -/

/-- The words of two file times can be added as long as their ticks make a word. -/
theorem toNat_word_add {t u : FileTime} (h : t.ticks + u.ticks < 2 ^ 64) :
    (t.word + u.word).toNat = t.ticks + u.ticks := by
  rw [UInt64.toNat_add, toNat_word, toNat_word]
  exact Nat.mod_eq_of_lt h

/-- A span has a hundred nanoseconds for each tick, but not more than a word can hold. -/
theorem toNanos_span (n : Nat) :
    (span n).toNanos = (if n * 100 < 2 ^ 64 then n * 100 else 2 ^ 64 - 1) ∧
      (span n).nanos < 10 ^ 9 := by
  constructor
  · have hparts : (span n).toNanos = min (n * 100) (2 ^ 64 - 1) := Nat.div_add_mod' _ _
    rw [hparts]
    split <;> omega
  · exact Nat.mod_lt _ (by decide)

end FileTime

/-! ## Processes -/

namespace Attached

/-- The times of the process, if they can be had. -/
def times (s : Attached) : Except Error ProcessTimes :=
  ProcessHandle.checked s.machine (Machine.processTimes s.process.handle s.machine)

/-- The start of a process whose times can be had is an instant. -/
theorem startTime_eq (s : Attached) :
    (startTime s).1 = s.times.map fun times => times.creation.instant := by
  unfold startTime query times
  simp only [FileTime.toInstant?_eq]
  cases ProcessHandle.checked s.machine (Machine.processTimes s.process.handle s.machine) with
  | error e => rfl
  | ok times => rfl

/-- A call that fails does not fail over an invalid time. -/
theorem times_ne_invalidTime (s : Attached) : s.times ≠ .error .invalidTime := by
  unfold times
  cases Machine.processTimes s.process.handle s.machine with
  | error code => exact nofun
  | ok times => exact nofun

end Attached

/-- **Times of a process.**  Every file time is converted without overflow, to an instant that stands
for its ticks and falls in a year that the calendar covers, and later ticks give later instants.  The
span of two file times whose ticks together make a word has a hundred nanoseconds for each tick, or
as many as fit.  A process whose times can be had started at the instant of its creation, and has
spent the span of the other two, added as words, on the processor; no time is ever found invalid. -/
theorem times_are_exact :
    (∀ t : FileTime, t.FitsWords ∧ t.StandsFor t.instant ∧
      -262143 ≤ t.instant.year ∧ t.instant.year ≤ 262142) ∧
    (∀ t u : FileTime, t.ticks < u.ticks ↔ t.instant.IsBefore u.instant) ∧
    (∀ t u : FileTime, t.ticks + u.ticks < 2 ^ 64 →
      (t.word + u.word).toNat = t.ticks + u.ticks ∧
      (FileTime.span (t.ticks + u.ticks)).toNanos =
        (if (t.ticks + u.ticks) * 100 < 2 ^ 64 then (t.ticks + u.ticks) * 100 else 2 ^ 64 - 1) ∧
      (FileTime.span (t.ticks + u.ticks)).nanos < 10 ^ 9) ∧
    ∀ s : Attached,
      (Attached.startTime s).1 = s.times.map (fun times => times.creation.instant) ∧
      (Attached.startTime s).1 ≠ .error .invalidTime ∧
      (Attached.processorTime s).1 =
        s.times.map fun times => FileTime.span (times.kernel.word + times.user.word).toNat := by
  refine ⟨fun t => ?_, fun t u => ?_, fun t u hsum => ?_, fun s => ⟨s.startTime_eq, ?_, rfl⟩⟩
  · obtain ⟨hfirst, hlast⟩ := t.year_instant_bounds
    exact ⟨t.fitsWords, t.standsFor_instant, by omega, by omega⟩
  · exact t.standsFor_instant.ticks_lt_iff u.standsFor_instant
  · exact ⟨FileTime.toNat_word_add hsum, FileTime.toNanos_span _⟩
  · rw [s.startTime_eq]
    have hfault := s.times_ne_invalidTime
    cases htimes : s.times with
    | error e =>
      rintro h
      exact hfault (htimes.trans (congrArg Except.error (Except.error.inj h)))
    | ok times => exact nofun

/-- Two times that make the longest sum together: it is a word, and its span in nanoseconds is none. -/
theorem longest_span_is_cut :
    (FileTime.ofTicks (2 ^ 63)).ticks + (FileTime.ofTicks (2 ^ 63 - 1)).ticks < 2 ^ 64 ∧
      (FileTime.span ((FileTime.ofTicks (2 ^ 63)).ticks +
        (FileTime.ofTicks (2 ^ 63 - 1)).ticks)).toNanos = 2 ^ 64 - 1 := by
  have hsum : (FileTime.ofTicks (2 ^ 63)).ticks + (FileTime.ofTicks (2 ^ 63 - 1)).ticks < 2 ^ 64 := by
    decide +kernel
  obtain ⟨-, hspan, -⟩ := times_are_exact.2.2.1 _ _ hsum
  refine ⟨hsum, hspan.trans (if_neg ?_)⟩
  decide +kernel

example : (FileTime.ofTicks (2 ^ 64 - 1)).toInstant? = some ⟨1833029933770, 955161500⟩ ∧
    (FileTime.ofTicks 0).toInstant? = some ⟨-11644473600, 0⟩ := by decide

end MemWatch
