/-
# Texts of durations

A span of time is shown as on a clock, in hours, minutes, seconds and milliseconds.  There are marks
between the four numbers, so each of them can be found in the text, and together they make up the
span again, apart from what is less than a millisecond.

Main statement: the text of a span has the form `h:mm:ss.mmm`, it is read back as the span cut down to
milliseconds, and two spans have the same text exactly if they have as many whole milliseconds.
-/
import Mathlib
import MemWatch.Proofs.Grammar
import MemWatch.Proofs.LeadingZeros
import MemWatch.Time.Duration

namespace MemWatch

open Expression Numeral

/-! ## Clocks -/

/-- A span in hours, minutes, seconds and milliseconds. -/
structure Clock where
  hours : Nat
  minutes : Nat
  seconds : Nat
  millis : Nat
  minutes_lt : minutes < 60
  seconds_lt : seconds < 60
  millis_lt : millis < 1000

/-- The span that a clock shows. -/
def Clock.span (c : Clock) : Duration :=
  ⟨3600 * c.hours + 60 * c.minutes + c.seconds, c.millis * Duration.nanosPerMilli⟩

/-- The text is `h:mm:ss.mmm`: the hours without zeros in front, the minutes and the seconds in two
digits each, and the milliseconds in three. -/
inductive Clock.IsShownBy (c : Clock) : List Char → Prop where
  | mk {mm ss mmm : List Char} (hmm : mm.length = 2) (hminutes : Spells 10 mm c.minutes)
      (hss : ss.length = 2) (hseconds : Spells 10 ss c.seconds)
      (hmmm : mmm.length = 3) (hmillis : Spells 10 mmm c.millis) :
      IsShownBy c (digits 10 c.hours ++ ':' :: (mm ++ ':' :: (ss ++ '.' :: mmm)))

namespace Duration

variable {d d' : Duration}

/-- The clock that shows a span up to what is less than a millisecond. -/
def clock (d : Duration) (h : d.nanos < nanosPerSecond) : Clock where
  hours := d.seconds / 3600
  minutes := d.seconds / 60 % 60
  seconds := d.seconds % 60
  millis := d.nanos / nanosPerMilli
  minutes_lt := Nat.mod_lt _ (by decide)
  seconds_lt := Nat.mod_lt _ (by decide)
  millis_lt := Nat.div_lt_of_lt_mul h

/-- The span without what is less than a millisecond. -/
def cut (d : Duration) : Duration :=
  ⟨d.seconds, d.nanos / nanosPerMilli * nanosPerMilli⟩

/-- Hours, minutes and seconds make up all seconds again. -/
theorem span_clock (h : d.nanos < nanosPerSecond) : (d.clock h).span = d.cut := by
  have hseconds : 3600 * (d.seconds / 3600) + 60 * (d.seconds / 60 % 60) + d.seconds % 60 =
      d.seconds := by omega
  unfold Clock.span clock cut
  rw [hseconds]

/-- The text of a span is that of its clock. -/
theorem isShownBy_text (h : d.nanos < nanosPerSecond) : (d.clock h).IsShownBy d.text.toList := by
  have hminutes : d.seconds / 60 % 60 < 10 ^ 2 := by omega
  have hseconds : d.seconds % 60 < 10 ^ 2 := by omega
  have hmillis : d.nanos / nanosPerMilli < 10 ^ 3 := Nat.div_lt_of_lt_mul h
  have htext : d.text.toList = digits 10 (d.seconds / 3600) ++
      ':' :: ((zeroPadded 2 (d.seconds / 60 % 60)).toList ++
        ':' :: ((zeroPadded 2 (d.seconds % 60)).toList ++
          '.' :: (zeroPadded 3 (d.nanos / nanosPerMilli)).toList)) := by
    simp [text, decimal]
  rw [htext]
  exact .mk (length_zeroPadded (by decide) hminutes) (spells_zeroPadded 2 _)
    (length_zeroPadded (by decide) hseconds) (spells_zeroPadded 2 _)
    (length_zeroPadded (by decide) hmillis) (spells_zeroPadded 3 _)

/-! ## Reading -/

/-- Reads hours, minutes, seconds and milliseconds with two colons and a point in between. -/
def ofText? (text : List Char) : Option Duration :=
  match text.splitOn ':' with
  | [hours, minutes, rest] =>
    match rest.splitOn '.' with
    | [seconds, millis] => do
      let h ← value? 10 hours
      let m ← value? 10 minutes
      let s ← value? 10 seconds
      let ms ← value? 10 millis
      return ⟨3600 * h + 60 * m + s, ms * nanosPerMilli⟩
    | _ => none
  | _ => none

/-- What a clock shows is read as its span. -/
theorem ofText?_of_isShownBy {c : Clock} {text : List Char} (h : c.IsShownBy text) :
    ofText? text = some c.span := by
  cases h with
  | @mk mm ss mmm hmm hminutes hss hseconds hmmm hmillis =>
    have hhours := spells_decimal c.hours
    have hcolon : ':' ∉ ss ++ '.' :: mmm := by
      rw [List.mem_append, List.mem_cons]
      rintro (hmem | hmem | hmem)
      · exact not_mem_of_spells hseconds (by decide) hmem
      · exact absurd hmem (by decide)
      · exact not_mem_of_spells hmillis (by decide) hmem
    have hpieces : (digits 10 c.hours ++ ':' :: (mm ++ ':' :: (ss ++ '.' :: mmm))).splitOn ':' =
        [digits 10 c.hours, mm, ss ++ '.' :: mmm] := by
      rw [List.splitOn_append_cons_self_of_not_mem (not_mem_of_spells hhours (by decide)),
        List.splitOn_append_cons_self_of_not_mem (not_mem_of_spells hminutes (by decide)),
        List.splitOn_eq_singleton hcolon]
    have hrest : (ss ++ '.' :: mmm).splitOn '.' = [ss, mmm] := by
      rw [List.splitOn_append_cons_self_of_not_mem (not_mem_of_spells hseconds (by decide)),
        List.splitOn_eq_singleton (not_mem_of_spells hmillis (by decide))]
    unfold ofText?
    simp only [hpieces, hrest, value?_eq_some_iff.mpr hhours, value?_eq_some_iff.mpr hminutes,
      value?_eq_some_iff.mpr hseconds, value?_eq_some_iff.mpr hmillis]
    rfl

/-- The text of a span is read as the span without what is less than a millisecond. -/
theorem ofText?_text (h : d.nanos < nanosPerSecond) : ofText? d.text.toList = some d.cut := by
  rw [ofText?_of_isShownBy (isShownBy_text h), span_clock]

/-! ## Milliseconds -/

/-- The whole milliseconds of a span are those of its seconds and those beyond. -/
theorem toNanos_div (d : Duration) :
    d.toNanos / nanosPerMilli = 1000 * d.seconds + d.nanos / nanosPerMilli := by
  unfold toNanos nanosPerSecond nanosPerMilli
  omega

/-- Two spans are cut down to the same one exactly if they have as many whole milliseconds. -/
theorem cut_eq_cut_iff (h : d.nanos < nanosPerSecond) (h' : d'.nanos < nanosPerSecond) :
    d.cut = d'.cut ↔ d.toNanos / nanosPerMilli = d'.toNanos / nanosPerMilli := by
  rw [toNanos_div, toNanos_div, cut, cut, mk.injEq]
  unfold nanosPerSecond at h h'
  unfold nanosPerMilli
  omega

theorem text_cut (d : Duration) : d.cut.text = d.text := by
  unfold text cut nanosPerMilli
  rw [Nat.mul_div_left _ (by decide)]

/-- **Texts of durations.**  A span is shown as `h:mm:ss.mmm`, with minutes and seconds below sixty
that make up its seconds together with the hours, and with the whole milliseconds of its nanoseconds.
The text is read back as the span cut down to milliseconds, and it is the text of another span exactly
if that has as many whole milliseconds. -/
theorem text_shows_milliseconds (h : d.nanos < nanosPerSecond) :
    (∃ c : Clock, c.IsShownBy d.text.toList ∧ c.minutes < 60 ∧ c.seconds < 60 ∧
      3600 * c.hours + 60 * c.minutes + c.seconds = d.seconds ∧
      c.millis = d.nanos / nanosPerMilli) ∧
    ofText? d.text.toList = some ⟨d.seconds, d.nanos / nanosPerMilli * nanosPerMilli⟩ ∧
    ∀ d' : Duration, d'.nanos < nanosPerSecond →
      (d.text = d'.text ↔ d.toNanos / nanosPerMilli = d'.toNanos / nanosPerMilli) := by
  refine ⟨⟨d.clock h, isShownBy_text h, (d.clock h).minutes_lt, (d.clock h).seconds_lt,
    congrArg Duration.seconds (span_clock h), rfl⟩, ofText?_text h, fun d' h' => ?_⟩
  rw [← cut_eq_cut_iff h h']
  constructor
  · intro htext
    have hread := ofText?_text h
    rw [htext, ofText?_text h'] at hread
    exact (Option.some.inj hread).symm
  · intro hcut
    rw [← text_cut d, hcut, text_cut]

/-- The longest span of 64 bits, and the same span up to the millisecond. -/
theorem longest_span_is_shown :
    999999999 < nanosPerSecond ∧
      (⟨2 ^ 64 - 1, 999999999⟩ : Duration).text = "5124095576030431:00:15.999" ∧
      (⟨2 ^ 64 - 1, 999999999⟩ : Duration).text = (⟨2 ^ 64 - 1, 999000000⟩ : Duration).text ∧
      ofText? "5124095576030431:00:15.999".toList = some ⟨2 ^ 64 - 1, 999000000⟩ := by
  have hlongest : (⟨2 ^ 64 - 1, 999999999⟩ : Duration).text = "5124095576030431:00:15.999" := by
    cbv
  obtain ⟨-, hread, hsame⟩ := text_shows_milliseconds (d := ⟨2 ^ 64 - 1, 999999999⟩) (by decide)
  refine ⟨by decide, hlongest, (hsame ⟨2 ^ 64 - 1, 999000000⟩ (by decide)).mpr (by decide), ?_⟩
  rw [← hlongest]
  exact hread

end Duration

end MemWatch
