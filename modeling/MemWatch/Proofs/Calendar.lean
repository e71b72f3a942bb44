/-
# Years of the calendar

The year of a day is the one that has begun by then and whose successor has not.  So the years of
days can be compared by comparing the days themselves, and a range of instants that is given in
seconds is a range of years.

Main statement: the instants that the calendar covers are those of the years from -262143 to 262142.
-/
import Mathlib.Order.Monotone.Basic
import Mathlib.Tactic.ByContra
import MemWatch.Time.Instant

namespace MemWatch

namespace Date

/-! ## Years of an era -/

/-- A day of an era without its leap days, so that 365 such days make a year. -/
def plainDay (dayOfEra : Nat) : Nat :=
  dayOfEra - dayOfEra / 1460 + dayOfEra / 36524 - dayOfEra / 146096

theorem plainDay_mono : Monotone plainDay := by
  apply monotone_nat_of_le_succ
  intro n
  unfold plainDay
  omega

/-- The day of an era on which a year of it begins in March. -/
def firstOfMarch (yearOfEra : Nat) : Nat :=
  365 * yearOfEra + yearOfEra / 4 - yearOfEra / 100 + yearOfEra / 400

/-- A year begins when so many plain years are over, and not a day sooner. -/
theorem plainDay_firstOfMarch :
    ∀ k ≤ 400, 365 * k ≤ plainDay (firstOfMarch k) ∧
      (0 < k → plainDay (firstOfMarch k - 1) < 365 * k) := by
  decide +kernel

/-- A year of an era has begun by the days from its first of March on. -/
theorem le_yearOfEra_iff {k dayOfEra : Nat} (hk : k ≤ 400) :
    k ≤ yearOfEra dayOfEra ↔ firstOfMarch k ≤ dayOfEra := by
  obtain ⟨hfirst, hbefore⟩ := plainDay_firstOfMarch k hk
  have hyear : k ≤ yearOfEra dayOfEra ↔ 365 * k ≤ plainDay dayOfEra := by
    rw [Nat.mul_comm]
    exact Nat.le_div_iff_mul_le (by decide)
  rw [hyear]
  constructor
  · intro hle
    by_contra hlt
    have hpos : 0 < k := by
      apply Nat.pos_of_ne_zero
      rintro rfl
      exact hlt (Nat.zero_le dayOfEra)
    have hplain : plainDay dayOfEra ≤ plainDay (firstOfMarch k - 1) := plainDay_mono (by omega)
    have hday := hbefore hpos
    omega
  · intro hle
    exact hfirst.trans (plainDay_mono hle)

/-- The year of a day of an era has begun, and the next one has not. -/
theorem yearOfEra_bounds {dayOfEra : Nat} (h : dayOfEra < daysPerEra) :
    yearOfEra dayOfEra < 400 ∧ firstOfMarch (yearOfEra dayOfEra) ≤ dayOfEra ∧
      dayOfEra < firstOfMarch (yearOfEra dayOfEra + 1) := by
  have hlast : ¬ 400 ≤ yearOfEra dayOfEra := by
    rw [le_yearOfEra_iff (Nat.le_refl 400)]
    exact Nat.not_le.mpr h
  refine ⟨Nat.not_le.mp hlast, (le_yearOfEra_iff (by omega)).mp (Nat.le_refl _), ?_⟩
  have hnext : ¬ yearOfEra dayOfEra + 1 ≤ yearOfEra dayOfEra := Nat.not_succ_le_self _
  rw [le_yearOfEra_iff (by omega)] at hnext
  exact Nat.not_le.mp hnext

/-! ## Years -/

/-- The first of March of a year, counted from that of year zero. -/
def marchOf (year : Int) : Int :=
  365 * year + year / 4 - year / 100 + year / 400

/-- The first of January of a year, counted from the start of 1970. -/
def newYear (year : Int) : Int :=
  marchOf (year - 1) + 306 - epochOffset

/-- Eras are all of the same length. -/
theorem marchOf_era (era : Int) (yearOfEra : Nat) :
    marchOf (yearOfEra + era * 400) = era * daysPerEra + firstOfMarch yearOfEra := by
  unfold marchOf firstOfMarch daysPerEra
  omega

theorem marchOf_add_le (year : Int) : marchOf (year - 1) + 365 ≤ marchOf year := by
  unfold marchOf
  omega

theorem newYear_mono {year year' : Int} (h : year ≤ year') : newYear year ≤ newYear year' := by
  unfold newYear marchOf
  omega

/-- A day by its era, the year of the era that begins in March, and whether that year has come to
January. -/
theorem exists_year_ofDay (day : Int) :
    ∃ (era : Int) (year dayOfEra : Nat), day = era * daysPerEra + dayOfEra - epochOffset ∧
      firstOfMarch year ≤ dayOfEra ∧ dayOfEra < firstOfMarch (year + 1) ∧
      (ofDay day).year = year + era * 400 +
        if firstOfMarch year + 306 ≤ dayOfEra then 1 else 0 := by
  let era := (day + epochOffset) / daysPerEra
  let dayOfEra := ((day + epochOffset) % daysPerEra).toNat
  have hday : day = era * daysPerEra + dayOfEra - epochOffset ∧ dayOfEra < daysPerEra := by
    simp only [era, dayOfEra, daysPerEra]
    omega
  obtain ⟨hyear, hfirst, hnext⟩ := yearOfEra_bounds hday.2
  refine ⟨era, yearOfEra dayOfEra, dayOfEra, hday.1, hfirst, hnext, ?_⟩
  show ((yearOfEra dayOfEra : Nat) : Int) + era * 400 + _ = _
  generalize yearOfEra dayOfEra = year at hyear hfirst hnext ⊢
  unfold firstOfMarch at hfirst hnext ⊢
  congr 1
  refine if_congr ?_ rfl rfl
  split
  · omega
  · omega

/-- **Years.**  The year of a day has begun by then, and the next one has not. -/
theorem newYear_bounds (day : Int) :
    newYear (ofDay day).year ≤ day ∧ day < newYear ((ofDay day).year + 1) := by
  obtain ⟨era, year, dayOfEra, hday, hfirst, hnext, hyear⟩ := exists_year_ofDay day
  have hthis := marchOf_era era year
  have hafter : marchOf (year + era * 400 + 1) = era * daysPerEra + firstOfMarch (year + 1) := by
    rw [← marchOf_era]
    congr 1
    omega
  have hbefore := marchOf_add_le (year + era * 400)
  rw [hyear]
  unfold newYear
  split
  · -- January and February belong to the next number
    simp only [Int.add_sub_cancel]
    omega
  · simp only [Int.add_zero, Int.add_sub_cancel]
    omega

/-- Years of days are compared by comparing the days with the start of a year. -/
theorem le_year_iff {year day : Int} : year ≤ (ofDay day).year ↔ newYear year ≤ day := by
  obtain ⟨hbegun, hnext⟩ := newYear_bounds day
  constructor
  · intro hle
    exact (newYear_mono hle).trans hbegun
  · intro hle
    by_contra hlt
    have hmono : newYear ((ofDay day).year + 1) ≤ newYear year := newYear_mono (by omega)
    omega

end Date

namespace Instant

/-! ## Years of instants -/

/-- The year in which an instant falls. -/
def year (t : Instant) : Int :=
  (Date.ofDay (t.seconds / 86400)).year

/-- An instant falls in a year or in a later one from the first second of the year on. -/
theorem le_year_iff {year : Int} {t : Instant} :
    year ≤ t.year ↔ Date.newYear year * 86400 ≤ t.seconds := by
  rw [Instant.year, Date.le_year_iff]
  exact Int.le_ediv_iff_mul_le (by decide)

/-- **The calendar.**  The calendar covers exactly the instants of the years from -262143 to 262142. -/
theorem ofUnix?_eq_some_iff {seconds : Int} {nanos : Nat} {t : Instant} :
    ofUnix? seconds nanos = some t ↔
      t = ⟨seconds, nanos⟩ ∧ -262143 ≤ t.year ∧ t.year ≤ 262142 := by
  have hfirst : Date.newYear (-262143) * 86400 = firstSecond := by decide
  have hlast : Date.newYear (262142 + 1) * 86400 = lastSecond + 1 := by decide
  have hend : t.year ≤ 262142 ↔ t.seconds ≤ lastSecond := by
    rw [← Int.not_lt, ← Int.add_one_le_iff, le_year_iff, hlast, Int.add_one_le_iff, Int.not_lt]
  rw [le_year_iff, hfirst, hend]
  unfold ofUnix?
  split
  · rename_i hcovered
    constructor
    · rintro h
      obtain rfl := Option.some.inj h
      exact ⟨rfl, hcovered⟩
    · rintro ⟨rfl, -⟩
      rfl
  · rename_i hmissed
    constructor
    · intro h
      exact absurd h nofun
    · rintro ⟨rfl, hcovered⟩
      exact absurd hcovered hmissed

end Instant

end MemWatch
