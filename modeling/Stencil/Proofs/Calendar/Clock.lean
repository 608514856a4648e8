import Mathlib
import Stencil.Value

/-!
# Clocks and instants

A date is found again from its day number. Years, months and days are places of a number: the
days of a month fit in front of the next month, and those of a year in front of the next year,
so a later year, or a later month of the same year, has a greater day number whatever stands
behind it. A clock is found again from its instant in the same way. So a date-time is its
instant together with its offset, and two of them are the same value if and only if they are
one clock at two offsets.

## Main results

* `monotone_daysBeforeYear`, `daysInMonths_add`: days of years and months behind each other.
* `Date.dayNumber_injective`: dates with one day number are equal.
* `Date.ofDayNumber_dayNumber`: a date is the date of its day number.
* `DateTime.at_instant`: a date-time is what its clock shows at its instant.
* `Value.same_dateTime_iff`: the date-times that are the same value.
-/

namespace Stencil

/-! ### Years and months -/

/-- A year has 365 days, and a leap day if it is a leap year. -/
theorem daysBeforeYear_succ (year : ℤ) :
    daysBeforeYear (year + 1) = daysBeforeYear year + (365 + leapDays year : ℕ) := by
  by_cases hleap : isLeapYear year = true
  · rw [leapDays, if_pos hleap, daysBeforeYear, daysBeforeYear]
    simp only [isLeapYear, Bool.and_eq_true, Bool.or_eq_true, decide_eq_true_eq] at hleap
    omega
  · rw [leapDays, if_neg hleap, daysBeforeYear, daysBeforeYear]
    simp only [isLeapYear, Bool.and_eq_true, Bool.or_eq_true, decide_eq_true_eq] at hleap
    omega

/-- Later years begin later. -/
theorem monotone_daysBeforeYear : Monotone daysBeforeYear := by
  refine monotone_int_of_le_succ fun year => ?_
  rw [daysBeforeYear_succ]
  exact Int.le_add_of_nonneg_right (Int.natCast_nonneg _)

/-- Months from one on, and then those from the next one on. -/
theorem daysInMonths_add (year : ℤ) (first count count' : ℕ) :
    daysInMonths year first (count + count') =
      daysInMonths year first count + daysInMonths year (first + count) count' := by
  induction count generalizing first with
  | zero => rw [Nat.zero_add, daysInMonths, Nat.zero_add, Nat.add_zero]
  | succ count ih =>
    rw [Nat.add_right_comm, daysInMonths, ih, daysInMonths, Nat.add_assoc, Nat.add_assoc,
      Nat.add_comm 1 count]

/-- **The days of a month** stand before every later month. -/
theorem daysBeforeMonth_add_le (year : ℤ) {month month' : ℕ} (hmonth : 1 ≤ month)
    (h : month < month') :
    daysBeforeMonth year month + daysInMonth year month ≤ daysBeforeMonth year month' := by
  obtain ⟨count, rfl⟩ := Nat.exists_eq_add_of_lt h
  have hcount : month + count + 1 - 1 = (month - 1) + (count + 1) := by omega
  have hfirst : 1 + (month - 1) = month := by omega
  rw [daysBeforeMonth, daysBeforeMonth, hcount, daysInMonths_add, hfirst, daysInMonths]
  omega

/-- All days of a year stand before the month after its last one. -/
theorem daysBeforeMonth_end (year : ℤ) : daysBeforeMonth year 13 = 365 + leapDays year :=
  daysInMonths_year year

/-! ### Dates -/

namespace Date

variable {d d' : Date}

/-- No month has more than thirty-one days. -/
theorem day_le (d : Date) : d.day ≤ 31 := by
  refine d.day_valid.2.trans ?_
  rw [daysInMonth.eq_def]
  split
  · rw [leapDays]
    split <;> decide
  · decide
  · decide
  · decide
  · decide
  · decide

/-- A date lies in its year. -/
theorem dayNumber_lt (d : Date) : d.dayNumber < daysBeforeYear (d.year + 1) := by
  have hmonth : d.month < 13 := Nat.lt_of_le_of_lt d.month_valid.2 (by decide)
  have hyear := daysBeforeMonth_add_le d.year d.month_valid.1 hmonth
  have hday := d.day_valid.2
  rw [daysBeforeMonth_end] at hyear
  rw [dayNumber, daysBeforeYear_succ]
  omega

/-- No date lies in front of its year. -/
theorem le_dayNumber (d : Date) : daysBeforeYear d.year ≤ d.dayNumber := by
  have hday := d.day_valid.1
  rw [dayNumber]
  omega

/-- **A later year** has greater day numbers. -/
theorem dayNumber_lt_of_year_lt (h : d.year < d'.year) : d.dayNumber < d'.dayNumber :=
  calc
    d.dayNumber < daysBeforeYear (d.year + 1) := d.dayNumber_lt
    _ ≤ daysBeforeYear d'.year := monotone_daysBeforeYear h
    _ ≤ d'.dayNumber := d'.le_dayNumber

/-- So has **a later month** of the same year. -/
theorem dayNumber_lt_of_month_lt (hyear : d.year = d'.year) (h : d.month < d'.month) :
    d.dayNumber < d'.dayNumber := by
  have hmonth := daysBeforeMonth_add_le d.year d.month_valid.1 h
  have hday := d.day_valid.2
  have hday' := d'.day_valid.1
  rw [dayNumber, dayNumber, ← hyear]
  omega

/-- **Dates with one day number** are equal. -/
theorem dayNumber_injective : Function.Injective dayNumber := by
  intro d d' h
  have hyear : d.year = d'.year := by
    rcases lt_trichotomy d.year d'.year with hlt | heq | hlt
    · exact absurd h (dayNumber_lt_of_year_lt hlt).ne
    · exact heq
    · exact absurd h (dayNumber_lt_of_year_lt hlt).ne'
  have hmonth : d.month = d'.month := by
    rcases lt_trichotomy d.month d'.month with hlt | heq | hlt
    · exact absurd h (dayNumber_lt_of_month_lt hyear hlt).ne
    · exact heq
    · exact absurd h (dayNumber_lt_of_month_lt hyear.symm hlt).ne'
  obtain ⟨year, month, day, hmonthValid, hdayValid⟩ := d
  obtain ⟨year', month', day', hmonthValid', hdayValid'⟩ := d'
  obtain rfl : year = year' := hyear
  obtain rfl : month = month' := hmonth
  obtain rfl : day = day' := by
    simp only [dayNumber] at h
    omega
  rfl

/-- **A date is found again** from its day number. -/
theorem ofDayNumber_dayNumber (d : Date) : ofDayNumber d.dayNumber = d :=
  dayNumber_injective (dayNumber_ofDayNumber d.dayNumber)

end Date

/-! ### Clocks -/

namespace DateTime

variable {a b : DateTime}

/-- **A clock is found again** from its instant. -/
theorem at_instant (d : DateTime) : d.instant.at d.offset = d := by
  obtain ⟨date, second, nano, offset, hsecond, hnano⟩ := d
  have hclock : date.dayNumber * 86400 + second - offset.seconds + offset.seconds =
      date.dayNumber * 86400 + second := by omega
  have hdate : (date.dayNumber * 86400 + second) / 86400 = date.dayNumber := by omega
  have hday : ((date.dayNumber * 86400 + second) % 86400).toNat = second := by omega
  simp only [instant, Instant.at, hclock, hdate, hday, Date.ofDayNumber_dayNumber]

/-- **At one instant** a clock shows what the other one shows when it is moved to its
offset. -/
theorem instant_eq_iff : a.instant = b.instant ↔ b = a.withOffset b.offset := by
  constructor
  · intro h
    rw [withOffset, h, at_instant]
  · intro h
    rw [h, withOffset, Instant.instant_at]

end DateTime

/-- **Date-times are the same value** if they are one clock at two offsets. -/
theorem Value.same_dateTime_iff {a b : DateTime} :
    (Value.dateTime a).same (.dateTime b) = true ↔ b = a.withOffset b.offset := by
  rw [← DateTime.instant_eq_iff, same, decide_eq_true_iff]

end Stencil
