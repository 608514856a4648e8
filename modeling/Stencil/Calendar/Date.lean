/-!
# Calendar dates

Dates of the proleptic Gregorian calendar, with years of either sign, and the count of days
from 1 January of year 1.

## Main definitions

* `Stencil.Date`: a year, a month and a day of that month.
* `Stencil.Date.dayNumber`: the number of days since 1 January of year 1.
* `Stencil.Date.ofDayNumber`: the date of a day number.
-/

namespace Stencil

/-! ### Years and months -/

/-- Whether a year has a 29 February. -/
def isLeapYear (year : Int) : Bool := year % 4 = 0 && (year % 100 ≠ 0 || year % 400 = 0)

/-- The number of days of a year after its 28 February that only leap years have. -/
def leapDays (year : Int) : Nat := if isLeapYear year then 1 else 0

/-- The number of days of a month. -/
def daysInMonth (year : Int) : Nat → Nat
  | 2 => 28 + leapDays year
  | 4 | 6 | 9 | 11 => 30
  | _ => 31

/-- The number of days of `count` months of a year from `first` on. -/
def daysInMonths (year : Int) (first : Nat) : (count : Nat) → Nat
  | 0 => 0
  | count + 1 => daysInMonth year first + daysInMonths year (first + 1) count

/-- The number of days of a year before a month. -/
def daysBeforeMonth (year : Int) (month : Nat) : Nat := daysInMonths year 1 (month - 1)

/-- The months of a year have all its days. -/
theorem daysInMonths_year (year : Int) : daysInMonths year 1 12 = 365 + leapDays year := by
  simp only [daysInMonths, daysInMonth]
  omega

/-- The number of days from 1 January of year 1 to 1 January of a year. -/
def daysBeforeYear (year : Int) : Int :=
  let y := year - 1
  365 * y + y / 4 - y / 100 + y / 400

/-! ### Dates -/

/-- A **date**: a year, a month from 1 to 12 and a day that the month has. -/
structure Date where
  /-- The year; zero is the year before year 1. -/
  year : Int
  /-- The month. -/
  month : Nat
  /-- The day of the month. -/
  day : Nat
  /-- Months are counted from 1 to 12. -/
  month_valid : 1 ≤ month ∧ month ≤ 12
  /-- Days are counted from 1 to the length of the month. -/
  day_valid : 1 ≤ day ∧ day ≤ daysInMonth year month
  deriving DecidableEq

namespace Date

/-- The date of a year, a month and a day, if there is such a day. -/
def ofFields? (year : Int) (month day : Nat) : Option Date :=
  if h : (1 ≤ month ∧ month ≤ 12) ∧ 1 ≤ day ∧ day ≤ daysInMonth year month then
    some ⟨year, month, day, h.1, h.2⟩
  else none

/-- The number of days since 1 January of year 1. -/
def dayNumber (d : Date) : Int :=
  daysBeforeYear d.year + daysBeforeMonth d.year d.month + d.day - 1

/-- The weekday, from 0 for Sunday to 6 for Saturday; 1 January of year 1 is a Monday. -/
def weekday (d : Date) : Nat := ((d.dayNumber + 1) % 7).toNat

/-! ### From day numbers -/

/-- The month and the day of the month that lie `day` days after the first day of the first of
`count` months from `month` on. -/
def walkMonths (year : Int) (month day : Nat) : (count : Nat) → Nat × Nat
  | 0 => (month, day + 1)
  | count + 1 =>
    if day < daysInMonth year month then (month, day + 1)
    else walkMonths year (month + 1) (day - daysInMonth year month) count

/-- The walk ends in one of the months, at a day that this month has, and passes exactly the
months before it. -/
theorem walkMonths_spec {year : Int} {month day count : Nat}
    (h : day < daysInMonths year month count) :
    (month ≤ (walkMonths year month day count).1 ∧
        (walkMonths year month day count).1 < month + count) ∧
      (1 ≤ (walkMonths year month day count).2 ∧
        (walkMonths year month day count).2 ≤
          daysInMonth year (walkMonths year month day count).1) ∧
      daysInMonths year month ((walkMonths year month day count).1 - month) +
        (walkMonths year month day count).2 = day + 1 := by
  induction count generalizing month day with
  | zero => exact absurd h (Nat.not_lt_zero day)
  | succ count ih =>
    rw [daysInMonths] at h
    rw [walkMonths]
    split
    · next hday =>
      simp only [Nat.sub_self, daysInMonths]
      omega
    · next hday =>
      obtain ⟨hm, hd, hsum⟩ :=
        @ih (month + 1) (day - daysInMonth year month) (by omega)
      refine ⟨by omega, hd, ?_⟩
      have hrange :
          (walkMonths year (month + 1) (day - daysInMonth year month) count).1 - month =
            (walkMonths year (month + 1) (day - daysInMonth year month) count).1 -
              (month + 1) + 1 := by
        omega
      rw [hrange, daysInMonths]
      omega

/-- The month and the day of the month of a day of a year, counted from zero. -/
def monthAndDay (year : Int) (day : Nat) : Nat × Nat := walkMonths year 1 day 12

/-- The month and the day of a day of the year are valid and count up to that day. -/
theorem monthAndDay_spec {year : Int} {day : Nat} (h : day < 365 + leapDays year) :
    (1 ≤ (monthAndDay year day).1 ∧ (monthAndDay year day).1 ≤ 12) ∧
      (1 ≤ (monthAndDay year day).2 ∧
        (monthAndDay year day).2 ≤ daysInMonth year (monthAndDay year day).1) ∧
      daysBeforeMonth year (monthAndDay year day).1 + (monthAndDay year day).2 = day + 1 := by
  have hlt : day < daysInMonths year 1 12 := by rwa [daysInMonths_year]
  obtain ⟨hm, hd, hsum⟩ := walkMonths_spec hlt
  exact ⟨⟨hm.1, Nat.le_of_lt_succ hm.2⟩, hd, hsum⟩

/-- The date of a day of a year, counted from zero. -/
def ofYearDay (year : Int) (day : Nat) (h : day < 365 + leapDays year) : Date :=
  ⟨year, (monthAndDay year day).1, (monthAndDay year day).2, (monthAndDay_spec h).1,
    (monthAndDay_spec h).2.1⟩

/-- The year of a day number: whole periods of 400 years, then of 100, 4 and 1 years, where the
last day of a period may belong to a leap year. -/
def yearOfDayNumber (n : Int) : Int :=
  let inEra := n % 146097
  let century := min (inEra / 36524) 3
  let inCentury := inEra - century * 36524
  let quad := min (inCentury / 1461) 24
  let inQuad := inCentury - quad * 1461
  n / 146097 * 400 + century * 100 + quad * 4 + min (inQuad / 365) 3 + 1

/-- Centuries of a period of 400 years: only the last one has 36525 days. -/
theorem century_bounds {n c r : Int} (hlow : 0 ≤ n) (hhigh : n < 146097)
    (hc : c = min (n / 36524) 3) (hr : r = n - c * 36524) :
    (0 ≤ c ∧ c ≤ 3) ∧ 0 ≤ r ∧ r ≤ 36524 ∧ (c < 3 → r < 36524) := by
  omega

/-- Periods of four years of a century: a last one without a leap day has 1460 days. -/
theorem quad_bounds {n q r : Int} (hlow : 0 ≤ n) (hhigh : n ≤ 36524)
    (hq : q = min (n / 1461) 24) (hr : r = n - q * 1461) :
    (0 ≤ q ∧ q ≤ 24) ∧ 0 ≤ r ∧ r ≤ 1460 ∧ (q = 24 → n < 36524 → r < 1460) := by
  omega

/-- Years of a period of four: only the last day of the last year is number 365. -/
theorem single_bounds {n s r : Int} (hlow : 0 ≤ n) (hhigh : n ≤ 1460)
    (hs : s = min (n / 365) 3) (hr : r = n - s * 365) :
    (0 ≤ s ∧ s ≤ 3) ∧ 0 ≤ r ∧ r ≤ 365 ∧ (r = 365 → s = 3 ∧ n = 1460) := by
  omega

/-- The days before a year that is given by its place in the periods of 400, 100, 4 and 1
years. -/
theorem daysBeforeYear_periods {era century quad single : Int} (hc : 0 ≤ century ∧ century ≤ 3)
    (hq : 0 ≤ quad ∧ quad ≤ 24) (hs : 0 ≤ single ∧ single ≤ 3) :
    daysBeforeYear (era * 400 + century * 100 + quad * 4 + single + 1) =
      era * 146097 + century * 36524 + quad * 1461 + single * 365 := by
  have h4 : (era * 400 + century * 100 + quad * 4 + single) / 4 =
      era * 100 + century * 25 + quad := by omega
  have h100 : (era * 400 + century * 100 + quad * 4 + single) / 100 = era * 4 + century := by
    omega
  have h400 : (era * 400 + century * 100 + quad * 4 + single) / 400 = era := by omega
  simp only [daysBeforeYear, Int.add_sub_cancel, h4, h100, h400]
  omega

/-- The last year of a period of four is a leap year, unless it ends a century that does not
end a period of 400 years. -/
theorem isLeapYear_periods {era century quad : Int}
    (hq : 0 ≤ quad ∧ quad ≤ 24) (hlast : quad = 24 → century = 3) :
    isLeapYear (era * 400 + century * 100 + quad * 4 + 3 + 1) = true := by
  have h4 : (era * 400 + century * 100 + quad * 4 + 3 + 1) % 4 = 0 := by omega
  simp only [isLeapYear, h4, decide_true, Bool.true_and, Bool.or_eq_true, decide_eq_true_eq]
  by_cases h24 : quad = 24
  · right
    have h3 := hlast h24
    omega
  · left
    omega

/-- The year of a day number holds that day. -/
theorem yearOfDayNumber_spec (n : Int) :
    daysBeforeYear (yearOfDayNumber n) ≤ n ∧
      n - daysBeforeYear (yearOfDayNumber n) < 365 + leapDays (yearOfDayNumber n) := by
  have hera : n = n / 146097 * 146097 + n % 146097 := by omega
  have hlow : 0 ≤ n % 146097 := by omega
  have hhigh : n % 146097 < 146097 := by omega
  obtain ⟨year, hyear⟩ : ∃ year, year = yearOfDayNumber n := ⟨_, rfl⟩
  rw [← hyear]
  simp only [yearOfDayNumber] at hyear
  generalize n / 146097 = era at hera hyear
  generalize n % 146097 = inEra at hera hlow hhigh hyear
  obtain ⟨hc, hclow, hchigh, hclast⟩ := century_bounds hlow hhigh rfl rfl
  generalize min (inEra / 36524) 3 = century at hyear hc hclow hchigh hclast
  generalize hinCentury : inEra - century * 36524 = inCentury at hyear hclow hchigh hclast
  obtain ⟨hq, hqlow, hqhigh, hqlast⟩ := quad_bounds hclow hchigh rfl rfl
  generalize min (inCentury / 1461) 24 = quad at hyear hq hqlow hqhigh hqlast
  generalize hinQuad : inCentury - quad * 1461 = inQuad at hyear hqlow hqhigh hqlast
  obtain ⟨hs, hslow, hshigh, hslast⟩ := single_bounds hqlow hqhigh rfl rfl
  generalize min (inQuad / 365) 3 = single at hyear hs hslow hshigh hslast
  rw [hyear, daysBeforeYear_periods hc hq hs]
  have hrest : n - (era * 146097 + century * 36524 + quad * 1461 + single * 365) =
      inQuad - single * 365 := by omega
  refine ⟨by omega, ?_⟩
  rw [hrest]
  by_cases hlast : inQuad - single * 365 = 365
  · obtain ⟨h3, h1460⟩ := hslast hlast
    subst h3
    have hleap : isLeapYear (era * 400 + century * 100 + quad * 4 + 3 + 1) = true :=
      isLeapYear_periods hq (by omega)
    simp only [leapDays, hleap, if_true]
    omega
  · omega

/-- The date of a day number. -/
def ofDayNumber (n : Int) : Date :=
  ofYearDay (yearOfDayNumber n) (n - daysBeforeYear (yearOfDayNumber n)).toNat
    (by have := yearOfDayNumber_spec n; omega)

/-- The date of a day number has that day number. -/
theorem dayNumber_ofDayNumber (n : Int) : (ofDayNumber n).dayNumber = n := by
  have hyear := yearOfDayNumber_spec n
  have hday : (n - daysBeforeYear (yearOfDayNumber n)).toNat <
      365 + leapDays (yearOfDayNumber n) := by
    omega
  have hmonth := (monthAndDay_spec hday).2.2
  simp only [dayNumber, ofDayNumber, ofYearDay]
  omega

end Date

end Stencil
