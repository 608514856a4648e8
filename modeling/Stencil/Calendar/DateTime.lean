import Stencil.Calendar.Date
import Stencil.Numeral

/-!
# Date-times

A date-time shows the clock of a place: a local date, a local time of day, and the offset of
that clock from UTC. Two date-times are at the same **instant** if their clocks agree once the
offsets are taken away. A nanosecond count from one thousand million upwards marks a leap
second.

## Main definitions

* `Stencil.UtcOffset`: a clock's distance from UTC, less than a day.
* `Stencil.Instant`: a point in time.
* `Stencil.DateTime`: a local date and time with an offset.
* `Stencil.DateTime.instant`, `Stencil.Instant.at`: the two directions between them.

## Main results

* `Stencil.Instant.instant_at`: reading a clock at any offset keeps the instant.
-/

namespace Stencil

/-- The offset of a clock from UTC in seconds, positive east of Greenwich. -/
structure UtcOffset where
  /-- The seconds to add to UTC. -/
  seconds : Int
  /-- An offset is shorter than a day. -/
  seconds_lt : seconds.natAbs < 86400
  deriving DecidableEq

namespace UtcOffset

/-- The offset of UTC itself. -/
def utc : UtcOffset := ⟨0, by decide⟩

/-- The offset of a number of seconds, if it is shorter than a day. -/
def ofSeconds? (seconds : Int) : Option UtcOffset :=
  if h : seconds.natAbs < 86400 then some ⟨seconds, h⟩ else none

/-- The whole hours of an offset, without its sign. -/
def hours (o : UtcOffset) : Nat := o.seconds.natAbs / 3600

/-- The whole minutes after the hours of an offset. -/
def minutes (o : UtcOffset) : Nat := o.seconds.natAbs % 3600 / 60

/-- The sign of an offset; UTC itself has a plus. -/
def sign (o : UtcOffset) : Char := if o.seconds < 0 then '-' else '+'

end UtcOffset

/-- A point in time, as the UTC clock shows it. -/
structure Instant where
  /-- Seconds since the start of 1 January of year 1. -/
  second : Int
  /-- Nanoseconds after that, from one thousand million upwards in a leap second. -/
  nano : Nat
  /-- A second has at most twice one thousand million nanoseconds. -/
  nano_lt : nano < 2000000000
  deriving DecidableEq

/-- A **date-time**: the local date and time of day at an offset from UTC. -/
structure DateTime where
  /-- The local date. -/
  date : Date
  /-- The second of the local day. -/
  second : Nat
  /-- Nanoseconds after that, from one thousand million upwards in a leap second. -/
  nano : Nat
  /-- The offset of the clock. -/
  offset : UtcOffset
  /-- A day has 86400 seconds. -/
  second_lt : second < 86400
  /-- A second has at most twice one thousand million nanoseconds. -/
  nano_lt : nano < 2000000000
  deriving DecidableEq

namespace DateTime

/-! ### The clock -/

/-- The hour of the day, from 0 to 23. -/
def hour (d : DateTime) : Nat := d.second / 3600

/-- The hour on a clock face, from 1 to 12. -/
def hour12 (d : DateTime) : Nat := if d.hour % 12 = 0 then 12 else d.hour % 12

/-- The minute of the hour. -/
def minute (d : DateTime) : Nat := d.second / 60 % 60

/-- The second of the minute; a leap second counts as the one before it. -/
def secondOfMinute (d : DateTime) : Nat := d.second % 60

/-- The date-time of an hour, a minute and a second on a date. -/
def ofClock? (date : Date) (hour minute second nano : Nat) (offset : UtcOffset) :
    Option DateTime :=
  if h : (hour < 24 ∧ minute < 60 ∧ second < 60) ∧ nano < 2000000000 then
    some ⟨date, hour * 3600 + minute * 60 + second, nano, offset, by omega, h.2⟩
  else none

/-- The instant at which a clock shows a date-time. -/
def instant (d : DateTime) : Instant :=
  ⟨d.date.dayNumber * 86400 + d.second - d.offset.seconds, d.nano, d.nano_lt⟩

end DateTime

/-- What a clock at an offset shows at an instant. -/
def Instant.at (i : Instant) (offset : UtcOffset) : DateTime :=
  let clock := i.second + offset.seconds
  ⟨Date.ofDayNumber (clock / 86400), (clock % 86400).toNat, i.nano, offset, by omega,
    i.nano_lt⟩

/-- Reading a clock at any offset keeps the instant. -/
@[simp] theorem Instant.instant_at (i : Instant) (offset : UtcOffset) :
    (i.at offset).instant = i := by
  obtain ⟨second, nano, hnano⟩ := i
  simp only [DateTime.instant, Instant.at, Date.dayNumber_ofDayNumber, Instant.mk.injEq,
    and_true]
  omega

namespace DateTime

/-- The same instant on a clock at another offset. -/
def withOffset (d : DateTime) (offset : UtcOffset) : DateTime := d.instant.at offset

/-! ### Texts -/

/-- A number of two digits. -/
private def two (n : Nat) : Text := Numeral.fixed 10 2 n

/-- A year of four digits; years outside of 0 to 9999 show their sign. -/
def yearText (year : Int) : Text :=
  if 0 ≤ year ∧ year ≤ 9999 then Numeral.fixed 10 4 year.natAbs
  else (if year < 0 then '-' else '+') :: Numeral.fixed 10 4 year.natAbs

/-- A date such as `2024-03-05`. -/
def dateText (d : DateTime) : Text :=
  yearText d.date.year ++ '-' :: two d.date.month ++ '-' :: two d.date.day

/-- A time of day such as `13:07:09`, where a leap second is second 60. -/
def clockText (d : DateTime) : Text :=
  two d.hour ++ ':' :: two d.minute ++ ':' :: two (d.secondOfMinute + d.nano / 1000000000)

/-- The local date and time, without the offset. -/
def display (d : DateTime) : Text := d.dateText ++ ' ' :: d.clockText

/-- The nanoseconds after a point in groups of three digits, as many as are needed. -/
def fractionText (d : DateTime) : Text :=
  let nano := d.nano % 1000000000
  if nano = 0 then []
  else if nano % 1000000 = 0 then '.' :: Numeral.fixed 10 3 (nano / 1000000)
  else if nano % 1000 = 0 then '.' :: Numeral.fixed 10 6 (nano / 1000)
  else '.' :: Numeral.fixed 10 9 nano

/-- An offset such as `+02:00`, with its seconds if it has any. -/
def offsetText (o : UtcOffset) : Text :=
  let seconds := o.seconds.natAbs % 60
  o.sign :: two o.hours ++ ':' :: two o.minutes ++
    if seconds = 0 then [] else ':' :: two seconds

/-- The whole of a date-time, offset included. -/
def inspect (d : DateTime) : Text :=
  d.dateText ++ 'T' :: d.clockText ++ d.fractionText ++ offsetText d.offset

end DateTime

end Stencil
