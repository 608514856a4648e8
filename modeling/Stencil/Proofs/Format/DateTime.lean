import Mathlib
import Stencil.Proofs.Numeral
import Stencil.Value

/-!
# Values without a format text

A value has a text of its own, and an empty format text writes the value too. For date-times
these are two programs. The one is a pattern of four places for the year, one of which a minus
sign takes. The other writes at least four digits behind the sign, with a plus sign for the
years from 10000 on, and counts a leap second as second 60. Both write the same between the
year and the second, so they agree where both ends do.

## Main definitions

* `Stencil.DateTime.middleText`: what both write between the year and the second.

## Main results

* `renderDateTime?_of_standard`: what the letter of a standard pattern writes.
* `formatDateTime_nil`, `display_eq`: the two texts, cut at the year and at the second.
* `signedFixed_eq_yearText_iff`: the years on which they agree.
* `format_nil_eq_display_iff`: the values that an empty format text writes as they are
  displayed.
-/

namespace Stencil

open Numeral

/-! ### The two texts of a date-time -/

namespace DateTime

/-- The date of a date-time, written out. -/
theorem dateText_eq (d : DateTime) :
    d.dateText =
      yearText d.date.year ++ '-' :: fixed 10 2 d.date.month ++ '-' :: fixed 10 2 d.date.day :=
        rfl

/-- The time of a date-time, written out, with a leap second as the second after. -/
theorem clockText_eq (d : DateTime) :
    d.clockText = fixed 10 2 d.hour ++ ':' :: fixed 10 2 d.minute ++
      ':' :: fixed 10 2 (d.secondOfMinute + d.nano / 1000000000) := rfl

/-- The text of a date-time from the hyphen after the year to the colon before the second. -/
def middleText (d : DateTime) : Text :=
  '-' :: fixed 10 2 d.date.month ++ '-' :: fixed 10 2 d.date.day ++
    ' ' :: fixed 10 2 d.hour ++ ':' :: fixed 10 2 d.minute ++ [':']

/-- **The display of a date-time.** -/
theorem display_eq (d : DateTime) :
    d.display = yearText d.date.year ++ (d.middleText ++
      fixed 10 2 (d.secondOfMinute + d.nano / 1000000000)) := by
  simp only [display, dateText_eq, clockText_eq, middleText, List.append_assoc,
    List.cons_append, List.nil_append]

end DateTime

namespace DatePart

variable {d : DateTime} {utc : Bool} {parts : List DatePart}

/-- The text of a part of a pattern, whatever stands before it. -/
def text (d : DateTime) (utc : Bool) : DatePart → Text
  | literal text => text
  | field f run => f.text d utc run

/-- **Without a shortened fraction** the parts of a pattern are written behind each other. -/
theorem foldl_append (h : ∀ run, field .shortFraction run ∉ parts) (written : Text) :
    parts.foldl (append d utc) written = written ++ parts.flatMap (text d utc) := by
  induction parts generalizing written with
  | nil => exact (List.append_nil written).symm
  | cons part parts ih =>
    have happend : append d utc written part = written ++ part.text d utc := by
      cases part with
      | literal text => rfl
      | field f run =>
        have hf : f ≠ .shortFraction := fun hf => h run (hf ▸ List.mem_cons_self)
        exact if_neg fun hdropped => hf hdropped.1
    rw [List.foldl_cons, happend, ih fun run hmem => h run (List.mem_cons_of_mem _ hmem),
      List.flatMap_cons, List.append_assoc]

/-- Without fractions that may vanish, parts are rendered one by one. -/
theorem render_eq_flatMap (h : ∀ run, field .shortFraction run ∉ parts) :
    render d utc parts = parts.flatMap (text d utc) :=
  foldl_append h []

end DatePart

/-- **A letter** is written as the parts of its standard pattern. -/
theorem renderDateTime?_of_standard {letter : Char} {pattern : Text} {inUtc : Bool}
    {parts : List DatePart} (hpattern : standardDatePattern? letter = some (pattern, inUtc))
    (hparts : DatePart.ofPattern? pattern = some parts) (d : DateTime) (utc : Bool) :
    renderDateTime? d utc [letter] =
      some (if inUtc then DatePart.render (d.withOffset .utc) true parts
        else DatePart.render d utc parts) := by
  simp only [renderDateTime?, datePattern?, hpattern, hparts, Option.bind_eq_bind,
    Option.bind_some, Option.pure_def]

/-- The parts of the pattern that an empty format text stands for. -/
def defaultDateParts : List DatePart :=
  [.field .year 4, .literal ['-'], .field .month 2, .literal ['-'], .field .day 2,
    .literal [' '], .field .hour24 2, .literal [':'], .field .minute 2, .literal [':'],
    .field .second 2]

/-- The default pattern, taken apart. -/
theorem ofPattern?_defaultDatePattern :
    DatePart.ofPattern? defaultDatePattern = some defaultDateParts := by decide +kernel

/-- **A date-time by an empty format text.** -/
theorem formatDateTime_nil (d : DateTime) (utc : Bool) :
    formatDateTime d utc [] = .ok (DateField.signedFixed 4 d.date.year ++ (d.middleText ++
      fixed 10 2 d.secondOfMinute)) := by
  have hrender : renderDateTime? d utc [] = some (DatePart.render d utc defaultDateParts) := by
    simp only [renderDateTime?, datePattern?, ofPattern?_defaultDatePattern,
      Option.bind_eq_bind, Option.bind_some, Option.pure_def, Bool.false_eq_true, if_false]
  have hparts : ∀ run, DatePart.field .shortFraction run ∉ defaultDateParts := by
    simp [defaultDateParts]
  rw [formatDateTime, hrender, DatePart.render_eq_flatMap hparts]
  simp [defaultDateParts, DatePart.text, DateField.text, DateField.yearInRun,
    DateField.namedNumber, DateField.clockNumber, DateTime.middleText]

/-! ### Where they agree -/

/-- **The years** that both write in the same way: those of four digits without a sign, and
those with a minus sign that have four digits after it anyway. -/
theorem signedFixed_eq_yearText_iff (year : Int) :
    DateField.signedFixed 4 year = DateTime.yearText year ↔
      year ≤ -1000 ∨ 0 ≤ year ∧ year ≤ 9999 := by
  rcases lt_or_ge year 0 with hneg | hpos
  · -- The minus sign takes one of the four places of the pattern, but none of the display.
    have hpattern : DateField.signedFixed 4 year = '-' :: fixed 10 3 year.natAbs := by
      simp [DateField.signedFixed, sign, hneg]
    have hdisplay : DateTime.yearText year = '-' :: fixed 10 4 year.natAbs := by
      rw [DateTime.yearText, if_neg (by omega), if_pos hneg]
    have hdigits : fixed 10 3 year.natAbs = fixed 10 4 year.natAbs ↔ 10 ^ 3 ≤ year.natAbs :=
      fixed_eq_fixed_succ_iff (by decide) (by decide)
    rw [hpattern, hdisplay, List.cons.injEq, eq_self, true_and, hdigits]
    omega
  · have hpattern : DateField.signedFixed 4 year = fixed 10 4 year.natAbs := by
      simp [DateField.signedFixed, sign, not_lt.mpr hpos]
    rw [hpattern, DateTime.yearText]
    split
    case isTrue hshort => exact iff_of_true rfl (.inr hshort)
    case isFalse hlong => exact iff_of_false (List.ne_cons_self) (by omega)

/-- The seconds that both write in the same way: those that are no leap seconds. -/
theorem fixed_second_eq_iff (d : DateTime) :
    fixed 10 2 d.secondOfMinute = fixed 10 2 (d.secondOfMinute + d.nano / 1000000000) ↔
      d.nano < 1000000000 := by
  rw [fixed_inj (by decide) (by decide)]
  omega

/-- Seconds are written in two digits, a leap second included. -/
theorem length_fixed_second (d : DateTime) :
    (fixed 10 2 d.secondOfMinute).length =
      (fixed 10 2 (d.secondOfMinute + d.nano / 1000000000)).length := by
  have hsecond : d.secondOfMinute < 60 := Nat.mod_lt _ (by decide)
  have hnano := d.nano_lt
  rw [length_fixed_of_lt (by decide) (by decide) (by omega),
    length_fixed_of_lt (by decide) (by decide) (by omega)]

/-- **When an empty format text writes a date-time as it is displayed.** -/
theorem formatDateTime_nil_eq_display_iff (d : DateTime) (utc : Bool) :
    formatDateTime d utc [] = .ok d.display ↔
      (d.date.year ≤ -1000 ∨ 0 ≤ d.date.year ∧ d.date.year ≤ 9999) ∧ d.nano < 1000000000 := by
  rw [formatDateTime_nil, d.display_eq, Except.ok.injEq, ← signedFixed_eq_yearText_iff,
    ← fixed_second_eq_iff, ← List.append_assoc, ← List.append_assoc]
  constructor
  · intro h
    obtain ⟨hfront, hsecond⟩ := List.append_inj' h (length_fixed_second d)
    exact ⟨List.append_cancel_right hfront, hsecond⟩
  · rintro ⟨hyear, hsecond⟩
    rw [hyear, hsecond]

/-- **Without a format text** a value is written as it is displayed, except for date-times in
the years from -999 to -1 and from 10000 on, and for those in a leap second. -/
theorem Value.format_nil_eq_display_iff (v : Value) :
    v.format [] = .ok v.display ↔ ∀ d, v = .dateTime d →
      (d.date.year ≤ -1000 ∨ 0 ≤ d.date.year ∧ d.date.year ≤ 9999) ∧ d.nano < 1000000000 := by
  cases v with
  | dateTime d =>
    rw [Value.format, Value.display, formatDateTime_nil_eq_display_iff]
    exact ⟨fun h _ hd => Value.dateTime.inj hd ▸ h, fun h => h d rfl⟩
  | str | char | bool | int | uint | float | guid =>
    exact iff_of_true rfl nofun

/-- Two date-times that are written in another way than they are displayed: one in a year of
five digits, and one in a leap second. -/
theorem format_nil_ne_display :
    let longYear : Value := .dateTime
      ⟨⟨12345, 9, 9, by decide, by decide⟩, 47229, 0, .utc, by decide, by decide⟩
    let leapSecond : Value := .dateTime
      ⟨⟨2016, 12, 31, by decide, by decide⟩, 86399, 1500000000, .utc, by decide, by decide⟩
    (longYear.format [] = .ok "12345-09-09 13:07:09".toList ∧
      longYear.display = "+12345-09-09 13:07:09".toList ∧
      longYear.format [] ≠ .ok longYear.display) ∧
    leapSecond.format [] = .ok "2016-12-31 23:59:59".toList ∧
      leapSecond.display = "2016-12-31 23:59:60".toList ∧
      leapSecond.format [] ≠ .ok leapSecond.display := by
  intro longYear leapSecond
  have hlong : longYear.format [] = .ok "12345-09-09 13:07:09".toList := formatDateTime_nil _ _
  have hleap : leapSecond.format [] = .ok "2016-12-31 23:59:59".toList :=
    formatDateTime_nil _ _
  rw [hlong, hleap]
  decide

end Stencil
