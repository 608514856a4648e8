import Stencil.Proofs.Binary64.Reading
import Stencil.Proofs.Calendar.Clock
import Stencil.Proofs.Format.DateTime
import Stencil.Proofs.Guid

/-!
# The round-trip pattern

The pattern `o` writes a date-time with seven digits of the fraction of the second and with the
offset. What it writes is an RFC 3339 date-time: the reader takes it apart from left to right,
and each part finds the digits that were written for it in front of a character that is none.
As an argument of the command line the text is tried as a number and as an identifier first,
but the hyphen after the year belongs to no number, and no identifier holds it there.

## Main definitions

* `Stencil.DateTime.IsRoundTrip`: the date-times that the pattern writes without loss.
* `Stencil.DateTime.roundTripText`: the text that it writes.

## Main results

* `format_roundTrip`: what the pattern `o` writes.
* `DateTime.ofRfc3339?_roundTripText`: the text reads back.
* `Value.ofArgument_append_hyphen`: a text that cannot be a number or an identifier.
* `format_roundTrip_ofArgument`: the pattern survives the command line.
-/

namespace Stencil

open Numeral

namespace DateTime

/-- The offset at the end of a round-trip text. -/
def zoneText (o : UtcOffset) : Text :=
  if o = .utc then ['Z'] else o.sign :: fixed 10 2 o.hours ++ ':' :: fixed 10 2 o.minutes

/-- The time of day and the offset of a round-trip text. -/
def roundTripClock (d : DateTime) : Text :=
  fixed 10 2 d.hour ++ ':' :: (fixed 10 2 d.minute ++ ':' :: (fixed 10 2 d.secondOfMinute ++
    '.' :: ((fixed 10 9 d.nano).take 7 ++ zoneText d.offset)))

/-- **The round-trip text** of a date-time. -/
def roundTripText (d : DateTime) : Text :=
  fixed 10 4 d.date.year.natAbs ++ '-' :: (fixed 10 2 d.date.month ++ '-' ::
    (fixed 10 2 d.date.day ++ 'T' :: d.roundTripClock))

/-- A date-time **makes the round trip** if its year has at most four digits, its offset is a
number of minutes, and its fraction of a second, which is no leap second, has at most seven
digits. -/
structure IsRoundTrip (d : DateTime) : Prop where
  year : 0 ≤ d.date.year ∧ d.date.year ≤ 9999
  offset : d.offset.seconds % 60 = 0
  nano_lt : d.nano < 1000000000
  nano_mod : d.nano % 100 = 0

end DateTime

/-! ### Writing -/

/-- The pattern that the letter `o` stands for. -/
def roundTripPattern : Text := "yyyy'-'MM'-'dd'T'HH':'mm':'ss'.'fffffffK".toList

/-- Its parts. -/
def roundTripParts : List DatePart :=
  [.field .year 4, .literal ['-'], .field .month 2, .literal ['-'], .field .day 2,
    .literal ['T'], .field .hour24 2, .literal [':'], .field .minute 2, .literal [':'],
    .field .second 2, .literal ['.'], .field .fraction 7, .field .zone 1]

/-- The pattern of the round-trip format, taken apart. -/
theorem ofPattern?_roundTripPattern :
    DatePart.ofPattern? roundTripPattern = some roundTripParts := by decide +kernel

/-- The round-trip format renders these parts. -/
theorem renderDateTime?_roundTrip (d : DateTime) (utc : Bool) :
    renderDateTime? d utc ['o'] = some (DatePart.render d utc roundTripParts) := by
  have hpattern : standardDatePattern? 'o' = some (roundTripPattern, false) := rfl
  rw [renderDateTime?_of_standard hpattern ofPattern?_roundTripPattern]
  simp only [Bool.false_eq_true, if_false]

/-- The text of the zone field in a clock that shows UTC exactly if its offset is that of
UTC. -/
theorem text_zone (d : DateTime) (run : Nat) :
    DateField.text d (d.offset = .utc) run .zone = DateTime.zoneText d.offset := by
  by_cases h : d.offset = .utc <;>
    simp [DateField.text, DateTime.zoneText, DateField.offsetInRun, h]

/-- **What the pattern `o` writes.** -/
theorem format_roundTrip {d : DateTime} (h : d.IsRoundTrip) :
    (Value.dateTime d).format ['o'] = .ok d.roundTripText := by
  have hparts : ∀ run, DatePart.field .shortFraction run ∉ roundTripParts := by
    simp [roundTripParts]
  have hyear : DateField.text d (d.offset = .utc) 4 .year = fixed 10 4 d.date.year.natAbs := by
    simp [DateField.text, DateField.yearInRun, DateField.signedFixed, sign,
      not_lt.mpr h.year.1]
  have hfraction : DateField.text d (d.offset = .utc) 7 .fraction =
      (fixed 10 9 d.nano).take 7 := by
    rw [DateField.text, DateField.fractionDigits, Nat.mod_eq_of_lt h.nano_lt]
  rw [Value.format, formatDateTime, renderDateTime?_roundTrip,
    DatePart.render_eq_flatMap hparts]
  simp only [roundTripParts, List.flatMap_cons, List.flatMap_nil, DatePart.text, hyear,
    hfraction, text_zone]
  simp [DateField.text, DateField.namedNumber, DateField.clockNumber, DateTime.roundTripText,
    DateTime.roundTripClock]

/-! ### Reading -/

/-- The fields of a date read back. -/
theorem Date.ofFields?_self (d : Date) : Date.ofFields? d.year d.month d.day = some d :=
  dif_pos ⟨d.month_valid, d.day_valid⟩

namespace DateTime

variable {d : DateTime}

/-- A numeral of some digits is read off the text that starts with it. -/
theorem digits?_fixed_append {count n : Nat} (hcount : 0 < count) (h : n < 10 ^ count)
    (rest : Text) : digits? count (fixed 10 count n ++ rest) = some (n, rest) := by
  have hlength : (fixed 10 count n).length = count := length_fixed_of_lt (by decide) hcount h
  have htake : (fixed 10 count n ++ rest).take count = fixed 10 count n := by
    rw [List.take_append_of_le_length hlength.ge, List.take_of_length_le hlength.le]
  have hdrop : (fixed 10 count n ++ rest).drop count = rest := by
    rw [List.drop_append_of_le_length hlength.ge, List.drop_of_length_le hlength.le,
      List.nil_append]
  simp [digits?, htake, hdrop, hlength, natural?_fixed]

/-- The date in front of a text. -/
theorem date?_append {d : Date} (h : 0 ≤ d.year ∧ d.year ≤ 9999) (rest : Text) :
    date? (fixed 10 4 d.year.natAbs ++ '-' :: (fixed 10 2 d.month ++ '-' ::
      (fixed 10 2 d.day ++ rest))) = some (d, rest) := by
  have hyear : (d.year.natAbs : Int) = d.year := Int.natAbs_of_nonneg h.1
  have hmonth := d.month_valid
  have hday := d.day_le
  simp only [date?, Option.bind_eq_bind, Option.pure_def, expect?, beq_self_eq_true, if_true,
    digits?_fixed_append (by decide : 0 < 4) (by omega : d.year.natAbs < 10 ^ 4),
    Option.bind_some, digits?_fixed_append (by decide : 0 < 2) (by omega : d.month < 10 ^ 2),
    digits?_fixed_append (by decide : 0 < 2) (by omega : d.day < 10 ^ 2), hyear,
    Date.ofFields?_self]

/-- The offset at the end of the text. -/
theorem offset?_zoneText {o : UtcOffset} (h : o.seconds % 60 = 0) :
    offset? (zoneText o) = some (o, []) := by
  rw [zoneText]
  split
  · next hutc => rw [hutc]; rfl
  · have hlt := o.seconds_lt
    have hhours : o.hours < 10 ^ 2 := by rw [UtcOffset.hours]; omega
    have hminutes : o.minutes < 60 := by rw [UtcOffset.minutes]; omega
    have hsigns : o.sign = '+' ∨ o.sign = '-' ∨ o.sign = '\u2212' := by
      rw [UtcOffset.sign]; split <;> simp
    have hnotUtc : ¬ (o.sign = 'Z' ∨ o.sign = 'z') := by
      rw [UtcOffset.sign]; split <;> simp
    have hmagnitude : o.hours * 3600 + o.minutes * 60 = o.seconds.natAbs := by
      rw [UtcOffset.hours, UtcOffset.minutes]
      omega
    have hseconds : (if o.sign = '+' then ((o.hours * 3600 + o.minutes * 60 : Nat) : Int)
        else -((o.hours * 3600 + o.minutes * 60 : Nat) : Int)) = o.seconds := by
      rw [hmagnitude, UtcOffset.sign]
      by_cases hnegative : o.seconds < 0
      · simp only [hnegative, if_true, if_neg (by decide : ¬ '-' = '+')]
        omega
      · simp only [hnegative, if_false, if_true]
        omega
    have hoffset : UtcOffset.ofSeconds? o.seconds = some o := dif_pos hlt
    have hlast := digits?_fixed_append (by decide : 0 < 2) (by omega : o.minutes < 10 ^ 2) []
    rw [List.append_nil] at hlast
    push_cast at hseconds
    simp only [List.cons_append, offset?, hnotUtc, hsigns, if_true, if_false,
      Option.bind_eq_bind, Option.pure_def, digits?_fixed_append (by decide : 0 < 2) hhours,
      Option.bind_some, expect?, beq_self_eq_true, hlast, hseconds, hoffset, hminutes]

/-- The offset starts with no digit. -/
theorem takeWhile_zoneText (o : UtcOffset) : (zoneText o).takeWhile Char.isDigit = [] := by
  rw [zoneText, UtcOffset.sign]
  split
  · rfl
  · split <;> rfl

/-- Two zeros stand for the last two digits of a multiple of a hundred. -/
theorem natural?_take_fixed {nano : Nat} (hlt : nano < 1000000000) (hmod : nano % 100 = 0) :
    natural? ((fixed 10 9 nano).take 7 ++ ['0', '0']) = some nano := by
  have hfirst : (fixed 10 9 nano).take 7 = fixed 10 7 (nano / 100) :=
    take_fixed (by decide) (by decide) (by decide : 0 < 2) hlt
  have hsplit : fixed 10 9 nano = fixed 10 7 (nano / 100) ++ fixed 10 2 (nano % 100) :=
    fixed_add (by decide) (by decide) (by decide : 0 < 2) nano
  have hlast : fixed 10 2 (nano % 100) = ['0', '0'] := by rw [hmod]; rfl
  rw [hfirst, ← hlast, ← hsplit, natural?_fixed]

/-- The fraction of seven digits in front of the offset. -/
theorem fraction?_append (hlt : d.nano < 1000000000) (hmod : d.nano % 100 = 0) :
    fraction? ('.' :: ((fixed 10 9 d.nano).take 7 ++ zoneText d.offset)) =
      some (d.nano, zoneText d.offset) := by
  have hlength : ((fixed 10 9 d.nano).take 7).length = 7 := by
    rw [List.length_take, length_fixed_of_lt (by decide) (by decide) hlt]
    rfl
  have hdigits : ∀ c ∈ (fixed 10 9 d.nano).take 7, c.isDigit = true := fun c hmem =>
    List.all_eq_true.mp (all_isDigit_fixed 9 d.nano) c
      (List.mem_of_mem_take hmem)
  have hnumber := natural?_take_fixed hlt hmod
  generalize (fixed 10 9 d.nano).take 7 = shown at hlength hdigits hnumber
  have hne : shown ≠ [] := by rintro rfl; exact absurd hlength (by decide)
  have htakeWhile : (shown ++ zoneText d.offset).takeWhile Char.isDigit = shown := by
    rw [List.takeWhile_append_of_pos hdigits, takeWhile_zoneText, List.append_nil]
  have hdropWhile : (shown ++ zoneText d.offset).dropWhile Char.isDigit =
      zoneText d.offset := by
    have hsplit := @List.takeWhile_append_dropWhile _ Char.isDigit (shown ++ zoneText d.offset)
    rw [htakeWhile] at hsplit
    exact List.append_cancel_left hsplit
  have htake : shown.take 9 = shown := List.take_of_length_le (by omega)
  rw [fraction?, htakeWhile, hdropWhile, htake, if_neg hne, hlength]
  exact congrArg _ hnumber

/-- The fields of a clock read back. -/
theorem ofClock?_self (d : DateTime) :
    ofClock? d.date d.hour d.minute d.secondOfMinute d.nano d.offset = some d := by
  obtain ⟨date, second, nano, offset, hsecond, hnano⟩ := d
  have hfields : second / 3600 * 3600 + second / 60 % 60 * 60 + second % 60 = second := by
    omega
  have hvalid : (second / 3600 < 24 ∧ second / 60 % 60 < 60 ∧ second % 60 < 60) ∧
      nano < 2000000000 := ⟨by omega, hnano⟩
  simp [ofClock?, hour, minute, secondOfMinute, hvalid, hfields]

/-- **The text reads back.** -/
theorem ofRfc3339?_roundTripText (h : d.IsRoundTrip) :
    ofRfc3339? d.roundTripText = some d := by
  have hsecond := d.second_lt
  have hhour : d.hour < 10 ^ 2 := by rw [hour]; omega
  have hminute : d.minute < 10 ^ 2 := by rw [minute]; omega
  have hsecondOfMinute : d.secondOfMinute < 60 := by rw [secondOfMinute]; omega
  simp only [ofRfc3339?, roundTripText, roundTripClock, Option.bind_eq_bind,
    date?_append h.year, expect?, Option.bind_some, Bool.true_or, beq_self_eq_true, if_true,
    digits?_fixed_append (by decide : 0 < 2) hhour,
    digits?_fixed_append (by decide : 0 < 2) hminute,
    digits?_fixed_append (by decide : 0 < 2) (by omega : d.secondOfMinute < 10 ^ 2),
    fraction?_append h.nano_lt h.nano_mod, offset?_zoneText h.offset, ne_eq, not_true_eq_false,
    if_false, hsecondOfMinute.ne, ofClock?_self]

end DateTime

/-! ### The command line -/

section Argument

variable {digits rest : Text}

/-- A hyphen after the digits keeps a text from being a number. -/
theorem Binary64.read?_append_hyphen (hne : digits ≠ []) (hall : digits.all Char.isDigit) :
    Binary64.read? (digits ++ '-' :: rest) = none := by
  have hdropWhile : (digits ++ '-' :: rest).dropWhile Char.isDigit = '-' :: rest := by
    rw [List.dropWhile_append_of_pos (List.all_eq_true.mp hall),
      List.dropWhile_cons_of_neg (by decide)]
  have hmagnitude : readMagnitude? (digits ++ '-' :: rest) = none := by
    simp [readMagnitude?, hdropWhile, readExponent?]
  have hhead {c : Char} (hc : c.isDigit = false) : (digits ++ '-' :: rest).head? ≠ some c := by
    rw [List.head?_append_of_ne_nil _ hne]
    exact fun hhead => Text.not_mem_of_all hall hc (List.mem_of_head? hhead)
  rw [read?_of_unsigned (hhead rfl) (hhead rfl), hmagnitude]
  rfl

/-- A hyphen after less than eight digits keeps a text from being an identifier. -/
theorem Guid.read?_append_hyphen (hne : digits ≠ []) (hall : digits.all Char.isDigit)
    (hlength : digits.length < 8) : Guid.read? (digits ++ '-' :: rest) = none := by
  rw [Option.eq_none_iff_forall_ne_some]
  intro g hread
  have hhyphen : ((digits ++ '-' :: rest).map Char.toLower)[digits.length]? = some '-' := by
    simp
  have hhead {x : Char} (hx : Hex.digit? x = none) :
      ((digits ++ '-' :: rest).map Char.toLower).head? ≠ some x := by
    obtain ⟨c, more, rfl⟩ := List.exists_cons_of_ne_nil hne
    intro heq
    rw [← Option.some.inj heq, Hex.digit?_toLower] at hx
    exact Hex.digit?_ne_none_of_isDigit (List.all_eq_true.mp hall c List.mem_cons_self) hx
  -- No form that is read has a hyphen that near to its front, but some do not begin with a
  -- digit.
  rcases Guid.read?_eq_some_iff.mp hread with h | h | h | h
  all_goals rw [h] at hhyphen hhead
  · exact Hex.not_mem_map_digitChar rfl (List.mem_of_getElem? hhyphen)
  · obtain ⟨back, hfront⟩ : ∃ back, g.hyphenated = g.slice 0 8 ++ back := by
      simp only [hyphenated, List.append_assoc]
      exact ⟨_, rfl⟩
    rw [hfront, List.getElem?_append_left (by simpa [slice, g.length_digits] using hlength)]
      at hhyphen
    exact not_mem_slice rfl 0 8 (List.mem_of_getElem? hhyphen)
  · exact hhead rfl rfl
  · exact hhead rfl rfl

/-- A hyphen after less than eight digits leaves only the date-time. -/
theorem Value.ofArgument_append_hyphen {d : DateTime} (hne : digits ≠ [])
    (hall : digits.all Char.isDigit) (hlength : digits.length < 8)
    (h : DateTime.ofRfc3339? (digits ++ '-' :: rest) = some d) :
    Value.ofArgument (digits ++ '-' :: rest) = .dateTime d := by
  have hnumber : Binary64.read? (digits ++ '-' :: rest) = none :=
    Binary64.read?_append_hyphen hne hall
  rw [Value.ofArgument, Binary64.int64?_of_read?_eq_none hnumber, hnumber,
    Guid.read?_append_hyphen hne hall hlength, h]

/-- **The round-trip pattern survives the command line**: what it writes, given as an argument,
is the same date-time on the same clock, and no number, identifier or text. -/
theorem format_roundTrip_ofArgument (d : DateTime)
    (hyear : 0 ≤ d.date.year ∧ d.date.year ≤ 9999)
    (hoffset : d.offset.seconds % 60 = 0) (hnano : d.nano < 1000000000)
    (hdigits : d.nano % 100 = 0) :
    ∃ text, (Value.dateTime d).format ['o'] = .ok text ∧
      Value.ofArgument text = .dateTime d := by
  have h : d.IsRoundTrip := ⟨hyear, hoffset, hnano, hdigits⟩
  have hlength : (fixed 10 4 d.date.year.natAbs).length = 4 :=
    length_fixed_of_lt (by decide) (by decide) (by omega)
  exact ⟨d.roundTripText, format_roundTrip h, Value.ofArgument_append_hyphen
    (fixed_ne_nil 10 4 _) (all_isDigit_fixed 4 _) (by omega)
    (DateTime.ofRfc3339?_roundTripText h)⟩

/-- The last tenth of a microsecond of a leap day, five and a half hours west of Greenwich. -/
def leapDayEnd : DateTime :=
  ⟨⟨2024, 2, 29, by decide, by decide⟩, 86399, 999999900, ⟨-19800, by decide⟩, by decide,
    by decide⟩

/-- An offset to the west and a fraction of seven digits make the round trip. -/
theorem format_leapDayEnd_ofArgument :
    (0 ≤ leapDayEnd.date.year ∧ leapDayEnd.date.year ≤ 9999) ∧
      leapDayEnd.offset.seconds % 60 = 0 ∧ leapDayEnd.nano < 1000000000 ∧
      leapDayEnd.nano % 100 = 0 ∧
      ∃ text, (Value.dateTime leapDayEnd).format ['o'] = .ok text ∧
        Value.ofArgument text = .dateTime leapDayEnd :=
  ⟨by decide, by decide, by decide, by decide,
    format_roundTrip_ofArgument leapDayEnd (by decide) (by decide) (by decide) (by decide)⟩

end Argument

end Stencil
