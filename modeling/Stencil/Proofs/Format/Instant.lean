import Stencil.Proofs.Calendar.Clock
import Stencil.Proofs.Format.DatePattern

/-!
# What a format text shows of an instant

A pattern sees of a clock its date, its time of day, its offset and seven digits of the
fraction of the second. So on one clock, two instants of one second and one tenth of a
microsecond are written alike by every format text. The two patterns that are always written in
UTC do not even depend on the clock. They hold every field down to the second, and the texts of
all of them but the year have a fixed length, so each field is found in what they write, and
with the fields the second.

## Main definitions

* `Stencil.Instant.SameTick`: instants that no format text tells apart.
* `Stencil.DatePart.ShowsSecond`: the parts of a pattern from which the second is found again.

## Main results

* `formatDateTime_at_eq`: instants of one tick are written alike.
* `DatePart.ShowsSecond.render_eq_iff`: the instants that such a pattern writes alike.
* `formatDateTime_inUtc`: the format texts that are always written in UTC.
-/

namespace Stencil

open Numeral

variable {i j : Instant} {offset : UtcOffset} {utc : Bool} {d d' : DateTime} {f : DateField}
  {run : ℕ}

/-- Two instants are **of one tick** if they are of one second and one tenth of a microsecond,
where a leap second counts as the second before it. -/
structure Instant.SameTick (i j : Instant) : Prop where
  second : i.second = j.second
  tick : i.nano % 1000000000 / 100 = j.nano % 1000000000 / 100

/-! ### Fields -/

namespace DateField

/-- The fraction of the second is cut off after its tenths of a microsecond. -/
theorem fractionDigits_eq (hrun : run ≤ 7) :
    fractionDigits d run = (fixed 10 7 (d.nano % 1000000000 / 100)).take run := by
  have hseven : (fixed 10 9 (d.nano % 1000000000)).take 7 =
      fixed 10 7 (d.nano % 1000000000 / 100) :=
    take_fixed (by decide) (by decide) (by decide : 0 < 2) (Nat.mod_lt _ (by decide))
  rw [fractionDigits, ← hseven, List.take_take, min_eq_left hrun]

/-- **Without the fraction**, a field shows no more than the second. -/
theorem text_at_of_second_eq (h : i.second = j.second) (hf : f ≠ .fraction)
    (hf' : f ≠ .shortFraction) :
    f.text (i.at offset) utc run = f.text (j.at offset) utc run := by
  obtain ⟨second, nano, hnano⟩ := i
  obtain ⟨second', nano', hnano'⟩ := j
  obtain rfl : second = second' := h
  cases f with
  | fraction => exact absurd rfl hf
  | shortFraction => exact absurd rfl hf'
  | _ => rfl

/-- **Every field that a pattern may hold** shows no more than the tick. -/
theorem text_at_of_sameTick (h : i.SameTick j) (hrun : f.allows run = true) :
    f.text (i.at offset) utc run = f.text (j.at offset) utc run := by
  have hdigits (hseven : run ≤ 7) :
      fractionDigits (i.at offset) run = fractionDigits (j.at offset) run := by
    rw [fractionDigits_eq hseven, fractionDigits_eq hseven]
    exact congrArg (fun n => (fixed 10 7 n).take run) h.tick
  cases f with
  | fraction => exact hdigits (of_decide_eq_true hrun)
  | shortFraction => exact congrArg (Text.trimRight _) (hdigits (of_decide_eq_true hrun))
  | _ => exact text_at_of_second_eq h.second nofun nofun

end DateField

/-! ### Instants of one tick -/

/-- The parts of a pattern write what their fields show. -/
theorem DatePart.render_congr {parts : List DatePart}
    (h : ∀ f run, field f run ∈ parts → f.text d utc run = f.text d' utc run) :
    render d utc parts = render d' utc parts := by
  refine List.foldl_ext _ _ _ fun written part hmem => ?_
  cases part with
  | literal text => rfl
  | field f run => simp only [append, h f run hmem]

/-- A clock that is moved twice shows what it shows when it is moved once. -/
theorem Instant.withOffset_at (i : Instant) (offset offset' : UtcOffset) :
    (i.at offset).withOffset offset' = i.at offset' := by
  rw [DateTime.withOffset, Instant.instant_at]

/-- **Instants of one tick** are written alike on one clock. -/
theorem formatDateTime_at_eq (h : i.SameTick j) (offset : UtcOffset) (utc : Bool)
    (spec : Text) :
    formatDateTime (i.at offset) utc spec = formatDateTime (j.at offset) utc spec := by
  have hrender : renderDateTime? (i.at offset) utc spec =
      renderDateTime? (j.at offset) utc spec := by
    unfold renderDateTime?
    refine Option.bind_congr fun standard _ => Option.bind_congr fun parts hparts => ?_
    have hall (offset : UtcOffset) (utc : Bool) :
        DatePart.render (i.at offset) utc parts = DatePart.render (j.at offset) utc parts :=
      DatePart.render_congr fun f run hmem =>
        DateField.text_at_of_sameTick h
          ((DatePart.ofPattern?_eq_some_iff.mp hparts).allows f run hmem)
    rw [Instant.withOffset_at, Instant.withOffset_at, hall, hall]
  rw [formatDateTime, formatDateTime, hrender]

/-! ### Fields of fixed length -/

/-- Signed numerals of fixed width are told apart. -/
theorem DateField.signedFixed_inj {width : ℕ} {m n : ℤ} :
    signedFixed width m = signedFixed width n ↔ m = n := by
  refine ⟨fun h => ?_, fun h => h ▸ rfl⟩
  have hread (k : ℤ) : integer? (signedFixed width k) = some k := integer?_signed_fixed _ k
  exact Option.some.inj ((hread m).symm.trans ((congrArg integer? h).trans (hread n)))

/-- Numbers on a clock have two digits. -/
theorem DateField.length_clockNumber {n : ℕ} (h : n < 100) : (clockNumber 2 n).length = 2 := by
  have hlength : (fixed 10 2 n).length = 2 := length_fixed_of_lt (by decide) (by decide) h
  exact hlength

/-- Months are told apart by the first three letters of their names. -/
theorem monthName_take_inj {m n : ℕ} (hm : 1 ≤ m ∧ m ≤ 12) (hn : 1 ≤ n ∧ n ≤ 12) :
    (monthName m).take 3 = (monthName n).take 3 ↔ m = n := by
  have hall : ∀ m ∈ List.range' 1 12, ∀ n ∈ List.range' 1 12,
      (monthName m).take 3 = (monthName n).take 3 → m = n := by decide
  refine ⟨hall m ?_ n ?_, fun h => h ▸ rfl⟩
  · exact List.mem_range'_1.mpr (by omega)
  · exact List.mem_range'_1.mpr (by omega)

namespace DatePart

variable {part : DatePart} {parts front back : List DatePart}

/-- A part is **steady** if its text has the same length for all date-times. -/
def IsSteady (part : DatePart) : Prop :=
  ∀ d d' utc, (part.text d utc).length = (part.text d' utc).length

/-- Literal text has the same length for all date-times. -/
theorem isSteady_literal (t : Text) : (literal t).IsSteady := fun _ _ _ => rfl

/-- Numbers of two digits are steady. -/
theorem isSteady_two (hf : f ∈ [DateField.month, .day, .hour24, .minute, .second]) :
    (field f 2).IsSteady := by
  have hlength (d : DateTime) (utc : Bool) : ((field f 2).text d utc).length = 2 := by
    have hmonth := d.date.month_valid
    have hday := d.date.day_le
    have hsecond := d.second_lt
    simp only [List.mem_cons, List.not_mem_nil, or_false] at hf
    rcases hf with rfl | rfl | rfl | rfl | rfl
    · exact DateField.length_clockNumber (by omega)
    · exact DateField.length_clockNumber (by omega)
    · exact DateField.length_clockNumber (by rw [DateTime.hour]; omega)
    · exact DateField.length_clockNumber (by rw [DateTime.minute]; omega)
    · exact DateField.length_clockNumber (by rw [DateTime.secondOfMinute]; omega)
  intro d d' utc
  rw [hlength, hlength]

/-- So are names of three letters. -/
theorem isSteady_three (hf : f ∈ [DateField.month, .day]) : (field f 3).IsSteady := by
  have hmonth (n : ℕ) : ((monthName n).take 3).length = 3 := by
    unfold monthName
    split <;> rfl
  have hday (n : ℕ) : ((weekdayName n).take 3).length = 3 := by
    unfold weekdayName
    split <;> rfl
  intro d d' utc
  rcases List.mem_pair.mp hf with rfl | rfl
  · exact (hmonth _).trans (hmonth _).symm
  · exact (hday _).trans (hday _).symm

/-- So have texts that are rendered from steady parts. -/
theorem length_flatMap_of_steady (h : ∀ part ∈ parts, part.IsSteady) :
    (parts.flatMap (text d utc)).length = (parts.flatMap (text d' utc)).length := by
  rw [List.length_flatMap, List.length_flatMap,
    List.map_congr_left fun part hmem => h part hmem d d' utc]

/-- **Steady parts** that write one text write it part by part. -/
theorem text_eq_of_steady (h : ∀ part ∈ parts, part.IsSteady)
    (htext : parts.flatMap (text d utc) = parts.flatMap (text d' utc)) :
    ∀ part ∈ parts, part.text d utc = part.text d' utc := by
  induction parts with
  | nil => exact fun part hmem => absurd hmem List.not_mem_nil
  | cons first parts ih =>
    rw [List.forall_mem_cons] at h ⊢
    rw [List.flatMap_cons, List.flatMap_cons] at htext
    obtain ⟨hfirst, hrest⟩ := List.append_inj htext (h.1 d d' utc)
    exact ⟨hfirst, ih h.2 hrest⟩

/-- **A single part between steady ones** may have any length. -/
theorem text_eq_of_steady_around (hfront : ∀ part ∈ front, part.IsSteady)
    (hback : ∀ part ∈ back, part.IsSteady)
    (htext : (front ++ part :: back).flatMap (text d utc) =
      (front ++ part :: back).flatMap (text d' utc)) :
    ∀ p ∈ front ++ part :: back, p.text d utc = p.text d' utc := by
  rw [List.flatMap_append, List.flatMap_append, List.flatMap_cons, List.flatMap_cons] at htext
  obtain ⟨htextFront, hrest⟩ := List.append_inj htext (length_flatMap_of_steady hfront)
  obtain ⟨hpart, htextBack⟩ := List.append_inj' hrest (length_flatMap_of_steady hback)
  rw [List.forall_mem_append, List.forall_mem_cons]
  exact ⟨text_eq_of_steady hfront htextFront, hpart, text_eq_of_steady hback htextBack⟩

/-! ### Patterns that show the second -/

/-- The parts of a pattern **show the second** if they have every field down to it, and none
below. -/
structure ShowsSecond (parts : List DatePart) : Prop where
  /-- Only the year may have any length. -/
  year : ∃ front back, parts = front ++ field .year 4 :: back ∧
    (∀ part ∈ front, part.IsSteady) ∧ ∀ part ∈ back, part.IsSteady
  month : field .month 2 ∈ parts ∨ field .month 3 ∈ parts
  day : field .day 2 ∈ parts
  hour : field .hour24 2 ∈ parts
  minute : field .minute 2 ∈ parts
  second : field .second 2 ∈ parts
  not_fraction : ∀ run, field .fraction run ∉ parts
  not_shortFraction : ∀ run, field .shortFraction run ∉ parts

/-- Instants of one second are those at which a clock shows the same date and the same time of
day. -/
theorem second_eq_of_fields (hyear : (i.at offset).date.year = (j.at offset).date.year)
    (hmonth : (i.at offset).date.month = (j.at offset).date.month)
    (hday : (i.at offset).date.day = (j.at offset).date.day)
    (hhour : (i.at offset).hour = (j.at offset).hour)
    (hminute : (i.at offset).minute = (j.at offset).minute)
    (hsecond : (i.at offset).secondOfMinute = (j.at offset).secondOfMinute) :
    i.second = j.second := by
  have hdate : (i.at offset).date.dayNumber = (j.at offset).date.dayNumber := by
    rw [Date.dayNumber, Date.dayNumber, hyear, hmonth, hday]
  have hclock : (i.at offset).second = (j.at offset).second := by
    simp only [DateTime.hour, DateTime.minute, DateTime.secondOfMinute]
      at hhour hminute hsecond
    omega
  calc
    i.second = (i.at offset).instant.second := by rw [Instant.instant_at]
    _ = (j.at offset).instant.second := by
      simp only [DateTime.instant, hdate, hclock]
      rfl
    _ = j.second := by rw [Instant.instant_at]

/-- **Such a pattern** writes instants of one second alike, and no others. -/
theorem ShowsSecond.render_eq_iff (h : ShowsSecond parts) :
    render (i.at offset) utc parts = render (j.at offset) utc parts ↔ i.second = j.second := by
  constructor
  · intro htext
    rw [render_eq_flatMap h.not_shortFraction, render_eq_flatMap h.not_shortFraction] at htext
    obtain ⟨front, back, hparts, hfront, hback⟩ := h.year
    have hall : ∀ part ∈ parts, part.text (i.at offset) utc = part.text (j.at offset) utc := by
      rw [hparts] at htext ⊢
      exact text_eq_of_steady_around hfront hback htext
    have htwo {m n : ℕ} (htext : DateField.clockNumber 2 m = DateField.clockNumber 2 n) :
        m = n :=
      (fixed_inj (by decide) (by decide)).mp htext
    have hyear : field .year 4 ∈ parts := by simp [hparts]
    refine @second_eq_of_fields i j offset ?_ ?_ ?_ ?_ ?_ ?_
    · exact DateField.signedFixed_inj.mp (hall _ hyear)
    · rcases h.month with hmem | hmem
      · exact htwo (hall _ hmem)
      · exact (monthName_take_inj (i.at offset).date.month_valid
          (j.at offset).date.month_valid).mp
          (hall _ hmem)
    · exact htwo (hall _ h.day)
    · exact htwo (hall _ h.hour)
    · exact htwo (hall _ h.minute)
    · exact htwo (hall _ h.second)
  · intro hsecond
    refine render_congr fun f run hmem => DateField.text_at_of_second_eq hsecond ?_ ?_
    · rintro rfl
      exact h.not_fraction run hmem
    · rintro rfl
      exact h.not_shortFraction run hmem

/-! ### Format texts in UTC -/

/-- The parts of the pattern of the letter `u`. -/
def universalParts : List DatePart :=
  [.field .year 4, .literal ['-'], .field .month 2, .literal ['-'], .field .day 2,
    .literal [' '], .field .hour24 2, .literal [':'], .field .minute 2, .literal [':'],
    .field .second 2, .literal ['Z']]

/-- The parts of the pattern of the letters `R` and `r`. -/
def headerParts : List DatePart :=
  [.field .day 3, .literal [','], .literal [' '], .field .day 2, .literal [' '],
    .field .month 3, .literal [' '], .field .year 4, .literal [' '], .field .hour24 2,
    .literal [':'], .field .minute 2, .literal [':'], .field .second 2, .literal [' '],
    .literal "GMT".toList]

/-- The universal format shows the second, between parts of steady length. -/
theorem showsSecond_universalParts : ShowsSecond universalParts where
  year := by
    refine ⟨[], universalParts.tail, rfl, List.forall_mem_nil _, ?_⟩
    simp only [universalParts, List.tail_cons, List.forall_mem_cons]
    exact ⟨isSteady_literal _, isSteady_two (by decide), isSteady_literal _,
      isSteady_two (by decide), isSteady_literal _, isSteady_two (by decide),
      isSteady_literal _, isSteady_two (by decide), isSteady_literal _,
      isSteady_two (by decide), isSteady_literal _, List.forall_mem_nil _⟩
  month := .inl (by decide)
  day := by decide
  hour := by decide
  minute := by decide
  second := by decide
  not_fraction := by simp [universalParts]
  not_shortFraction := by simp [universalParts]

/-- The header format shows the second, between parts of steady length. -/
theorem showsSecond_headerParts : ShowsSecond headerParts where
  year := by
    refine ⟨headerParts.take 7, headerParts.drop 8, rfl, ?_, ?_⟩
    · simp only [headerParts, List.take_succ_cons, List.take_zero, List.forall_mem_cons]
      exact ⟨isSteady_three (by decide), isSteady_literal _, isSteady_literal _,
        isSteady_two (by decide), isSteady_literal _, isSteady_three (by decide),
        isSteady_literal _, List.forall_mem_nil _⟩
    · simp only [headerParts, List.drop_succ_cons, List.drop_zero, List.forall_mem_cons]
      exact ⟨isSteady_literal _, isSteady_two (by decide), isSteady_literal _,
        isSteady_two (by decide), isSteady_literal _, isSteady_two (by decide),
        isSteady_literal _, isSteady_literal _, List.forall_mem_nil _⟩
  month := .inr (by decide)
  day := by decide
  hour := by decide
  minute := by decide
  second := by decide
  not_fraction := by simp [headerParts]
  not_shortFraction := by simp [headerParts]

end DatePart

/-- A standard pattern in UTC is written as the clock there shows it. -/
theorem formatDateTime_of_standard {letter : Char} {pattern : Text} {parts : List DatePart}
    (hpattern : standardDatePattern? letter = some (pattern, true))
    (hparts : DatePart.ofPattern? pattern = some parts) (d : DateTime) (utc : Bool) :
    formatDateTime d utc [letter] = .ok (DatePart.render (d.withOffset .utc) true parts) := by
  rw [formatDateTime, renderDateTime?_of_standard hpattern hparts]
  rfl

/-- **The letters that are always written in UTC** stand for patterns that show the second. -/
theorem formatDateTime_inUtc {letter : Char} (hletter : letter ∈ ['u', 'R', 'r']) :
    ∃ parts, DatePart.ShowsSecond parts ∧ ∀ d utc,
      formatDateTime d utc [letter] =
        .ok (DatePart.render (d.withOffset .utc) true parts) := by
  have huniversal : DatePart.ofPattern? "yyyy'-'MM'-'dd HH':'mm':'ss'Z'".toList =
      some DatePart.universalParts := by decide +kernel
  have hheader : DatePart.ofPattern? "ddd, dd MMM yyyy HH':'mm':'ss 'GMT'".toList =
      some DatePart.headerParts := by decide +kernel
  simp only [List.mem_cons, List.not_mem_nil, or_false] at hletter
  rcases hletter with rfl | rfl | rfl
  · exact ⟨_, DatePart.showsSecond_universalParts, formatDateTime_of_standard rfl huniversal⟩
  · exact ⟨_, DatePart.showsSecond_headerParts, formatDateTime_of_standard rfl hheader⟩
  · exact ⟨_, DatePart.showsSecond_headerParts, formatDateTime_of_standard rfl hheader⟩

end Stencil
