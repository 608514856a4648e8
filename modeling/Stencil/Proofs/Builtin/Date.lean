import Stencil.Builtin
import Stencil.Proofs.Format.Instant

/-!
# Date placeholders

A date placeholder moves the bound date-time to the UTC clock or to the local one before
anything of it is written. So the offset that the date-time was bound with leaves no trace, in
no format and under no name: what is written is a matter of the instant. The formats together
show an instant down to the tenth of a microsecond, and each of those that are always written
in UTC shows its second.

## Main results

* `Builtin.dateText_eq`: what a placeholder writes for a bound date-time.
* `Builtin.dateText_eq_iff_sameTick`: the date-times that no format tells apart.
* `formatDateTime_inUtc_eq_iff`: the date-times that a format in UTC writes alike.
* `dateText_eq_of_same`: equal values are written alike.
-/

namespace Stencil

open Numeral

variable {a b : DateTime} {env : Environment} {offset : UtcOffset} {name : Text}
  {now : Instant}

/-- **A bound date-time** is written as the UTC clock or the local clock shows it. -/
theorem Builtin.dateText_eq (env : Environment) (name format : Text) (d : DateTime)
    (now : Instant) :
    dateText env ⟨name, format, some (.dateTime d), now⟩ =
      formatDateTime
        (d.instant.at (if name.head? = some 'U' then .utc else env.localOffset d.instant))
        (name.head? = some 'U') (if format = [] then datePattern name else format) := by
  simp only [dateText, Value.toDateTime?, instantText, decide_eq_true_eq]

/-- Seven digits of the fraction of the second are its tenths of a microsecond. -/
theorem formatDateTime_fraction (d : DateTime) (utc : Bool) :
    formatDateTime d utc "fffffff".toList = .ok (fixed 10 7 (d.nano % 1000000000 / 100)) := by
  have hparts : DatePart.ofPattern? "fffffff".toList = some [.field .fraction 7] := by
    decide +kernel
  have hlength : (fixed 10 7 (d.nano % 1000000000 / 100)).length = 7 :=
    length_fixed_of_lt (by decide) (by decide) (by omega)
  have htext : DatePart.render d utc [.field .fraction 7] =
      fixed 10 7 (d.nano % 1000000000 / 100) := by
    rw [DatePart.render_eq_flatMap (by simp), List.flatMap_singleton, DatePart.text,
      DateField.text, DateField.fractionDigits_eq le_rfl, List.take_of_length_le hlength.le]
  have hrender : renderDateTime? d utc "fffffff".toList =
      some (fixed 10 7 (d.nano % 1000000000 / 100)) := by
    rw [renderDateTime?_of_length (by decide), DatePart.renderPattern?, hparts,
      Option.map_some, htext]
  rw [formatDateTime, hrender]

/-- **A format in UTC** writes date-times alike if and only if they are of one second. -/
theorem formatDateTime_inUtc_eq_iff {letter : Char} (hletter : letter ∈ ['u', 'R', 'r'])
    (utc utc' : Bool) :
    formatDateTime a utc [letter] = formatDateTime b utc' [letter] ↔
      a.instant.second = b.instant.second := by
  obtain ⟨parts, hparts, hformat⟩ := formatDateTime_inUtc hletter
  rw [hformat, hformat, Except.ok.injEq, DateTime.withOffset, DateTime.withOffset,
    hparts.render_eq_iff]

/-- **The formats of a placeholder together** write date-times alike if and only if they are of
one tick. -/
theorem Builtin.dateText_eq_iff_sameTick (hlocal : ∀ i, env.localOffset i = offset) :
    (∀ format, dateText env ⟨name, format, some (.dateTime a), now⟩ =
      dateText env ⟨name, format, some (.dateTime b), now⟩) ↔
        a.instant.SameTick b.instant := by
  simp only [dateText_eq, hlocal]
  constructor
  · intro h
    have hdigits : "fffffff".toList ≠ [] := by decide
    have hsecond := h ['u']
    have htick := h "fffffff".toList
    rw [if_neg (List.cons_ne_nil _ _), formatDateTime_inUtc_eq_iff (by decide),
      Instant.instant_at, Instant.instant_at] at hsecond
    rw [if_neg hdigits, formatDateTime_fraction, formatDateTime_fraction, Except.ok.injEq,
      fixed_inj (by decide) (by decide)] at htick
    exact ⟨hsecond, htick⟩
  · intro h format
    exact formatDateTime_at_eq h _ _ _

/-- **Date placeholders see only the instant.** Equal date-times, whatever their offsets, are
written alike in every format under every name, and by the formats in UTC also without a
placeholder. What is seen of an instant on a fixed local clock is its tick, and by the formats
in UTC its second. -/
theorem dateText_eq_of_same (a b : DateTime) :
    ((Value.dateTime a).same (.dateTime b) = true →
      (∀ env name format now, Builtin.dateText env ⟨name, format, some (.dateTime a), now⟩ =
        Builtin.dateText env ⟨name, format, some (.dateTime b), now⟩) ∧
      ∀ letter ∈ ['u', 'R', 'r'], ∀ utc utc', ∃ text,
        formatDateTime a utc [letter] = .ok text ∧ formatDateTime b utc' [letter] = .ok text) ∧
    (∀ env offset, (∀ i, env.localOffset i = offset) → ∀ name now,
      ((∀ format, Builtin.dateText env ⟨name, format, some (.dateTime a), now⟩ =
        Builtin.dateText env ⟨name, format, some (.dateTime b), now⟩) ↔
      a.instant.SameTick b.instant)) ∧
    ∀ letter ∈ ['u', 'R', 'r'], ∀ utc utc',
      (formatDateTime a utc [letter] = formatDateTime b utc' [letter] ↔
        a.instant.second = b.instant.second) := by
  refine ⟨fun hsame => ?_, fun env offset hlocal name now => ?_,
    fun letter hletter utc utc' => ?_⟩
  · -- Equal values are one clock at two offsets, and every clock is moved before it is
    -- written.
    have hinstant : a.instant = b.instant :=
      DateTime.instant_eq_iff.mpr (Value.same_dateTime_iff.mp hsame)
    refine ⟨fun env name format now => ?_, fun letter hletter utc utc' => ?_⟩
    · rw [Builtin.dateText_eq, Builtin.dateText_eq, hinstant]
    · obtain ⟨parts, -, hformat⟩ := formatDateTime_inUtc hletter
      have hsecond := congrArg Instant.second hinstant
      exact ⟨_, hformat a utc,
        ((formatDateTime_inUtc_eq_iff hletter utc utc').mpr hsecond).symm.trans
        (hformat a utc)⟩
  · exact Builtin.dateText_eq_iff_sameTick hlocal
  · exact formatDateTime_inUtc_eq_iff hletter utc utc'

/-- The night after a leap day on a clock in the east, on which it is the leap day in the
west. -/
theorem dateText_eq_of_same_leapDay :
    let west : UtcOffset := ⟨-19800, by decide⟩
    let a : DateTime :=
      ⟨⟨2024, 3, 1, by decide, by decide⟩, 1800, 0, ⟨7200, by decide⟩, by decide, by decide⟩
    let b : DateTime :=
      ⟨⟨2024, 2, 29, by decide, by decide⟩, 61200, 0, west, by decide, by decide⟩
    let env : Environment := ⟨a.instant, fun _ => west, fun _ => none⟩
    (Value.dateTime a).same (.dateTime b) = true ∧ (∀ i, env.localOffset i = west) ∧
      Builtin.dateText env ⟨"DATE".toList, [], some (.dateTime a), env.now⟩ =
        .ok "2024-02-29".toList ∧
      Builtin.dateText env ⟨"DATE".toList, [], some (.dateTime b), env.now⟩ =
        .ok "2024-02-29".toList ∧
      a.instant.SameTick b.instant ∧
      formatDateTime a false ['R'] = .ok "Thu, 29 Feb 2024 22:30:00 GMT".toList ∧
      formatDateTime b true ['R'] = .ok "Thu, 29 Feb 2024 22:30:00 GMT".toList := by
  intro west a b env
  have hsame : (Value.dateTime a).same (.dateTime b) = true := by decide +kernel
  obtain ⟨halike, hshown, -⟩ := dateText_eq_of_same a b
  obtain ⟨hall, hutc⟩ := halike hsame
  obtain ⟨text, ha, hb⟩ := hutc 'R' (by decide) false true
  have hdate : Builtin.dateText env ⟨"DATE".toList, [], some (.dateTime b), env.now⟩ =
      .ok "2024-02-29".toList := by decide +kernel
  have htext : formatDateTime a false ['R'] = .ok "Thu, 29 Feb 2024 22:30:00 GMT".toList := by
    decide +kernel
  have hlocal : ∀ i, env.localOffset i = west := fun _ => rfl
  exact ⟨hsame, hlocal, (hall env "DATE".toList [] env.now).trans hdate, hdate,
    (hshown env west hlocal "DATE".toList env.now).mp fun format => hall env _ format _,
    htext, hb.trans (ha.symm.trans htext)⟩

end Stencil
