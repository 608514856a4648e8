import Stencil.Proofs.Format.Pattern
import Stencil.Proofs.Format.Reading

/-!
# Percent signs

A percent sign in front of the slots of a pattern or behind them counts in the scale and is
copied to the text. One between the first and the last slot does neither: nothing that stands
there is copied, so it is lost. The digits of a number hold no percent sign, nor do the words
for infinities and NaNs, so a text has exactly the percent signs that its pattern copies.

## Main results

* `NumberPattern.count_render`: the percent signs of a text are those around the slots.
* `percents_outside_slots`: percent signs count and are kept if and only if none is between the
  slots.
* `percent_between_slots`: a pattern that loses one.
-/

namespace Stencil

open Numeral Binary64

namespace NumberPattern

variable {p : NumberPattern} {parts : Text × Text} {negative : Bool}
  {spec before slots after : Text} {x : Binary64}

/-! ### Texts -/

/-- **The percent signs of a text** are those around the slots. -/
theorem count_render (hinteger : ',' ∉ parts.1 ∧ '%' ∉ parts.1)
    (hfraction : ',' ∉ parts.2 ∧ '%' ∉ parts.2) :
    (p.render negative parts).count '%' = p.before.count '%' + p.after.count '%' := by
  obtain ⟨shown, htext, -⟩ := exists_render_eq p negative hinteger.1
  have hsign : '%' ∉ Numeral.sign shown := by cases shown <;> decide
  have hslots : '%' ∉ p.slotText parts := fun hmem =>
    (mem_of_mem_slotText hinteger.1 hfraction.1 (by decide) hmem).elim hinteger.2 hfraction.2
  rw [htext, List.count_append, List.count_append, List.count_append,
    List.count_eq_zero.mpr hsign, List.count_eq_zero.mpr hslots, Nat.zero_add, Nat.add_zero]

/-- A floating-point number is written with digits, or with the letters of a word. -/
theorem not_mem_places {c : Char} (hdigit : c.isDigit = false) (hletter : c ∉ "NaNinf".toList)
    (x : Binary64) (count : ℕ) : c ∉ (x.places count).1 ∧ c ∉ (x.places count).2 := by
  rw [places]
  split
  · have hdigits := areDigits_ratioPlaces x.toRatio count
    exact ⟨Text.not_mem_of_all hdigits.integer hdigit,
      Text.not_mem_of_all hdigits.fraction hdigit⟩
  · refine ⟨fun hmem => hletter ?_, List.not_mem_nil⟩
    rw [nonFiniteText] at hmem
    split at hmem
    · exact List.mem_append_left "inf".toList hmem
    · exact List.mem_append_right "NaN".toList hmem

/-- The percent signs of a rendered number are those of the text around the slots. -/
theorem count_renderFloat (p : NumberPattern) (x : Binary64) :
    (p.renderFloat x).count '%' = p.before.count '%' + p.after.count '%' := by
  have hcomma :=
    not_mem_places (c := ',') rfl (by decide) (x.mul (powTen p.scale)) p.maxFraction
  have hpercent :=
    not_mem_places (c := '%') rfl (by decide) (x.mul (powTen p.scale)) p.maxFraction
  exact count_render ⟨hcomma.1, hpercent.1⟩ ⟨hcomma.2, hpercent.2⟩

/-- Every integer is written with the percent signs around the slots. -/
theorem exists_formatInteger (hspec : Specifier.parse? spec = none) (hp : parse? spec = some p)
    (n : ℤ) : ∃ text, formatInteger n spec = .ok text ∧
      text.count '%' = p.before.count '%' + p.after.count '%' := by
  refine ⟨_, formatInteger_of_parse? hspec hp n, ?_⟩
  split
  · have hdigits := (areDigits_decimal n.natAbs).integer
    exact count_render ⟨Text.not_mem_of_all hdigits rfl, Text.not_mem_of_all hdigits rfl⟩
      ⟨List.not_mem_nil, List.not_mem_nil⟩
  · exact count_renderFloat p _

/-! ### Patterns -/

/-- The percent signs of a pattern, in front of the slots, between them and behind them. -/
theorem IsCut.count_eq (h : IsCut spec before slots after) :
    spec.count '%' = before.count '%' + slots.count '%' + after.count '%' := by
  rw [h.eq, List.count_append, List.count_append]

/-- The point and the commas that are not copied are no percent signs. -/
theorem exists_parse?_count (h : IsCut spec before slots after) :
    ∃ p, parse? spec = some p ∧ p.before.count '%' = before.count '%' ∧
      p.after.count '%' = after.count '%' ∧
      p.scale = 2 * (before.count '%' + after.count '%' : ℕ) -
        3 * scalingCommas before slots after := by
  obtain ⟨p, hp, hbefore, hafter, hscale⟩ := parse?_of_isCut h
  have hfront : p.before.count '%' = before.count '%' := by
    rw [hbefore]
    split
    · next hpoint =>
      obtain ⟨front, rfl⟩ := List.getLast?_eq_some_iff.mp hpoint
      simp
    · rfl
  have hback : p.after.count '%' = after.count '%' := by
    have hcommas : '%' ∉ after.takeWhile (· == ',') := fun hmem =>
      absurd (List.mem_takeWhile_imp hmem) (by decide)
    conv_rhs => rw [← @List.takeWhile_append_dropWhile _ (· == ',') after]
    rw [hafter, List.count_append, List.count_eq_zero.mpr hcommas, Nat.zero_add]
  rw [hfront, hback] at hscale
  exact ⟨p, hp, hfront, hback, hscale⟩

end NumberPattern

/-- **Percent signs outside the slots** count twice in the scale and are kept, for every format
text with slots that is no specifier and for every integer. So all percent signs of the text
count, and all are kept, if and only if none stands between the first and the last slot. -/
theorem percents_outside_slots (spec : Text) (hspec : Specifier.parse? spec = none)
    (hslot : '0' ∈ spec ∨ '#' ∈ spec) :
    ∃ before slots after p, NumberPattern.IsCut spec before slots after ∧
      NumberPattern.parse? spec = some p ∧
      p.scale = 2 * (before.count '%' + after.count '%' : ℕ) -
        3 * NumberPattern.scalingCommas before slots after ∧
      (p.scale = 2 * spec.count '%' - 3 * NumberPattern.scalingCommas before slots after ↔
        '%' ∉ slots) ∧
      ∀ n : ℤ, ∃ text, formatInteger n spec = .ok text ∧
        text.count '%' = before.count '%' + after.count '%' ∧
        (text.count '%' = spec.count '%' ↔ '%' ∉ slots) := by
  obtain ⟨before, slots, after, hcut⟩ := NumberPattern.exists_isCut hslot
  obtain ⟨p, hp, hbefore, hafter, hscale⟩ := NumberPattern.exists_parse?_count hcut
  have hcount := hcut.count_eq
  refine ⟨before, slots, after, p, hcut, hp, hscale, ?_, fun n => ?_⟩
  · rw [← List.count_eq_zero]
    omega
  · obtain ⟨text, htext, hpercents⟩ := NumberPattern.exists_formatInteger hspec hp n
    rw [hbefore, hafter] at hpercents
    refine ⟨text, htext, hpercents, ?_⟩
    rw [← List.count_eq_zero]
    omega

/-- Three percent signs, of which the one between the slots is lost, and a comma that
scales. -/
theorem percents_outside_slots_mixed :
    Specifier.parse? "%#0%0,%".toList = none ∧ '0' ∈ "%#0%0,%".toList ∧
      NumberPattern.IsCut "%#0%0,%".toList "%".toList "#0%0".toList ",%".toList ∧
      ∃ p, NumberPattern.parse? "%#0%0,%".toList = some p ∧ p.scale = 1 ∧
        ∃ text, formatInteger 12345 "%#0%0,%".toList = .ok text ∧ text.count '%' = 2 := by
  obtain ⟨before, slots, after, p, hcut, hp, hscale, -, hkept⟩ :=
    percents_outside_slots "%#0%0,%".toList rfl (.inl (by decide))
  obtain ⟨text, htext, hcount, -⟩ := hkept 12345
  obtain rfl : "%".toList = before := hcut.front.1
  have hslotted : "#0%0,%".toList = slots ++ after := hcut.front.2
  obtain rfl : "#0%0".toList = slots := by
    rw [← hcut.back.2, ← hslotted]
    rfl
  have hrest : "#0%0".toList ++ ",%".toList = "#0%0".toList ++ after := hslotted
  obtain rfl : ",%".toList = after := List.append_cancel_left hrest
  exact ⟨rfl, by decide, hcut, p, hp, hscale, text, htext, hcount⟩

/-- **A percent sign between slots is lost**: the pattern `0%0` has no scale and writes
none. -/
theorem percent_between_slots :
    Specifier.parse? "0%0".toList = none ∧ '0' ∈ "0%0".toList ∧ "0%0".toList.count '%' = 1 ∧
      (∃ p, NumberPattern.parse? "0%0".toList = some p ∧ p.scale = 0) ∧
      formatInteger 3 "0%0".toList = .ok "03".toList ∧ "03".toList.count '%' = 0 := by
  refine ⟨rfl, by decide, rfl, ⟨_, rfl, rfl⟩, by decide, rfl⟩

end Stencil
