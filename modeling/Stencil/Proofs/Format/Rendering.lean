import Stencil.Proofs.Format.Pattern
import Stencil.Proofs.Format.Reading

/-!
# What a pattern keeps

A pattern adds and removes zeros at both ends of the digits that it is given, cuts the digits
before the point into groups and drops the sign of a zero. None of this loses or invents a
digit: between the texts around the slots stands a body that writes the same number, with as
many digits on either side of the point as the pattern asks for and the number needs. So a
pattern without a scale writes an integer exactly.

## Main definitions

* `Stencil.NumberPattern.IsBody`: the digits that a pattern writes for given ones.
* `Stencil.NumberPattern.Renders`: the text that a pattern makes of a sign and digits.

## Main results

* `NumberPattern.isBody_render`: the digits that are written are those that are given.
* `NumberPattern.sign_eq`: the sign is written for numbers other than zero only.
* `render_keeps_number`: both together, and what follows for integers.
-/

namespace Stencil

open Numeral Binary64

namespace NumberPattern

variable {p : NumberPattern} {parts : Text × Text} {digits : Text} {negative : Bool} {n : ℤ}

/-- Digits before and after a point are the **body** of a pattern for given digits, where
`shown` are the digits before the point with their commas. -/
structure IsBody (p : NumberPattern) (parts : Text × Text) (shown integer fraction : Text) :
    Prop where
  /-- There are only digits, and commas between them. -/
  areDigits : AreDigits (integer, fraction)
  /-- Without the commas, they are the digits of a numeral. -/
  filter_eq : (pointed (shown, fraction)).filter (· ≠ ',') = pointed (integer, fraction)
  /-- They write the number that is given. -/
  value : pointedValue (integer, fraction) = pointedValue parts
  /-- Before the point stand the digits that the number needs, or the least number of
  digits. -/
  length_integer : integer.length =
    max p.minInteger (Ratio.digitCount 10 (Nat.ofDigitChars 10 parts.1 0))
  /-- After it stand the digits up to the last one that is not zero, or the least number of
  digits. -/
  length_fraction : fraction.length =
    max p.minFraction (parts.2.rdropWhile (· == '0')).length
  /-- A pattern that groups cuts the digits before the point in threes. -/
  grouped : p.grouping = true → InThrees shown integer
  /-- A pattern that does not group writes no commas. -/
  ungrouped : p.grouping = false → shown = integer

/-- A text is what a pattern **renders** for a sign and digits: a minus if there is a sign and
the number is not zero, the text before the slots, a body and the text after the slots. -/
def Renders (p : NumberPattern) (negative : Bool) (parts : Text × Text) (text : Text) : Prop :=
  ∃ shown integer fraction, p.IsBody parts shown integer fraction ∧
    text = Numeral.sign (negative && pointedValue parts ≠ 0) ++ p.before ++
      pointed (shown, fraction) ++ p.after

/-! ### Digits -/

/-- In front of the point there are the digits of the number, or as many as the pattern asks
for. -/
theorem length_padded (h : digits.all Char.isDigit = true) :
    (p.padded digits).length =
      max p.minInteger (Ratio.digitCount 10 (Nat.ofDigitChars 10 digits 0)) := by
  rw [padded, Text.padLeft, List.length_append, List.length_replicate,
    ← length_dropWhile_zero h]
  omega

/-- Behind the point there are the digits up to the last one that counts, or as many as the
pattern asks for. -/
theorem length_fraction (p : NumberPattern) (digits : Text) :
    (p.fraction digits).length =
      max p.minFraction (digits.rdropWhile (· == '0')).length := by
  change _ = max p.minFraction (Text.trimRight (· == '0') digits).length
  rw [fraction, List.length_append, List.length_take, List.length_replicate]
  omega

/-- **The digits that are written** are those that are given. -/
theorem isBody_render (p : NumberPattern) (h : AreDigits parts) :
    p.IsBody parts (p.integer parts.1) (p.padded parts.1) (p.fraction parts.2) where
  areDigits := areDigits_padded h
  filter_eq :=
    filter_slotText (Text.not_mem_of_all h.integer rfl) (Text.not_mem_of_all h.fraction rfl)
  value := by
    rw [pointedValue, pointedValue, fraction_value, padded, ofDigitChars_padLeft,
      ofDigitChars_dropWhile_zero]
  length_integer := length_padded h.integer
  length_fraction := length_fraction p parts.2
  grouped hgrouping := by
    rw [integer, if_pos hgrouping]
    exact inThrees_grouped _
  ungrouped hgrouping := by
    rw [integer, if_neg (by simp [hgrouping])]
    rfl

/-! ### The sign -/

/-- Digits write zero if and only if they are zeros. -/
theorem ofDigitChars_eq_zero_iff (h : digits.all Char.isDigit = true) :
    Nat.ofDigitChars 10 digits 0 = 0 ↔ digits.all (· == '0') = true := by
  rw [List.all_eq_true]
  constructor
  · intro hzero
    have hlength := length_dropWhile_zero h
    rw [hzero] at hlength
    exact List.dropWhile_eq_nil_iff.mp (List.length_eq_zero_iff.mp hlength)
  · intro hzeros
    exact ofDigitChars_eq_zero fun c hmem => by simpa using hzeros c hmem

/-- Digits are worth nothing exactly if all of them are zeros. -/
theorem pointedValue_eq_zero_iff (h : AreDigits parts) :
    pointedValue parts = 0 ↔
      parts.1.all (· == '0') = true ∧ parts.2.all (· == '0') = true := by
  have hpow : (10 : ℚ) ^ parts.2.length ≠ 0 := by positivity
  rw [pointedValue, add_eq_zero_iff_of_nonneg (by positivity) (by positivity), div_eq_zero_iff,
    or_iff_left hpow, Nat.cast_eq_zero, Nat.cast_eq_zero, ofDigitChars_eq_zero_iff h.integer,
    ofDigitChars_eq_zero_iff h.fraction]

/-- Commas do not make a number of zeros. -/
theorem all_integer (p : NumberPattern) (h : ',' ∉ digits) :
    ((p.integer digits).all fun c => c == '0' || c == ',') =
      (p.padded digits).all (· == '0') := by
  rw [← filter_integer h, List.all_filter]
  congr 1
  funext c
  by_cases hc : c = ','
  · simp [hc]
  · simp [hc]

/-- **The sign is written** for numbers other than zero only. -/
theorem sign_eq (p : NumberPattern) (negative : Bool) (h : AreDigits parts) :
    sign negative (p.integer parts.1) (p.fraction parts.2) =
      Numeral.sign (negative && pointedValue parts ≠ 0) := by
  have hvalue := (isBody_render p h).value
  have hzero := pointedValue_eq_zero_iff (areDigits_padded (p := p) h)
  rw [hvalue] at hzero
  rw [sign, all_integer p (Text.not_mem_of_all h.integer rfl)]
  congr 2
  rw [Bool.eq_iff_iff]
  simp [hzero]

/-- **What a pattern renders** for digits. -/
theorem renders_render (p : NumberPattern) (negative : Bool) (h : AreDigits parts) :
    p.Renders negative parts (p.render negative parts) :=
  ⟨_, _, _, isBody_render p h, by rw [render, sign_eq p negative h]⟩

end NumberPattern

/-! ### Format texts -/

/-- **A pattern keeps the number.** Whatever the sign and the digits, it renders a body of the
same value; and a format text with slots, no specifier and no scale writes every integer
exactly. -/
theorem render_keeps_number :
    (∀ (p : NumberPattern) (negative : Bool) (parts : Text × Text), AreDigits parts →
      p.Renders negative parts (p.render negative parts)) ∧
    ∀ spec : Text, Specifier.parse? spec = none → '0' ∈ spec ∨ '#' ∈ spec →
      ∃ p, NumberPattern.parse? spec = some p ∧ (p.scale = 0 → ∀ n : ℤ, ∃ text,
        formatInteger n spec = .ok text ∧ p.Renders (n < 0) (decimal n.natAbs, []) text ∧
          p.Prints text n) := by
  refine ⟨fun p negative parts h => p.renders_render negative h, fun spec hspec hslot => ?_⟩
  obtain ⟨before, slots, after, hcut⟩ := NumberPattern.exists_isCut hslot
  obtain ⟨p, hp, -⟩ := NumberPattern.parse?_of_isCut hcut
  refine ⟨p, hp, fun hscale n => ⟨_, formatInteger_of_parse? hspec hp n, ?_⟩⟩
  rw [if_pos hscale]
  exact ⟨p.renders_render _ (areDigits_decimal _), p.prints_unscaled n⟩

/-- The pattern `#,##0.000`: three places and grouped digits. -/
def NumberPattern.thousandths : NumberPattern := ⟨[], [], 1, true, 3, 3, 0⟩

/-- Zeros are dropped in front and behind, one is added, and the digits are grouped. -/
theorem render_keeps_number_thousandths :
    AreDigits ("0001234".toList, "5600".toList) ∧
      NumberPattern.thousandths.Renders true ("0001234".toList, "5600".toList)
        "-1,234.560".toList ∧
      Specifier.parse? "#,##0.000".toList = none ∧ '0' ∈ "#,##0.000".toList ∧
      NumberPattern.parse? "#,##0.000".toList = some .thousandths ∧
      NumberPattern.thousandths.scale = 0 ∧
      ∃ text, formatInteger (-1234567) "#,##0.000".toList = .ok text ∧
        NumberPattern.thousandths.Renders true ("1234567".toList, []) text ∧
        NumberPattern.thousandths.Prints text (-1234567) := by
  have hdigits : AreDigits ("0001234".toList, "5600".toList) := ⟨rfl, rfl⟩
  have hrenders := render_keeps_number.1 .thousandths true _ hdigits
  obtain ⟨p, hp, hkeeps⟩ := render_keeps_number.2 "#,##0.000".toList rfl (.inl (by decide))
  have hparse : NumberPattern.parse? "#,##0.000".toList = some .thousandths := rfl
  obtain rfl : p = .thousandths := Option.some.inj (hp.symm.trans hparse)
  obtain ⟨text, htext, hbody, hprints⟩ := hkeeps rfl (-1234567)
  exact ⟨hdigits, hrenders, rfl, by decide, hparse, rfl, text, htext, hbody,
    by exact_mod_cast hprints⟩

end Stencil
