import Stencil.Proofs.Binary64.Natural
import Stencil.Proofs.Format.Pattern
import Stencil.Proofs.Format.Reading

/-!
# Scaled integers

Percentages and scaling patterns write an integer through floating-point numbers: the integer
is rounded, multiplied by a power of ten and rounded again, and only then written to a number
of places. The product of an integer and a positive power is a natural number with a sign, so
what is printed is either exact or off by one at least, and it is exact if and only if the
exact product has a significand of 53 bits. A negative power is never exact, but its two
roundings do not show in the last place of a pattern as long as the integer, written without a
point, stays below `2 ^ 51`.

## Main definitions

* `Stencil.NumberPattern.scaled`: the floating-point product that a pattern writes.
* `Stencil.NumberPattern.Faithful`: a text whose number is off by at most half a unit.
* `Stencil.NumberPattern.PrintsScaled`: what a pattern prints for an integer.

## Main results

* `percentText_eq_iff`: percentages are exact for representable products only.
* `NumberPattern.prints_scaled_iff`: so are integers that a pattern scales up.
* `NumberPattern.faithful_of_neg`: small integers scaled down are printed faithfully.
* `formatInteger_scaled`: the three together, for every format text that scales.
* `formatInteger_scaled_inexact`: the first integer that is not representable, in percent.
-/

namespace Stencil

open Numeral Binary64

variable {n : ℤ} {x : Binary64} {spec : Text}

/-! ### Percentages -/

/-- **A percentage is exact** if and only if a hundred times the integer is representable. -/
theorem percentText_eq_iff (hn : n.natAbs ≤ 2 ^ 127) (count : ℕ) :
    percentText (ofInt n) count = signed (n * 100) ++ zeroPlaces count ++ " %".toList ↔
      Representable (n * 100) := by
  have hhundred : (ofInt 100).IsPowTen 2 := isPowTen_ofRatio (by decide) (Ratio.toRat_ofNat _)
  have hfinite := isFinite_ofInt_mul (by decide) hhundred hn
  have hiff := magnitude_mul_eq_iff (by decide) hhundred hn
  obtain ⟨N, hN, -⟩ := exists_magnitude_mul
    (exists_magnitude_ofInt (isFinite_of_mul hfinite).1) ⟨_, hhundred.magnitude⟩ hfinite
  have hnegative : ((ofInt n).mul (ofInt 100)).negative = decide (n * 100 < 0) := by
    rw [negative_ofInt_mul hfinite hhundred.negative]
    exact decide_eq_decide.mpr (by omega)
  rw [hN, Nat.cast_inj] at hiff
  rw [percentText, fixed_of_natural hfinite hN, List.append_left_inj,
    List.append_left_inj, signed, hnegative, List.append_right_inj, decimal_inj]
  exact hiff

/-! ### Patterns -/

namespace NumberPattern

variable {p : NumberPattern}

/-- The floating-point number that a scaling pattern writes for an integer. -/
def scaled (p : NumberPattern) (n : ℤ) : Binary64 := (ofInt n).mul (powTen p.scale)

/-- A text **faithfully prints** a scaled integer if the number that it prints is off by at
most half a unit of the last place that the pattern has. -/
def Faithful (p : NumberPattern) (n : ℤ) (text : Text) : Prop :=
  ∃ q, p.Prints text q ∧ |q - n * 10 ^ p.scale| ≤ 1 / 2 / 10 ^ p.maxFraction

/-- The number that is printed for a finite product. -/
theorem prints_renderFloat (h : (p.scaled n).isFinite = true) :
    p.Prints (p.renderFloat (ofInt n)) (withSign (p.scaled n).negative
      (pointedValue (ratioPlaces (p.scaled n).toRatio p.maxFraction))) := by
  have hplaces : (p.scaled n).places p.maxFraction =
      ratioPlaces (p.scaled n).toRatio p.maxFraction := if_pos h
  have hprints := @prints_render p _ (p.scaled n).isBelowZero
    (areDigits_ratioPlaces (p.scaled n).toRatio p.maxFraction)
  rw [← hplaces] at hprints
  refine (?_ : withSign _ _ = _) ▸ hprints
  rw [hplaces]
  cases hzero : (p.scaled n).isZero
  · rw [isBelowZero, hzero, isNaN_eq_false h, Bool.not_false, Bool.and_true, Bool.and_true]
  · -- A zero shows no sign.
    have hnatural : (p.scaled n).magnitude = (0 : ℕ) := by
      rw [magnitude_of_isZero hzero, Nat.cast_zero]
    rw [pointedValue_ratioPlaces, round_of_natural hnatural, zero_mul, Nat.cast_zero, zero_div,
      withSign_zero, withSign_zero]

/-- For a product that is not finite a word is printed and no number. -/
theorem not_prints_renderFloat {q : ℚ} (h : (p.scaled n).isFinite = false) :
    ¬ p.Prints (p.renderFloat (ofInt n)) q := by
  have hplaces : (p.scaled n).places p.maxFraction = ((p.scaled n).nonFiniteText, []) :=
    if_neg (by rw [h]; decide)
  change ¬ p.Prints (p.render (p.scaled n).isBelowZero ((p.scaled n).places p.maxFraction)) q
  rw [hplaces, nonFiniteText]
  split
  · exact not_prints_render (c := 'N') (by decide) (by decide) rfl (by decide) (by decide)
  · exact not_prints_render (c := 'f') (by decide) (by decide) rfl (by decide) (by decide)

/-! ### Scaling up -/

/-- A natural product is printed as it is. -/
theorem prints_renderFloat_of_natural {N : ℕ} (h : (p.scaled n).isFinite = true)
    (hN : (p.scaled n).magnitude = N) :
    p.Prints (p.renderFloat (ofInt n)) (withSign (p.scaled n).negative N) := by
  have hprints := prints_renderFloat h
  rw [pointedValue_ratioPlaces, round_of_natural hN, Nat.cast_mul, Nat.cast_pow,
    Nat.cast_ofNat, mul_div_cancel_right₀ _ (by positivity)] at hprints
  exact hprints

variable {s : ℕ}

/-- A finite product with a natural power is a representable number with the sign of the
integer. -/
theorem exists_prints_of_isFinite (hscale : p.scale = s) (h : (p.scaled n).isFinite = true) :
    ∃ N : ℕ, (p.scaled n).magnitude = N ∧ Representable N ∧
      p.Prints (p.renderFloat (ofInt n)) (withSign (n < 0) N) := by
  have hpower : (powTen p.scale).IsNatural := hscale ▸ isNatural_powTen s
  obtain ⟨hinteger, hfactor⟩ := isFinite_of_mul h
  obtain ⟨N, hN, hrepresentable⟩ :=
    exists_magnitude_mul (exists_magnitude_ofInt hinteger) (hpower.magnitude hfactor) h
  have hprints := prints_renderFloat_of_natural h hN
  rw [scaled, negative_ofInt_mul h hpower.negative] at hprints
  exact ⟨N, hN, hrepresentable, hprints⟩

/-- The scaled integer is an integer with the same sign. -/
theorem mul_pow_scale (hscale : p.scale = s) (n : ℤ) :
    (n : ℚ) * 10 ^ p.scale = withSign (n < 0) (n * 10 ^ s).natAbs := by
  rw [hscale, zpow_natCast, natAbs_mul_pow_ten, Nat.cast_mul, withSign_natAbs_mul]
  push_cast
  rfl

/-- A number that prints a value is finite. -/
theorem finite_of_prints {q : ℚ} (h : p.Prints (p.renderFloat (ofInt n)) q) :
    (p.scaled n).isFinite = true := by
  by_contra hfinite
  exact not_prints_renderFloat (Bool.not_eq_true _ ▸ hfinite) h

/-- What is printed is off by more than half a unit of the last place **unless it is
exact**. -/
theorem faithful_iff_prints (hscale : p.scale = s) :
    p.Faithful n (p.renderFloat (ofInt n)) ↔
      p.Prints (p.renderFloat (ofInt n)) (n * 10 ^ p.scale) := by
  constructor
  · rintro ⟨q, hq, hnear⟩
    obtain ⟨N, -, -, hprints⟩ := exists_prints_of_isFinite hscale (finite_of_prints hq)
    obtain rfl := hq.unique hprints
    have hhalf : (1 : ℚ) / 2 / 10 ^ p.maxFraction ≤ 1 / 2 :=
      div_le_self (by norm_num) (one_le_pow₀ (by norm_num))
    rw [mul_pow_scale hscale, abs_withSign_sub] at hnear
    have hN : N = (n * 10 ^ s).natAbs :=
      eq_of_abs_sub_lt_one ((hnear.trans hhalf).trans_lt (by norm_num))
    rwa [mul_pow_scale hscale, ← hN]
  · intro h
    exact ⟨_, h, by rw [sub_self, abs_zero]; positivity⟩

/-- **An integer scaled up is printed exactly** if and only if the power of ten is finite and
the scaled integer is representable. -/
theorem prints_scaled_iff (hscale : p.scale = s) (hn : n.natAbs ≤ 2 ^ 127) :
    p.Prints (p.renderFloat (ofInt n)) (n * 10 ^ p.scale) ↔
      (powTen p.scale).isFinite = true ∧ Representable (n * 10 ^ s) := by
  rw [mul_pow_scale hscale]
  constructor
  · intro h
    have hfinite := finite_of_prints h
    obtain ⟨N, -, ⟨m, k, hm, hN⟩, hprints⟩ := exists_prints_of_isFinite hscale hfinite
    have hequal : N = (n * 10 ^ s).natAbs := by
      refine eq_of_abs_sub_lt_one ?_
      rw [← abs_withSign_sub (n < 0), hprints.unique h, sub_self, abs_zero]
      exact one_pos
    exact ⟨(isFinite_of_mul hfinite).2, m, k, hm, hequal ▸ hN⟩
  · rintro ⟨hpower, hrepresentable⟩
    have hexact : (p.scaled n).isFinite = true ∧
        (p.scaled n).magnitude = (n * 10 ^ s).natAbs := by
      rw [scaled, hscale]
      rw [hscale] at hpower
      have hinteger := isFinite_ofInt (hn.trans_lt (by decide))
      rcases eq_or_ne n 0 with rfl | hne
      · rw [zero_mul]
        exact mul_of_eq_zero hinteger hpower (magnitude_of_isZero rfl)
      · have hs := hrepresentable.of_mul_pow_ten.2 hne
        exact ⟨isFinite_ofInt_mul hs (isPowTen_powTen hs) hn,
          (magnitude_mul_eq_iff hs (isPowTen_powTen hs) hn).mpr hrepresentable⟩
    obtain ⟨N, hN, -, hprints⟩ := exists_prints_of_isFinite hscale hexact.1
    rwa [← hexact.2, hN]

/-! ### Scaling down -/

/-- Two roundings before the last one do not show if the integer is small. -/
theorem abs_round_sub_le_of_near {a : Ratio} {m k count : ℕ}
    (h : |a.toRat - m * (10 ^ k)⁻¹| ≤ m * (10 ^ k)⁻¹ * (1 / 2 ^ 52 + 1 / 2 ^ 106))
    (hsmall : m * 10 ^ (count - k) < 2 ^ 51) :
    |((a.scaleDecimal count).round : ℚ) / 10 ^ count - m * (10 ^ k)⁻¹| ≤
      1 / 2 / 10 ^ count := by
  -- In units of the last place, the exact number is a fraction with a power of ten below it.
  have hplaces : (m : ℚ) * (10 ^ k)⁻¹ * 10 ^ count =
      (m * 10 ^ (count - k) : ℕ) / (10 ^ (k - count) : ℕ) := by
    push_cast
    rw [← div_eq_mul_inv, div_mul_eq_mul_div, div_eq_div_iff (by positivity) (by positivity),
      mul_assoc, mul_assoc, ← pow_add, ← pow_add]
    congr 2
    omega
  have hden : 0 < 10 ^ (k - count) := by positivity
  have hden' : (0 : ℚ) < (10 ^ (k - count) : ℕ) := Nat.cast_pos.mpr hden
  have hcount : (0 : ℚ) < 10 ^ count := by positivity
  have hsmall' : ((m * 10 ^ (count - k) : ℕ) : ℚ) ≤ 2 ^ 51 - 1 := by
    have : m * 10 ^ (count - k) + 1 ≤ 2 ^ 51 := hsmall
    have : ((m * 10 ^ (count - k) : ℕ) : ℚ) + 1 ≤ 2 ^ 51 := by exact_mod_cast this
    linarith
  have hclose : |(a.scaleDecimal count).toRat -
      (m * 10 ^ (count - k) : ℕ) / (10 ^ (k - count) : ℕ)| <
        1 / (2 * (10 ^ (k - count) : ℕ)) := by
    rw [Ratio.toRat_scaleDecimal, zpow_natCast, ← hplaces, ← sub_mul, abs_mul,
      abs_of_pos hcount]
    calc
      |a.toRat - m * (10 ^ k)⁻¹| * 10 ^ count
          ≤ m * (10 ^ k)⁻¹ * 10 ^ count * (1 / 2 ^ 52 + 1 / 2 ^ 106) := by
        rw [mul_right_comm]
        exact mul_le_mul_of_nonneg_right h hcount.le
      _ < 1 / (2 * (10 ^ (k - count) : ℕ)) := by
        rw [hplaces, ← div_div, div_mul_eq_mul_div, div_lt_div_iff_of_pos_right hden']
        linarith
  rw [abs_div_sub hcount, hplaces]
  exact div_le_div_of_nonneg_right (Ratio.abs_round_sub_div_le hden hclose) hcount.le

/-- **An integer scaled down is printed faithfully** if it has less than 51 bits without a
point. -/
theorem faithful_of_neg {k : ℕ} (hscale : p.scale = -k) (hk : 0 < k) (hle : k ≤ 22)
    (hsmall : n.natAbs * 10 ^ (p.maxFraction - k) < 2 ^ 51) :
    p.Faithful n (p.renderFloat (ofInt n)) := by
  have hn : n.natAbs < 2 ^ 53 := by
    have := Nat.le_mul_of_pos_right n.natAbs (by positivity : 0 < 10 ^ (p.maxFraction - k))
    omega
  obtain ⟨hfinite, hnear⟩ := mul_powTen_neg_near hk hle hn
  rw [← hscale] at hfinite hnear
  change (p.scaled n).isFinite = true at hfinite
  change |(p.scaled n).magnitude - _| ≤ _ at hnear
  have hnegative : (p.scaled n).negative = decide (n < 0) := by
    refine negative_ofInt_mul hfinite ?_
    rw [hscale]
    exact (powTen_neg_near hk hle).1
  refine ⟨_, prints_renderFloat hfinite, ?_⟩
  rw [hnegative, pointedValue_ratioPlaces, ← withSign_natAbs_mul, abs_withSign_sub, hscale,
    zpow_neg, zpow_natCast]
  exact abs_round_sub_le_of_near hnear hsmall

/-! ### All scales -/

/-- What a pattern **prints for an integer**. -/
structure PrintsScaled (p : NumberPattern) (n : ℤ) (text : Text) : Prop where
  /-- Without a scale, it is the integer itself. -/
  unscaled : p.scale = 0 → p.Prints text n
  /-- Scaled up, it is the exact number if and only if floating-point numbers can hold it, and
  no number near it otherwise. -/
  up : ∀ s : ℕ, p.scale = s → 0 < s →
    (p.Prints text (n * 10 ^ p.scale) ↔
      (powTen p.scale).isFinite = true ∧ Representable (n * 10 ^ s)) ∧
    (p.Faithful n text ↔ p.Prints text (n * 10 ^ p.scale))
  /-- Scaled down, it is within half a unit of the exact number for small integers. -/
  down : ∀ k : ℕ, p.scale = -k → 0 < k → k ≤ 22 →
    n.natAbs * 10 ^ (p.maxFraction - k) < 2 ^ 51 → p.Faithful n text
  /-- In any case, it is within half a unit of a finite floating-point product. -/
  product : p.scale ≠ 0 → (p.scaled n).isFinite = true →
    ∃ q, p.Prints text q ∧ |q - (p.scaled n).value| ≤ 1 / 2 / 10 ^ p.maxFraction

/-- An unscaled pattern prints the integer itself. -/
theorem printsScaled_render (h : p.scale = 0) (n : ℤ) :
    p.PrintsScaled n (p.render (n < 0) (decimal n.natAbs, [])) where
  unscaled _ := prints_unscaled p n
  up s hscale hs := absurd (hscale.symm.trans h) (by omega)
  down k hscale hk := absurd (hscale.symm.trans h) (by omega)
  product hscale := absurd h hscale

/-- A scaled pattern prints the scaled integer as far as its number does. -/
theorem printsScaled_renderFloat (h : p.scale ≠ 0) (hn : n.natAbs ≤ 2 ^ 127) :
    p.PrintsScaled n (p.renderFloat (ofInt n)) where
  unscaled hscale := absurd hscale h
  up _ hscale _ := ⟨prints_scaled_iff hscale hn, faithful_iff_prints hscale⟩
  down _ hscale hk hle hsmall := faithful_of_neg hscale hk hle hsmall
  product _ hfinite := by
    refine ⟨_, prints_renderFloat hfinite, ?_⟩
    rw [value, abs_withSign_sub]
    exact abs_pointedValue_ratioPlaces_sub_le _ _

end NumberPattern

/-! ### Format texts -/

/-- A percentage is written from the number of the integer. -/
theorem formatInteger_percent {letter : Char} {digits : Text} (hletter : letter ∈ ['P', 'p'])
    (hlength : digits.length ≤ 2) (hdigits : digits.all Char.isDigit = true) (n : ℤ) :
    formatInteger n (letter :: digits) =
      .ok (percentText (ofInt n) ((natural? digits).getD 2)) := by
  have hstyle : NumberStyle.ofLetter? letter = some .percent := by
    rcases List.mem_pair.mp hletter with rfl | rfl <;> rfl
  exact formatInteger_of_ofLetter? hstyle hlength hdigits n

/-- **Scaled integers are exact as far as floating-point numbers go**, for every integer of 128
bits. A percentage is a hundred times the integer with zeros for its fraction if and only if
that product is representable, and a pattern prints what `NumberPattern.PrintsScaled` says. -/
theorem formatInteger_scaled (n : ℤ) (hn : n.natAbs ≤ 2 ^ 127) :
    (∀ letter ∈ ['P', 'p'], ∀ digits : Text, digits.length ≤ 2 →
      digits.all Char.isDigit = true →
      ∃ text, formatInteger n (letter :: digits) = .ok text ∧
        (text = signed (n * 100) ++ zeroPlaces ((natural? digits).getD 2) ++ " %".toList ↔
          Representable (n * 100))) ∧
    ∀ spec p, Specifier.parse? spec = none → NumberPattern.parse? spec = some p →
      ∃ text, formatInteger n spec = .ok text ∧ p.PrintsScaled n text := by
  constructor
  · intro letter hletter digits hlength hdigits
    exact ⟨_, formatInteger_percent hletter hlength hdigits n, percentText_eq_iff hn _⟩
  · intro spec p hspec hp
    refine ⟨_, formatInteger_of_parse? hspec hp n, ?_⟩
    split
    · next hscale => exact NumberPattern.printsScaled_render hscale n
    · next hscale => exact NumberPattern.printsScaled_renderFloat hscale hn

/-- The pattern `0.00,`: thousands with two places. -/
def NumberPattern.thousands : NumberPattern := ⟨[], [], 1, false, 2, 2, -3⟩

/-- More than a million in thousands, which is rounded three times. -/
theorem formatInteger_scaled_thousands :
    (1234567 : ℤ).natAbs ≤ 2 ^ 127 ∧ Specifier.parse? "0.00,".toList = none ∧
      NumberPattern.parse? "0.00,".toList = some .thousands ∧
      ∃ text, formatInteger 1234567 "0.00,".toList = .ok text ∧
        NumberPattern.thousands.PrintsScaled 1234567 text :=
  ⟨by decide, rfl, rfl, (formatInteger_scaled 1234567 (by decide)).2 _ _ rfl rfl⟩

/-- The pattern `0%`: a percentage without a fraction. -/
def NumberPattern.percentage : NumberPattern := ⟨[], ['%'], 1, false, 0, 0, 2⟩

/-- A hundredfold that takes more than fifty-three bits. -/
theorem not_representable_percentage : ¬ Representable (9007199254740993 * 10 ^ 2) := by
  rintro ⟨m, k, hm, h⟩
  have hvalue : m * 2 ^ k = 900719925474099300 := h.symm
  rcases Nat.lt_or_ge k 3 with hk | hk
  · interval_cases k <;> omega
  · obtain ⟨more, rfl⟩ := Nat.exists_eq_add_of_le hk
    rw [pow_add, mul_left_comm] at hvalue
    omega

/-- The first integer that no floating-point number holds is rounded before it is multiplied,
so neither its percentage nor the pattern `0%` writes a hundred times the integer, and the
pattern is off by more than half a unit. -/
theorem formatInteger_scaled_inexact :
    formatInteger 9007199254740993 ['P', '0'] ≠
        .ok (signed (9007199254740993 * 100) ++ zeroPlaces 0 ++ " %".toList) ∧
      NumberPattern.parse? ['0', '%'] = some .percentage ∧
      ∃ text, formatInteger 9007199254740993 ['0', '%'] = .ok text ∧
        ¬ NumberPattern.percentage.Faithful 9007199254740993 text := by
  have hp : NumberPattern.parse? ['0', '%'] = some .percentage := rfl
  have hscale : NumberPattern.percentage.scale = (2 : ℕ) := rfl
  refine ⟨fun h => ?_, hp, _, formatInteger_of_parse? rfl hp _, fun h => ?_⟩
  · rw [formatInteger_percent (by decide) (by decide) rfl] at h
    exact not_representable_percentage
      ((percentText_eq_iff (by decide) 0).mp (Except.ok.inj h))
  · rw [if_neg (by decide), NumberPattern.faithful_iff_prints hscale,
      NumberPattern.prints_scaled_iff hscale (by decide)] at h
    exact not_representable_percentage h.2

end Stencil
