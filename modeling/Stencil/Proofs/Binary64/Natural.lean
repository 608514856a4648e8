import Stencil.Format.Number
import Stencil.Proofs.Binary64.Basin
import Stencil.Proofs.Binary64.Powers
import Stencil.Proofs.Numeral

/-!
# Texts of natural numbers

A floating-point number without a fraction is written with zeros for its places. That the
fewest digits that read back are its own is less plain, since they are searched for. The ratios
that round to a natural number up to `2 ^ 53` lie within a half of it, or within one of
`2 ^ 53` itself. So on a grid of tens or coarser only the number itself can be among them, and
the search for the coarsest grid ends where the number has its last digit other than zero. The
digits that are found, and zeros for the rest, are the canonical numeral.

## Main results

* `places_of_natural`, `fixed_of_natural`: zeros for the places.
* `onGrid?_of_dvd`, `onGrid?_of_not_dvd`: the grids that a natural number lies on.
* `coarsest_of_natural`: the search finds the number, whatever grid it starts on.
* `display_of_natural`: natural numbers up to `2 ^ 53` are displayed as they are.
-/

namespace Stencil.Binary64

open Numeral

variable {x : Binary64} {a : Ratio} {m k u : ℕ}

/-! ### Fixed places -/

/-- Zero in a fixed width is written with zeros only. -/
theorem fixed_zero_of_pos {count : ℕ} (h : 0 < count) :
    Numeral.fixed 10 count 0 = List.replicate count '0' := by
  obtain ⟨more, rfl⟩ := Nat.exists_eq_succ_of_ne_zero h.ne'
  rw [Numeral.fixed, Text.padLeft, List.replicate_succ']
  rfl

/-- The digits of a natural number are not rounded. -/
theorem round_of_natural (h : x.magnitude = m) (count : ℕ) :
    (x.toRatio.scaleDecimal count).round = m * 10 ^ count := by
  refine Ratio.round_of_toRat_eq ?_
  rw [Ratio.toRat_scaleDecimal, zpow_natCast, Nat.cast_mul, Nat.cast_pow, ← h]
  rfl

/-- A natural number is written without a fraction. -/
theorem places_of_natural (hx : x.isFinite = true) (h : x.magnitude = m) (count : ℕ) :
    x.places count = (decimal m, List.replicate count '0') := by
  rw [places, if_pos hx, ratioPlaces, round_of_natural h, Nat.pow_eq,
    Nat.mul_div_cancel _ (by positivity), Nat.mul_mod_left]
  split
  · next hnone => rw [hnone, List.replicate_zero]
  · next hsome => rw [fixed_zero_of_pos (Nat.pos_of_ne_zero hsome)]

/-- Places that are all zero, written behind their digits. -/
theorem pointed_zeros (digits : Text) (count : ℕ) :
    pointed (digits, List.replicate count '0') = digits ++ zeroPlaces count := by
  cases count with
  | zero => simp [pointed, zeroPlaces]
  | succ count => simp [pointed, zeroPlaces, List.replicate_succ]

/-- A natural number has zeros in all its fixed places. -/
theorem fixed_of_natural (hx : x.isFinite = true) (h : x.magnitude = m) (count : ℕ) :
    x.fixed count = Numeral.sign x.negative ++ decimal m ++ zeroPlaces count := by
  rw [Binary64.fixed, places_of_natural hx h, pointed_zeros, signText, isNaN_eq_false hx,
    Bool.not_false, Bool.and_true, List.append_assoc]

/-! ### What rounds to a natural number -/

/-- A positive natural number has a positive magnitude. -/
theorem magnitude_pos (h : x.magnitude = m) (hpos : 0 < m) : 0 < x.magnitude := by
  rw [h]
  exact_mod_cast hpos

/-- The zeros are the numbers without a magnitude. -/
theorem isZero_iff : x.isZero = true ↔ x.magnitude = 0 := by
  refine ⟨magnitude_of_isZero, fun h => ?_⟩
  have hunit : (2 : ℚ) ^ x.exponent ≠ 0 := (zpow_pos two_pos _).ne'
  have hsignificand : x.significand = 0 := by
    rw [magnitude_eq, mul_eq_zero] at h
    exact_mod_cast h.resolve_right hunit
  rw [significand] at hsignificand
  rw [isZero, beq_iff_eq]
  split at hsignificand <;> omega

/-- The unit of the last place of a number **up to `2 ^ 53`** is at most two, and one below
it. -/
theorem exponent_le (h : x.magnitude = m) (hm : m ≤ 2 ^ 53) :
    x.exponent ≤ 1 ∧ (m < 2 ^ 53 → x.exponent ≤ 0) := by
  have hpower : ∀ z : ℕ, z ≤ x.exponent → 2 ^ (52 + z) ≤ m := by
    intro z hz
    have hsignificand : ((2 ^ 52 : ℕ) : ℚ) ≤ x.significand := by
      exact_mod_cast le_significand (by omega)
    have hle : ((2 ^ (52 + z) : ℕ) : ℚ) ≤ m := by
      rw [← h, magnitude_eq, pow_add, Nat.cast_mul]
      refine mul_le_mul hsignificand ?_ (by positivity) (by positivity)
      push_cast
      rw [← zpow_natCast]
      exact zpow_le_zpow_right₀ one_le_two hz
    exact_mod_cast hle
  constructor
  · by_contra hlarge
    have := hpower 2 (by omega)
    omega
  · intro hlt
    by_contra hlarge
    have := hpower 1 (by omega)
    omega

/-- Only the number itself, and the odd neighbours of `2 ^ 53`, round to a natural number. -/
theorem eq_or_of_contains (h : x.magnitude = m) (hpos : 0 < m) (hm : m ≤ 2 ^ 53)
    (ha : a.toRat = k) (hcontains : x.basin.contains a = true) :
    k = m ∨ m = 2 ^ 53 ∧ (k + 1 = m ∨ k = m + 1) := by
  have hnear := abs_sub_le_of_contains (magnitude_pos h hpos) hcontains
  obtain ⟨hone, hzero⟩ := exponent_le h hm
  rw [ha, h] at hnear
  rcases hm.lt_or_eq with hlt | heq
  · left
    have hhalf : (2 : ℚ) ^ (x.exponent - 1) ≤ 2 ^ (-1 : ℤ) :=
      zpow_le_zpow_right₀ one_le_two (by have := hzero hlt; omega)
    exact eq_of_abs_sub_lt_one ((hnear.trans hhalf).trans_lt (by norm_num))
  · have hunit : (2 : ℚ) ^ (x.exponent - 1) ≤ 2 ^ (0 : ℤ) :=
      zpow_le_zpow_right₀ one_le_two (by omega)
    have hinteger : |(k : ℤ) - m| ≤ 1 := by
      exact_mod_cast (hnear.trans hunit).trans_eq (zpow_zero _)
    rw [abs_le] at hinteger
    omega

/-! ### Grids -/

/-- The number in units of a grid. -/
theorem toRat_scaleDecimal_neg (h : x.magnitude = m) (u : ℕ) :
    (x.toRatio.scaleDecimal (-u)).toRat = m / (10 ^ u : ℕ) := by
  rw [Ratio.toRat_scaleDecimal, zpow_neg, zpow_natCast, ← div_eq_mul_inv, Nat.cast_pow, ← h]
  rfl

/-- A multiple of the unit of a grid. -/
theorem toRat_ofNat_scaleDecimal (j u : ℕ) :
    ((Ratio.ofNat j).scaleDecimal u).toRat = (j * 10 ^ u : ℕ) := by
  rw [Ratio.toRat_scaleDecimal, Ratio.toRat_ofNat, zpow_natCast]
  push_cast
  rfl

/-- The part of a natural number above a power of ten is its quotient. -/
theorem floor_scaleDecimal_neg (h : x.magnitude = m) (u : ℕ) :
    (x.toRatio.scaleDecimal (-u)).floor = m / 10 ^ u := by
  rw [Ratio.floor_eq, toRat_scaleDecimal_neg h, Nat.floor_div_eq_div]

/-- **On a grid that a natural number lies on**, it is found. -/
theorem onGrid?_of_dvd (h : x.magnitude = m) (hpos : 0 < m) (hdvd : 10 ^ u ∣ m) :
    onGrid? x.basin x.toRatio u = some (m / 10 ^ u) := by
  have hinside : x.basin.contains ((Ratio.ofNat (m / 10 ^ u)).scaleDecimal u) = true := by
    refine contains_of_toRat_eq (magnitude_pos h hpos) ?_
    rw [toRat_ofNat_scaleDecimal, Nat.div_mul_cancel hdvd, h]
  -- The number is no more than the multiple below it, so the one above is not nearer.
  have hexact : (x.toRatio.scaleDecimal (-u)).num % (x.toRatio.scaleDecimal (-u)).den = 0 := by
    have hnum := Ratio.num_eq_of_toRat_eq (n := m / 10 ^ u)
      (by rw [toRat_scaleDecimal_neg h, Nat.cast_div hdvd (by positivity)])
    rw [hnum, Nat.mul_mod_left]
  have hden := (x.toRatio.scaleDecimal (-u)).den_pos
  simp only [onGrid?, floor_scaleDecimal_neg h, hinside, if_true, hexact, Nat.mul_zero]
  rw [if_neg]
  simp [hden.ne']

/-- **On any other grid**, nothing is found. -/
theorem onGrid?_of_not_dvd (h : x.magnitude = m) (hpos : 0 < m) (hm : m ≤ 2 ^ 53)
    (hdvd : ¬ 10 ^ u ∣ m) : onGrid? x.basin x.toRatio u = none := by
  have hu : u ≠ 0 := by
    rintro rfl
    exact hdvd (one_dvd m)
  have hten : 10 ∣ 10 ^ u := dvd_pow_self 10 hu
  have hinside : ∀ j, x.basin.contains ((Ratio.ofNat j).scaleDecimal u) = false := by
    intro j
    rw [Bool.eq_false_iff]
    intro hcontains
    have hmultiple : 10 ∣ j * 10 ^ u := hten.mul_left j
    rcases eq_or_of_contains h hpos hm (toRat_ofNat_scaleDecimal j u) hcontains with heq | hodd
    · exact hdvd ⟨j, by rw [← heq, mul_comm]⟩
    · omega
  simp only [onGrid?, hinside, Bool.false_eq_true, if_false]

/-- **The search finds the number**, whatever grid of integers it starts on. -/
theorem coarsest_of_natural (h : x.magnitude = m) (hpos : 0 < m) (hm : m ≤ 2 ^ 53)
    {top : ℤ} {count more : ℕ} (hcount : count ≤ top + 1) (hmore : top + 1 ≤ count + more) :
    ∃ u : ℕ, (coarsest x.basin x.toRatio top count more).exponent = u ∧
      (coarsest x.basin x.toRatio top count more).digits * 10 ^ u = m := by
  induction more generalizing count with
  | zero =>
    have hscale : (count : ℤ) - top - 1 = 0 := by omega
    refine ⟨0, by simp only [coarsest]; omega, ?_⟩
    simp only [coarsest, hscale, pow_zero, Nat.mul_one]
    refine Ratio.round_of_toRat_eq ?_
    rw [Ratio.toRat_scaleDecimal, zpow_zero, mul_one]
    exact h
  | succ more ih =>
    obtain ⟨u, hu⟩ := Int.eq_ofNat_of_zero_le (by omega : 0 ≤ top + 1 - count)
    by_cases hdvd : 10 ^ u ∣ m
    · refine ⟨u, ?_, ?_⟩
      · simp only [coarsest, hu, onGrid?_of_dvd h hpos hdvd]
      · simp only [coarsest, hu, onGrid?_of_dvd h hpos hdvd]
        exact Nat.div_mul_cancel hdvd
    · have hu0 : u ≠ 0 := by
        rintro rfl
        exact hdvd (one_dvd m)
      simp only [coarsest, hu, onGrid?_of_not_dvd h hpos hm hdvd]
      exact ih (by push_cast; omega) (by push_cast at *; omega)

/-! ### The fewest digits -/

/-- The decimal logarithm of a natural number tells how many digits it has. -/
theorem log_of_natural (h : x.magnitude = m) (hpos : 0 < m) :
    x.toRatio.log 10 = (decimal m).length - 1 := by
  have hnum := Ratio.num_eq_of_toRat_eq (a := x.toRatio) (n := m) h
  have hle : x.toRatio.den ≤ x.toRatio.num := hnum ▸ Nat.le_mul_of_pos_left _ hpos
  rw [Ratio.log, if_pos hle, hnum, Nat.mul_div_cancel _ x.toRatio.den_pos, Ratio.digitCount,
    if_neg hpos.ne']
  rfl

/-- The fewest digits, with zeros behind them, are the number. -/
theorem shortest_of_natural (h : x.magnitude = m) (hpos : 0 < m) (hm : m ≤ 2 ^ 53) :
    ∃ u : ℕ, x.shortest.exponent = u ∧ x.shortest.digits * 10 ^ u = m := by
  have hlength : (decimal m).length ≤ 16 :=
    (Nat.length_toDigits_le_iff (by decide) (by decide)).mpr (hm.trans_lt (by decide))
  have hlog := log_of_natural h hpos
  have hdigits : 0 < (decimal m).length := Nat.length_toDigits_pos
  obtain ⟨u, hexponent, hvalue⟩ := coarsest_of_natural h hpos hm
    (by omega : ((1 : ℕ) : ℤ) ≤ x.toRatio.log 10 + 1) (by omega : _ ≤ ((1 : ℕ) : ℤ) + (17 : ℕ))
  simp only [shortest]
  split
  · next hten =>
    rw [hten] at hvalue
    refine ⟨u + 1, by rw [hexponent]; rfl, ?_⟩
    rw [← hvalue, pow_succ']
    ring
  · exact ⟨u, hexponent, hvalue⟩

/-- Digits with zeros behind them are displayed without a point. -/
theorem displayParts_of_exponent_eq (hpos : 0 < x.magnitude)
    (hexponent : x.shortest.exponent = u) (hdigits : 0 < x.shortest.digits) :
    x.displayParts = (decimal (x.shortest.digits * 10 ^ u), []) := by
  have hzero : ¬ x.isZero = true := mt isZero_iff.mp hpos.ne'
  rw [displayParts, if_neg hzero, Decimal.split, if_pos (by omega), hexponent,
    Int.toNat_natCast, ← decimal_mul_pow_ten hdigits]

/-- A number without decimal places is shown as a sign and its digits. -/
theorem display_of_displayParts {digits : Text} (hx : x.isFinite = true)
    (h : x.displayParts = (digits, [])) : x.display = sign x.negative ++ digits := by
  rw [display, signText, isNaN_eq_false hx, Bool.not_false, Bool.and_true, if_pos hx, h]
  rfl

/-- A natural number up to `2 ^ 53` is shown with all its digits and no places. -/
theorem displayParts_of_natural (h : x.magnitude = m) (hm : m ≤ 2 ^ 53) :
    x.displayParts = (decimal m, []) := by
  rcases Nat.eq_zero_or_pos m with rfl | hpos
  · rw [displayParts, if_pos (isZero_iff.mpr (h.trans Nat.cast_zero))]
    rfl
  · obtain ⟨u, hexponent, hvalue⟩ := shortest_of_natural h hpos hm
    have hdigits : 0 < x.shortest.digits := by
      by_contra hnone
      rw [Nat.eq_zero_of_not_pos hnone, zero_mul] at hvalue
      exact hpos.ne hvalue
    rw [displayParts_of_exponent_eq (magnitude_pos h hpos) hexponent hdigits, hvalue]

/-- **Natural numbers up to `2 ^ 53`** are displayed as they are. -/
theorem display_of_natural (hx : x.isFinite = true) (h : x.magnitude = m) (hm : m ≤ 2 ^ 53) :
    x.display = sign x.negative ++ decimal m :=
  display_of_displayParts hx (displayParts_of_natural h hm)

end Stencil.Binary64
