import Mathlib
import Stencil.Ratio

/-!
# Ratios as rational numbers

A ratio need not be in lowest terms, and the rational number that it is forgets how it was
written. Products, powers of a base and reciprocals are those of rational numbers, the nearest
natural number is off by at most one half, and the binary logarithm finds the two powers of two
between which a positive ratio lies.

## Main definitions

* `Stencil.withSign`: a magnitude with a sign.
* `Stencil.Ratio.toRat`: the rational number of a ratio.

## Main results

* `abs_round_sub_le`: rounding is off by at most one half.
* `round_of_toRat_eq`: a natural number rounds to itself, however it is written.
* `round_eq_iff`: the ratios that round to a natural number.
* `abs_round_sub_div_le`: what is close to a fraction rounds to a natural number next to it.
* `two_zpow_log2_le`, `lt_two_zpow_log2`: the binary logarithm.
-/

namespace Stencil

/-! ### Signs -/

/-- A magnitude **with a sign**. -/
def withSign (negative : Bool) (x : ℚ) : ℚ := if negative then -x else x

@[simp] theorem withSign_zero (negative : Bool) : withSign negative 0 = 0 := by
  rw [withSign, neg_zero, ite_self]

/-- A common sign makes no difference to a distance. -/
theorem abs_withSign_sub (negative : Bool) (x y : ℚ) :
    |withSign negative x - withSign negative y| = |x - y| := by
  cases negative
  · rfl
  · exact (congrArg _ (neg_sub_neg x y)).trans (abs_sub_comm y x)

/-- An integer is its magnitude with its sign. -/
theorem withSign_natAbs_mul (n : ℤ) (x : ℚ) : withSign (n < 0) (n.natAbs * x) = n * x := by
  rw [withSign, Nat.cast_natAbs, Int.cast_abs]
  simp only [decide_eq_true_eq]
  split
  · next h => rw [abs_of_neg (by exact_mod_cast h), neg_mul, neg_neg]
  · next h => rw [abs_of_nonneg (by exact_mod_cast not_lt.mp h)]

/-- An integer is its absolute value with its sign. -/
theorem withSign_natAbs (n : ℤ) : withSign (n < 0) n.natAbs = n := by
  simpa using withSign_natAbs_mul n 1

/-! ### Distances -/

/-- A distance in units of `w` is the distance divided by `w`. -/
theorem abs_div_sub {w : ℚ} (hw : 0 < w) (x y : ℚ) : |x / w - y| = |x - y * w| / w := by
  conv_rhs => rw [← abs_of_pos hw, ← abs_div, abs_of_pos hw, sub_div,
    mul_div_cancel_right₀ _ hw.ne']

/-- Natural numbers that are less than one apart are equal. -/
theorem eq_of_abs_sub_lt_one {m n : ℕ} (h : |(m : ℚ) - n| < 1) : m = n := by
  have hinteger : |(m : ℤ) - n| < 1 := by exact_mod_cast h
  have := Int.abs_lt_one_iff.mp hinteger
  omega

namespace Ratio

/-- The **rational number** of a ratio. -/
def toRat (a : Ratio) : ℚ := a.num / a.den

variable {a : Ratio}

/-- The denominator is positive as a rational number, too. -/
theorem den_pos_rat (a : Ratio) : (0 : ℚ) < a.den := Nat.cast_pos.mpr a.den_pos

/-- No ratio is below zero. -/
theorem toRat_nonneg (a : Ratio) : 0 ≤ a.toRat :=
  div_nonneg a.num.cast_nonneg a.den.cast_nonneg

/-- A ratio is zero exactly if its numerator is. -/
theorem toRat_eq_zero_iff : a.toRat = 0 ↔ a.num = 0 := by
  rw [toRat, div_eq_zero_iff, Nat.cast_eq_zero, or_iff_left (den_pos_rat a).ne']

/-- A ratio is positive exactly if its numerator is. -/
theorem toRat_pos_iff : 0 < a.toRat ↔ 0 < a.num := by
  rw [(toRat_nonneg a).lt_iff_ne', ne_eq, toRat_eq_zero_iff, Nat.pos_iff_ne_zero]

/-! ### Arithmetic -/

@[simp] theorem toRat_ofNat (n : ℕ) : (ofNat n).toRat = n := by simp [toRat, ofNat]

@[simp] theorem toRat_mul (a b : Ratio) : (a.mul b).toRat = a.toRat * b.toRat := by
  simp only [toRat, mul, Nat.cast_mul]
  rw [div_mul_div_comm]

/-- Scaling multiplies by a power of the base, whatever the sign of the exponent. -/
theorem toRat_scale {base : ℕ} (hbase : 0 < base) (k : ℤ) (a : Ratio) :
    (a.scale base hbase k).toRat = a.toRat * (base : ℚ) ^ k := by
  have hne : (base : ℚ) ≠ 0 := by exact_mod_cast hbase.ne'
  have hsplit : (base : ℚ) ^ k = (base : ℚ) ^ k.toNat / (base : ℚ) ^ (-k).toNat := by
    rw [← zpow_natCast, ← zpow_natCast, ← zpow_sub₀ hne]
    congr 1
    omega
  simp only [toRat, scale, Nat.pow_eq, Nat.cast_mul, Nat.cast_pow]
  rw [hsplit, div_mul_div_comm]

/-- Binary scaling multiplies by a power of two. -/
@[simp] theorem toRat_scaleBinary (k : ℤ) (a : Ratio) :
    (a.scaleBinary k).toRat = a.toRat * 2 ^ k := by
  exact_mod_cast toRat_scale (by decide : 0 < 2) k a

/-- Decimal scaling multiplies by a power of ten. -/
@[simp] theorem toRat_scaleDecimal (k : ℤ) (a : Ratio) :
    (a.scaleDecimal k).toRat = a.toRat * 10 ^ k := by
  exact_mod_cast toRat_scale (by decide : 0 < 10) k a

/-- The inverse of a ratio has the inverse value, also for zero. -/
@[simp] theorem toRat_inverse (a : Ratio) : a.inverse.toRat = a.toRat⁻¹ := by
  rw [inverse]
  split
  · rw [toRat, toRat, inv_div]
  · next h =>
    have hzero : a.toRat = 0 := toRat_eq_zero_iff.mpr (Nat.eq_zero_of_not_pos h)
    rw [hzero, inv_zero]

/-! ### Comparison -/

/-- The test compares values. -/
theorem le_iff {b : Ratio} : a.le b = true ↔ a.toRat ≤ b.toRat := by
  rw [le, decide_eq_true_eq, toRat, toRat, div_le_div_iff₀ (den_pos_rat a) (den_pos_rat b)]
  exact_mod_cast Iff.rfl

/-- The strict test compares values, too. -/
theorem lt_iff {b : Ratio} : a.lt b = true ↔ a.toRat < b.toRat := by
  rw [lt, decide_eq_true_eq, toRat, toRat, div_lt_div_iff₀ (den_pos_rat a) (den_pos_rat b)]
  exact_mod_cast Iff.rfl

/-! ### Natural numbers -/

/-- Dividing the numerator by the denominator rounds down. -/
theorem floor_eq (a : Ratio) : a.floor = ⌊a.toRat⌋₊ := (Nat.floor_div_eq_div a.num a.den).symm

/-- The numerator of a natural number is a multiple of the denominator. -/
theorem num_eq_of_toRat_eq {n : ℕ} (h : a.toRat = n) : a.num = n * a.den := by
  rw [toRat, div_eq_iff (den_pos_rat a).ne'] at h
  exact_mod_cast h

/-! ### Rounding -/

/-- **Rounding is off by at most one half.** -/
theorem abs_round_sub_le (a : Ratio) : |(a.round : ℚ) - a.toRat| ≤ 1 / 2 := by
  obtain ⟨hlow, hhigh⟩ := round_near a
  have hlow' : 2 * (a.num : ℚ) ≤ (2 * a.round + 1) * a.den := by exact_mod_cast hlow
  have hhigh' : 2 * (a.round : ℚ) * a.den ≤ 2 * a.num + a.den := by exact_mod_cast hhigh
  have hnum : a.toRat * a.den = a.num := div_mul_cancel₀ _ (den_pos_rat a).ne'
  have hden := den_pos_rat a
  rw [← hnum] at hlow' hhigh'
  rw [abs_le]
  constructor <;> nlinarith

/-- A natural number **rounds to itself**, however it is written. -/
theorem round_of_toRat_eq {n : ℕ} (h : a.toRat = n) : a.round = n := by
  have hnear := abs_round_sub_le a
  rw [h] at hnear
  exact eq_of_abs_sub_lt_one (hnear.trans_lt (by norm_num))

/-- A half goes to **the even neighbour**. -/
theorem even_round_of_half (h : |(a.round : ℚ) - a.toRat| = 1 / 2) : a.round % 2 = 0 := by
  have hden := den_pos_rat a
  have hnum : (a.num : ℚ) = (a.num / a.den : ℕ) * a.den + (a.num % a.den : ℕ) := by
    exact_mod_cast (Nat.div_add_mod' a.num a.den).symm
  have hmod : ((a.num % a.den : ℕ) : ℚ) < a.den := by exact_mod_cast Nat.mod_lt a.num a.den_pos
  have htie : 2 * |(a.round : ℚ) * a.den - a.num| = a.den := by
    rw [toRat, abs_sub_comm, abs_div_sub hden, div_eq_iff hden.ne', abs_sub_comm] at h
    linarith
  rw [hnum] at htie
  simp only [round] at htie ⊢
  split at htie
  · next hbelow =>
    -- The part after the point is less than a half.
    have hbelow' : 2 * ((a.num % a.den : ℕ) : ℚ) < a.den := by exact_mod_cast hbelow
    rw [sub_add_cancel_left, abs_neg, Nat.abs_cast] at htie
    linarith
  · split at htie
    · next habove =>
      have habove' : (a.den : ℚ) < 2 * (a.num % a.den : ℕ) := by exact_mod_cast habove
      have hrest : ((a.num / a.den + 1 : ℕ) : ℚ) * a.den -
          ((a.num / a.den : ℕ) * a.den + (a.num % a.den : ℕ)) =
            a.den - (a.num % a.den : ℕ) := by
        push_cast
        ring
      rw [hrest, abs_of_pos (by linarith)] at htie
      linarith
    · next hbelow habove =>
      rw [if_neg hbelow, if_neg habove]
      split <;> omega

/-- **The nearest natural number** is less than a half away, or a half and even. -/
theorem round_eq_iff {k : ℕ} :
    a.round = k ↔ |a.toRat - k| < 1 / 2 ∨ |a.toRat - k| = 1 / 2 ∧ k % 2 = 0 := by
  have hnear := abs_round_sub_le a
  constructor
  · rintro rfl
    rw [abs_sub_comm]
    rcases hnear.lt_or_eq with hlt | heq
    · exact .inl hlt
    · exact .inr ⟨heq, even_round_of_half heq⟩
  · intro h
    have hdistance : |(a.round : ℚ) - k| ≤ |(a.round : ℚ) - a.toRat| + |a.toRat - k| :=
      abs_sub_le _ _ _
    rcases hnear.lt_or_eq with hlt | heq
    · refine eq_of_abs_sub_lt_one (hdistance.trans_lt ?_)
      have hle : |a.toRat - k| ≤ 1 / 2 := h.elim le_of_lt fun h => h.1.le
      linarith
    · rcases h with hk | ⟨hk, heven⟩
      · exact eq_of_abs_sub_lt_one (hdistance.trans_lt (by linarith))
      · -- Two even numbers are not one apart.
        have hone : |(a.round : ℤ) - k| ≤ 1 := by
          have : |(a.round : ℚ) - k| ≤ 1 := hdistance.trans (by linarith)
          exact_mod_cast this
        have := even_round_of_half heq
        rw [abs_le] at hone
        omega

/-- What is close to a fraction rounds to a natural number **at most one half away** from the
fraction: the multiples of the last place leave no room between the two. -/
theorem abs_round_sub_div_le {m d : ℕ} (hd : 0 < d) (h : |a.toRat - m / d| < 1 / (2 * d)) :
    |(a.round : ℚ) - m / d| ≤ 1 / 2 := by
  have hd' : (0 : ℚ) < d := Nat.cast_pos.mpr hd
  have hscale : |(a.round : ℚ) - m / d| = |(a.round : ℚ) * d - m| / d := by
    rw [abs_sub_comm, abs_div_sub hd', abs_sub_comm]
  have hclose : |(a.round : ℚ) - m / d| < 1 / 2 + 1 / (2 * d) :=
    (abs_sub_le _ a.toRat _).trans_lt (add_lt_add_of_le_of_lt (abs_round_sub_le a) h)
  have hsum : 1 / 2 + 1 / (2 * (d : ℚ)) = (d + 1) / 2 / d := by field_simp
  rw [hscale, hsum, div_lt_div_iff_of_pos_right hd', lt_div_iff₀ two_pos] at hclose
  have hinteger : |(a.round : ℤ) * d - m| * 2 < d + 1 := by exact_mod_cast hclose
  have hle : |(a.round : ℚ) * d - m| * 2 ≤ d := by
    exact_mod_cast Int.lt_add_one_iff.mp hinteger
  rw [hscale, div_le_iff₀ hd']
  linarith

/-! ### The binary logarithm -/

/-- The binary logarithm of a positive ratio tells between which powers of two it lies. -/
theorem log2_spec (h : 0 < a.num) :
    (2 : ℚ) ^ a.log2 ≤ a.toRat ∧ a.toRat < 2 ^ (a.log2 + 1) := by
  have hden := den_pos_rat a
  have hnum : (0 : ℚ) < a.num := Nat.cast_pos.mpr h
  rw [toRat, le_div_iff₀ hden, div_lt_iff₀ hden, log2]
  split
  · next hle =>
    have hquotient : a.num / a.den ≠ 0 := (Nat.div_pos hle a.den_pos).ne'
    have hlow : 2 ^ (a.num / a.den).log2 * a.den ≤ a.num :=
      (Nat.le_div_iff_mul_le a.den_pos).mp (Nat.log2_self_le hquotient)
    have hhigh : a.num < 2 ^ ((a.num / a.den).log2 + 1) * a.den :=
      (Nat.div_lt_iff_lt_mul a.den_pos).mp Nat.lt_log2_self
    exact ⟨by exact_mod_cast hlow, by exact_mod_cast hhigh⟩
  · next hlt =>
    have hquotient : (a.den - 1) / a.num ≠ 0 := (Nat.div_pos (by omega) h).ne'
    have hlow := (Nat.le_div_iff_mul_le h).mp (Nat.log2_self_le hquotient)
    have hhigh := (Nat.div_lt_iff_lt_mul h).mp (@Nat.lt_log2_self ((a.den - 1) / a.num))
    generalize ((a.den - 1) / a.num).log2 = l at hlow hhigh
    have hlow' : (2 : ℚ) ^ l * a.num < a.den := by
      exact_mod_cast (by omega : 2 ^ l * a.num < a.den)
    have hhigh' : (a.den : ℚ) ≤ 2 ^ (l + 1) * a.num := by
      exact_mod_cast (by omega : a.den ≤ 2 ^ (l + 1) * a.num)
    have hup : (-(l + 1 : ℤ)) = -((l + 1 : ℕ) : ℤ) := by push_cast; ring
    have hdown : (-(l + 1 : ℤ)) + 1 = -(l : ℤ) := by ring
    rw [hdown, hup, zpow_neg, zpow_neg, zpow_natCast, zpow_natCast,
      inv_mul_le_iff₀ (by positivity), lt_inv_mul_iff₀ (by positivity)]
    exact ⟨hhigh', hlow'⟩

/-- The **binary logarithm** of a positive ratio is the exponent of a power of two below it. -/
theorem two_zpow_log2_le (h : 0 < a.num) : (2 : ℚ) ^ a.log2 ≤ a.toRat := (log2_spec h).1

/-- The next power of two is above it. -/
theorem lt_two_zpow_log2 (h : 0 < a.num) : a.toRat < (2 : ℚ) ^ (a.log2 + 1) := (log2_spec h).2

/-- The logarithm is below `k` exactly if the ratio is below `2 ^ k`. -/
theorem log2_lt_iff (h : 0 < a.num) {k : ℤ} : a.log2 < k ↔ a.toRat < 2 ^ k := by
  constructor
  · intro hlt
    exact (lt_two_zpow_log2 h).trans_le (zpow_le_zpow_right₀ one_le_two (by omega))
  · intro hlt
    exact (zpow_lt_zpow_iff_right₀ one_lt_two).mp ((two_zpow_log2_le h).trans_lt hlt)

/-- The logarithm is at least `k` exactly if the ratio is at least `2 ^ k`. -/
theorem le_log2_iff (h : 0 < a.num) {k : ℤ} : k ≤ a.log2 ↔ 2 ^ k ≤ a.toRat := by
  rw [← not_lt, log2_lt_iff h, not_lt]

end Ratio

end Stencil
