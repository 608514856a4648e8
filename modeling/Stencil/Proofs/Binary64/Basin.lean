import Stencil.Binary64.Decimal
import Stencil.Proofs.Binary64.Rounding

/-!
# The ratios that round to a number

The basin of a number is found without rounding anything: its ends are halfway to the
neighbours of the number. It holds the ratios that round to the number. For a ratio that is
counted in the same unit as the number this is what rounding to a natural number says. Below a
power of two the unit is half as large, and a ratio in that part of the basin is rounded up to
the power with a carry.

## Main definitions

* `Stencil.Binary64.lowGap`: the part of the unit between the lower end of the basin and the
  number.

## Main results

* `contains_iff`: the basin in units of the last place.
* `contains_iff_nearestWord_eq`: the basin holds the ratios that round to the number.
-/

namespace Stencil.Binary64

variable {x : Binary64} {a : Ratio} {s : ℚ} {k : ℕ} {z : ℤ}

/-! ### Words and units -/

/-- A word is put together from the significand and the exponent. -/
theorem word_eq (x : Binary64) :
    x.word = (x.exponent + 1074).toNat * 2 ^ 52 + x.significand := by
  rw [exponent, significand]
  split <;> omega

/-- A significand has at most fifty-three bits. -/
theorem significand_lt (x : Binary64) : x.significand < 2 ^ 53 := by
  rw [significand]
  split <;> omega

/-- No unit is below that of the subnormal numbers. -/
theorem neg_le_exponent (x : Binary64) : -1074 ≤ x.exponent := by
  rw [exponent]
  omega

/-- The significand is zero for zero only. -/
theorem significand_pos (h : 0 < x.magnitude) : 0 < x.significand := by
  rw [magnitude_eq] at h
  by_contra hzero
  rw [Nat.eq_zero_of_not_pos hzero, Nat.cast_zero, zero_mul] at h
  exact lt_irrefl _ h

/-- Above the end of the subnormal range, a significand has 53 bits. -/
theorem le_significand (h : -1074 < x.exponent) : 2 ^ 52 ≤ x.significand := by
  rw [exponent] at h
  rw [significand]
  split <;> omega

/-- A power of two is twice the one before it. -/
theorem two_zpow_eq (z : ℤ) : (2 : ℚ) ^ z = 2 ^ (z - 1) * 2 := by
  rw [← zpow_add_one₀ two_ne_zero, sub_add_cancel]

/-- A ratio between two powers of two has the **unit** that leaves 53 bits. -/
theorem unit_eq (h : 0 < a.num) (hz : -1074 ≤ z) (hlow : z = -1074 ∨ 2 ^ (52 + z) ≤ a.toRat)
    (hhigh : a.toRat < 2 ^ (53 + z)) : unit a = z := by
  have hlog : a.log2 < 53 + z := (Ratio.log2_lt_iff h).mpr hhigh
  have hlog' : z = -1074 ∨ 52 + z ≤ a.log2 := hlow.imp_right (Ratio.le_log2_iff h).mpr
  rw [unit]
  omega

/-- Rounding to a significand: the nearest one, or the even one of two that are as near. -/
theorem nearestSignificand_eq_iff (hs : a.toRat = s * 2 ^ unit a) :
    nearestSignificand a = k ↔ |s - k| < 1 / 2 ∨ |s - k| = 1 / 2 ∧ k % 2 = 0 := by
  have hunit : (2 : ℚ) ^ unit a ≠ 0 := (zpow_pos two_pos _).ne'
  have hscaled : (a.scaleBinary (-unit a)).toRat = s :=
    mul_right_cancel₀ hunit ((toRat_scaleBinary_unit a).trans hs)
  rw [nearestSignificand, Ratio.round_eq_iff, hscaled]

/-! ### The ends -/

/-- The part of the unit that is **between the lower end** of the basin and the number. -/
def lowGap (x : Binary64) : ℚ :=
  if x.significand = 2 ^ 52 ∧ -1074 < x.exponent then 1 / 4 else 1 / 2

/-- The gap below a number is half a unit, or a quarter below a power of two. -/
theorem lowGap_le (x : Binary64) : 1 / 4 ≤ x.lowGap ∧ x.lowGap ≤ 1 / 2 := by
  rw [lowGap]
  split <;> norm_num

/-- The lower end of a basin in units of the number. -/
theorem toRat_low_eq (h : 0 < x.significand) :
    x.basin.low.toRat = (x.significand - x.lowGap) * 2 ^ x.exponent := by
  have hspecial : (x.significand = 0x10000000000000 ∧ 0x20000000000000 ≤ x.word) ↔
      (x.significand = 2 ^ 52 ∧ -1074 < x.exponent) := by
    have hword := word_eq x
    have hexponent := neg_le_exponent x
    omega
  have hquarter : (2 : ℚ) ^ (x.exponent - 1) = 2 ^ (x.exponent - 2) * 2 := by
    rw [two_zpow_eq, sub_sub, one_add_one_eq_two]
  rw [basin, lowGap, two_zpow_eq x.exponent]
  simp only [hspecial]
  split
  all_goals
    rw [Ratio.toRat_scaleBinary, Ratio.toRat_ofNat, Nat.cast_sub (by omega)]
    push_cast
  · rw [hquarter]
    ring
  · ring

/-- The upper end of a basin in units of the number. -/
theorem toRat_high_eq (x : Binary64) :
    x.basin.high.toRat = (x.significand + 1 / 2) * 2 ^ x.exponent := by
  rw [two_zpow_eq x.exponent, basin, Ratio.toRat_scaleBinary, Ratio.toRat_ofNat]
  push_cast
  ring

/-- **The basin** in units of the last place. -/
theorem contains_iff (h : 0 < x.significand) (hs : a.toRat = s * 2 ^ x.exponent) :
    x.basin.contains a = true ↔
      (x.significand - x.lowGap < s ∧ s < x.significand + 1 / 2) ∨
      (x.significand % 2 = 0 ∧ x.significand - x.lowGap ≤ s ∧ s ≤ x.significand + 1 / 2) := by
  have hunit : (0 : ℚ) < 2 ^ x.exponent := zpow_pos two_pos _
  have hclosed : x.basin.closed = decide (x.significand % 2 = 0) := rfl
  rw [Basin.contains, hclosed]
  simp only [decide_eq_true_eq]
  split
  · next heven =>
    rw [Bool.and_eq_true, Ratio.le_iff, Ratio.le_iff, toRat_low_eq h, toRat_high_eq, hs,
      mul_le_mul_iff_left₀ hunit, mul_le_mul_iff_left₀ hunit]
    refine ⟨fun hends => .inr ⟨heven, hends⟩, ?_⟩
    rintro (⟨hlow, hhigh⟩ | ⟨-, hends⟩)
    exacts [⟨hlow.le, hhigh.le⟩, hends]
  · next hodd =>
    rw [Bool.and_eq_true, Ratio.lt_iff, Ratio.lt_iff, toRat_low_eq h, toRat_high_eq, hs,
      mul_lt_mul_iff_left₀ hunit, mul_lt_mul_iff_left₀ hunit]
    exact ⟨.inl, fun hends => hends.resolve_right fun heven => hodd heven.1⟩

/-- What a basin contains lies between its ends, these included. -/
theorem le_add_of_contains (h : 0 < x.significand) (hs : a.toRat = s * 2 ^ x.exponent)
    (hcontains : x.basin.contains a = true) :
    x.significand - x.lowGap ≤ s ∧ s ≤ x.significand + 1 / 2 := by
  obtain ⟨hlow, hhigh⟩ | ⟨-, hends⟩ := (contains_iff h hs).mp hcontains
  exacts [⟨hlow.le, hhigh.le⟩, hends]

/-- Every ratio can be counted in units of the last place. -/
theorem exists_eq_mul_unit (x : Binary64) (q : ℚ) : ∃ s, q = s * 2 ^ x.exponent :=
  ⟨q / 2 ^ x.exponent, (div_mul_cancel₀ q (zpow_pos two_pos _).ne').symm⟩

/-- **The distance** of the ratios that round to a number. -/
theorem abs_sub_le_of_contains (hpos : 0 < x.magnitude) (h : x.basin.contains a = true) :
    |a.toRat - x.magnitude| ≤ 2 ^ (x.exponent - 1) := by
  obtain ⟨s, hs⟩ := exists_eq_mul_unit x a.toRat
  obtain ⟨hlow, hhigh⟩ := le_add_of_contains (significand_pos hpos) hs h
  have hgap := (lowGap_le x).2
  have hunit : (0 : ℚ) < 2 ^ x.exponent := zpow_pos two_pos _
  have hnear : |s - x.significand| ≤ 1 / 2 := abs_le.mpr ⟨by linarith, by linarith⟩
  calc |a.toRat - x.magnitude|
      = |s - x.significand| * 2 ^ x.exponent := by
        rw [hs, magnitude_eq, ← sub_mul, abs_mul, abs_of_pos hunit]
    _ ≤ 1 / 2 * 2 ^ x.exponent := mul_le_mul_of_nonneg_right hnear hunit.le
    _ = 2 ^ (x.exponent - 1) := by
        rw [two_zpow_eq x.exponent]
        ring

/-- A number rounds to itself. -/
theorem contains_of_toRat_eq (hpos : 0 < x.magnitude) (h : a.toRat = x.magnitude) :
    x.basin.contains a = true := by
  have hgap := (lowGap_le x).1
  refine (contains_iff (significand_pos hpos) (h.trans (magnitude_eq x))).mpr (.inl ?_)
  constructor <;> linarith

/-! ### Rounding -/

/-- A bound by a power of two, in other units. -/
theorem two_zpow_le_iff (hs : a.toRat = s * 2 ^ z) (c : ℤ) :
    2 ^ (c + z) ≤ a.toRat ↔ 2 ^ c ≤ s := by
  rw [hs, zpow_add₀ two_ne_zero, mul_le_mul_iff_left₀ (zpow_pos two_pos z)]

/-- Halfway to the neighbours, or from the number upwards, the basin is what rounds to it. -/
theorem near_iff {m gap : ℚ} {even : Prop} (hgap : gap = 1 / 2 ∨ 0 < gap ∧ m ≤ s) :
    (m - gap < s ∧ s < m + 1 / 2) ∨ (even ∧ m - gap ≤ s ∧ s ≤ m + 1 / 2) ↔
      |s - m| < 1 / 2 ∨ |s - m| = 1 / 2 ∧ even := by
  have hlt : m - gap < s ∧ s < m + 1 / 2 ↔ |s - m| < 1 / 2 := by
    rw [abs_lt]
    obtain rfl | ⟨hpos, hle⟩ := hgap <;> constructor <;> rintro ⟨hlow, hhigh⟩ <;>
      constructor <;> linarith
  have hle : m - gap ≤ s ∧ s ≤ m + 1 / 2 ↔ |s - m| ≤ 1 / 2 := by
    rw [abs_le]
    obtain rfl | ⟨hpos, hle⟩ := hgap <;> constructor <;> rintro ⟨hlow, hhigh⟩ <;>
      constructor <;> linarith
  rw [hlt, hle, le_iff_lt_or_eq]
  constructor
  · rintro (hnear | ⟨heven, hnear | hhalf⟩)
    exacts [.inl hnear, .inl hnear, .inr ⟨hhalf, heven⟩]
  · rintro (hnear | ⟨hhalf, heven⟩)
    exacts [.inl hnear, .inr ⟨heven, .inr hhalf⟩]

/-- A ratio that is counted **in the unit** of a number rounds to the number if it is in the
basin. -/
theorem contains_iff_of_unit_eq (ha : 0 < a.num) (h : 0 < x.significand)
    (hs : a.toRat = s * 2 ^ x.exponent) (hunit : unit a = x.exponent) :
    x.basin.contains a = true ↔ nearestWord a = x.word := by
  have hword : nearestWord a = x.word ↔ nearestSignificand a = x.significand := by
    rw [nearestWord_eq ha, word_eq, hunit]
    omega
  rw [hword, nearestSignificand_eq_iff (hunit ▸ hs), contains_iff h hs]
  apply near_iff
  rw [lowGap]
  split
  · next hspecial =>
    -- The unit would be smaller if the ratio were below the power of two.
    have hle : (2 : ℚ) ^ (52 : ℤ) ≤ s := by
      rw [← two_zpow_le_iff hs, ← Ratio.le_log2_iff ha]
      rw [unit] at hunit
      omega
    refine .inr ⟨by norm_num, ?_⟩
    rw [hspecial.1]
    exact_mod_cast hle
  · exact .inl rfl

/-- A ratio that is counted in **half the unit** of a power of two rounds to the power, with a
carry, if it is in the basin. -/
theorem contains_iff_of_unit_eq_sub_one (ha : 0 < a.num) (hs : a.toRat = s * 2 ^ x.exponent)
    (hspecial : x.significand = 2 ^ 52 ∧ -1074 < x.exponent)
    (hunit : unit a = x.exponent - 1) :
    x.basin.contains a = true ↔ nearestWord a = x.word := by
  have hword : nearestWord a = x.word ↔ nearestSignificand a = 2 ^ 53 := by
    rw [nearestWord_eq ha, word_eq, hunit, hspecial.1]
    omega
  have hhalf : a.toRat = 2 * s * 2 ^ unit a := by
    rw [hs, hunit, two_zpow_eq x.exponent]
    ring
  have hlt : s < 2 ^ (52 : ℤ) := by
    rw [← not_le, ← two_zpow_le_iff hs, ← Ratio.le_log2_iff ha]
    rw [unit] at hunit
    omega
  have hlt' : s < 2 ^ 52 := by exact_mod_cast hlt
  rw [hword, nearestSignificand_eq_iff hhalf, contains_iff (by omega) hs, lowGap,
    if_pos hspecial, hspecial.1, abs_sub_comm]
  push_cast
  rw [abs_of_pos (by linarith)]
  constructor
  · intro hends
    have hlow : 2 ^ 53 - 2 * s ≤ 1 / 2 := by
      rcases hends with ⟨hlow, -⟩ | ⟨-, hlow, -⟩ <;> linarith
    exact hlow.lt_or_eq.imp_right fun heq => ⟨heq, by decide⟩
  · intro hnear
    have hlow : 2 ^ 53 - 2 * s ≤ 1 / 2 := hnear.elim le_of_lt fun heq => heq.1.le
    exact .inr ⟨by decide, by linarith, by linarith⟩

/-- The ratios in the basin are counted in the unit of the number, or in half of it. -/
theorem unit_eq_or_of_contains (ha : 0 < a.num) (h : 0 < x.significand)
    (hs : a.toRat = s * 2 ^ x.exponent) (hcontains : x.basin.contains a = true) :
    unit a = x.exponent ∨
      (x.significand = 2 ^ 52 ∧ -1074 < x.exponent) ∧ unit a = x.exponent - 1 := by
  obtain ⟨hlow, hhigh⟩ := le_add_of_contains h hs hcontains
  have hgap := (lowGap_le x).2
  have hfirst := neg_le_exponent x
  have hbelow : a.toRat < 2 ^ (53 + x.exponent) := by
    have hle : ((x.significand + 1 : ℕ) : ℚ) ≤ (2 ^ 53 : ℕ) := by
      exact_mod_cast significand_lt x
    rw [← not_le, two_zpow_le_iff hs, not_le]
    push_cast at hle
    norm_num at hle ⊢
    linarith
  rcases hfirst.eq_or_lt with heq | hnormal
  · exact .inl (unit_eq ha hfirst (.inl heq.symm) hbelow)
  rcases le_or_gt (2 ^ (52 : ℤ)) s with hle | hlt
  · exact .inl (unit_eq ha hfirst (.inr ((two_zpow_le_iff hs 52).mpr hle)) hbelow)
  · -- Only a power of two has ratios below it that are in its basin and have another
    -- logarithm.
    have hlt' : s < 2 ^ 52 := by exact_mod_cast hlt
    have hpower : x.significand = 2 ^ 52 := by
      refine le_antisymm (Nat.lt_succ_iff.mp ?_) (le_significand hnormal)
      have : (x.significand : ℚ) < (2 ^ 52 + 1 : ℕ) := by push_cast; linarith
      exact_mod_cast this
    have habove : 2 ^ (51 : ℤ) ≤ s := by
      rw [hpower] at hlow
      push_cast at hlow
      norm_num at hlow ⊢
      linarith
    refine .inr ⟨⟨hpower, hnormal⟩, unit_eq ha (by omega) (.inr ?_) ?_⟩
    · have hsum : 52 + (x.exponent - 1) = 51 + x.exponent := by ring
      rw [hsum, two_zpow_le_iff hs]
      exact habove
    · have hsum : 53 + (x.exponent - 1) = 52 + x.exponent := by ring
      rw [← not_le, hsum, two_zpow_le_iff hs, not_le]
      exact hlt

/-- The same holds of the ratios that round to the number. -/
theorem unit_eq_or_of_nearestWord_eq (ha : 0 < a.num) (hword : nearestWord a = x.word) :
    unit a = x.exponent ∨
      (x.significand = 2 ^ 52 ∧ -1074 < x.exponent) ∧ unit a = x.exponent - 1 := by
  have hunit : -1074 ≤ unit a := le_max_right _ _
  have hexponent := neg_le_exponent x
  have hnearest : unit a = -1074 ∨ 2 ^ 52 ≤ nearestSignificand a :=
    hunit.eq_or_lt.imp Eq.symm (le_nearestSignificand ha)
  have hsignificand : x.exponent = -1074 ∨ 2 ^ 52 ≤ x.significand :=
    hexponent.eq_or_lt.imp Eq.symm le_significand
  have hnearestLe := nearestSignificand_le ha
  have hsignificandLt := significand_lt x
  rw [nearestWord_eq ha, word_eq] at hword
  omega

/-- **The basin holds the ratios that round to the number.** -/
theorem contains_iff_nearestWord_eq (h : 0 < x.magnitude) :
    x.basin.contains a = true ↔ nearestWord a = x.word := by
  have hsignificand := significand_pos h
  have hunit : (2 : ℚ) ^ x.exponent ≠ 0 := (zpow_pos two_pos _).ne'
  obtain ⟨s, hs⟩ := exists_eq_mul_unit x a.toRat
  rcases Nat.eq_zero_or_pos a.num with hzero | ha
  · -- Zero is in no basin, and no other number rounds to it.
    have hs0 : s = 0 := by
      rw [Ratio.toRat_eq_zero_iff.mpr hzero] at hs
      exact (mul_eq_zero.mp hs.symm).resolve_right hunit
    have hone : (1 : ℚ) ≤ x.significand := by exact_mod_cast hsignificand
    have hgap := (lowGap_le x).2
    have hword := word_eq x
    refine iff_of_false (fun hcontains => ?_) (fun heq => ?_)
    · have hlow := (le_add_of_contains hsignificand hs hcontains).1
      linarith
    · rw [nearestWord, if_pos hzero] at heq
      omega
  · have hiff (hcases : unit a = x.exponent ∨
        (x.significand = 2 ^ 52 ∧ -1074 < x.exponent) ∧ unit a = x.exponent - 1) :
        x.basin.contains a = true ↔ nearestWord a = x.word := by
      rcases hcases with hsame | ⟨hspecial, hless⟩
      · exact contains_iff_of_unit_eq ha hsignificand hs hsame
      · exact contains_iff_of_unit_eq_sub_one ha hs hspecial hless
    constructor
    · intro hcontains
      exact (hiff (unit_eq_or_of_contains ha hsignificand hs hcontains)).mp hcontains
    · intro hword
      exact (hiff (unit_eq_or_of_nearestWord_eq ha hword)).mpr hword

end Stencil.Binary64
