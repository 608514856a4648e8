import Stencil.Binary64
import Stencil.Proofs.Ratio

/-!
# Rounding to binary64

A finite number is its integer significand times a power of two. Rounding a ratio takes the
unit of its last place, a power of two that depends on the binary logarithm, and the nearest
multiple of that unit. What is already a multiple with a significand of 53 bits stays as it is;
in the normal range the relative error is at most `2 ^ -53`; and a natural number rounds to a
natural number with such a significand, so natural numbers are changed if and only if they have
none.

## Main definitions

* `Stencil.Binary64.magnitude`, `Stencil.Binary64.value`: a finite number as a rational number.
* `Stencil.Binary64.unit`: the exponent of the last place of a ratio.
* `Stencil.Binary64.Representable`: the integers that a number holds exactly.

## Main results

* `magnitude_ofRatio`: rounding gives the nearest multiple of the unit.
* `isFinite_ofRatio`: ratios below `2 ^ 1023` round to finite numbers.
* `magnitude_ofRatio_of_eq`: what has a significand of 53 bits is exact.
* `abs_magnitude_ofRatio_sub_le`: the relative error of the normal range.
* `exists_magnitude_ofRatio_natCast`: natural numbers round to representable ones.
-/

namespace Stencil.Binary64

variable {a : Ratio} {x : Binary64} {negative : Bool}

/-! ### Finite numbers -/

/-- The **magnitude** of a finite number. -/
def magnitude (x : Binary64) : ℚ := x.toRatio.toRat

/-- The **value** of a finite number. -/
def value (x : Binary64) : ℚ := withSign x.negative x.magnitude

/-- An integer is **representable** if it is a multiple of a power of two by a factor of at
most 53 bits. -/
def Representable (n : ℤ) : Prop := ∃ m k : ℕ, m < 2 ^ 53 ∧ n.natAbs = m * 2 ^ k

/-- The magnitude of a number is its significand in its units. -/
theorem magnitude_eq (x : Binary64) : x.magnitude = x.significand * 2 ^ x.exponent := by
  rw [magnitude, toRatio, Ratio.toRat_scaleBinary, Ratio.toRat_ofNat]

/-- No magnitude is below zero. -/
theorem magnitude_nonneg (x : Binary64) : 0 ≤ x.magnitude := Ratio.toRat_nonneg _

/-- The finite numbers are those with a word below that of infinity. -/
theorem isFinite_iff : x.isFinite = true ↔ x.word < infinityWord := decide_eq_true_iff

/-- A word that is put together from a significand and an exponent field. A carry out of the
significand counts in the exponent. -/
theorem magnitude_of_word {m k : ℕ} (hm : m ≤ 2 ^ 53) (hk : k = 0 ∨ 2 ^ 52 ≤ m)
    (h : x.word = k * 2 ^ 52 + m) : x.magnitude = m * 2 ^ ((k : ℤ) - 1074) := by
  rw [magnitude_eq, significand, exponent, h]
  rcases hm.lt_or_eq with hlt | rfl
  · rcases Nat.lt_or_ge m (2 ^ 52) with hsmall | hlarge
    · obtain rfl : k = 0 := hk.resolve_right (by omega)
      have hdiv : (0 * 2 ^ 52 + m) / 0x10000000000000 = 0 := by omega
      rw [if_pos (by omega), hdiv, Nat.zero_mul, Nat.zero_add]
      rfl
    · have hdiv : (k * 2 ^ 52 + m) / 0x10000000000000 = k + 1 := by omega
      have hmod : (k * 2 ^ 52 + m) % 0x10000000000000 = m - 2 ^ 52 := by omega
      have hsum : 0x10000000000000 + (m - 2 ^ 52) = m := by omega
      have hexponent : max 1 ((k + 1 : ℕ) : ℤ) - 1075 = k - 1074 := by omega
      rw [if_neg (by omega), hdiv, hmod, hsum, hexponent]
  · have hdiv : (k * 2 ^ 52 + 2 ^ 53) / 0x10000000000000 = k + 2 := by omega
    have hmod : (k * 2 ^ 52 + 2 ^ 53) % 0x10000000000000 = 0 := by omega
    have hexponent : max 1 ((k + 2 : ℕ) : ℤ) - 1075 = (k - 1074 : ℤ) + 1 := by omega
    rw [if_neg (by omega), hdiv, hmod, hexponent, zpow_add_one₀ two_ne_zero]
    push_cast
    ring

/-! ### The nearest number -/

/-- The exponent of two that is the **unit** in which the significand of a ratio is counted. -/
def unit (a : Ratio) : ℤ := max (a.log2 - 52) (-1074)

/-- The significand before a carry. -/
def nearestSignificand (a : Ratio) : ℕ := (a.scaleBinary (-unit a)).round

/-- A ratio is what it is in its units, times the unit. -/
theorem toRat_scaleBinary_unit (a : Ratio) :
    (a.scaleBinary (-unit a)).toRat * 2 ^ unit a = a.toRat := by
  rw [Ratio.toRat_scaleBinary, mul_assoc, ← zpow_add₀ two_ne_zero, neg_add_cancel, zpow_zero,
    mul_one]

/-- The nearest significand is off by at most half a unit. -/
theorem abs_nearestSignificand_sub_le (a : Ratio) :
    |(nearestSignificand a : ℚ) - (a.scaleBinary (-unit a)).toRat| ≤ 1 / 2 :=
  Ratio.abs_round_sub_le _

/-- The significand has at most 53 bits, or is the power of two above them. -/
theorem nearestSignificand_le (h : 0 < a.num) : nearestSignificand a ≤ 2 ^ 53 := by
  have hlt : (a.scaleBinary (-unit a)).toRat < 2 ^ 53 := by
    refine lt_of_mul_lt_mul_right ?_ (zpow_nonneg zero_le_two (unit a))
    rw [toRat_scaleBinary_unit, ← zpow_natCast, ← zpow_add₀ two_ne_zero]
    refine (Ratio.lt_two_zpow_log2 h).trans_le (zpow_le_zpow_right₀ one_le_two ?_)
    rw [unit]
    push_cast
    omega
  have hnear := (abs_le.mp (abs_nearestSignificand_sub_le a)).2
  have : (nearestSignificand a : ℚ) < (2 ^ 53 + 1 : ℕ) := by push_cast; linarith
  exact Nat.lt_succ_iff.mp (by exact_mod_cast this)

/-- In the normal range it has at least 53 bits. -/
theorem le_nearestSignificand (h : 0 < a.num) (hnormal : -1074 < unit a) :
    2 ^ 52 ≤ nearestSignificand a := by
  have hunit : unit a = a.log2 - 52 := by rw [unit] at *; omega
  have hle : (2 : ℚ) ^ 52 ≤ (a.scaleBinary (-unit a)).toRat := by
    refine le_of_mul_le_mul_right ?_ (zpow_pos two_pos (unit a))
    rw [toRat_scaleBinary_unit, ← zpow_natCast, ← zpow_add₀ two_ne_zero, hunit]
    refine le_trans (zpow_le_zpow_right₀ one_le_two ?_) (Ratio.two_zpow_log2_le h)
    push_cast
    omega
  have hnear := (abs_le.mp (abs_nearestSignificand_sub_le a)).1
  have : ((2 ^ 52 : ℕ) : ℚ) < (nearestSignificand a + 1 : ℕ) := by push_cast; linarith
  exact Nat.lt_succ_iff.mp (by exact_mod_cast this)

/-- The nearest word, made of the unit and the significand. -/
theorem nearestWord_eq (h : 0 < a.num) :
    nearestWord a = (unit a + 1074).toNat * 2 ^ 52 + nearestSignificand a := by
  rw [nearestWord, if_neg h.ne']
  rfl

/-- A result that is finite has not been cut at infinity. -/
theorem word_ofRatio_of_isFinite (hfinite : (ofRatio negative a).isFinite) :
    (ofRatio negative a).word = nearestWord a := by
  rw [isFinite_iff, ofRatio, min_lt_iff, or_iff_left (lt_irrefl _)] at hfinite
  exact Nat.min_eq_left hfinite.le

/-- Zero is rounded to zero. -/
theorem magnitude_ofRatio_of_num_eq_zero (h : a.num = 0) :
    (ofRatio negative a).magnitude = 0 := by
  have hword : (ofRatio negative a).word = 0 * 2 ^ 52 + 0 := by
    simp [ofRatio, nearestWord, h]
  rw [magnitude_of_word (Nat.zero_le _) (.inl rfl) hword, Nat.cast_zero, zero_mul]

/-- **Rounding gives the nearest multiple of the unit.** -/
theorem magnitude_ofRatio (h : 0 < a.num) (hfinite : (ofRatio negative a).isFinite) :
    (ofRatio negative a).magnitude = nearestSignificand a * 2 ^ unit a := by
  have hunit : -1074 ≤ unit a := le_max_right _ _
  have hword := (word_ofRatio_of_isFinite hfinite).trans (nearestWord_eq h)
  have hk : (unit a + 1074).toNat = 0 ∨ 2 ^ 52 ≤ nearestSignificand a := by
    rcases hunit.lt_or_eq with hlt | heq
    · exact .inr (le_nearestSignificand h hlt)
    · exact .inl (by omega)
  have hexponent : ((unit a + 1074).toNat : ℤ) - 1074 = unit a := by omega
  rw [magnitude_of_word (nearestSignificand_le h) hk hword, hexponent]

/-- Ratios below `2 ^ 1023` **round to finite numbers**. -/
theorem isFinite_ofRatio (h : a.toRat < 2 ^ 1023) : (ofRatio negative a).isFinite = true := by
  rw [isFinite_iff]
  refine (min_le_left _ _).trans_lt ?_
  rcases Nat.eq_zero_or_pos a.num with hzero | hpos
  · rw [nearestWord, if_pos hzero]
    decide
  · have hlog : a.log2 < 1023 := by
      have hlt := (Ratio.two_zpow_log2_le hpos).trans_lt h
      rw [← zpow_natCast] at hlt
      exact (zpow_lt_zpow_iff_right₀ one_lt_two).mp hlt
    have hsignificand := nearestSignificand_le hpos
    have hunit : unit a ≤ 970 := by rw [unit]; omega
    rw [nearestWord_eq hpos, infinityWord]
    omega

/-! ### Errors -/

/-- What has a significand of 53 bits and an exponent in range is **exact**. -/
theorem magnitude_ofRatio_of_eq {m : ℕ} {z : ℤ} (hm : m < 2 ^ 53) (hz : -1074 ≤ z)
    (h : a.toRat = m * 2 ^ z) (hfinite : (ofRatio negative a).isFinite) :
    (ofRatio negative a).magnitude = a.toRat := by
  rcases Nat.eq_zero_or_pos a.num with hzero | hpos
  · rw [magnitude_ofRatio_of_num_eq_zero hzero, Ratio.toRat_eq_zero_iff.mpr hzero]
  have hle : unit a ≤ z := by
    have hlog : a.log2 < 53 + z := by
      have hm' : (m : ℚ) < 2 ^ (53 : ℤ) := by exact_mod_cast hm
      have hlt : (2 : ℚ) ^ a.log2 < 2 ^ (53 + z) := by
        rw [zpow_add₀ two_ne_zero]
        exact ((Ratio.two_zpow_log2_le hpos).trans h.le).trans_lt
          (mul_lt_mul_of_pos_right hm' (zpow_pos two_pos z))
      exact (zpow_lt_zpow_iff_right₀ one_lt_two).mp hlt
    rw [unit]
    omega
  have hscaled : (a.scaleBinary (-unit a)).toRat = (m * 2 ^ (z - unit a).toNat : ℕ) := by
    rw [Ratio.toRat_scaleBinary, h, mul_assoc, ← zpow_add₀ two_ne_zero, Nat.cast_mul,
      Nat.cast_pow, ← zpow_natCast, Int.toNat_of_nonneg (by omega), ← sub_eq_add_neg,
      Nat.cast_ofNat]
  rw [magnitude_ofRatio hpos hfinite, nearestSignificand, Ratio.round_of_toRat_eq hscaled,
    ← hscaled, toRat_scaleBinary_unit]

/-- **The relative error** of the normal range is at most `2 ^ -53`. -/
theorem abs_magnitude_ofRatio_sub_le (hnormal : 2 ^ (-1022 : ℤ) ≤ a.toRat)
    (hfinite : (ofRatio negative a).isFinite) :
    |(ofRatio negative a).magnitude - a.toRat| ≤ a.toRat / 2 ^ 53 := by
  have hpos : 0 < a.num := Ratio.toRat_pos_iff.mp ((zpow_pos two_pos _).trans_le hnormal)
  have hlog : -1022 < a.log2 + 1 := by
    exact (zpow_lt_zpow_iff_right₀ one_lt_two).mp
      (hnormal.trans_lt (Ratio.lt_two_zpow_log2 hpos))
  have hunit : unit a = a.log2 - 52 := by rw [unit]; omega
  calc
    |(ofRatio negative a).magnitude - a.toRat|
        = |(nearestSignificand a : ℚ) - (a.scaleBinary (-unit a)).toRat| * 2 ^ unit a := by
      have hunitPos : |(2 : ℚ) ^ unit a| = 2 ^ unit a := abs_of_pos (zpow_pos two_pos _)
      conv_lhs => rw [magnitude_ofRatio hpos hfinite, ← toRat_scaleBinary_unit a]
      rw [← sub_mul, abs_mul, hunitPos]
    _ ≤ 1 / 2 * 2 ^ unit a :=
      mul_le_mul_of_nonneg_right (abs_nearestSignificand_sub_le a) (zpow_nonneg zero_le_two _)
    _ = 2 ^ a.log2 / 2 ^ 53 := by
      rw [hunit, zpow_sub₀ two_ne_zero]
      norm_num
      ring
    _ ≤ a.toRat / 2 ^ 53 := by
      gcongr
      exact Ratio.two_zpow_log2_le hpos

/-- A significand with its carry is a significand and a larger exponent. -/
theorem representable_of_le {m : ℕ} (h : m ≤ 2 ^ 53) (k : ℕ) :
    Representable (m * 2 ^ k : ℕ) := by
  rcases h.lt_or_eq with hlt | rfl
  · exact ⟨m, k, hlt, Int.natAbs_natCast _⟩
  · exact ⟨1, 53 + k, by decide, by rw [Int.natAbs_natCast, one_mul, pow_add]⟩

/-- **Natural numbers round to representable ones.** -/
theorem exists_magnitude_ofRatio_natCast {n : ℕ} (h : a.toRat = n)
    (hfinite : (ofRatio negative a).isFinite) :
    ∃ N : ℕ, (ofRatio negative a).magnitude = N ∧ Representable N := by
  rcases Nat.eq_zero_or_pos a.num with hzero | hpos
  · exact ⟨0, by rw [magnitude_ofRatio_of_num_eq_zero hzero, Nat.cast_zero], 0, 0,
      by decide, rfl⟩
  rcases lt_or_ge (unit a) 0 with hsmall | hlarge
  · -- The unit is a fraction of one, so the number is one of its multiples.
    have hlt : n < 2 ^ 53 := by
      have hlog : a.log2 + 1 ≤ (53 : ℕ) := by rw [unit] at hsmall; omega
      have hbound :=
        (Ratio.lt_two_zpow_log2 hpos).trans_le (zpow_le_zpow_right₀ one_le_two hlog)
      rw [h, zpow_natCast] at hbound
      exact_mod_cast hbound
    have hexact := magnitude_ofRatio_of_eq hlt (by decide : (-1074 : ℤ) ≤ 0)
      (by rw [h, zpow_zero, mul_one]) hfinite
    exact ⟨n, hexact.trans h, n, 0, hlt, by simp⟩
  · have hcast : (2 : ℚ) ^ unit a = ((2 ^ (unit a).toNat : ℕ) : ℚ) := by
      rw [Nat.cast_pow, ← zpow_natCast, Int.toNat_of_nonneg hlarge, Nat.cast_ofNat]
    refine ⟨nearestSignificand a * 2 ^ (unit a).toNat, ?_,
      representable_of_le (nearestSignificand_le hpos) _⟩
    rw [magnitude_ofRatio hpos hfinite, hcast, Nat.cast_mul]

end Stencil.Binary64
