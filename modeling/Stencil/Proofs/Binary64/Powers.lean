import Stencil.Proofs.Binary64.Rounding

/-!
# Products and powers of ten

A product of finite numbers is the rounded product of their magnitudes. The loop that computes
a power multiplies powers with smaller exponents only, so it is exact up to `10 ^ 22`, the last
power of ten with a significand of 53 bits. Above it a power is still a natural number unless
it is too large, and so is a product with an integer. The inverse of an exact power is off by
one rounding, and an integer multiplied by it by two.

## Main definitions

* `Stencil.Binary64.IsNatural`: a number without a sign and without a fraction.
* `Stencil.Binary64.IsPowTen`: an exact power of ten.

## Main results

* `powOnto_induction`: what products keep, the loop keeps.
* `isNatural_powTen`: powers of ten are natural.
* `isPowTen_powTen`: those up to `10 ^ 22` are exact.
* `Representable.of_mul_pow_ten`: what can be said of a representable multiple of a power of
  ten.
* `magnitude_mul_eq_iff`: when a scaled integer is exact.
* `mul_powTen_neg_near`: how far off an integer is that is scaled down.
-/

namespace Stencil.Binary64

variable {a : Ratio} {x y : Binary64} {negative : Bool} {n : ℤ} {i j k s : ℕ}

/-! ### Exact results -/

/-- Natural numbers far below the end of the range are finite. -/
theorem isFinite_ofRatio_natCast (h : a.toRat = k) (hlt : k < 2 ^ 250) :
    (ofRatio negative a).isFinite = true := by
  have hlt' : (k : ℚ) < 2 ^ 250 := by exact_mod_cast hlt
  refine isFinite_ofRatio ?_
  rw [h]
  exact hlt'.trans (pow_lt_pow_right₀ one_lt_two (by decide))

/-- Of these, the representable ones are exact. -/
theorem ofRatio_of_representable (h : a.toRat = k) (hk : Representable k) (hlt : k < 2 ^ 250) :
    (ofRatio negative a).isFinite = true ∧ (ofRatio negative a).magnitude = k := by
  have hfinite : (ofRatio negative a).isFinite = true := isFinite_ofRatio_natCast h hlt
  obtain ⟨m, e, hm, heq⟩ := hk
  rw [Int.natAbs_natCast] at heq
  have hform : a.toRat = m * 2 ^ (e : ℤ) := by rw [h, heq]; push_cast; rfl
  exact ⟨hfinite, (magnitude_ofRatio_of_eq hm (by omega) hform hfinite).trans h⟩

/-- An integer below `2 ^ 250` becomes a finite number. -/
theorem isFinite_ofInt (h : n.natAbs < 2 ^ 250) : (ofInt n).isFinite = true :=
  isFinite_ofRatio_natCast (Ratio.toRat_ofNat _) h

/-- An integer keeps its sign. -/
theorem negative_ofInt (n : ℤ) : (ofInt n).negative = decide (n < 0) := rfl

/-- A representable integer keeps its magnitude. -/
theorem magnitude_ofInt (h : n.natAbs < 2 ^ 250) (hn : Representable n) :
    (ofInt n).magnitude = n.natAbs := by
  refine (ofRatio_of_representable (Ratio.toRat_ofNat _) ?_ h).2
  rwa [Representable, Int.natAbs_natCast]

/-- Every integer is rounded to a natural number with a sign. -/
theorem exists_magnitude_ofInt (h : (ofInt n).isFinite = true) :
    ∃ N : ℕ, (ofInt n).magnitude = N := by
  obtain ⟨N, hN, -⟩ := exists_magnitude_ofRatio_natCast (Ratio.toRat_ofNat n.natAbs) h
  exact ⟨N, hN⟩

/-- **The distance** of an integer from what it is rounded to. -/
theorem abs_magnitude_ofInt_sub_le (h : (ofInt n).isFinite = true) :
    |(ofInt n).magnitude - n.natAbs| ≤ (n.natAbs : ℚ) / 2 ^ 53 := by
  rcases Nat.eq_zero_or_pos n.natAbs with hzero | hpos
  · rw [ofInt, magnitude_ofRatio_of_num_eq_zero hzero, hzero]
    norm_num
  · have hone : (1 : ℚ) ≤ n.natAbs := by exact_mod_cast hpos
    have hnormal : (2 : ℚ) ^ (-1022 : ℤ) ≤ (Ratio.ofNat n.natAbs).toRat := by
      rw [Ratio.toRat_ofNat]
      exact (zpow_le_one_of_nonpos₀ one_le_two (by decide)).trans hone
    have hnear := abs_magnitude_ofRatio_sub_le hnormal h
    rwa [Ratio.toRat_ofNat] at hnear

/-- Rounding an integer does not double it. -/
theorem magnitude_ofInt_le (h : (ofInt n).isFinite = true) :
    (ofInt n).magnitude ≤ 2 * n.natAbs := by
  have hnear := (abs_le.mp (abs_magnitude_ofInt_sub_le h)).2
  have hpart : (n.natAbs : ℚ) / 2 ^ 53 ≤ n.natAbs := div_le_self (by positivity) (by norm_num)
  linarith

/-! ### Products -/

/-- A finite number is a number. -/
theorem isNaN_eq_false (h : x.isFinite = true) : x.isNaN = false :=
  decide_eq_false (by rw [isFinite_iff] at h; omega)

/-- A finite number is no infinity. -/
theorem isInfinite_eq_false (h : x.isFinite = true) : x.isInfinite = false :=
  beq_eq_false_iff_ne.mpr (isFinite_iff.mp h).ne

/-- Finite numbers are multiplied exactly and then rounded. -/
theorem mul_of_isFinite (hx : x.isFinite = true) (hy : y.isFinite = true) :
    x.mul y = ofRatio (x.negative != y.negative) (x.toRatio.mul y.toRatio) := by
  simp only [mul, isNaN_eq_false hx, isNaN_eq_false hy, isInfinite_eq_false hx,
    isInfinite_eq_false hy, Bool.or_self, Bool.false_eq_true, if_false]

/-- Only finite numbers have a finite product. -/
theorem isFinite_of_mul (h : (x.mul y).isFinite = true) :
    x.isFinite = true ∧ y.isFinite = true := by
  simp only [mul] at h
  split at h
  · exact absurd h (by decide)
  · next hnan =>
    split at h
    · split at h
      · exact absurd h (by decide)
      · exact absurd (isFinite_iff.mp h) (lt_irrefl _)
    · next hinfinite =>
      simp only [isNaN, isInfinite, Bool.or_eq_true, decide_eq_true_eq, beq_iff_eq, not_or,
        not_lt] at hnan hinfinite
      exact ⟨isFinite_iff.mpr (hnan.1.lt_of_ne hinfinite.1),
        isFinite_iff.mpr (hnan.2.lt_of_ne hinfinite.2)⟩

/-- The exact product of two magnitudes. -/
theorem toRat_mul_toRatio (x y : Binary64) :
    (x.toRatio.mul y.toRatio).toRat = x.magnitude * y.magnitude := Ratio.toRat_mul _ _

/-- A product below `2 ^ 1023` is finite. -/
theorem isFinite_mul (hx : x.isFinite = true) (hy : y.isFinite = true)
    (h : x.magnitude * y.magnitude < 2 ^ 1023) : (x.mul y).isFinite = true := by
  rw [mul_of_isFinite hx hy]
  exact isFinite_ofRatio ((toRat_mul_toRatio x y).trans_lt h)

/-- A factor without a sign keeps the sign of the integer. -/
theorem negative_ofInt_mul (h : ((ofInt n).mul x).isFinite = true) (hx : x.negative = false) :
    ((ofInt n).mul x).negative = decide (n < 0) := by
  obtain ⟨hinteger, hfactor⟩ := isFinite_of_mul h
  rw [mul_of_isFinite hinteger hfactor, hx]
  exact Bool.bne_false _

/-- A product in the normal range is off by one rounding. -/
theorem abs_magnitude_mul_sub_le (h : (x.mul y).isFinite = true)
    (hnormal : 2 ^ (-1022 : ℤ) ≤ x.magnitude * y.magnitude) :
    |(x.mul y).magnitude - x.magnitude * y.magnitude| ≤
      x.magnitude * y.magnitude / 2 ^ 53 := by
  obtain ⟨hx, hy⟩ := isFinite_of_mul h
  rw [mul_of_isFinite hx hy] at h ⊢
  rw [← toRat_mul_toRatio] at hnormal ⊢
  exact abs_magnitude_ofRatio_sub_le hnormal h

/-- A product of natural numbers that is representable is exact. -/
theorem mul_of_representable (hx : x.isFinite = true) (hy : y.isFinite = true)
    (h : x.magnitude * y.magnitude = k) (hk : Representable k) (hlt : k < 2 ^ 250) :
    (x.mul y).isFinite = true ∧ (x.mul y).magnitude = k := by
  rw [mul_of_isFinite hx hy]
  exact ofRatio_of_representable ((toRat_mul_toRatio x y).trans h) hk hlt

/-! ### The loop -/

/-- What products keep, the loop keeps. The property may depend on the exponent that a number
stands for, as long as no exponent exceeds the one of the result: the base is squared only
while bits of the exponent are left. -/
theorem powOnto_induction {P : Binary64 → ℕ → Prop} {bound n : ℕ}
    (hmul : ∀ {x y i j}, P x i → P y j → i + j ≤ bound → P (x.mul y) (i + j))
    (hx : P x i) (hy : P y j) (h : i + j * n ≤ bound) : P (powOnto x y n) (i + j * n) := by
  have hbit : ∀ {acc base : Binary64} {i j n : ℕ}, P acc i → P base j → i + j * n ≤ bound →
      P (if n % 2 = 1 then acc.mul base else acc) (i + j * (n % 2)) := by
    intro acc base i j n hacc hbase hle
    split
    · next hodd =>
      rw [hodd, Nat.mul_one]
      exact hmul hacc hbase
        ((Nat.add_le_add_left (Nat.le_mul_of_pos_right j (by omega)) i).trans hle)
    · next heven =>
      have hzero : n % 2 = 0 := by omega
      rwa [hzero, Nat.mul_zero, Nat.add_zero]
  induction n using Nat.strong_induction_on generalizing x y i j with
  | _ n ih =>
    rw [powOnto]
    by_cases hlast : n / 2 = 0
    · have hsplit : i + j * (n % 2) = i + j * n := by rw [Nat.mod_eq_of_lt (by omega)]
      simpa only [hlast, if_true, hsplit] using hbit hx hy h
    · have hsplit : i + j * (n % 2) + (j + j) * (n / 2) = i + j * n := by
        conv_rhs => rw [← Nat.div_add_mod n 2]
        ring
      have hsquare : j + j ≤ bound := by
        have := Nat.le_mul_of_pos_right (j + j) (Nat.pos_of_ne_zero hlast)
        omega
      have hrest := ih (n / 2) (by omega) (hbit hx hy h) (hmul hy hy hsquare) (by omega)
      simpa only [hlast, if_false, hsplit] using hrest

/-! ### Natural numbers -/

/-- A number is **natural** if it has no sign and, unless it is too large to be finite, no
fraction.
-/
structure IsNatural (x : Binary64) : Prop where
  /-- There is no sign. -/
  negative : x.negative = false
  /-- There is no fraction. -/
  magnitude : x.isFinite = true → ∃ N : ℕ, x.magnitude = N

/-- Zero times a finite number is zero. -/
theorem mul_of_eq_zero (hx : x.isFinite = true) (hy : y.isFinite = true)
    (h : x.magnitude = 0) : (x.mul y).isFinite = true ∧ (x.mul y).magnitude = (0 : ℕ) :=
  mul_of_representable hx hy (by rw [h, zero_mul, Nat.cast_zero]) ⟨0, 0, by decide, rfl⟩
    (by decide)

/-- A finite product of natural numbers is a representable natural number. -/
theorem exists_magnitude_mul (hx : ∃ N : ℕ, x.magnitude = N) (hy : ∃ N : ℕ, y.magnitude = N)
    (h : (x.mul y).isFinite = true) : ∃ N : ℕ, (x.mul y).magnitude = N ∧ Representable N := by
  obtain ⟨i, hi⟩ := hx
  obtain ⟨j, hj⟩ := hy
  obtain ⟨hxfinite, hyfinite⟩ := isFinite_of_mul h
  rw [mul_of_isFinite hxfinite hyfinite] at h ⊢
  refine exists_magnitude_ofRatio_natCast ?_ h (n := i * j)
  rw [toRat_mul_toRatio, hi, hj, Nat.cast_mul]

/-- A product without negative factors is not negative. -/
theorem negative_mul (hx : x.negative = false) (hy : y.negative = false) :
    (x.mul y).negative = false := by
  simp only [mul, hx, hy, bne_self_eq_false]
  split
  · rfl
  · split
    · split <;> rfl
    · rfl

/-- The product of natural numbers is a natural number, though perhaps another one. -/
theorem IsNatural.mul (hx : x.IsNatural) (hy : y.IsNatural) : (x.mul y).IsNatural := by
  refine ⟨negative_mul hx.negative hy.negative, fun h => ?_⟩
  obtain ⟨hxfinite, hyfinite⟩ := isFinite_of_mul h
  obtain ⟨N, hN, -⟩ := exists_magnitude_mul (hx.magnitude hxfinite) (hy.magnitude hyfinite) h
  exact ⟨N, hN⟩

/-- A natural number stays one when it is rounded. -/
theorem isNatural_ofInt (k : ℕ) : (ofInt k).IsNatural :=
  ⟨(negative_ofInt k).trans (decide_eq_false (by omega)), exists_magnitude_ofInt⟩

/-- **Powers of ten are natural.** -/
theorem isNatural_powTen (k : ℕ) : (powTen k).IsNatural := by
  rw [powTen, if_neg (by omega)]
  exact powOnto_induction (P := fun x _ => x.IsNatural) (fun hx hy _ => hx.mul hy)
    (isNatural_ofInt 1) (isNatural_ofInt 10) (le_refl (0 + 0 * _))

/-! ### Exact powers of ten -/

/-- A number is an exact **power of ten**. -/
structure IsPowTen (x : Binary64) (i : ℕ) : Prop where
  /-- There is no sign. -/
  negative : x.negative = false
  /-- The power is not too large. -/
  isFinite : x.isFinite = true
  /-- It is not rounded. -/
  magnitude : x.magnitude = (10 ^ i : ℕ)

/-- The powers of ten up to `10 ^ 22` are representable. -/
theorem representable_pow_ten (h : i ≤ 22) : Representable (10 ^ i : ℕ) := by
  refine ⟨5 ^ i, i, ?_, ?_⟩
  · exact (Nat.pow_le_pow_right (by decide) h).trans_lt (by decide)
  · rw [Int.natAbs_natCast, ← mul_pow]
    rfl

/-- They are also below a power of two that leaves room for their products. -/
theorem pow_ten_lt (h : i ≤ 22) : 10 ^ i < 2 ^ 74 :=
  (Nat.pow_le_pow_right (by decide) h).trans_lt (by decide)

/-- Such a power of ten is rounded to itself. -/
theorem isPowTen_ofRatio (h : i ≤ 22) (ha : a.toRat = (10 ^ i : ℕ)) :
    IsPowTen (ofRatio false a) i := by
  obtain ⟨hfinite, hmagnitude⟩ := ofRatio_of_representable ha (representable_pow_ten h)
    ((pow_ten_lt h).trans (by decide))
  exact ⟨rfl, hfinite, hmagnitude⟩

/-- Products of such powers are exact as long as they are such powers themselves. -/
theorem IsPowTen.mul (hx : x.IsPowTen i) (hy : y.IsPowTen j) (h : i + j ≤ 22) :
    (x.mul y).IsPowTen (i + j) := by
  rw [mul_of_isFinite hx.isFinite hy.isFinite, hx.negative, hy.negative]
  refine isPowTen_ofRatio h ?_
  rw [toRat_mul_toRatio, hx.magnitude, hy.magnitude, pow_add, Nat.cast_mul]

/-- **Powers of ten up to `10 ^ 22` are exact.** -/
theorem isPowTen_powTen (h : k ≤ 22) : (powTen k).IsPowTen k := by
  have hone : (ofInt 1).IsPowTen 0 := isPowTen_ofRatio (by decide) (Ratio.toRat_ofNat _)
  have hten : (ofInt 10).IsPowTen 1 := isPowTen_ofRatio (by decide) (Ratio.toRat_ofNat _)
  have hpower := powOnto_induction IsPowTen.mul hone hten (by omega : 0 + 1 * k ≤ 22)
  rw [Nat.zero_add, Nat.one_mul] at hpower
  rw [powTen, if_neg (by omega)]
  exact hpower

/-! ### Representable multiples -/

/-- If a multiple of a power of ten is representable, so is the factor, and the power is not
too large. -/
theorem Representable.of_mul_pow_ten (h : Representable (n * 10 ^ s)) :
    Representable n ∧ (n ≠ 0 → s ≤ 22) := by
  obtain ⟨m, e, hm, heq⟩ := h
  have hten : (10 : ℤ).natAbs ^ s = 5 ^ s * 2 ^ s := by rw [← mul_pow]; rfl
  rw [Int.natAbs_mul, Int.natAbs_pow, hten] at heq
  obtain ⟨m, rfl⟩ : 5 ^ s ∣ m := by
    have hcoprime : Nat.Coprime (5 ^ s) (2 ^ e) := Nat.Coprime.pow s e (by decide)
    refine hcoprime.dvd_of_dvd_mul_right ?_
    rw [← heq, mul_left_comm]
    exact dvd_mul_right _ _
  have hfive : 0 < 5 ^ s := by positivity
  have hfactor : n.natAbs * 2 ^ s = m * 2 ^ e := by
    rw [mul_left_comm, mul_assoc] at heq
    exact Nat.eq_of_mul_eq_mul_left hfive heq
  have hle : m ≤ 5 ^ s * m := Nat.le_mul_of_pos_left m hfive
  refine ⟨?_, fun hn => ?_⟩
  · rcases le_total s e with hse | hes
    · refine ⟨m, e - s, by omega, Nat.eq_of_mul_eq_mul_right (by positivity : 0 < 2 ^ s) ?_⟩
      rw [hfactor, mul_assoc, ← pow_add, Nat.sub_add_cancel hse]
    · have hn : n.natAbs * 2 ^ (s - e) = m := by
        refine Nat.eq_of_mul_eq_mul_right (by positivity : 0 < 2 ^ e) ?_
        rw [← hfactor, mul_assoc, ← pow_add, Nat.sub_add_cancel hes]
      have := Nat.le_mul_of_pos_right n.natAbs (by positivity : 0 < 2 ^ (s - e))
      exact ⟨n.natAbs, 0, by omega, by rw [pow_zero, mul_one]⟩
  · have hm0 : m ≠ 0 := by
      rintro rfl
      rw [zero_mul, mul_eq_zero] at hfactor
      exact hfactor.elim (fun h => hn (Int.natAbs_eq_zero.mp h)) (by positivity)
    by_contra hlarge
    have hpow : 5 ^ 23 ≤ 5 ^ s := Nat.pow_le_pow_right (by decide) (by omega)
    have := Nat.le_mul_of_pos_right (5 ^ s) (Nat.pos_of_ne_zero hm0)
    omega

/-- Scaling an integer up scales its absolute value. -/
theorem natAbs_mul_pow_ten (n : ℤ) (s : ℕ) : (n * 10 ^ s).natAbs = n.natAbs * 10 ^ s := by
  rw [Int.natAbs_mul, Int.natAbs_pow]
  rfl

/-- No integer of 128 bits is too large for an exact power of ten. -/
theorem isFinite_ofInt_mul (hs : s ≤ 22) (hy : y.IsPowTen s) (hn : n.natAbs ≤ 2 ^ 127) :
    ((ofInt n).mul y).isFinite = true := by
  have hfinite := isFinite_ofInt (hn.trans_lt (by decide))
  refine isFinite_mul hfinite hy.isFinite ?_
  have hn' : (n.natAbs : ℚ) ≤ 2 ^ 127 := by exact_mod_cast hn
  have hten : ((10 ^ s : ℕ) : ℚ) ≤ 2 ^ 74 := by exact_mod_cast (pow_ten_lt hs).le
  calc
    (ofInt n).magnitude * y.magnitude ≤ (2 * 2 ^ 127) * 2 ^ 74 := by
      rw [hy.magnitude]
      have := magnitude_ofInt_le hfinite
      gcongr
      linarith
    _ = 2 ^ 202 := by norm_num
    _ < 2 ^ 1023 := pow_lt_pow_right₀ one_lt_two (by decide)

/-- **A scaled integer is exact** if and only if the exact product is representable. -/
theorem magnitude_mul_eq_iff (hs : s ≤ 22) (hy : y.IsPowTen s) (hn : n.natAbs ≤ 2 ^ 127) :
    ((ofInt n).mul y).magnitude = (n * 10 ^ s).natAbs ↔ Representable (n * 10 ^ s) := by
  have hfinite := isFinite_ofInt (hn.trans_lt (by decide))
  constructor
  · intro h
    obtain ⟨N, hN, m, e, hm, heq⟩ := exists_magnitude_mul (exists_magnitude_ofInt hfinite)
      ⟨10 ^ s, hy.magnitude⟩ (isFinite_ofInt_mul hs hy hn)
    have hexact : N = (n * 10 ^ s).natAbs := by exact_mod_cast hN.symm.trans h
    exact ⟨m, e, hm, hexact.symm.trans heq⟩
  · intro h
    have hexact := magnitude_ofInt (hn.trans_lt (by decide)) h.of_mul_pow_ten.1
    have hproduct : (ofInt n).magnitude * y.magnitude = (n * 10 ^ s).natAbs := by
      rw [hexact, hy.magnitude, natAbs_mul_pow_ten, Nat.cast_mul]
    refine (mul_of_representable hfinite hy.isFinite hproduct ?_ ?_).2
    · rwa [Representable, Int.natAbs_natCast]
    · rw [natAbs_mul_pow_ten]
      calc
        n.natAbs * 10 ^ s ≤ 2 ^ 127 * 2 ^ 74 := Nat.mul_le_mul hn (pow_ten_lt hs).le
        _ < 2 ^ 250 := by decide

/-! ### Inverse powers of ten -/

/-- A zero has no magnitude. -/
theorem magnitude_of_isZero (h : x.isZero = true) : x.magnitude = 0 := by
  have hword : x.word = 0 * 2 ^ 52 + 0 := by simpa [isZero] using h
  rw [magnitude_of_word (Nat.zero_le _) (.inl rfl) hword, Nat.cast_zero, zero_mul]

/-- The inverse of a finite number is that of its value, rounded. -/
theorem inverse_of_isFinite (hx : x.isFinite = true) (hpos : 0 < x.magnitude) :
    x.inverse = ofRatio x.negative x.toRatio.inverse := by
  have hzero : x.isZero = false := by
    rw [Bool.eq_false_iff]
    exact fun h => hpos.ne' (magnitude_of_isZero h)
  simp only [inverse, isNaN_eq_false hx, isInfinite_eq_false hx, hzero, Bool.false_eq_true,
    if_false]

/-- A negative power of ten is the inverse of the positive one. -/
theorem powTen_neg (hk : 0 < k) : powTen (-k) = (powTen k).inverse := by
  rw [powTen, powTen, if_pos (by omega), if_neg (by omega), Int.natAbs_neg]

/-- The inverses are far above the end of the normal range. -/
theorem two_zpow_le_inv_pow_ten (hle : k ≤ 22) : (2 : ℚ) ^ (-74 : ℤ) ≤ (10 ^ k)⁻¹ := by
  have hpow : (10 : ℚ) ^ k ≤ 2 ^ 74 := by exact_mod_cast (pow_ten_lt hle).le
  rw [zpow_neg]
  exact inv_anti₀ (by positivity) hpow

/-- The inverse of an exact power is off by one rounding. -/
theorem powTen_neg_near (hk : 0 < k) (hle : k ≤ 22) :
    (powTen (-k)).negative = false ∧ (powTen (-k)).isFinite = true ∧
      |(powTen (-k)).magnitude - (10 ^ k)⁻¹| ≤ (10 ^ k)⁻¹ / 2 ^ 53 := by
  have hpower := isPowTen_powTen hle
  have hmagnitude : (powTen k).magnitude = 10 ^ k := by rw [hpower.magnitude]; push_cast; rfl
  have htoRat : (powTen k).toRatio.inverse.toRat = (10 ^ k)⁻¹ := by
    rw [Ratio.toRat_inverse]
    exact congrArg _ hmagnitude
  have hfinite : (ofRatio false (powTen k).toRatio.inverse).isFinite = true := by
    have hone : ((10 : ℚ) ^ k)⁻¹ ≤ 1 := inv_le_one_of_one_le₀ (one_le_pow₀ (by norm_num))
    refine isFinite_ofRatio ?_
    rw [htoRat]
    exact hone.trans_lt (one_lt_pow₀ one_lt_two (by decide))
  have hnormal : (2 : ℚ) ^ (-1022 : ℤ) ≤ (powTen k).toRatio.inverse.toRat := by
    rw [htoRat]
    exact (zpow_le_zpow_right₀ one_le_two (by decide)).trans (two_zpow_le_inv_pow_ten hle)
  have hnear := abs_magnitude_ofRatio_sub_le hnormal hfinite
  rw [powTen_neg hk, inverse_of_isFinite hpower.isFinite (by rw [hmagnitude]; positivity),
    hpower.negative]
  rw [htoRat] at hnear
  exact ⟨rfl, hfinite, hnear⟩

/-- What the rounding leaves is still far from both ends of the range. -/
theorem powTen_neg_bounds (hk : 0 < k) (hle : k ≤ 22) :
    (2 : ℚ) ^ (-75 : ℤ) ≤ (powTen (-k)).magnitude ∧ (powTen (-k)).magnitude ≤ 2 := by
  obtain ⟨-, -, hnear⟩ := powTen_neg_near hk hle
  obtain ⟨hlow, hhigh⟩ := abs_le.mp hnear
  have hone : ((10 : ℚ) ^ k)⁻¹ ≤ 1 := inv_le_one_of_one_le₀ (one_le_pow₀ (by norm_num))
  have hpos : 0 < ((10 : ℚ) ^ k)⁻¹ := by positivity
  have hhalf : (2 : ℚ) ^ (-75 : ℤ) ≤ (10 ^ k)⁻¹ / 2 := by
    calc
      (2 : ℚ) ^ (-75 : ℤ) = 2 ^ (-74 : ℤ) / 2 := by norm_num
      _ ≤ (10 ^ k)⁻¹ / 2 :=
        div_le_div_of_nonneg_right (two_zpow_le_inv_pow_ten hle) zero_le_two
  exact ⟨hhalf.trans (by linarith only [hlow, hpos]), by linarith only [hhigh, hone]⟩

/-- A rounding of a factor and one of the product add up. -/
theorem abs_sub_le_of_roundings {m u v w : ℚ} (hm : 0 ≤ m) (hfactor : |w - u| ≤ u / 2 ^ 53)
    (hproduct : |v - m * w| ≤ m * w / 2 ^ 53) :
    |v - m * u| ≤ m * u * (1 / 2 ^ 52 + 1 / 2 ^ 106) := by
  obtain ⟨hlow, hhigh⟩ := abs_le.mp hfactor
  obtain ⟨hbelow, habove⟩ := abs_le.mp hproduct
  have hlow' := mul_le_mul_of_nonneg_left hlow hm
  have hhigh' := mul_le_mul_of_nonneg_left hhigh hm
  rw [abs_le]
  constructor <;> linarith

/-- **An integer scaled down** by an exact power is off by two roundings. -/
theorem mul_powTen_neg_near (hk : 0 < k) (hle : k ≤ 22) (hn : n.natAbs < 2 ^ 53) :
    ((ofInt n).mul (powTen (-k))).isFinite = true ∧
      |((ofInt n).mul (powTen (-k))).magnitude - n.natAbs * (10 ^ k)⁻¹| ≤
        n.natAbs * (10 ^ k)⁻¹ * (1 / 2 ^ 52 + 1 / 2 ^ 106) := by
  obtain ⟨-, hfinite, hnear⟩ := powTen_neg_near hk hle
  obtain ⟨hlow, hhigh⟩ := powTen_neg_bounds hk hle
  have hinteger := isFinite_ofInt (hn.trans (by decide))
  have hexact : (ofInt n).magnitude = n.natAbs :=
    magnitude_ofInt (hn.trans (by decide)) ⟨n.natAbs, 0, hn, by rw [pow_zero, mul_one]⟩
  have hproduct : (ofInt n).magnitude * (powTen (-k)).magnitude < 2 ^ 1023 := by
    have hn' : (n.natAbs : ℚ) ≤ 2 ^ 53 := by exact_mod_cast hn.le
    calc
      (ofInt n).magnitude * (powTen (-k)).magnitude ≤ 2 ^ 53 * 2 := by
        rw [hexact]
        exact mul_le_mul hn' hhigh (magnitude_nonneg _) (by positivity)
      _ = 2 ^ 54 := by norm_num
      _ < 2 ^ 1023 := pow_lt_pow_right₀ one_lt_two (by decide)
  have hresult := isFinite_mul hinteger hfinite hproduct
  refine ⟨hresult, abs_sub_le_of_roundings n.natAbs.cast_nonneg hnear ?_⟩
  rcases Nat.eq_zero_or_pos n.natAbs with hzero | hpos
  · have hexactZero : (ofInt n).magnitude = 0 := by rw [hexact, hzero, Nat.cast_zero]
    rw [(mul_of_eq_zero hinteger hfinite hexactZero).2, hzero]
    norm_num
  · have hone : (1 : ℚ) ≤ n.natAbs := by exact_mod_cast hpos
    have hnormal : (2 : ℚ) ^ (-1022 : ℤ) ≤ (ofInt n).magnitude * (powTen (-k)).magnitude := by
      calc
        (2 : ℚ) ^ (-1022 : ℤ) ≤ 2 ^ (-75 : ℤ) := zpow_le_zpow_right₀ one_le_two (by decide)
        _ ≤ (powTen (-k)).magnitude := hlow
        _ ≤ (ofInt n).magnitude * (powTen (-k)).magnitude := by
          rw [hexact]
          exact le_mul_of_one_le_left (magnitude_nonneg _) hone
    have hrounded := abs_magnitude_mul_sub_le hresult hnormal
    rwa [hexact] at hrounded

end Stencil.Binary64
