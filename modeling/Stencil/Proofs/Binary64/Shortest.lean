import Stencil.Proofs.Binary64.Natural

/-!
# The fewest digits of large numbers

A large number without a fraction is written with the fewest digits that read back, and zeros
behind them. Which digits these are depends on the natural numbers that round to it. The search
tries one grid of multiples of a power of ten after the other, the coarsest first, and on each
of them the two neighbours of the number. Since the numbers that round to it form an interval,
no other multiple can do better than the neighbours. Seventeen digits are always enough, since
a grid that fine is narrower than the basin. So what is found is the multiple of the coarsest
grid that has one that rounds to the number, and on that grid the nearest one.

## Main definitions

* `Stencil.Binary64.Attracts`: the natural numbers that round to a number.
* `Stencil.Binary64.IsShortest`: the one with the most zeros at its end, and of those the
  nearest.

## Main results

* `attracts_iff_contains`: what is attracted is what the basin contains.
* `IsShortest.unique`: there is only one shortest number.
* `isShortest_shortest`: the search finds it.
* `display_eq_iff_isShortest`: the text of a large number.
-/

namespace Stencil.Binary64

open Numeral

variable {x : Binary64} {a b c : Ratio} {j k m n u : ℕ}

/-! ### Attracted numbers -/

/-- A number **attracts** a natural number if that rounds to it. -/
def Attracts (x : Binary64) (k : ℕ) : Prop := ofRatio x.negative (Ratio.ofNat k) = x

instance (x : Binary64) (k : ℕ) : Decidable (x.Attracts k) :=
  inferInstanceAs (Decidable (ofRatio x.negative (Ratio.ofNat k) = x))

/-- A ratio is read as a number exactly if its nearest word is that of the number. -/
theorem ofRatio_eq_iff (hx : x.isFinite = true) :
    ofRatio x.negative a = x ↔ nearestWord a = x.word := by
  rw [isFinite_iff] at hx
  constructor
  · intro h
    have hword : min (nearestWord a) infinityWord = x.word := congrArg word h
    omega
  · intro h
    obtain ⟨negative, word, hlt⟩ := x
    simp only [ofRatio, h, mk.injEq, true_and]
    exact Nat.min_eq_left hx.le

/-- **What is attracted** is what the basin contains, however it is written. -/
theorem attracts_iff_contains (hx : x.isFinite = true) (hpos : 0 < x.magnitude)
    (ha : a.toRat = k) : x.Attracts k ↔ x.basin.contains a = true := by
  obtain ⟨s, hs⟩ := exists_eq_mul_unit x k
  have hsignificand := significand_pos hpos
  rw [Attracts, ofRatio_eq_iff hx, ← contains_iff_nearestWord_eq hpos,
    contains_iff hsignificand ((Ratio.toRat_ofNat k).trans hs),
    contains_iff hsignificand (ha.trans hs)]

/-- The basin is an **interval**. -/
theorem Basin.contains_of_between {basin : Basin} (ha : basin.contains a = true)
    (hb : basin.contains b = true) (hlow : a.toRat ≤ c.toRat) (hhigh : c.toRat ≤ b.toRat) :
    basin.contains c = true := by
  rw [contains] at ha hb ⊢
  by_cases hclosed : basin.closed = true
  · rw [if_pos hclosed, Bool.and_eq_true, Ratio.le_iff, Ratio.le_iff] at ha hb ⊢
    exact ⟨ha.1.trans hlow, hhigh.trans hb.2⟩
  · rw [if_neg hclosed, Bool.and_eq_true, Ratio.lt_iff, Ratio.lt_iff] at ha hb ⊢
    exact ⟨ha.1.trans_le hlow, hhigh.trans_lt hb.2⟩

/-! ### Natural numbers -/

/-- The distance of two natural numbers is a natural number. -/
theorem abs_natCast_sub (i j : ℕ) : |(i : ℚ) - j| = (((i : ℤ) - j).natAbs : ℕ) := by
  rw [Nat.cast_natAbs]
  push_cast
  rfl

/-- A natural number is far above the subnormal range. -/
theorem lt_exponent (h : x.magnitude = m) (hpos : 0 < m) : -1074 < x.exponent := by
  refine lt_of_le_of_ne (neg_le_exponent x) fun heq => ?_
  have hone : (1 : ℚ) ≤ m := by exact_mod_cast hpos
  have hsignificand : (x.significand : ℚ) < 2 ^ 53 := by exact_mod_cast significand_lt x
  rw [← h, magnitude_eq, ← heq] at hone
  have hsmall : (x.significand : ℚ) * 2 ^ (-1074 : ℤ) < 2 ^ 53 * 2 ^ (-1074 : ℤ) :=
    mul_lt_mul_of_pos_right hsignificand (zpow_pos two_pos _)
  have hlt : (2 : ℚ) ^ 53 * 2 ^ (-1074 : ℤ) < 1 := by
    rw [← zpow_natCast, ← zpow_add₀ two_ne_zero]
    exact zpow_lt_one_of_neg₀ one_lt_two (by norm_num)
  linarith

section Natural

variable (hx : x.isFinite = true) (h : x.magnitude = m) (hpos : 0 < m)

include hx h hpos

/-- A multiple of a power of ten is attracted exactly if the basin contains it. -/
theorem attracts_iff_inside (j u : ℕ) :
    x.Attracts (j * 10 ^ u) ↔ x.basin.contains ((Ratio.ofNat j).scaleDecimal u) = true :=
  attracts_iff_contains hx (magnitude_pos h hpos) (toRat_ofNat_scaleDecimal j u)

/-- A natural number attracts itself. -/
theorem attracts_self : x.Attracts m :=
  (attracts_iff_contains hx (magnitude_pos h hpos) (Ratio.toRat_ofNat m)).mpr
    (contains_of_toRat_eq (magnitude_pos h hpos) ((Ratio.toRat_ofNat m).trans h.symm))

/-- What is between the number and an attracted one is attracted, too. -/
theorem attracts_of_between (hk : x.Attracts k) (hn : k ≤ n ∧ n ≤ m ∨ m ≤ n ∧ n ≤ k) :
    x.Attracts n := by
  have hcontains (i : ℕ) : x.Attracts i ↔ x.basin.contains (Ratio.ofNat i) = true :=
    attracts_iff_contains hx (magnitude_pos h hpos) (Ratio.toRat_ofNat i)
  have hle {i j : ℕ} (hij : i ≤ j) : (Ratio.ofNat i).toRat ≤ (Ratio.ofNat j).toRat := by
    rw [Ratio.toRat_ofNat, Ratio.toRat_ofNat]
    exact_mod_cast hij
  have hself := (hcontains m).mp (attracts_self hx h hpos)
  rw [hcontains] at hk ⊢
  rcases hn with ⟨hlow, hhigh⟩ | ⟨hlow, hhigh⟩
  · exact Basin.contains_of_between hk hself (hle hlow) (hle hhigh)
  · exact Basin.contains_of_between hself hk (hle hlow) (hle hhigh)

end Natural

/-! ### The shortest number -/

/-- A natural number is **nearest on a grid** of multiples of a power of ten if it is
attracted, and every other multiple that is attracted is farther away, or as far away and
smaller. -/
structure IsNearestOn (x : Binary64) (u n : ℕ) : Prop where
  /-- It is a multiple of the power. -/
  dvd : 10 ^ u ∣ n
  /-- It rounds to the number. -/
  attracts : x.Attracts n
  /-- No other multiple that rounds to the number is nearer. -/
  nearest : ∀ k, 10 ^ u ∣ k → x.Attracts k →
    |(n : ℚ) - x.magnitude| < |(k : ℚ) - x.magnitude| ∨
      |(n : ℚ) - x.magnitude| = |(k : ℚ) - x.magnitude| ∧ k ≤ n

/-- A natural number is **shortest** if it is nearest on the coarsest grid on which anything is
attracted. -/
def IsShortest (x : Binary64) (n : ℕ) : Prop :=
  ∃ u, x.IsNearestOn u n ∧ ∀ k, x.Attracts k → ¬ 10 ^ (u + 1) ∣ k

/-- On a coarser grid there are fewer multiples to compare with. -/
theorem IsNearestOn.of_dvd {v : ℕ} (hn : x.IsNearestOn u n) (hle : u ≤ v) (hdvd : 10 ^ v ∣ n) :
    x.IsNearestOn v n :=
  ⟨hdvd, hn.attracts, fun k hk => hn.nearest k ((pow_dvd_pow 10 hle).trans hk)⟩

/-- A grid with an attracted point is no coarser than the coarsest one. -/
theorem le_of_forall_not_dvd {v : ℕ} (hn : x.IsNearestOn u n)
    (hcoarsest : ∀ k, x.Attracts k → ¬ 10 ^ (v + 1) ∣ k) : u ≤ v := by
  by_contra hlt
  exact hcoarsest n hn.attracts ((pow_dvd_pow 10 (by omega)).trans hn.dvd)

/-- **There is only one** shortest number. -/
theorem IsShortest.unique (hm : x.IsShortest m) (hn : x.IsShortest n) : m = n := by
  obtain ⟨u, hmu, hmcoarsest⟩ := hm
  obtain ⟨v, hnv, hncoarsest⟩ := hn
  obtain rfl : u = v :=
    le_antisymm (le_of_forall_not_dvd hmu hncoarsest) (le_of_forall_not_dvd hnv hmcoarsest)
  rcases hmu.nearest n hnv.dvd hnv.attracts with hlt | ⟨heq, hle⟩
  · rcases hnv.nearest m hmu.dvd hmu.attracts with hlt' | ⟨heq', -⟩
    · exact absurd hlt' hlt.not_gt
    · exact absurd heq' hlt.ne'
  · rcases hnv.nearest m hmu.dvd hmu.attracts with hlt' | ⟨-, hle'⟩
    · exact absurd heq hlt'.ne'
    · exact le_antisymm hle' hle

/-! ### Grids -/

/-- A half of the unit of a grid, on a numerator and denominator. -/
theorem den_le_two_mul_iff {d : ℕ} (hd : 0 < d) (ha : a.toRat = m / d) :
    a.den ≤ 2 * (a.num % a.den) ↔ d ≤ 2 * (m % d) := by
  have hcross : a.num * d = m * a.den := by
    rw [Ratio.toRat, div_eq_div_iff (Ratio.den_pos_rat a).ne' (by positivity)] at ha
    exact_mod_cast ha
  have hmod : a.num % a.den * d = m % d * a.den := by
    rw [← Nat.mul_mod_mul_right, hcross, mul_comm a.den d, Nat.mul_mod_mul_right]
  rw [← Nat.mul_le_mul_right_iff hd, mul_assoc, hmod, mul_comm a.den d, ← mul_assoc,
    Nat.mul_le_mul_right_iff a.den_pos]

/-- A point of a grid lies at or below one neighbour, or at or above the other. -/
theorem le_or_le_of_dvd (hk : u ∣ k) : k ≤ m / u * u ∨ m / u * u + u ≤ k := by
  obtain ⟨j, rfl⟩ := hk
  rcases Nat.lt_or_ge (m / u) j with hlt | hge
  · right
    calc m / u * u + u = u * (m / u + 1) := by ring
      _ ≤ u * j := Nat.mul_le_mul_left u hlt
  · left
    rw [mul_comm u j]
    exact Nat.mul_le_mul_right u hge

section Natural

variable (hx : x.isFinite = true) (h : x.magnitude = m) (hpos : 0 < m)

include hx h hpos

/-- On a grid the search compares **the two neighbours** of the number. -/
theorem onGrid?_eq (u : ℕ) :
    onGrid? x.basin x.toRatio u =
      if x.Attracts (m / 10 ^ u * 10 ^ u) then
        if x.Attracts ((m / 10 ^ u + 1) * 10 ^ u) ∧ 10 ^ u ≤ 2 * (m % 10 ^ u) then
          some (m / 10 ^ u + 1)
        else some (m / 10 ^ u)
      else if x.Attracts ((m / 10 ^ u + 1) * 10 ^ u) then some (m / 10 ^ u + 1)
      else none := by
  have hhalf :=
    den_le_two_mul_iff (pow_pos (by decide : 0 < 10) u) (toRat_scaleDecimal_neg h u)
  simp only [onGrid?, floor_scaleDecimal_neg h, ← attracts_iff_inside hx h hpos,
    Bool.and_eq_true, decide_eq_true_eq, hhalf]

/-- If any multiple is attracted, **a neighbour** is. -/
theorem attracts_neighbour (hk : 10 ^ u ∣ k) (hattracts : x.Attracts k) :
    k ≤ m / 10 ^ u * 10 ^ u ∧ x.Attracts (m / 10 ^ u * 10 ^ u) ∨
      m / 10 ^ u * 10 ^ u + 10 ^ u ≤ k ∧ x.Attracts ((m / 10 ^ u + 1) * 10 ^ u) := by
  have hdiv := Nat.div_mul_le_self m (10 ^ u)
  have hmod := Nat.lt_div_mul_add (a := m) (pow_pos (by decide : 0 < 10) u)
  rw [Nat.add_mul, Nat.one_mul]
  rcases le_or_le_of_dvd (m := m) hk with hle | hge
  · exact .inl ⟨hle, attracts_of_between hx h hpos hattracts (.inl ⟨hle, hdiv⟩)⟩
  · exact .inr ⟨hge, attracts_of_between hx h hpos hattracts (.inr ⟨hmod.le, hge⟩)⟩

/-- **Where the search finds nothing**, nothing is attracted. -/
theorem not_dvd_of_onGrid?_eq_none (hgrid : onGrid? x.basin x.toRatio u = none) :
    ∀ k, x.Attracts k → ¬ 10 ^ u ∣ k := by
  rw [onGrid?_eq hx h hpos] at hgrid
  split_ifs at hgrid with hbelow hboth habove
  intro k hattracts hk
  rcases attracts_neighbour hx h hpos hk hattracts with ⟨-, hneighbour⟩ | ⟨-, hneighbour⟩
  exacts [hbelow hneighbour, habove hneighbour]

/-- A neighbour is nearest if it is attracted and the other one, if that is attracted, is not
nearer. -/
theorem isNearestOn_of_neighbour (hdvd : 10 ^ u ∣ n) (hle : m / 10 ^ u * 10 ^ u ≤ n)
    (hattracts : x.Attracts n)
    (hbelow : x.Attracts (m / 10 ^ u * 10 ^ u) → ((n : ℤ) - m).natAbs ≤ m % 10 ^ u)
    (habove : x.Attracts ((m / 10 ^ u + 1) * 10 ^ u) →
      ((n : ℤ) - m).natAbs < 10 ^ u - m % 10 ^ u ∨ n = m / 10 ^ u * 10 ^ u + 10 ^ u) :
    x.IsNearestOn u n := by
  have hsplit := Nat.div_add_mod' m (10 ^ u)
  have hmod := Nat.mod_lt m (pow_pos (by decide : 0 < 10) u)
  refine ⟨hdvd, hattracts, fun k hk hkattracts => ?_⟩
  rw [h, abs_natCast_sub, abs_natCast_sub, Nat.cast_lt, Nat.cast_inj]
  rcases attracts_neighbour hx h hpos hk hkattracts with
    ⟨hbefore, hneighbour⟩ | ⟨hafter, hneighbour⟩
  · have := hbelow hneighbour
    omega
  · have := habove hneighbour
    omega

/-- **What the search finds** is nearest. -/
theorem isNearestOn_of_onGrid?_eq_some (hgrid : onGrid? x.basin x.toRatio u = some j) :
    x.IsNearestOn u (j * 10 ^ u) := by
  have hsplit := Nat.div_add_mod' m (10 ^ u)
  have hmod := Nat.mod_lt m (pow_pos (by decide : 0 < 10) u)
  have hnext : (m / 10 ^ u + 1) * 10 ^ u = m / 10 ^ u * 10 ^ u + 10 ^ u := by ring
  have hdvd : 10 ^ u ∣ j * 10 ^ u := Dvd.intro_left j rfl
  rw [onGrid?_eq hx h hpos] at hgrid
  split_ifs at hgrid with hbelow hboth habove <;> obtain rfl := Option.some.inj hgrid
  · rw [hnext] at hdvd hboth ⊢
    exact isNearestOn_of_neighbour hx h hpos hdvd (by omega) hboth.1 (fun _ => by omega)
      fun _ => .inr rfl
  · refine isNearestOn_of_neighbour hx h hpos hdvd le_rfl hbelow
      (fun _ => by omega) fun habove => ?_
    have hlt : 2 * (m % 10 ^ u) < 10 ^ u := not_le.mp fun hle => hboth ⟨habove, hle⟩
    omega
  · rw [hnext] at hdvd habove ⊢
    exact isNearestOn_of_neighbour hx h hpos hdvd (by omega) habove
      (fun hattracts => absurd hattracts hbelow) fun _ => .inr rfl

/-! ### How far a number attracts -/

/-- A number attracts nothing beyond **half a unit**. -/
theorem natAbs_sub_le_of_attracts (hk : x.Attracts k) : 2 ^ 53 * ((k : ℤ) - m).natAbs ≤ m := by
  have hunit : (0 : ℚ) < 2 ^ (x.exponent - 1) := zpow_pos two_pos _
  have hsignificand : (2 ^ 52 : ℚ) ≤ x.significand := by
    exact_mod_cast le_significand (lt_exponent h hpos)
  have hnear := abs_sub_le_of_contains (magnitude_pos h hpos)
    ((attracts_iff_contains hx (magnitude_pos h hpos) (Ratio.toRat_ofNat k)).mp hk)
  rw [Ratio.toRat_ofNat, h] at hnear
  have hm : (m : ℚ) = x.significand * (2 ^ (x.exponent - 1) * 2) := by
    rw [← h, magnitude_eq, ← two_zpow_eq]
  have hle : (2 ^ 53 : ℚ) * |(k : ℚ) - m| ≤ m := by
    calc (2 ^ 53 : ℚ) * |(k : ℚ) - m| ≤ 2 ^ 52 * (2 ^ (x.exponent - 1) * 2) := by linarith
      _ ≤ x.significand * (2 ^ (x.exponent - 1) * 2) := by gcongr
      _ = m := hm.symm
  rw [abs_natCast_sub] at hle
  exact_mod_cast hle

/-- A number attracts everything within **a quarter of a unit**. -/
theorem attracts_of_near (hk : 2 ^ 54 * ((k : ℤ) - m).natAbs < m) : x.Attracts k := by
  have hunit : (0 : ℚ) < 2 ^ x.exponent := zpow_pos two_pos _
  have hsignificand := significand_pos (magnitude_pos h hpos)
  have hm : (m : ℚ) = x.significand * 2 ^ x.exponent := by rw [← h, magnitude_eq]
  have hs : (Ratio.ofNat k).toRat = k / 2 ^ x.exponent * 2 ^ x.exponent := by
    rw [Ratio.toRat_ofNat, div_mul_cancel₀ _ hunit.ne']
  have hnear : |(k : ℚ) / 2 ^ x.exponent - x.significand| < x.significand / 2 ^ 54 := by
    have hcast : (2 ^ 54 : ℚ) * |(k : ℚ) - m| < m := by
      rw [abs_natCast_sub]
      exact_mod_cast hk
    rw [abs_div_sub hunit, ← hm, div_lt_div_iff₀ hunit (by positivity), ← hm]
    linarith
  have hlt : (x.significand : ℚ) < 2 ^ 53 := by exact_mod_cast significand_lt x
  have hgap : (x.significand : ℚ) / 2 ^ 54 ≤ x.lowGap := by
    rw [lowGap, div_le_iff₀ (by positivity)]
    split
    · next hspecial =>
      rw [hspecial.1]
      norm_num
    · linarith
  have hgap' := (lowGap_le x).2
  rw [attracts_iff_contains hx (magnitude_pos h hpos) (Ratio.toRat_ofNat k),
    contains_iff hsignificand hs]
  rw [abs_lt] at hnear
  exact .inl ⟨by linarith, by linarith⟩

/-- **Seventeen digits are enough**: a grid that is so fine has an attracted multiple. -/
theorem exists_attracts_of_le (hu : 10 ^ (u + 16) ≤ m) : ∃ k, 10 ^ u ∣ k ∧ x.Attracts k := by
  have hsplit := Nat.div_add_mod' m (10 ^ u)
  have hmod := Nat.mod_lt m (pow_pos (by decide : 0 < 10) u)
  have hpower : 0 < 10 ^ u := pow_pos (by decide) u
  have hfine : 10 ^ u * 10 ^ 16 ≤ m := (pow_add 10 u 16).ge.trans hu
  have hnear : ∃ k : ℕ, 10 ^ u ∣ k ∧ 2 * ((k : ℤ) - m).natAbs ≤ 10 ^ u := by
    rcases Nat.le_total (2 * (m % 10 ^ u)) (10 ^ u) with hle | hge
    · exact ⟨m / 10 ^ u * 10 ^ u, Dvd.intro_left _ rfl, by omega⟩
    · refine ⟨m / 10 ^ u * 10 ^ u + 10 ^ u, ?_, by omega⟩
      exact dvd_add (Dvd.intro_left _ rfl) dvd_rfl
  obtain ⟨k, hk, hle⟩ := hnear
  exact ⟨k, hk, attracts_of_near hx h hpos (by omega)⟩

/-! ### The search -/

/-- **The search finds** a nearest number on the grid on which it starts or on the coarsest
grid that has one. -/
theorem coarsest_spec {top count more : ℕ} (htop : 10 ^ top ≤ m) (hlarge : 16 ≤ top)
    (hcount : 1 ≤ count) (hmore : count + more = 18) (hle : count ≤ 17) :
    ∃ u : ℕ, (coarsest x.basin x.toRatio top count more).exponent = u ∧
      x.IsNearestOn u ((coarsest x.basin x.toRatio top count more).digits * 10 ^ u) ∧
      (u + count = top + 1 ∨ ∀ k, x.Attracts k → ¬ 10 ^ (u + 1) ∣ k) := by
  induction more generalizing count with
  | zero => omega
  | succ more ih =>
    obtain ⟨u, hu⟩ : ∃ u, u + count = top + 1 := ⟨top + 1 - count, by omega⟩
    have hunit : (top : ℤ) + 1 - count = u := by omega
    rw [coarsest, hunit]
    cases hgrid : onGrid? x.basin x.toRatio u with
    | some j => exact ⟨u, rfl, isNearestOn_of_onGrid?_eq_some hx h hpos hgrid, .inl hu⟩
    | none =>
      have hnone := not_dvd_of_onGrid?_eq_none hx h hpos hgrid
      rcases hle.eq_or_lt with rfl | hlt
      · obtain ⟨k, hk, hattracts⟩ := exists_attracts_of_le hx h hpos
          ((Nat.pow_le_pow_right (by decide) (by omega)).trans htop : 10 ^ (u + 16) ≤ m)
        exact absurd hk (hnone k hattracts)
      · obtain ⟨v, hexponent, hnearest, hcoarsest⟩ :=
          @ih (count + 1) (by omega) (by omega) hlt
        refine ⟨v, hexponent, hnearest, .inr ?_⟩
        rcases hcoarsest with hv | hcoarsest
        · obtain rfl : v + 1 = u := by omega
          exact hnone
        · exact hcoarsest

/-- Beyond the number there is at most one attracted multiple of a power of ten. -/
theorem eq_of_attracts_of_dvd (hm : m < 10 ^ u) (hk : x.Attracts k) (hdvd : 10 ^ u ∣ k) :
    k = 10 ^ u := by
  have hnear := natAbs_sub_le_of_attracts hx h hpos hk
  obtain ⟨j, rfl⟩ := hdvd
  rcases Nat.lt_or_ge j 2 with hsmall | hlarge
  · interval_cases j
    · omega
    · exact Nat.mul_one _
  · have hle := Nat.mul_le_mul_left (10 ^ u) hlarge
    omega

/-- Ten units of the grid on which the search starts are one unit of the next grid, which it
has not tried. Nothing is attracted on a coarser one. -/
theorem isShortest_pow_ten (hm : m < 10 ^ (u + 1))
    (hnearest : x.IsNearestOn u (10 ^ (u + 1))) : x.IsShortest (10 ^ (u + 1)) := by
  refine ⟨u + 1, hnearest.of_dvd (Nat.le_succ u) dvd_rfl, ?_⟩
  intro k hk hdvd
  have hnext : 10 ^ (u + 1 + 1) = 10 ^ (u + 1) * 10 := pow_succ 10 (u + 1)
  have hk' := eq_of_attracts_of_dvd hx h hpos (by omega) hk hdvd
  have hnear := natAbs_sub_le_of_attracts hx h hpos hk
  omega

/-- What is attracted on the next grid is ten units of the one on which the search starts, and
would have been found. -/
theorem not_dvd_of_ne_ten (hm : m < 10 ^ (u + 1)) (hj : x.Attracts (j * 10 ^ u))
    (hten : j ≠ 10) : ∀ k, x.Attracts k → ¬ 10 ^ (u + 1) ∣ k := by
  intro k hk hdvd
  have hk' := eq_of_attracts_of_dvd hx h hpos hm hk hdvd
  have hknear := natAbs_sub_le_of_attracts hx h hpos hk
  have hjnear := natAbs_sub_le_of_attracts hx h hpos hj
  have hnext : 10 ^ (u + 1) = 10 ^ u * 10 := pow_succ 10 u
  have hpower : 0 < 10 ^ u := pow_pos (by decide) u
  rcases Nat.lt_or_gt_of_ne hten with hless | hmore
  · have hle := Nat.mul_le_mul_right (10 ^ u) (Nat.le_of_lt_succ hless)
    omega
  · have hge := Nat.mul_le_mul_right (10 ^ u) hmore
    omega

omit hx in
/-- The grid on which the search starts has as many digits as the number. -/
theorem exists_log_eq (hlarge : 10 ^ 16 ≤ m) :
    ∃ top : ℕ, x.toRatio.log 10 = top ∧ 16 ≤ top ∧ 10 ^ top ≤ m ∧ m < 10 ^ (top + 1) := by
  obtain ⟨top, htop⟩ : ∃ top, (decimal m).length = top + 1 :=
    ⟨_, (Nat.succ_pred_eq_of_pos Nat.length_toDigits_pos).symm⟩
  have hcount {count : ℕ} (hcount : 0 < count) : (decimal m).length ≤ count ↔ m < 10 ^ count :=
    Nat.length_toDigits_le_iff (by decide) hcount
  have hlog : x.toRatio.log 10 = top := by
    rw [log_of_natural h hpos, htop]
    push_cast
    ring
  have hlength : 16 ≤ top := by
    have := (hcount (by decide)).not.mpr hlarge.not_gt
    omega
  exact ⟨top, hlog, hlength, not_lt.mp ((hcount (by omega)).not.mp (by omega)),
    (hcount (by omega)).mp htop.le⟩

/-- **The fewest digits**, with zeros behind them, are the shortest number. -/
theorem isShortest_shortest (hlarge : 10 ^ 16 ≤ m) :
    ∃ u : ℕ, x.shortest.exponent = u ∧ x.IsShortest (x.shortest.digits * 10 ^ u) := by
  obtain ⟨top, hlog, hlength, hbelow, habove⟩ := exists_log_eq h hpos hlarge
  obtain ⟨u, hexponent, hnearest, hcoarsest⟩ :=
    coarsest_spec hx h hpos hbelow hlength le_rfl (by decide : 1 + 17 = 18) (by decide)
  simp only [shortest, hlog]
  generalize coarsest x.basin x.toRatio top 1 17 = d at hexponent hnearest ⊢
  split
  · next hten =>
    have hvalue : d.digits * 10 ^ u = 10 ^ (u + 1) := by rw [hten, pow_succ']
    rw [hvalue] at hnearest
    have hu : u + 1 = top + 1 := hcoarsest.resolve_right fun hnone =>
      hnone _ hnearest.attracts dvd_rfl
    refine ⟨u + 1, by rw [hexponent]; rfl, ?_⟩
    rw [Nat.one_mul]
    exact isShortest_pow_ten hx h hpos (hu ▸ habove) hnearest
  · next hten =>
    refine ⟨u, hexponent, u, hnearest, ?_⟩
    rcases hcoarsest with hu | hnone
    · exact not_dvd_of_ne_ten hx h hpos (hu ▸ habove) hnearest.attracts hten
    · exact hnone

/-- **The text of a large number** is the canonical numeral of the shortest number. -/
theorem display_eq_iff_isShortest (hlarge : 10 ^ 16 ≤ m) :
    x.display = sign x.negative ++ decimal n ↔ x.IsShortest n := by
  obtain ⟨u, hexponent, hshortest⟩ := isShortest_shortest hx h hpos hlarge
  have hdigits : 0 < x.shortest.digits := by
    by_contra hnone
    obtain ⟨v, hnearest, -⟩ := hshortest
    rw [Nat.eq_zero_of_not_pos hnone, Nat.zero_mul] at hnearest
    have := natAbs_sub_le_of_attracts hx h hpos hnearest.attracts
    omega
  rw [display_of_displayParts hx
    (displayParts_of_exponent_eq (magnitude_pos h hpos) hexponent hdigits),
    List.append_cancel_left_eq, decimal_inj]
  constructor
  · rintro rfl
    exact hshortest
  · exact hshortest.unique

end Natural

end Stencil.Binary64
