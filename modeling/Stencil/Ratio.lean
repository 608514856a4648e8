/-!
# Non-negative ratios

Exact arithmetic on quotients of natural numbers: products, scaling by a power of a base,
rounding to a natural number with a half going to the even neighbour, and integer logarithms.
Everything that is rounded or printed to a number of places in this library is first an exact
ratio.

## Main definitions

* `Stencil.Ratio`: a numerator and a positive denominator.
* `Stencil.Ratio.scaleBinary`, `Stencil.Ratio.scaleDecimal`: a ratio times a power of two or
  ten.
* `Stencil.Ratio.round`: the nearest natural number.
* `Stencil.Ratio.log`: the greatest exponent of a base whose power does not exceed the ratio.
-/

namespace Stencil

/-- A **ratio** of two natural numbers, the second of them positive. It need not be in lowest
terms. -/
structure Ratio where
  /-- The numerator. -/
  num : Nat
  /-- The denominator. -/
  den : Nat
  /-- The denominator is positive. -/
  den_pos : 0 < den

namespace Ratio

/-! ### Construction and arithmetic -/

/-- A natural number as a ratio. -/
def ofNat (n : Nat) : Ratio := ⟨n, 1, Nat.one_pos⟩

/-- The product of two ratios. -/
def mul (a b : Ratio) : Ratio :=
  ⟨a.num * b.num, a.den * b.den, Nat.mul_pos a.den_pos b.den_pos⟩

/-- A ratio times a power of a base, whose exponent may be negative. -/
def scale (base : Nat) (hbase : 0 < base) (k : Int) (a : Ratio) : Ratio :=
  ⟨a.num * base.pow k.toNat, a.den * base.pow (-k).toNat,
    Nat.mul_pos a.den_pos (Nat.pow_pos hbase)⟩

/-- A ratio times a power of two. -/
def scaleBinary (k : Int) (a : Ratio) : Ratio := a.scale 2 (by decide) k

/-- A ratio times a power of ten. -/
def scaleDecimal (k : Int) (a : Ratio) : Ratio := a.scale 10 (by decide) k

/-- The reciprocal of a ratio; that of zero is zero. -/
def inverse (a : Ratio) : Ratio :=
  if h : 0 < a.num then ⟨a.den, a.num, h⟩ else a

/-! ### Comparison -/

/-- Whether a ratio is at most another. -/
def le (a b : Ratio) : Bool := a.num * b.den ≤ b.num * a.den

/-- Whether a ratio is below another. -/
def lt (a b : Ratio) : Bool := a.num * b.den < b.num * a.den

/-! ### Rounding -/

/-- The greatest natural number that does not exceed a ratio. -/
def floor (a : Ratio) : Nat := a.num / a.den

/-- The nearest natural number; of two equally near ones, the even one. -/
def round (a : Ratio) : Nat :=
  let q := a.num / a.den
  let twice := 2 * (a.num % a.den)
  if twice < a.den then q
  else if a.den < twice then q + 1
  else if q % 2 = 0 then q else q + 1

/-! ### Logarithms -/

/-- The number of digits of a positive number in a base, and zero for zero. -/
def digitCount (base n : Nat) : Nat :=
  if n = 0 then 0 else (Nat.toDigits base n).length

/-- The greatest exponent `e` such that `base ^ e` does not exceed a positive ratio. From one
upwards it counts the digits before the point, below one the zeros after it. -/
def log (base : Nat) (a : Ratio) : Int :=
  if a.den ≤ a.num then (digitCount base (a.num / a.den) : Int) - 1
  else -(digitCount base ((a.den - 1) / a.num) : Int)

/-- The same as `log 2`, by the binary logarithm of core. -/
def log2 (a : Ratio) : Int :=
  if a.den ≤ a.num then Nat.log2 (a.num / a.den)
  else -(Nat.log2 ((a.den - 1) / a.num) + 1 : Int)

/-! ### Lemmas -/

/-- A natural number rounds to itself. -/
@[simp] theorem round_ofNat (n : Nat) : (ofNat n).round = n := by
  simp [round, ofNat, Nat.mod_one]

/-- Rounding is off by at most one half. -/
theorem round_near (a : Ratio) :
    2 * a.num ≤ (2 * a.round + 1) * a.den ∧ 2 * a.round * a.den ≤ 2 * a.num + a.den := by
  have hdiv := Nat.div_add_mod a.num a.den
  have hmod := Nat.mod_lt a.num a.den_pos
  have hcomm : a.den * (a.num / a.den) = a.num / a.den * a.den := Nat.mul_comm _ _
  unfold round
  simp only
  split
  · refine ⟨?_, ?_⟩ <;> simp only [Nat.add_mul, Nat.mul_assoc, Nat.one_mul] <;> omega
  · split
    · refine ⟨?_, ?_⟩ <;> simp only [Nat.mul_add, Nat.add_mul, Nat.mul_assoc, Nat.one_mul] <;>
        omega
    · split
      · refine ⟨?_, ?_⟩ <;> simp only [Nat.add_mul, Nat.mul_assoc, Nat.one_mul] <;> omega
      · refine ⟨?_, ?_⟩ <;>
          simp only [Nat.mul_add, Nat.add_mul, Nat.mul_assoc, Nat.one_mul] <;>
          omega

end Ratio

end Stencil
