import Stencil.Ratio

/-!
# Binary floating-point numbers of 64 bits

Numbers of the interchange format binary64 as a sign and a magnitude word, with arithmetic
that is exact until one last rounding to the nearest number, a half going to the even
neighbour.

## Main definitions

* `Stencil.Binary64`: a sign and the 63 bits below it.
* `Stencil.Binary64.ofBits`, `Stencil.Binary64.toBits`: the interchange word.
* `Stencil.Binary64.toRatio`: the exact magnitude of a finite number.
* `Stencil.Binary64.ofRatio`: the nearest number to a ratio.
* `Stencil.Binary64.mul`, `Stencil.Binary64.inverse`, `Stencil.Binary64.powTen`: arithmetic.
* `Stencil.Binary64.near`: equality up to two neighbouring numbers.
-/

namespace Stencil

/-- A **binary64** number: its sign and its magnitude word, the interchange word without the
sign bit. The magnitude words of the finite numbers come in the order of their magnitudes. -/
structure Binary64 where
  /-- Whether the sign bit is set. -/
  negative : Bool
  /-- The 63 bits below the sign bit. -/
  word : Nat
  /-- The word has 63 bits. -/
  word_lt : word < 0x8000000000000000
  deriving DecidableEq

namespace Binary64

/-! ### Words -/

/-- The number of an interchange word. -/
def ofBits (bits : UInt64) : Binary64 :=
  ⟨0x8000000000000000 ≤ bits.toNat, bits.toNat % 0x8000000000000000, Nat.mod_lt _ (by decide)⟩

/-- The interchange word of a number. -/
def toBits (x : Binary64) : UInt64 :=
  UInt64.ofNat ((if x.negative then 0x8000000000000000 else 0) + x.word)

/-- The magnitude word of infinity. Finite numbers have smaller words and NaNs larger ones. -/
def infinityWord : Nat := 0x7FF0000000000000

/-- Infinity of a sign. -/
def infinity (negative : Bool) : Binary64 := ⟨negative, infinityWord, by decide⟩

/-- Zero of a sign. -/
def zero (negative : Bool) : Binary64 := ⟨negative, 0, by decide⟩

/-- The number that stands for an undefined result. -/
def nan : Binary64 := ⟨false, 0x7FF8000000000000, by decide⟩

/-! ### Classes -/

/-- Whether a number is finite. -/
def isFinite (x : Binary64) : Bool := x.word < infinityWord

/-- Whether a number is not a number. -/
def isNaN (x : Binary64) : Bool := infinityWord < x.word

/-- Whether a number is an infinity. -/
def isInfinite (x : Binary64) : Bool := x.word == infinityWord

/-- Whether a number is a zero of either sign. -/
def isZero (x : Binary64) : Bool := x.word == 0

/-- Whether a number is below zero; neither a zero nor a NaN is. -/
def isBelowZero (x : Binary64) : Bool := x.negative && !x.isZero && !x.isNaN

/-! ### Magnitudes -/

/-- The integer significand of a finite number. -/
def significand (x : Binary64) : Nat :=
  if x.word < 0x10000000000000 then x.word else 0x10000000000000 + x.word % 0x10000000000000

/-- The exponent of two that scales the integer significand of a finite number. -/
def exponent (x : Binary64) : Int := max 1 ((x.word / 0x10000000000000 : Nat) : Int) - 1075

/-- The exact magnitude of a finite number. -/
def toRatio (x : Binary64) : Ratio := (Ratio.ofNat x.significand).scaleBinary x.exponent

/-- The magnitude word nearest to a ratio. The significand is the ratio in units of `2 ^ q`,
rounded, where `q` leaves 53 bits or is the least exponent there is; a carry out of the
significand increments the exponent field. -/
def nearestWord (a : Ratio) : Nat :=
  if a.num = 0 then 0
  else
    let q := max (a.log2 - 52) (-1074)
    (q + 1074).toNat * 0x10000000000000 + (a.scaleBinary (-q)).round

/-- The number of a sign nearest to a ratio; what is too large for a finite number is
infinite. -/
def ofRatio (negative : Bool) (a : Ratio) : Binary64 :=
  ⟨negative, min (nearestWord a) infinityWord,
    Nat.lt_of_le_of_lt (Nat.min_le_right ..) (by decide)⟩

/-- The number nearest to an integer. -/
def ofInt (n : Int) : Binary64 := ofRatio (n < 0) (Ratio.ofNat n.natAbs)

/-- The binary64 number of an interchange word of 32 bits, which is exact. -/
def ofBits32 (bits : UInt32) : Binary64 :=
  let negative := decide (0x80000000 ≤ bits.toNat)
  let field : Nat := bits.toNat / 0x800000 % 0x100
  let fraction := bits.toNat % 0x800000
  if field = 0xFF then
    if fraction = 0 then infinity negative
    else ⟨negative, 0x7FF8000000000000 + fraction % 0x400000 * 0x20000000, by
      have : fraction % 0x400000 < 0x400000 := Nat.mod_lt _ (by decide)
      omega⟩
  else
    let significand := if field = 0 then fraction else 0x800000 + fraction
    ofRatio negative ((Ratio.ofNat significand).scaleBinary (max 1 (field : Int) - 150))

/-! ### Arithmetic -/

/-- The product of two numbers. -/
def mul (x y : Binary64) : Binary64 :=
  let negative := x.negative != y.negative
  if x.isNaN || y.isNaN then nan
  else if x.isInfinite || y.isInfinite then
    if x.isZero || y.isZero then nan else infinity negative
  else ofRatio negative (x.toRatio.mul y.toRatio)

/-- One divided by a number. -/
def inverse (x : Binary64) : Binary64 :=
  if x.isNaN then nan
  else if x.isInfinite then zero x.negative
  else if x.isZero then infinity x.negative
  else ofRatio x.negative x.toRatio.inverse

/-- `acc` times a power of `base`, by multiplying with successive squares from the lowest bit
of the exponent upwards. -/
def powOnto (acc base : Binary64) (n : Nat) : Binary64 :=
  let acc := if n % 2 = 1 then acc.mul base else acc
  if n / 2 = 0 then acc else powOnto acc (base.mul base) (n / 2)
termination_by n
decreasing_by omega

/-- A power of ten; one with a negative exponent is the inverse of that with the positive
one. -/
def powTen (k : Int) : Binary64 :=
  let power := powOnto (ofInt 1) (ofInt 10) k.natAbs
  if k < 0 then power.inverse else power

/-! ### Nearness -/

/-- The place of a number in the order that runs from the largest negative magnitude to the
largest positive one; the two zeros are neighbours. -/
def place (x : Binary64) : Int := if x.negative then -1 - (x.word : Int) else x.word

/-- Whether two numbers are equal in value or at most two places apart, where the distance is a
signed word of 64 bits. -/
def near (x y : Binary64) : Bool :=
  (x.isZero && y.isZero) || (Int.bmod (x.place - y.place) 0x10000000000000000).natAbs ≤ 2

/-! ### Lemmas -/

/-- The interchange word of a number gives the number back. -/
@[simp] theorem ofBits_toBits (x : Binary64) : ofBits x.toBits = x := by
  obtain ⟨negative, word, hword⟩ := x
  have hlt : (if negative then 0x8000000000000000 else 0) + word < 0x10000000000000000 := by
    split <;> omega
  simp only [ofBits, toBits, UInt64.toNat_ofNat', Nat.mod_eq_of_lt hlt]
  cases negative
  · simpa using hword
  · simpa using hword

/-- A number is near to itself. -/
theorem near_self (x : Binary64) : x.near x = true := by
  simp [near]

end Binary64

end Stencil
