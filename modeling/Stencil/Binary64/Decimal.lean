import Stencil.Binary64
import Stencil.Numeral

/-!
# Decimal texts of binary64 numbers

Three ways to write a number in decimal: with the fewest digits that read back, with a fixed
number of places, and in scientific notation with a fixed number of places. All of them round
the exact value. Reading a decimal text gives the nearest number.

## Main definitions

* `Stencil.Binary64.shortest`: the fewest digits that read back.
* `Stencil.Binary64.display`: those digits in positional notation.
* `Stencil.Binary64.places`, `Stencil.Binary64.fixed`: a fixed number of places.
* `Stencil.Binary64.scientific`: one digit, a fixed number of places, and an exponent.
* `Stencil.Binary64.read?`: reading a decimal text.
-/

namespace Stencil.Binary64

/-! ### The fewest digits that read back -/

/-- The ratios that round to a finite positive number: halfway to its two neighbours, the ends
included if the significand is even. -/
structure Basin where
  /-- The lower end. -/
  low : Ratio
  /-- The upper end. -/
  high : Ratio
  /-- Whether the ends belong to it. -/
  closed : Bool

/-- Whether a ratio lies in a basin. -/
def Basin.contains (b : Basin) (a : Ratio) : Bool :=
  if b.closed then b.low.le a && a.le b.high else b.low.lt a && a.lt b.high

/-- The basin of a finite positive number. Below a power of two the lower neighbour is only
half as far away as the upper one, except at the bottom of the normal range. -/
def basin (x : Binary64) : Basin :=
  let m := x.significand
  let low :=
    if m = 0x10000000000000 ∧ 0x20000000000000 ≤ x.word then
      (Ratio.ofNat (4 * m - 1)).scaleBinary (x.exponent - 2)
    else (Ratio.ofNat (2 * m - 1)).scaleBinary (x.exponent - 1)
  ⟨low, (Ratio.ofNat (2 * m + 1)).scaleBinary (x.exponent - 1), m % 2 = 0⟩

/-- A decimal number: an integer times a power of ten. -/
structure Decimal where
  /-- The digits as an integer. -/
  digits : Nat
  /-- The power of ten. -/
  exponent : Int

/-- The multiple of `10 ^ unit` in a basin next to a ratio, if there is one: of the two
neighbouring multiples the one in the basin, or the nearer one, or the larger one. -/
def onGrid? (b : Basin) (a : Ratio) (unit : Int) : Option Nat :=
  let scaled := a.scaleDecimal (-unit)
  let below := scaled.floor
  let inside (n : Nat) : Bool := b.contains ((Ratio.ofNat n).scaleDecimal unit)
  if inside below then
    if inside (below + 1) && scaled.den ≤ 2 * (scaled.num % scaled.den) then some (below + 1)
    else some below
  else if inside (below + 1) then some (below + 1)
  else none

/-- The coarsest grid with a number in the basin, tried from `count` digits upwards. -/
def coarsest (b : Basin) (a : Ratio) (top : Int) (count : Nat) : Nat → Decimal
  | 0 => ⟨(a.scaleDecimal (count - top - 1)).round, top + 1 - count⟩
  | more + 1 =>
    match onGrid? b a (top + 1 - count) with
    | some n => ⟨n, top + 1 - count⟩
    | none => coarsest b a top (count + 1) more

/-- The decimal number with the fewest digits that rounds to a finite positive number, and of
those the nearest. -/
def shortest (x : Binary64) : Decimal :=
  let a := x.toRatio
  let top := a.log 10
  let d := coarsest x.basin a top 1 17
  if d.digits = 10 then ⟨1, d.exponent + 1⟩ else d

/-! ### Positional notation -/

/-- The digits before and after the point of a decimal number. -/
def Decimal.split (d : Decimal) : Text × Text :=
  if 0 ≤ d.exponent then
    (Numeral.decimal d.digits ++ List.replicate d.exponent.toNat '0', [])
  else
    let after := (-d.exponent).toNat
    let digits := Numeral.fixed 10 (after + 1) d.digits
    (digits.take (digits.length - after), digits.drop (digits.length - after))

/-- Digits before and after a point; no point without digits after it. -/
def pointed (parts : Text × Text) : Text :=
  if parts.2.isEmpty then parts.1 else parts.1 ++ '.' :: parts.2

/-- The text of an infinity or a NaN without its sign. -/
def nonFiniteText (x : Binary64) : Text :=
  if x.isNaN then "NaN".toList else "inf".toList

/-- The sign as it is printed: a NaN shows none. -/
def signText (x : Binary64) : Text := Numeral.sign (x.negative && !x.isNaN)

/-- The digits before and after the point that write a finite magnitude shortest. -/
def displayParts (x : Binary64) : Text × Text :=
  if x.isZero then (['0'], []) else x.shortest.split

/-- A number in positional notation with the fewest digits that read back. -/
def display (x : Binary64) : Text :=
  x.signText ++ if x.isFinite then pointed x.displayParts else x.nonFiniteText

/-! ### Fixed places -/

/-- The digits before the point and `count` digits after it that write a ratio, rounded with a
half going to the even neighbour. -/
def ratioPlaces (a : Ratio) (count : Nat) : Text × Text :=
  let n := (a.scaleDecimal count).round
  (Numeral.decimal (n / Nat.pow 10 count),
    if count = 0 then [] else Numeral.fixed 10 count (n % Nat.pow 10 count))

/-- The digits before and after the point of a magnitude with `count` places; the text of an
infinity or a NaN stands before the point. -/
def places (x : Binary64) (count : Nat) : Text × Text :=
  if x.isFinite then ratioPlaces x.toRatio count else (x.nonFiniteText, [])

/-- A number with `count` places after the point. -/
def fixed (x : Binary64) (count : Nat) : Text := x.signText ++ pointed (x.places count)

/-! ### Scientific notation -/

/-- The decimal number of `count + 1` digits nearest to a ratio. -/
def significantDigits (a : Ratio) (count : Nat) : Decimal :=
  if a.num = 0 then ⟨0, -count⟩
  else
    let unit := a.log 10 - count
    let n := (a.scaleDecimal (-unit)).round
    if n = Nat.pow 10 (count + 1) then ⟨n / 10, unit + 1⟩ else ⟨n, unit⟩

/-- The mantissa text and the exponent of a finite number in scientific notation with `count`
places. -/
def scientific (x : Binary64) (count : Nat) : Text × Int :=
  let d := significantDigits x.toRatio count
  let digits := Numeral.fixed 10 (count + 1) d.digits
  (x.signText ++ pointed (digits.take 1, digits.drop 1), d.exponent + count)

/-! ### Reading -/

/-- The number of a sign nearest to a decimal number. -/
def ofDecimal (negative : Bool) (d : Decimal) : Binary64 :=
  let magnitude := d.exponent + Ratio.digitCount 10 d.digits
  if d.digits = 0 ∨ magnitude < -400 then zero negative
  else if 400 < magnitude then infinity negative
  else ofRatio negative ((Ratio.ofNat d.digits).scaleDecimal d.exponent)

/-- The exponent after a mantissa: none, or `e` or `E`, an optional sign and digits. -/
def readExponent? : Text → Option Int
  | [] => some 0
  | c :: rest => if c = 'e' ∨ c = 'E' then Numeral.integer? rest else none

/-- A decimal text without its sign: digits with an optional point, at least one digit in all,
and an optional exponent. -/
def readMagnitude? (t : Text) : Option Decimal :=
  let before := t.takeWhile Char.isDigit
  let (after, rest) : Text × Text :=
    match t.dropWhile Char.isDigit with
    | '.' :: tail => (tail.takeWhile Char.isDigit, tail.dropWhile Char.isDigit)
    | tail => ([], tail)
  match Numeral.natural? (before ++ after), readExponent? rest with
  | some n, some e => some ⟨n, e - after.length⟩
  | _, _ => none

/-- The number of a decimal text with an optional sign, such as `-1.5e3`, `.5` or `2.`. -/
def read? : Text → Option Binary64
  | '-' :: rest => (readMagnitude? rest).map (ofDecimal true)
  | '+' :: rest => (readMagnitude? rest).map (ofDecimal false)
  | t => (readMagnitude? t).map (ofDecimal false)

end Stencil.Binary64
