import Stencil.Binary64.Decimal

/-!
# Custom numeric patterns

Patterns such as `#,##0.00` or `[000]`. The digit slots `0` and `#` say how many digits stand
before and after the point, a comma between them asks for grouping, and what stands around them
is copied. Every `%` around the slots multiplies the number by one hundred, and every comma
directly before the point or after the last slot divides it by one thousand.

## Main definitions

* `Stencil.NumberPattern`: what a pattern asks for.
* `Stencil.NumberPattern.parse?`: reading a pattern with at least one slot.
* `Stencil.NumberPattern.render`: writing given digits as a pattern asks.
-/

namespace Stencil

/-- A custom numeric pattern with at least one digit slot. -/
structure NumberPattern where
  /-- The text before the first slot. -/
  before : Text
  /-- The text after the last slot. -/
  after : Text
  /-- The least number of digits before the point. -/
  minInteger : Nat
  /-- Whether the digits before the point are grouped. -/
  grouping : Bool
  /-- The least number of digits after the point. -/
  minFraction : Nat
  /-- The greatest number of digits after the point. -/
  maxFraction : Nat
  /-- The power of ten applied to the number: two for every percent sign, minus three for every
  scaling comma. -/
  scale : Int

namespace NumberPattern

/-- A digit slot. -/
def isSlot (c : Char) : Bool := c == '0' || c == '#'

/-- The pattern of a text, or `none` where the text has no slot and is literal as a whole. A
point directly before the first slot belongs to the slots. -/
def parse? (spec : Text) : Option NumberPattern :=
  let opening := spec.takeWhile (!isSlot ·)
  let slotted := spec.dropWhile (!isSlot ·)
  if slotted.isEmpty then none
  else
    let tail := (slotted.reverse.takeWhile (!isSlot ·)).reverse
    let slots := Text.trimRight (!isSlot ·) slotted
    let (before, body) : Text × Text :=
      if opening.getLast? = some '.' then (opening.dropLast, '.' :: slots)
      else (opening, slots)
    let (integer, fraction) := (Text.cutAt '.' body).getD (body, [])
    let grouped := Text.trimRight (· == ',') integer
    let after := tail.dropWhile (· == ',')
    let commas := (integer.length - grouped.length) + (tail.length - after.length)
    let percents := before.count '%' + after.count '%'
    some ⟨before, after, grouped.count '0', grouped.contains ',', fraction.count '0',
      fraction.countP isSlot, 2 * percents - 3 * commas⟩

/-! ### Writing -/

/-- The digits after the point: zeros at the end are dropped down to the least number, or added
up to it. -/
def fraction (p : NumberPattern) (digits : Text) : Text :=
  let kept := max p.minFraction (Text.trimRight (· == '0') digits).length
  digits.take kept ++ List.replicate (kept - digits.length) '0'

/-- The digits before the point: no zeros in front but those that the least number asks for,
and grouped if the pattern says so. -/
def integer (p : NumberPattern) (digits : Text) : Text :=
  let padded := Text.padLeft '0' p.minInteger (digits.dropWhile (· == '0'))
  if p.grouping then Numeral.grouped padded else padded

/-- The sign of a number whose printed digits are given: no minus stands before a zero. -/
def sign (negative : Bool) (integer fraction : Text) : Text :=
  let isZero := (integer.all fun c => c == '0' || c == ',') && fraction.all (· == '0')
  Numeral.sign (negative && !isZero)

/-- The digits before and after the point, written as the pattern asks. -/
def render (p : NumberPattern) (negative : Bool) (digits : Text × Text) : Text :=
  let integer := p.integer digits.1
  let fraction := p.fraction digits.2
  sign negative integer fraction ++ p.before ++ Binary64.pointed (integer, fraction) ++ p.after

/-- A floating-point number, scaled and rounded as the pattern asks. -/
def renderFloat (p : NumberPattern) (x : Binary64) : Text :=
  let scaled := x.mul (Binary64.powTen p.scale)
  p.render scaled.isBelowZero (scaled.places p.maxFraction)

end NumberPattern

end Stencil
