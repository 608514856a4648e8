import Stencil.Error
import Stencil.Format.Pattern

/-!
# Numbers by format text

A format text for a number is a standard specifier, one letter with an optional precision of at
most two digits, or else a custom pattern.

## Main definitions

* `Stencil.NumberStyle`: the notations that a specifier selects.
* `Stencil.Specifier`: a letter and a precision.
* `Stencil.formatInteger`, `Stencil.formatFloat`: a number written by a format text.
-/

namespace Stencil

/-! ### Specifiers -/

/-- The notations that the letter of a specifier selects. -/
inductive NumberStyle where
  /-- Decimal digits, filled with zeros: `D`. -/
  | decimal
  /-- Hexadecimal digits of the 64-bit word: `X` and `x`. -/
  | hexadecimal (capital : Bool)
  /-- Binary digits of the 64-bit word: `B`. -/
  | binary
  /-- Grouped digits and a fixed number of places: `N`. -/
  | grouped
  /-- A fixed number of places: `F`. -/
  | fixed
  /-- Scientific notation: `E` and `e`. -/
  | scientific (capital : Bool)
  /-- One hundred times the number and a percent sign: `P`. -/
  | percent
  /-- The shortest text: `G` and `R`. -/
  | general
  deriving DecidableEq

/-- The notation that a letter selects. -/
def NumberStyle.ofLetter? : Char → Option NumberStyle
  | 'D' | 'd' => some decimal
  | 'X' => some (hexadecimal true)
  | 'x' => some (hexadecimal false)
  | 'B' | 'b' => some binary
  | 'N' | 'n' => some grouped
  | 'F' | 'f' => some fixed
  | 'E' => some (scientific true)
  | 'e' => some (scientific false)
  | 'P' | 'p' => some percent
  | 'G' | 'g' | 'R' | 'r' => some general
  | _ => none

/-- A standard specifier: a letter and an optional precision. -/
structure Specifier where
  /-- The letter. -/
  letter : Char
  /-- The precision. -/
  precision : Option Nat

/-- The specifier of a format text: an ASCII letter and at most two digits. -/
def Specifier.parse? : Text → Option Specifier
  | [] => none
  | letter :: digits =>
    if letter.isAlpha ∧ digits.length ≤ 2 ∧ digits.all Char.isDigit then
      some ⟨letter, Numeral.natural? digits⟩
    else none

/-! ### Texts of a style -/

/-- A point and `count` zeros, or nothing for no zeros. -/
def zeroPlaces (count : Nat) : Text :=
  if count = 0 then [] else '.' :: List.replicate count '0'

/-- The word printed by the hexadecimal and binary styles: negative numbers are shown in two's
complement of 64 bits. -/
def twosComplement (n : Int) : Nat := if n < 0 then (UInt64.ofInt n).toNat else n.toNat

/-- A floating-point number in scientific notation with an explicit sign and at least three
digits in the exponent. -/
def scientificText (x : Binary64) (count : Nat) (capital : Bool) : Text :=
  let (mantissa, exponent) := x.scientific count
  mantissa ++ (if capital then 'E' else 'e') :: (if exponent < 0 then '-' else '+') ::
    Numeral.fixed 10 3 exponent.natAbs

/-- A floating-point number times one hundred, with a percent sign. -/
def percentText (x : Binary64) (count : Nat) : Text :=
  (x.mul (Binary64.ofInt 100)).fixed count ++ " %".toList

/-- A floating-point number with grouped digits before the point; a zero has no sign. -/
def groupedText (x : Binary64) (count : Nat) : Text :=
  let (integer, fraction) := x.places count
  Numeral.sign x.isBelowZero ++ Binary64.pointed (Numeral.grouped integer, fraction)

/-! ### Integers -/

/-- An integer in a notation with an optional precision. -/
def integerInStyle (n : Int) (precision : Option Nat) : NumberStyle → Text
  | .decimal => Numeral.sign (n < 0) ++ Numeral.fixed 10 (precision.getD 0) n.natAbs
  | .hexadecimal true =>
    Numeral.capitals (Numeral.fixed 16 (precision.getD 0) (twosComplement n))
  | .hexadecimal false => Numeral.fixed 16 (precision.getD 0) (twosComplement n)
  | .binary => Numeral.fixed 2 (precision.getD 0) (twosComplement n)
  | .grouped =>
    Numeral.sign (n < 0) ++ Numeral.grouped (Numeral.decimal n.natAbs) ++
      zeroPlaces (precision.getD 2)
  | .fixed => Numeral.signed n ++ zeroPlaces (precision.getD 2)
  | .scientific capital => scientificText (Binary64.ofInt n) (precision.getD 6) capital
  | .percent => percentText (Binary64.ofInt n) (precision.getD 2)
  | .general => Numeral.signed n

/-- An integer by a custom pattern; a pattern that scales works on the nearest floating-point
number. -/
def integerByPattern (n : Int) (spec : Text) : Text :=
  match NumberPattern.parse? spec with
  | none => Numeral.sign (n < 0) ++ spec
  | some p =>
    if p.scale = 0 then p.render (n < 0) (Numeral.decimal n.natAbs, [])
    else p.renderFloat (Binary64.ofInt n)

/-- An integer written by a format text. -/
def formatInteger (n : Int) (spec : Text) : ExpandResult Text :=
  if spec = [] then .ok (Numeral.signed n)
  else
    match Specifier.parse? spec with
    | none => .ok (integerByPattern n spec)
    | some s =>
      match NumberStyle.ofLetter? s.letter with
      | none => .error (.invalidFormat spec .integer)
      | some style => .ok (integerInStyle n s.precision style)

/-! ### Floating-point numbers -/

/-- A finite floating-point number in a notation with an optional precision; the notations of
words are for integers only. -/
def floatInStyle? (x : Binary64) (precision : Option Nat) : NumberStyle → Option Text
  | .decimal | .hexadecimal _ | .binary => none
  | .grouped => some (groupedText x (precision.getD 2))
  | .fixed => some (x.fixed (precision.getD 2))
  | .scientific capital => some (scientificText x (precision.getD 6) capital)
  | .percent => some (percentText x (precision.getD 2))
  | .general => some x.display

/-- A finite floating-point number by a custom pattern. -/
def floatByPattern (x : Binary64) (spec : Text) : Text :=
  match NumberPattern.parse? spec with
  | none => Numeral.sign x.isBelowZero ++ spec
  | some p => p.renderFloat x

/-- A floating-point number written by a format text, which infinities and NaNs ignore. -/
def formatFloat (x : Binary64) (spec : Text) : ExpandResult Text :=
  if spec = [] ∨ !x.isFinite then .ok x.display
  else
    match Specifier.parse? spec with
    | none => .ok (floatByPattern x spec)
    | some s =>
      match (NumberStyle.ofLetter? s.letter).bind (floatInStyle? x s.precision) with
      | none => .error (.invalidFormat spec .float)
      | some text => .ok text

end Stencil
