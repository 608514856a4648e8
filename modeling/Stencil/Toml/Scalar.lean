import Stencil.Binary64.Decimal
import Stencil.Calendar.Rfc3339
import Stencil.Hex

/-!
# TOML scalars

The values of TOML that are written without quotes: truth values, integers, floating-point
numbers, dates and times.

## Main definitions

* `Stencil.Toml.Scalar`: a value that is not made up of others.
* `Stencil.Toml.Scalar.ofText?`: the scalar that an unquoted text writes.
-/

namespace Stencil.Toml

/-- A TOML value that is not made up of others. -/
inductive Scalar where
  | string (text : Text)
  | integer (n : Int)
  | float (x : Binary64)
  | boolean (b : Bool)
  /-- A date, a time or both, in its normal written form. -/
  | moment (text : Text)

/-! ### Digits -/

/-- Digits of a class with single underscores between them, without the underscores. -/
def digits? (p : Char → Bool) : Text → Option Text
  | [] => none
  | [c] => if p c then some [c] else none
  | c :: '_' :: rest => if p c then (digits? p rest).map (c :: ·) else none
  | c :: next :: rest => if p c then (digits? p (next :: rest)).map (c :: ·) else none

/-- Decimal digits of an integer: a single zero, or no zero in front. -/
def decimal? (t : Text) : Option Text :=
  match digits? Char.isDigit t with
  | some ['0'] => some ['0']
  | some ('0' :: _) => none
  | other => other

/-- The number that hexadecimal digits write in a base. -/
def inBase (base : Nat) (digits : Text) : Nat :=
  digits.foldl (fun n c => n * base + ((Hex.digit? c).map Fin.val).getD 0) 0

/-- A sign and what follows it. -/
def signed (t : Text) : Bool × Text :=
  match t with
  | '-' :: rest => (true, rest)
  | '+' :: rest => (false, rest)
  | _ => (false, t)

/-! ### Numbers -/

/-- An integer: decimal with an optional sign, or with a base given by `0x`, `0o` or `0b`. It
has at most 128 bits. -/
def integer? (t : Text) : Option Int := do
  let n : Int ← match t with
    | '0' :: 'x' :: rest => (digits? Hex.isDigit rest).map fun ds => (inBase 16 ds : Int)
    | '0' :: 'o' :: rest =>
      (digits? (fun c => '0' ≤ c && c ≤ '7') rest).map fun ds => (inBase 8 ds : Int)
    | '0' :: 'b' :: rest =>
      (digits? (fun c => c == '0' || c == '1') rest).map fun ds => (inBase 2 ds : Int)
    | _ =>
      let (negative, rest) := signed t
      (decimal? rest).map fun ds => if negative then -(inBase 10 ds : Int) else inBase 10 ds
  if n < 0 then Numeral.signedWord? 128 n else (Numeral.word? 128 n.toNat).map Int.ofNat

/-- The digits of an exponent with its sign: what follows `e`. -/
def exponent? (t : Text) : Option Text :=
  match t with
  | '-' :: rest => (digits? Char.isDigit rest).map ('-' :: ·)
  | '+' :: rest => digits? Char.isDigit rest
  | rest => digits? Char.isDigit rest

/-- A floating-point number in plain notation: digits before the point, then a fraction or an
exponent or both. -/
def plainFloat? (t : Text) : Option Text := do
  let isExponent (c : Char) : Bool := c == 'e' || c == 'E'
  let (mantissa, tail) := (t.takeWhile (!isExponent ·), t.dropWhile (!isExponent ·))
  let exponent ← match tail with
    | [] => some []
    | _ :: rest => (exponent? rest).map ('e' :: ·)
  match Text.cutAt '.' mantissa with
  | some (before, after) =>
    let before ← decimal? before
    let after ← digits? Char.isDigit after
    pure (before ++ '.' :: after ++ exponent)
  | none =>
    let before ← decimal? mantissa
    if tail.isEmpty then none else pure (before ++ exponent)

/-- A floating-point number; one that is too large is refused, infinity by name is not. -/
def float? (t : Text) : Option Binary64 :=
  let (negative, rest) := signed t
  if rest = "inf".toList then some (Binary64.infinity negative)
  else if rest = "nan".toList then some Binary64.nan
  else do
    let x ← Binary64.read? (Numeral.sign negative ++ (← plainFloat? rest))
    if x.isFinite then pure x else none

/-! ### Dates and times -/

/-- A time of day, of which the seconds may be missing. -/
def clock? (t : Text) : Option (Text × Text) := do
  let (hour, t) ← DateTime.digits? 2 t
  let (minute, t) ← DateTime.digits? 2 (← DateTime.expect? (· == ':') t)
  let two := Numeral.fixed 10 2
  let written := two hour ++ ':' :: two minute
  if hour < 24 ∧ minute < 60 then
    match t with
    | ':' :: rest =>
      let (second, t) ← DateTime.digits? 2 rest
      let (nano, after) ← DateTime.fraction? t
      let places := Text.trimRight (· == '0') (Numeral.fixed 10 9 nano)
      let fraction : Text :=
        if t.head? ≠ some '.' then [] else '.' :: if places = [] then ['0'] else places
      if second ≤ 60 then pure (written ++ ':' :: two second ++ fraction, after) else none
    | _ => pure (written, t)
  else none

/-- The written form of an offset. -/
def offsetText (t : Text) (o : UtcOffset) : Text :=
  if t.head? = some 'Z' ∨ t.head? = some 'z' then ['Z'] else DateTime.offsetText o

/-- A date, a time of day, or both with an optional offset; the whole of a text. -/
def moment? (t : Text) : Option Text :=
  match DateTime.date? t with
  | none => do
    let (clock, rest) ← clock? t
    if rest = [] then pure clock else none
  | some (date, rest) => do
    let written := DateTime.yearText date.year ++ '-' :: Numeral.fixed 10 2 date.month ++
      '-' :: Numeral.fixed 10 2 date.day
    match rest with
    | [] => pure written
    | c :: rest =>
      if c = 'T' ∨ c = 't' ∨ c = ' ' then
        let (clock, rest) ← clock? rest
        let written := written ++ 'T' :: clock
        if rest = [] then pure written
        else
          let (offset, after) ← DateTime.offset? rest
          if after = [] then pure (written ++ offsetText rest offset) else none
      else none

/-! ### All together -/

/-- The scalar that an unquoted text writes. -/
def Scalar.ofText? (t : Text) : Option Scalar :=
  if t = "true".toList then some (boolean true)
  else if t = "false".toList then some (boolean false)
  else ((integer? t).map integer).or (((float? t).map float).or ((moment? t).map moment))

end Stencil.Toml
