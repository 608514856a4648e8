import Stencil.Text

/-!
# Numerals

Positional numerals as texts: writing a number in a base, padding it with zeros, separating
its digits into groups of three, and reading decimal numerals back.

## Main definitions

* `Stencil.Numeral.decimal`, `Stencil.Numeral.signed`: the canonical decimal numeral.
* `Stencil.Numeral.fixed`: a numeral in a base, filled with zeros to a least width.
* `Stencil.Numeral.grouped`: a comma between every group of three digits.
* `Stencil.Numeral.natural?`, `Stencil.Numeral.integer?`: reading decimal numerals.
* `Stencil.Numeral.word?`, `Stencil.Numeral.signedWord?`: the numbers that fit a word.

## Main results

* `Stencil.Numeral.natural?_decimal`: what `decimal` writes reads back.
* `Stencil.Numeral.grouped_filter`: deleting the commas undoes the grouping.
-/

namespace Stencil.Numeral

/-! ### Writing -/

/-- The decimal numeral of a number, without leading zeros. -/
def decimal (n : Nat) : Text := Nat.toDigits 10 n

/-- The numeral of `n` in `base`, filled with zeros on the left to at least `width` digits. -/
def fixed (base width n : Nat) : Text := Text.padLeft '0' width (Nat.toDigits base n)

/-- The minus sign of a negative number. -/
def sign (negative : Bool) : Text := if negative then ['-'] else []

/-- The decimal numeral of an integer, with a minus sign before a negative one. -/
def signed (n : Int) : Text := sign (n < 0) ++ decimal n.natAbs

/-- The letters of a numeral as capitals: `7f` becomes `7F`. -/
def capitals (digits : Text) : Text := digits.map Char.toUpper

/-- Digits with a comma before every group of three, counted from the right. -/
def grouped : Text → Text
  | [] => []
  | [c] => [c]
  | c :: next :: rest =>
    if (next :: rest).length % 3 = 0 then c :: ',' :: grouped (next :: rest)
    else c :: grouped (next :: rest)

/-! ### Reading -/

/-- The number written by a non-empty text of ASCII digits, leading zeros included. -/
def natural? (t : Text) : Option Nat :=
  if t ≠ [] ∧ t.all Char.isDigit then some (Nat.ofDigitChars 10 t 0) else none

/-- The number written by ASCII digits after an optional plus or minus sign. -/
def integer? : Text → Option Int
  | '-' :: digits => (natural? digits).map fun n => -(n : Int)
  | '+' :: digits => (natural? digits).map fun n => (n : Int)
  | digits => (natural? digits).map fun n => (n : Int)

/-! ### Words -/

/-- A natural number, if it fits an unsigned word of a number of bits. -/
def word? (bits n : Nat) : Option Nat := if n < Nat.pow 2 bits then some n else none

/-- An integer, if it fits a signed word of a number of bits. -/
def signedWord? (bits : Nat) (n : Int) : Option Int :=
  if -(Nat.pow 2 (bits - 1) : Int) ≤ n ∧ n < Nat.pow 2 (bits - 1) then some n else none

/-- An integer, if it fits a signed word of 64 bits. -/
def int64? (n : Int) : Option Int64 := (signedWord? 64 n).map Int64.ofInt

/-! ### Lemmas -/

/-- Every character of a decimal numeral is an ASCII digit. -/
theorem isDigit_of_mem_decimal {n : Nat} {c : Char} (h : c ∈ decimal n) : c.isDigit = true :=
  Nat.isDigit_of_mem_toDigits (by decide) (by decide) h

/-- What `decimal` writes reads back. -/
theorem natural?_decimal (n : Nat) : natural? (decimal n) = some n := by
  have hne : decimal n ≠ [] := Nat.toDigits_ne_nil
  have hall : (decimal n).all Char.isDigit = true :=
    List.all_eq_true.2 fun _ h => isDigit_of_mem_decimal h
  simp only [natural?, hne, hall, ne_eq, not_false_eq_true, and_self, if_true]
  exact congrArg some Nat.ofDigitChars_ten_toDigits

/-- Deleting the commas undoes the grouping. -/
theorem grouped_filter (t : Text) (h : ',' ∉ t) : (grouped t).filter (· ≠ ',') = t := by
  induction t using grouped.induct with
  | case1 => rfl
  | case2 c =>
    have hc : c ≠ ',' := fun e => h (by simp [e])
    simp [grouped, hc]
  | case3 c next rest hmod ih =>
    have hc : c ≠ ',' := fun e => h (by simp [e])
    have := ih fun hm => h (List.mem_cons_of_mem _ hm)
    rw [grouped, if_pos hmod, List.filter_cons_of_pos (by simpa using hc),
      List.filter_cons_of_neg (by simp), this]
  | case4 c next rest hmod ih =>
    have hc : c ≠ ',' := fun e => h (by simp [e])
    have := ih fun hm => h (List.mem_cons_of_mem _ hm)
    rw [grouped, if_neg hmod, List.filter_cons_of_pos (by simpa using hc), this]

end Stencil.Numeral
