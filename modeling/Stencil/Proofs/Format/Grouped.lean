import Stencil.Proofs.Binary64.Powers
import Stencil.Proofs.Format.Pattern
import Stencil.Proofs.Format.Reading

/-!
# Grouped and fixed texts of floating-point numbers

The grouped notation writes the digits of the fixed notation, with commas before the point. The
sign comes about in two ways: the fixed notation copies the sign bit of the number, the grouped
one compares the number with zero. A number below zero that is rounded to zero keeps its minus
sign in both. Only negative zero has the bit without being below zero, so it is the one number
whose two texts differ by more than the commas.

## Main definitions

* `Stencil.Binary64.MatchesFixed`: a grouped text against a fixed one.

## Main results

* `Binary64.isBelowZero_eq_negative_iff`: the numbers whose two signs agree.
* `Binary64.matchesFixed`: the texts of a finite number with so many places.
* `formatFloat_grouped`: the texts of the specifiers.
-/

namespace Stencil

open Numeral

variable {x : Binary64} {digits : Text} {letter : Char}

namespace Binary64

/-- A grouped text **matches a fixed one** of a number with `count` places. -/
structure MatchesFixed (x : Binary64) (count : ℕ) (text fixedText : Text) : Prop where
  /-- Commas cut the digits before the point in threes, and each notation has its own sign. -/
  inThrees : ∃ shown integer fraction, InThrees shown integer ∧ AreDigits (integer, fraction) ∧
    fraction.length = count ∧ text = sign x.isBelowZero ++ pointed (shown, fraction) ∧
    fixedText = sign x.negative ++ pointed (integer, fraction)
  /-- Nothing but the commas is added to the fixed text, except for negative zero. -/
  filter_eq_iff : text.filter (· ≠ ',') = fixedText ↔ ¬ (x.negative = true ∧ x.isZero = true)
  /-- The text of negative zero lacks the minus sign. -/
  negative_zero : x.negative = true → x.isZero = true →
    fixedText = '-' :: text.filter (· ≠ ',')

/-! ### Signs -/

/-- **The sign bit** of a finite number tells whether it is below zero, except for negative
zero. -/
theorem isBelowZero_eq_negative_iff (hx : x.isFinite = true) :
    x.isBelowZero = x.negative ↔ ¬ (x.negative = true ∧ x.isZero = true) := by
  rw [isBelowZero, isNaN_eq_false hx]
  cases x.negative <;> cases x.isZero <;> decide

/-- Signs are told apart. -/
theorem sign_inj {negative negative' : Bool} :
    sign negative = sign negative' ↔ negative = negative' := by
  cases negative <;> cases negative' <;> decide

/-! ### Digits -/

/-- There are as many places as were asked for. -/
theorem length_ratioPlaces (a : Ratio) (count : ℕ) :
    (ratioPlaces a count).2.length = count := by
  rw [ratioPlaces]
  split
  · next hnone => exact hnone.symm
  · next hsome =>
    exact length_fixed_of_lt (by decide) (Nat.pos_of_ne_zero hsome)
      (Nat.mod_lt _ (Nat.pow_pos (by decide)))

/-- A sign has no comma. -/
theorem filter_sign (negative : Bool) : (sign negative).filter (· ≠ ',') = sign negative := by
  cases negative <;> rfl

/-- **The two texts** of a finite number. -/
theorem matchesFixed (hx : x.isFinite = true) (count : ℕ) :
    x.MatchesFixed count (groupedText x count) (x.fixed count) := by
  have hplaces : x.places count = ratioPlaces x.toRatio count := if_pos hx
  have hdigits := areDigits_ratioPlaces x.toRatio count
  have hsigns := isBelowZero_eq_negative_iff hx
  have htext : groupedText x count = sign x.isBelowZero ++
      pointed (grouped (ratioPlaces x.toRatio count).1, (ratioPlaces x.toRatio count).2) := by
    rw [groupedText, hplaces]
  have hfixed : x.fixed count = sign x.negative ++ pointed (ratioPlaces x.toRatio count) := by
    rw [fixed, signText, isNaN_eq_false hx, hplaces, Bool.not_false, Bool.and_true]
  have hfilter : (groupedText x count).filter (· ≠ ',') =
      sign x.isBelowZero ++ pointed (ratioPlaces x.toRatio count) := by
    rw [htext, List.filter_append, filter_sign,
      filter_pointed _ (Text.not_mem_of_all hdigits.fraction rfl),
      grouped_filter _ (Text.not_mem_of_all hdigits.integer rfl)]
  constructor
  case inThrees =>
    exact ⟨_, _, _, inThrees_grouped _, hdigits, length_ratioPlaces _ _, htext, hfixed⟩
  case filter_eq_iff => rw [hfilter, hfixed, List.append_cancel_right_eq, sign_inj, hsigns]
  case negative_zero =>
    intro hnegative hzero
    have hbelow : x.isBelowZero = false := by
      rw [isBelowZero, hzero, Bool.not_true, Bool.and_false, Bool.false_and]
    rw [hfilter, hfixed, hnegative, hbelow]
    rfl

end Binary64

/-! ### Specifiers -/

/-- A specifier of a notation is written in this notation. -/
theorem formatFloat_of_ofLetter? {style : NumberStyle} {text : Text} (hx : x.isFinite = true)
    (hstyle : NumberStyle.ofLetter? letter = some style) (hlength : digits.length ≤ 2)
    (hdigits : digits.all Char.isDigit = true)
    (htext : floatInStyle? x (natural? digits) style = some text) :
    formatFloat x (letter :: digits) = .ok text := by
  rw [formatFloat_of_specifier hx (parse?_cons (isAlpha_of_ofLetter? hstyle) hlength hdigits),
    hstyle, Option.bind_some, htext]
  rfl

/-- **Grouped texts are fixed texts with commas** that cut the digits before the point in
threes, for every finite number other than negative zero and every precision of at most two
digits. -/
theorem formatFloat_grouped (hx : x.isFinite = true) (hlength : digits.length ≤ 2)
    (hdigits : digits.all Char.isDigit = true) :
    ∀ grouped ∈ ['N', 'n'], ∀ fixed ∈ ['F', 'f'], ∃ text fixedText,
      formatFloat x (grouped :: digits) = .ok text ∧
      formatFloat x (fixed :: digits) = .ok fixedText ∧
      x.MatchesFixed ((natural? digits).getD 2) text fixedText := by
  intro grouped hgrouped fixed hfixed
  have hgroupedStyle : NumberStyle.ofLetter? grouped = some .grouped := by
    rcases List.mem_pair.mp hgrouped with rfl | rfl <;> rfl
  have hfixedStyle : NumberStyle.ofLetter? fixed = some .fixed := by
    rcases List.mem_pair.mp hfixed with rfl | rfl <;> rfl
  exact ⟨_, _, formatFloat_of_ofLetter? hx hgroupedStyle hlength hdigits rfl,
    formatFloat_of_ofLetter? hx hfixedStyle hlength hdigits rfl, Binary64.matchesFixed hx _⟩

/-- A number that is rounded up to one more digit, and so to one more group. -/
theorem formatFloat_grouped_carry :
    (Binary64.ofBits 0xC08F3FFBE76C8B44).isFinite = true ∧ "2".toList.length ≤ 2 ∧
      "2".toList.all Char.isDigit = true ∧
      ∃ text fixedText, formatFloat (.ofBits 0xC08F3FFBE76C8B44) "N2".toList = .ok text ∧
        formatFloat (.ofBits 0xC08F3FFBE76C8B44) "F2".toList = .ok fixedText ∧
        (Binary64.ofBits 0xC08F3FFBE76C8B44).MatchesFixed 2 text fixedText ∧
        text = "-1,000.00".toList ∧ fixedText = "-1000.00".toList := by
  have hfinite : (Binary64.ofBits 0xC08F3FFBE76C8B44).isFinite = true := rfl
  obtain ⟨text, fixedText, htext, hfixed, hmatches⟩ :=
    formatFloat_grouped hfinite (by decide : "2".toList.length ≤ 2) rfl 'N' (by decide) 'F'
      (by decide)
  have hshown : formatFloat (.ofBits 0xC08F3FFBE76C8B44) ['N', '2'] =
      .ok "-1,000.00".toList := by
    decide +kernel
  have hplain : formatFloat (.ofBits 0xC08F3FFBE76C8B44) ['F', '2'] =
      .ok "-1000.00".toList := by
    decide +kernel
  exact ⟨hfinite, by decide, rfl, text, fixedText, htext, hfixed, hmatches,
    Except.ok.inj (htext.symm.trans hshown), Except.ok.inj (hfixed.symm.trans hplain)⟩

/-- **Negative zero** has a minus sign in the fixed notation, but none in the grouped one. -/
theorem formatFloat_grouped_negative_zero :
    (Binary64.zero true).isFinite = true ∧
      formatFloat (.zero true) "N".toList = .ok "0.00".toList ∧
      formatFloat (.zero true) "F".toList = .ok "-0.00".toList ∧
      "0.00".toList.filter (· ≠ ',') ≠ "-0.00".toList := by
  refine ⟨rfl, ?_, ?_, by decide⟩ <;> decide +kernel

end Stencil
