import Stencil.Proofs.Format.Reading
import Stencil.Proofs.Numeral

/-!
# Standard specifiers of integers

No standard specifier loses a digit of an integer. Decimal, hexadecimal and binary texts are
numerals with at least as many digits as the precision says, and no zeros in front beyond
those; hexadecimal and binary ones write the word of 64 bits that holds the integer. The
general and the fixed notation start with the canonical numeral, to which the fixed one adds a
fraction of zeros, and the grouped one adds commas to that.

## Main definitions

* `Stencil.StandardTexts`: what the specifiers print for an integer with a precision.

## Main results

* `twosComplement_eq`: the word of an integer is the integer modulo `2 ^ 64`.
* `formatInteger_standard`: the texts of all specifiers that print exact integers.
-/

namespace Stencil

open Numeral

variable {n : ℤ} {digits : Text}

/-- **The word** of an integer of 64 bits, with or without a sign. -/
theorem twosComplement_eq (hn : n < 2 ^ 64) : twosComplement n = (n % 2 ^ 64).toNat := by
  rw [twosComplement]
  split
  · exact Nat.mod_eq_of_lt (by omega)
  · omega

/-- What the standard specifiers **print for an integer** with the precision that some digits
write. -/
structure StandardTexts (n : ℤ) (digits : Text) : Prop where
  /-- Decimal texts have as many digits as asked for or needed, and read back. -/
  decimal : ∀ letter ∈ ['D', 'd'], ∃ body,
    formatInteger n (letter :: digits) = .ok (sign (n < 0) ++ body) ∧
      IsNumeral decimalDigits (max ((natural? digits).getD 0) 1) body n.natAbs ∧
      body.length = max ((natural? digits).getD 0) (decimal n.natAbs).length ∧
      integer? (sign (n < 0) ++ body) = some n
  /-- General texts are canonical. -/
  general : ∀ letter ∈ ['G', 'g', 'R', 'r'], ∃ text,
    formatInteger n (letter :: digits) = .ok text ∧ IsCanonical text n
  /-- So is the text of the empty format. -/
  empty : ∃ text, formatInteger n [] = .ok text ∧ IsCanonical text n
  /-- Hexadecimal texts write the word of the integer with letters in the case of the
  specifier. -/
  hexadecimal : ∀ capital, ∃ text,
    formatInteger n ((if capital then 'X' else 'x') :: digits) = .ok text ∧
      IsNumeral (hexadecimalDigits capital) (max ((natural? digits).getD 0) 1) text
        (n % 2 ^ 64).toNat
  /-- Binary texts write it too. -/
  binary : ∀ letter ∈ ['B', 'b'], ∃ text, formatInteger n (letter :: digits) = .ok text ∧
    IsNumeral binaryDigits (max ((natural? digits).getD 0) 1) text (n % 2 ^ 64).toNat
  /-- Fixed texts add a fraction of zeros, two of them unless there is a precision. -/
  fixed : ∀ letter ∈ ['F', 'f'], ∃ text,
    formatInteger n (letter :: digits) = .ok (text ++
      if (natural? digits).getD 2 = 0 then []
      else '.' :: List.replicate ((natural? digits).getD 2) '0') ∧ IsCanonical text n
  /-- Grouped texts are fixed ones with the digits before the point in threes. -/
  grouped : ∀ letter ∈ ['N', 'n'], ∃ text fixedText shown integer rest,
    formatInteger n (letter :: digits) = .ok text ∧
      formatInteger n ('F' :: digits) = .ok fixedText ∧ text.filter (· ≠ ',') = fixedText ∧
      text = sign (n < 0) ++ shown ++ rest ∧ fixedText = sign (n < 0) ++ integer ++ rest ∧
      InThrees shown integer ∧ IsNumeral decimalDigits 1 integer n.natAbs

/-! ### The notations -/

/-- The hexadecimal notation writes a numeral of the word. -/
theorem isNumeral_hexadecimal (capital : Bool) (precision : Option ℕ) (hn : n < 2 ^ 64) :
    IsNumeral (hexadecimalDigits capital) (max (precision.getD 0) 1)
      (integerInStyle n precision (.hexadecimal capital)) (n % 2 ^ 64).toNat := by
  rw [← twosComplement_eq hn]
  cases capital
  · have hnumeral := isNumeral_fixed (by decide) listsDigits_hexadecimal (precision.getD 0)
      (twosComplement n)
    rwa [List.map_id] at hnumeral
  · exact isNumeral_fixed (by decide) listsDigits_capitals (precision.getD 0)
      (twosComplement n)

/-- The binary notation writes a numeral of the word. -/
theorem isNumeral_binary (precision : Option ℕ) (hn : n < 2 ^ 64) :
    IsNumeral binaryDigits (max (precision.getD 0) 1) (integerInStyle n precision .binary)
      (n % 2 ^ 64).toNat := by
  rw [← twosComplement_eq hn]
  have hnumeral := isNumeral_fixed (by decide) listsDigits_binary (precision.getD 0)
    (twosComplement n)
  rwa [List.map_id] at hnumeral

/-- The decimal notation writes a numeral of the number. -/
theorem isNumeral_fixed_decimal (width n : ℕ) :
    IsNumeral decimalDigits (max width 1) (Numeral.fixed 10 width n) n := by
  have hnumeral := isNumeral_fixed (by decide) listsDigits_decimal width n
  rwa [List.map_id] at hnumeral

/-- Only the grouping puts commas into a text. -/
theorem filter_grouped (n : ℤ) (precision : Option ℕ) :
    (integerInStyle n precision .grouped).filter (· ≠ ',') =
      integerInStyle n precision .fixed := by
  have hsign : (sign (n < 0)).filter (· ≠ ',') = sign (n < 0) := by
    rw [sign]
    split <;> rfl
  have hdigits : ',' ∉ decimal n.natAbs := fun hmem =>
    absurd (isDigit_of_mem_decimal hmem) (by decide)
  have hzeros : (zeroPlaces (precision.getD 2)).filter (· ≠ ',') =
      zeroPlaces (precision.getD 2) := by
    rw [zeroPlaces]
    split
    · rfl
    · rw [List.filter_cons_of_pos (by decide), List.filter_replicate_of_pos (by decide)]
  simp only [integerInStyle, List.filter_append]
  rw [hsign, grouped_filter _ hdigits, hzeros, signed]

/-! ### All specifiers -/

/-- **Standard specifiers lose nothing**, for every integer that fits a word of 64 bits and
every precision of at most two digits. -/
theorem formatInteger_standard (hn : n < 2 ^ 64) (hlength : digits.length ≤ 2)
    (hdigits : digits.all Char.isDigit = true) : StandardTexts n digits := by
  have hformat : ∀ {letter style}, NumberStyle.ofLetter? letter = some style →
      formatInteger n (letter :: digits) = .ok (integerInStyle n (natural? digits) style) :=
    fun hstyle => formatInteger_of_ofLetter? hstyle hlength hdigits n
  constructor
  case decimal =>
    intro letter hletter
    have hstyle : NumberStyle.ofLetter? letter = some .decimal := by
      rcases List.mem_pair.mp hletter with rfl | rfl <;> rfl
    exact ⟨_, hformat hstyle, isNumeral_fixed_decimal _ _, length_fixed _ _ _,
      integer?_signed_fixed _ n⟩
  case general =>
    intro letter hletter
    have hstyle : NumberStyle.ofLetter? letter = some .general := by
      simp only [List.mem_cons, List.not_mem_nil, or_false] at hletter
      rcases hletter with rfl | rfl | rfl | rfl <;> rfl
    exact ⟨_, hformat hstyle, isCanonical_signed n⟩
  case empty => exact ⟨_, if_pos rfl, isCanonical_signed n⟩
  case hexadecimal =>
    intro capital
    have hstyle : NumberStyle.ofLetter? (if capital then 'X' else 'x') =
        some (.hexadecimal capital) := by
      cases capital <;> rfl
    exact ⟨_, hformat hstyle, isNumeral_hexadecimal capital _ hn⟩
  case binary =>
    intro letter hletter
    have hstyle : NumberStyle.ofLetter? letter = some .binary := by
      rcases List.mem_pair.mp hletter with rfl | rfl <;> rfl
    exact ⟨_, hformat hstyle, isNumeral_binary _ hn⟩
  case fixed =>
    intro letter hletter
    have hstyle : NumberStyle.ofLetter? letter = some .fixed := by
      rcases List.mem_pair.mp hletter with rfl | rfl <;> rfl
    exact ⟨signed n, hformat hstyle, isCanonical_signed n⟩
  case grouped =>
    intro letter hletter
    have hstyle : NumberStyle.ofLetter? letter = some .grouped := by
      rcases List.mem_pair.mp hletter with rfl | rfl <;> rfl
    have hfixed : NumberStyle.ofLetter? 'F' = some .fixed := rfl
    exact ⟨_, _, grouped (decimal n.natAbs), decimal n.natAbs, _, hformat hstyle,
      hformat hfixed, filter_grouped n _, rfl, rfl, inThrees_grouped _, isNumeral_decimal _⟩

/-- The least integer of 64 bits with twenty digits. -/
theorem formatInteger_standard_least :
    (-9223372036854775808 : ℤ) < 2 ^ 64 ∧ "20".toList.length ≤ 2 ∧
      "20".toList.all Char.isDigit = true ∧ StandardTexts (-9223372036854775808) "20".toList :=
  ⟨by decide, by decide, rfl, formatInteger_standard (by decide) (by decide) rfl⟩

end Stencil
