import Mathlib
import Stencil.Hex

/-!
# Hexadecimal digits of either case

A digit is read in both cases and written in lower case. So a character has the value of a
digit exactly if it is the character of that digit once it is put in lower case, and this
carries over to texts of digits. Decimal digits and the exponent mark of a number are
hexadecimal digits, too.

## Main results

* `digit?_eq_some_iff`, `mapM_digit?_eq_some_iff`: the texts that write some digits.
* `isDigit_digitChar`, `isMark_digitChar_iff`: the digits that numbers are written with.
-/

namespace Stencil.Hex

variable {c x : Char} {d : Digit} {t : Text} {digits : List Digit}

/-! ### Letters of either case -/

/-- A digit has one value in both cases. -/
theorem digit?_toLower (c : Char) : digit? c.toLower = digit? c := by
  by_cases h : c.val ≥ 'A'.val ∧ c.val ≤ 'Z'.val
  · have hlow : 65 ≤ c.toNat := UInt32.le_iff_toNat_le.mp h.1
    have hhigh : c.toNat ≤ 90 := UInt32.le_iff_toNat_le.mp h.2
    have hval : c.toLower.toNat = c.toNat + 32 := by
      have hsum : c.val.toNat + 32 < 4294967296 := by
        have : c.val.toNat ≤ 90 := hhigh
        omega
      rw [Char.toLower, dif_pos h]
      exact (UInt32.toNat_add c.val 32).trans (Nat.mod_eq_of_lt hsum)
    simp only [digit?, hval]
    split_ifs <;> first | omega | rfl
  · rw [Char.toLower, dif_neg h]

/-- Only small letters have another character that becomes them. -/
theorem eq_of_toLower_eq (hx : x.isLower = false) (h : c.toLower = x) : c = x := by
  have hupper : ¬ c.isUpper = true := by
    intro hc
    rw [← h, Char.isLower_toLower_eq_isAlpha, Char.isAlpha, hc, Bool.true_or] at hx
    exact Bool.false_ne_true hx.symm
  rwa [Char.toLower_eq_of_not_isUpper hupper] at h

/-- Digits stand below `g` in the order of characters. -/
theorem toNat_lt_of_digit? (h : digit? c = some d) : c.toNat < 103 := by
  simp only [digit?] at h
  split_ifs at h <;> omega

/-- **A character has the value of a digit** if in lower case it is the character of the
digit. -/
theorem digit?_eq_some_iff : digit? c = some d ↔ c.toLower = digitChar d := by
  constructor
  · intro h
    have hall : ∀ n < 103, ∀ e, digit? (Char.ofNat n) = some e →
        (Char.ofNat n).toLower = digitChar e := by decide +kernel
    have hchar := hall c.toNat (toNat_lt_of_digit? h) d
    rw [Char.ofNat_toNat] at hchar
    exact hchar h
  · intro h
    rw [← digit?_toLower, h, digit?_digitChar]

/-- **A text writes digits** if in lower case it consists of their characters. -/
theorem mapM_digit?_eq_some_iff :
    t.mapM digit? = some digits ↔ t.map Char.toLower = digits.map digitChar := by
  induction t generalizing digits with
  | nil => cases digits <;> simp
  | cons c t ih =>
    simp only [List.mapM_cons, Option.bind_eq_bind, Option.bind_eq_some_iff, Option.pure_def,
      Option.some.injEq]
    cases digits with
    | nil => simp
    | cons d digits => simp [digit?_eq_some_iff, ih]

/-- A digit is determined by its character. -/
theorem digitChar_injective : Function.Injective digitChar := by
  intro d e h
  have hread := digit?_digitChar d
  rw [h, digit?_digitChar] at hread
  exact (Option.some.inj hread).symm

/-- What is no digit does not occur among the characters of digits. -/
theorem not_mem_map_digitChar (h : digit? c = none) : c ∉ digits.map digitChar := by
  intro hmem
  obtain ⟨d, -, rfl⟩ := List.mem_map.mp hmem
  rw [digit?_digitChar] at h
  exact Option.some_ne_none d h

/-! ### Digits of numbers -/

/-- Decimal digits are hexadecimal ones. -/
theorem digit?_ne_none_of_isDigit (h : c.isDigit = true) : digit? c ≠ none := by
  have hrange : 48 ≤ c.toNat ∧ c.toNat ≤ 57 := by
    simpa [Char.isDigit, UInt32.le_iff_toNat_le] using h
  simp only [digit?, dif_pos hrange]
  exact Option.some_ne_none _

/-- The digits below ten are written as decimal ones, and no others. -/
theorem isDigit_digitChar (d : Digit) : (digitChar d).isDigit = decide (d.val < 10) := by
  revert d
  decide

/-- The mark of an exponent is a digit, but not the capital one. -/
theorem isMark_digitChar_iff : digitChar d = 'e' ∨ digitChar d = 'E' ↔ d.val = 14 := by
  revert d
  decide

end Stencil.Hex
