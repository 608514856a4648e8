import Stencil.Proofs.Binary64.Natural
import Stencil.Proofs.Format.Reading

/-!
# Integers and floating-point numbers agree

Up to `2 ^ 53` every integer is a floating-point number. The two kinds are written by different
means: an integer by its numeral and zeros for the places, a floating-point number by rounding
its exact value to so many places, or by a search for the fewest digits that read back. The
texts are the same nevertheless, as long as the format text asks for a notation that both kinds
have.

## Main definitions

* `Stencil.Binary64.IsExact`: a floating-point number that is an integer.

## Main results

* `IsExact.places`, `IsExact.display`: what is written for such a number.
* `NumberPattern.render_zeros`: a pattern makes nothing of zeros after the point.
* `formatInteger_eq_formatFloat_iff`: the format texts that write both kinds alike.
-/

namespace Stencil

open Numeral Binary64

variable {n : ℤ} {x : Binary64} {letter : Char} {precision : Option ℕ} {spec : Text}

/-! ### Exact integers -/

namespace Binary64

/-- A floating-point number **is an integer** if it has its sign and its magnitude. Zero has no
sign.
-/
structure IsExact (x : Binary64) (n : ℤ) : Prop where
  /-- It is finite. -/
  isFinite : x.isFinite = true
  /-- It has the sign of the integer. -/
  negative : x.negative = decide (n < 0)
  /-- It is not rounded. -/
  magnitude : x.magnitude = n.natAbs

/-- The integers up to `2 ^ 53` are representable. -/
theorem representable_of_natAbs_le (hn : n.natAbs ≤ 2 ^ 53) : Representable n := by
  obtain ⟨m, k, hm, heq⟩ := representable_of_le hn 0
  rw [pow_zero, mul_one, Int.natAbs_natCast] at heq
  exact ⟨m, k, hm, heq⟩

/-- **Integers up to `2 ^ 53`** are exact. -/
theorem isExact_ofInt (hn : n.natAbs ≤ 2 ^ 53) : (ofInt n).IsExact n where
  isFinite := isFinite_ofInt (hn.trans_lt (by decide))
  negative := negative_ofInt n
  magnitude := magnitude_ofInt (hn.trans_lt (by decide)) (representable_of_natAbs_le hn)

/-- They stay exact when a pattern does not scale them. -/
theorem isExact_ofInt_mul (hn : n.natAbs ≤ 2 ^ 53) : ((ofInt n).mul (powTen 0)).IsExact n := by
  have hone : (powTen 0).IsPowTen 0 := isPowTen_powTen (Nat.zero_le _)
  have hsmall : n.natAbs ≤ 2 ^ 127 := hn.trans (by decide)
  have hfinite := isFinite_ofInt_mul (Nat.zero_le _) hone hsmall
  have hiff := magnitude_mul_eq_iff (Nat.zero_le _) hone hsmall
  rw [pow_zero, mul_one] at hiff
  exact ⟨hfinite, negative_ofInt_mul hfinite hone.negative,
    hiff.mpr (representable_of_natAbs_le hn)⟩

/-- An exact integer is below zero as a number exactly if it is so itself. -/
theorem IsExact.isBelowZero (h : x.IsExact n) : x.isBelowZero = decide (n < 0) := by
  have hzero : x.isZero = decide (n = 0) := by
    rw [Bool.eq_iff_iff, isZero_iff, h.magnitude, Nat.cast_eq_zero, Int.natAbs_eq_zero,
      decide_eq_true_iff]
  rw [Binary64.isBelowZero, h.negative, hzero, isNaN_eq_false h.isFinite, Bool.not_false,
    Bool.and_true, ← decide_not, ← Bool.decide_and]
  exact decide_eq_decide.mpr (by omega)

/-- An exact integer has its digits, and zeros for places. -/
theorem IsExact.places (h : x.IsExact n) (count : ℕ) :
    x.places count = (decimal n.natAbs, List.replicate count '0') :=
  places_of_natural h.isFinite h.magnitude count

/-- An exact integer is written in fixed places as itself, with zeros behind the point. -/
theorem IsExact.fixed (h : x.IsExact n) (count : ℕ) :
    x.fixed count = signed n ++ zeroPlaces count := by
  rw [fixed_of_natural h.isFinite h.magnitude, h.negative, signed]

/-- An exact integer up to `2 ^ 53` is shown as itself. -/
theorem IsExact.display (h : x.IsExact n) (hn : n.natAbs ≤ 2 ^ 53) : x.display = signed n := by
  rw [display_of_natural h.isFinite h.magnitude hn, h.negative, signed]

/-- An exact integer is grouped as itself, with zeros behind the point. -/
theorem IsExact.groupedText (h : x.IsExact n) (count : ℕ) :
    groupedText x count = sign (n < 0) ++ grouped (decimal n.natAbs) ++ zeroPlaces count := by
  simp only [Stencil.groupedText, h.isBelowZero, h.places, pointed_zeros, List.append_assoc]

end Binary64

/-! ### Patterns -/

namespace NumberPattern

/-- Zeros after the point are dropped and added **as if there were none**. -/
theorem fraction_zeros (p : NumberPattern) (count : ℕ) :
    p.fraction (List.replicate count '0') = p.fraction [] := by
  have htrim : Text.trimRight (· == '0') (List.replicate count '0') = [] := by
    rw [Text.trimRight, List.reverse_replicate, List.dropWhile_replicate_eq_filter_not]
    simp
  have hnil : Text.trimRight (· == '0') [] = [] := rfl
  simp only [fraction, htrim, hnil, List.take_replicate, List.take_nil, List.length_replicate,
    List.length_nil, List.nil_append, List.replicate_append_replicate]
  congr 1
  omega

/-- A pattern does not show zeros at the end of the places that it is given. -/
theorem render_zeros (p : NumberPattern) (negative : Bool) (digits : Text) (count : ℕ) :
    p.render negative (digits, List.replicate count '0') = p.render negative (digits, []) := by
  simp only [render, fraction_zeros]

/-- **A pattern without a scale** writes the floating-point number as it writes the integer. -/
theorem renderFloat_of_unscaled {p : NumberPattern} (hscale : p.scale = 0)
    (hn : n.natAbs ≤ 2 ^ 53) :
    p.renderFloat (ofInt n) = p.render (n < 0) (decimal n.natAbs, []) := by
  have hexact := isExact_ofInt_mul hn
  simp only [renderFloat, hscale, hexact.isBelowZero, hexact.places, render_zeros]

end NumberPattern

/-- A pattern shows an integer up to `2 ^ 53` and its number alike. -/
theorem integerByPattern_eq (hn : n.natAbs ≤ 2 ^ 53) (spec : Text) :
    integerByPattern n spec = floatByPattern (ofInt n) spec := by
  unfold integerByPattern floatByPattern
  split
  · rw [(isExact_ofInt hn).isBelowZero]
  · split
    · next hscale => exact (NumberPattern.renderFloat_of_unscaled hscale hn).symm
    · rfl

/-- **Texts that are no specifier**, the empty one among them, write both kinds alike. -/
theorem formatInteger_eq_of_not_specifier (hn : n.natAbs ≤ 2 ^ 53)
    (hspec : Specifier.parse? spec = none) :
    formatInteger n spec = formatFloat (ofInt n) spec := by
  have hexact := isExact_ofInt hn
  rcases eq_or_ne spec [] with rfl | hne
  · have hinteger : formatInteger n [] = .ok (signed n) := rfl
    have hfloat : formatFloat (ofInt n) [] = .ok (ofInt n).display := if_pos (.inl rfl)
    rw [hinteger, hfloat, hexact.display hn]
  · rw [formatInteger_of_not_specifier hspec hne,
      formatFloat_of_not_specifier hexact.isFinite hspec hne, integerByPattern_eq hn]

/-! ### Specifiers -/

/-- The notations that floating-point numbers have are the same for integers. -/
theorem integerInStyle_eq {style : NumberStyle} {text : Text} (hn : n.natAbs ≤ 2 ^ 53)
    (h : floatInStyle? (ofInt n) precision style = some text) :
    integerInStyle n precision style = text := by
  have hexact := isExact_ofInt hn
  cases style with
  | decimal => cases h
  | hexadecimal => cases h
  | binary => cases h
  | grouped =>
    obtain rfl := Option.some.inj h
    exact (hexact.groupedText _).symm
  | fixed =>
    obtain rfl := Option.some.inj h
    exact (hexact.fixed _).symm
  | scientific => exact Option.some.inj h
  | percent => exact Option.some.inj h
  | general =>
    obtain rfl := Option.some.inj h
    exact (hexact.display hn).symm

/-- **Specifiers of these notations** write both kinds alike. -/
theorem formatInteger_eq_of_mem {s : Specifier} (hn : n.natAbs ≤ 2 ^ 53)
    (hspec : Specifier.parse? spec = some s) (hletter : s.letter ∈ "EeFfGgNnPpRr".toList) :
    formatInteger n spec = formatFloat (ofInt n) spec := by
  have hne :
      (NumberStyle.ofLetter? s.letter).bind (floatInStyle? (ofInt n) s.precision) ≠ none :=
    fun hnone => bind_floatInStyle?_eq_none_iff.mp hnone hletter
  obtain ⟨text, hbind⟩ := Option.ne_none_iff_exists'.mp hne
  obtain ⟨style, hstyle, htext⟩ := Option.bind_eq_some_iff.mp hbind
  rw [formatInteger_of_specifier hspec hstyle, integerInStyle_eq hn htext,
    formatFloat_of_specifier (isExact_ofInt hn).isFinite hspec, hbind]
  rfl

/-- **Integers up to `2 ^ 53` and floating-point numbers are written alike** by every text that
is no specifier, patterns with and without digit slots and the empty text among them, and by
the specifiers of scientific, fixed, general, grouped and percent notation with any precision;
and by no other text. -/
theorem formatInteger_eq_formatFloat_iff (hn : n.natAbs ≤ 2 ^ 53) (spec : Text) :
    formatInteger n spec = formatFloat (ofInt n) spec ↔
      ∀ s, Specifier.parse? spec = some s → s.letter ∈ "EeFfGgNnPpRr".toList := by
  constructor
  · intro h s hspec
    by_contra hletter
    have hfails := formatFloat_eq_error_iff.mpr
      ⟨rfl, (isExact_ofInt hn).isFinite, unsupported_iff.mpr ⟨s, hspec, hletter⟩⟩
    -- An integer fails with an error of its own kind.
    cases (formatInteger_eq_error_iff.mp (h.trans hfails)).1
  · intro h
    cases hspec : Specifier.parse? spec with
    | none => exact formatInteger_eq_of_not_specifier hn hspec
    | some s => exact formatInteger_eq_of_mem hn hspec (h s hspec)

/-- The least of these integers, by a specifier and by a pattern. -/
theorem formatInteger_eq_formatFloat_least :
    (-9007199254740992 : ℤ).natAbs ≤ 2 ^ 53 ∧
      formatInteger (-9007199254740992) "n3".toList =
        formatFloat (ofInt (-9007199254740992)) "n3".toList ∧
      formatInteger (-9007199254740992) "#,##0.0#".toList =
        formatFloat (ofInt (-9007199254740992)) "#,##0.0#".toList :=
  ⟨by decide, (formatInteger_eq_formatFloat_iff (by decide) _).mpr fun s hspec => by
      obtain rfl := Option.some.inj hspec
      decide,
    (formatInteger_eq_formatFloat_iff (by decide) _).mpr nofun⟩

end Stencil
