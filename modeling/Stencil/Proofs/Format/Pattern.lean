import Stencil.Format.Pattern
import Stencil.Proofs.Binary64.Rounding
import Stencil.Proofs.Numeral

/-!
# What a pattern prints

A text that a pattern makes is a sign, the text before the slots, a body of digits and the text
after the slots. Without its commas the body is digits around a point, and these write a
number. Zeros in front of the digits and zeros behind the fraction, which a pattern adds and
removes, do not change it, so a pattern prints the number whose digits it is given. The sign
and the body of a text are unique, since a body holds no hyphen: a text prints at most one
number, and that of an infinity or a NaN, whose body holds a letter, prints none.

## Main definitions

* `Stencil.Numeral.pointedValue`: the number that digits around a point write.
* `Stencil.Numeral.Writes`: the number that a body writes.
* `Stencil.NumberPattern.Prints`: the number that a text prints by a pattern.

## Main results

* `NumberPattern.Prints.unique`: a text prints at most one number.
* `NumberPattern.prints_render`: a pattern prints the number whose digits it is given.
* `NumberPattern.prints_unscaled`: it prints an integer as it is if it has no scale.
* `NumberPattern.not_prints_render`: it prints none if it is given a letter.
* `Binary64.abs_pointedValue_ratioPlaces_sub_le`: a fixed number of places is off by at most
  half a unit.
-/

namespace Stencil

/-! ### Digits around a point -/

namespace Numeral

variable {digits : Text} {parts parts' : Text × Text} {body : Text} {q r : ℚ}

/-- The **number** that digits before and after a point write. -/
def pointedValue (parts : Text × Text) : ℚ :=
  Nat.ofDigitChars 10 parts.1 0 + Nat.ofDigitChars 10 parts.2 0 / 10 ^ parts.2.length

/-- Digits only, before and after a point. -/
structure AreDigits (parts : Text × Text) : Prop where
  integer : parts.1.all Char.isDigit = true
  fraction : parts.2.all Char.isDigit = true

/-- A **body writes a number** if it is digits around a point that write it, commas left out.
No digits at all write zero. -/
def Writes (body : Text) (q : ℚ) : Prop :=
  ∃ parts, AreDigits parts ∧ body.filter (· ≠ ',') = Binary64.pointed parts ∧
    q = pointedValue parts

/-- A decimal numeral has digits only. -/
theorem areDigits_decimal (n : ℕ) : AreDigits (decimal n, []) :=
  ⟨List.all_eq_true.mpr fun _ hmem => isDigit_of_mem_decimal hmem, rfl⟩

/-- A decimal numeral has the value of its number. -/
theorem pointedValue_decimal (n : ℕ) : pointedValue (decimal n, []) = n := by
  simp [pointedValue, ofDigitChars_decimal]

/-- Around a point there is nothing but the digits. -/
theorem mem_pointed {c : Char} (h : c ∈ Binary64.pointed parts) :
    c ∈ parts.1 ∨ c = '.' ∨ c ∈ parts.2 := by
  rw [Binary64.pointed] at h
  split at h
  · exact .inl h
  · simpa using h

/-- Commas before the point stand in no fraction. -/
theorem filter_pointed (integer : Text) {fraction : Text} (h : ',' ∉ fraction) :
    (Binary64.pointed (integer, fraction)).filter (· ≠ ',') =
      Binary64.pointed (integer.filter (· ≠ ','), fraction) := by
  have hfilter : fraction.filter (· ≠ ',') = fraction := by
    refine List.filter_eq_self.mpr fun c hmem => ?_
    simpa using fun hc : c = ',' => h (hc ▸ hmem)
  rw [Binary64.pointed, Binary64.pointed]
  split
  · rfl
  · rw [List.filter_append, List.filter_cons_of_pos (by decide), hfilter]

/-- A body has one point at most, so its digits are unique. -/
theorem pointed_inj (h : AreDigits parts) (h' : AreDigits parts') :
    Binary64.pointed parts = Binary64.pointed parts' ↔ parts = parts' := by
  refine ⟨fun heq => ?_, fun heq => heq ▸ rfl⟩
  have hpoint : '.' ∉ parts.1 := Text.not_mem_of_all h.integer rfl
  have hpoint' : '.' ∉ parts'.1 := Text.not_mem_of_all h'.integer rfl
  have hfraction : '.' ∉ parts.2 := Text.not_mem_of_all h.fraction rfl
  obtain ⟨integer, _ | ⟨c, fraction⟩⟩ := parts <;>
    obtain ⟨integer', _ | ⟨c', fraction'⟩⟩ := parts'
  · exact congrArg (·, []) heq
  · have hinteger : integer = integer' ++ '.' :: c' :: fraction' := heq
    exact absurd (hinteger ▸ by simp) hpoint
  · have hinteger : integer ++ '.' :: c :: fraction = integer' := heq
    exact absurd (hinteger ▸ by simp) hpoint'
  · have hparts : integer ++ '.' :: c :: fraction = integer' ++ '.' :: c' :: fraction' := heq
    obtain ⟨rfl, -, hfractions⟩ := (List.append_cons_inj_of_notMem hpoint hfraction).mp hparts
    exact congrArg (integer, ·) hfractions

/-- A text writes one value only. -/
theorem Writes.unique (h : Writes body q) (h' : Writes body r) : q = r := by
  obtain ⟨parts, hdigits, hbody, rfl⟩ := h
  obtain ⟨parts', hdigits', hbody', rfl⟩ := h'
  rw [(pointed_inj hdigits hdigits').mp (hbody.symm.trans hbody')]

/-- A body holds digits, commas and a point. -/
theorem Writes.not_mem {c : Char} (h : Writes body q) (hdigit : c.isDigit = false)
    (hcomma : c ≠ ',') (hpoint : c ≠ '.') : c ∉ body := by
  obtain ⟨parts, hdigits, hbody, -⟩ := h
  intro hmem
  have hfilter : c ∈ body.filter (· ≠ ',') := by simp [hmem, hcomma]
  rw [hbody] at hfilter
  rcases mem_pointed hfilter with hinteger | rfl | hfraction
  · exact Text.not_mem_of_all hdigits.integer hdigit hinteger
  · exact hpoint rfl
  · exact Text.not_mem_of_all hdigits.fraction hdigit hfraction

/-! ### Zeros at the ends -/

/-- Zeros in front do not matter. -/
theorem ofDigitChars_replicate_append (count : ℕ) (digits : Text) :
    Nat.ofDigitChars 10 (List.replicate count '0' ++ digits) 0 =
      Nat.ofDigitChars 10 digits 0 := by
  rw [Nat.ofDigitChars_append, Nat.ofDigitChars_replicate_zero, Nat.mul_zero]

/-- Zeros in front make no difference. -/
theorem ofDigitChars_padLeft (width : ℕ) (digits : Text) :
    Nat.ofDigitChars 10 (Text.padLeft '0' width digits) 0 = Nat.ofDigitChars 10 digits 0 :=
  ofDigitChars_replicate_append _ _

/-- Nor does it matter if they are taken away. -/
theorem ofDigitChars_dropWhile_zero (digits : Text) :
    Nat.ofDigitChars 10 (digits.dropWhile (· == '0')) 0 = Nat.ofDigitChars 10 digits 0 := by
  induction digits with
  | nil => rfl
  | cons c digits ih =>
    by_cases hc : c = '0'
    · subst hc
      rw [List.dropWhile_cons_of_pos (by decide), ih]
      exact (ofDigitChars_replicate_append 1 digits).symm
    · rw [List.dropWhile_cons_of_neg (by simpa using hc)]

/-- Zeros behind make no difference to a fraction. -/
theorem ofDigitChars_append_replicate_div (digits : Text) (count : ℕ) :
    (Nat.ofDigitChars 10 (digits ++ List.replicate count '0') 0 : ℚ) /
        10 ^ (digits ++ List.replicate count '0').length =
      Nat.ofDigitChars 10 digits 0 / 10 ^ digits.length := by
  rw [ofDigitChars_append_zero, Nat.ofDigitChars_replicate_zero, Nat.mul_zero, Nat.add_zero,
    List.length_append, List.length_replicate, pow_add, Nat.cast_mul, mul_comm]
  push_cast
  exact mul_div_mul_right _ _ (by positivity)

/-- Zeros write zero. -/
theorem ofDigitChars_eq_zero (h : ∀ c ∈ digits, c = '0') :
    Nat.ofDigitChars 10 digits 0 = 0 := by
  rw [List.eq_replicate_of_mem h, Nat.ofDigitChars_replicate_zero, Nat.mul_zero]

end Numeral

/-! ### Texts of a pattern -/

namespace NumberPattern

open Numeral

variable {p : NumberPattern} {text body body' digits : Text} {parts : Text × Text} {q r : ℚ}
variable {negative negative' : Bool}

/-- A **text prints a number** by a pattern if it is a sign, the text before the slots, a body
that writes the number without its sign, and the text after the slots. -/
def Prints (p : NumberPattern) (text : Text) (q : ℚ) : Prop :=
  ∃ negative body m, text = Numeral.sign negative ++ p.before ++ body ++ p.after ∧
    Writes body m ∧ q = withSign negative m

/-- The sign and the body of a text are unique among bodies without a hyphen. -/
theorem sign_body_inj (hbody : '-' ∉ body) (hbody' : '-' ∉ body')
    (h : Numeral.sign negative ++ p.before ++ body ++ p.after =
      Numeral.sign negative' ++ p.before ++ body' ++ p.after) :
    negative = negative' ∧ body = body' := by
  have hcancel := List.append_cancel_right h
  have hcount := congrArg (List.count '-') hcancel
  simp only [List.count_append, List.count_eq_zero.mpr hbody, List.count_eq_zero.mpr hbody',
    Nat.add_zero, Nat.add_right_cancel_iff] at hcount
  have hnegative : negative = negative' := by
    cases negative <;> cases negative' <;> first | rfl | exact absurd hcount (by decide)
  subst hnegative
  exact ⟨rfl, List.append_cancel_left hcancel⟩

/-- **A text prints at most one number.** -/
theorem Prints.unique (h : p.Prints text q) (h' : p.Prints text r) : q = r := by
  obtain ⟨negative, body, m, htext, hm, rfl⟩ := h
  obtain ⟨negative', body', m', htext', hm', rfl⟩ := h'
  obtain ⟨rfl, rfl⟩ := sign_body_inj (hm.not_mem rfl (by decide) (by decide))
    (hm'.not_mem rfl (by decide) (by decide)) (htext.symm.trans htext')
  rw [hm.unique hm']

/-- The digits before the point without the grouping. -/
def padded (p : NumberPattern) (digits : Text) : Text :=
  Text.padLeft '0' p.minInteger (digits.dropWhile (· == '0'))

/-- The digits in front of a pattern's point are those of the number and zeros. -/
theorem mem_padded {c : Char} (h : c ∈ p.padded digits) : c = '0' ∨ c ∈ digits := by
  rcases List.mem_append.mp h with hzero | hmem
  · exact .inl (List.eq_of_mem_replicate hzero)
  · exact .inr ((List.dropWhile_sublist _).subset hmem)

/-- Only zeros are dropped. -/
theorem mem_padded_of_mem {c : Char} (h : c ∈ digits) (hc : c ≠ '0') :
    c ∈ p.padded digits := by
  rw [← @List.takeWhile_append_dropWhile _ (· == '0') digits] at h
  rcases List.mem_append.mp h with hzero | hmem
  · exact absurd (by simpa using List.mem_takeWhile_imp hzero) hc
  · exact List.mem_append_right _ hmem

/-- The grouping adds commas. -/
theorem filter_integer (h : ',' ∉ digits) :
    (p.integer digits).filter (· ≠ ',') = p.padded digits := by
  have hcomma : ',' ∉ p.padded digits := fun hmem => (mem_padded hmem).elim (by decide) h
  rw [integer]
  split
  · exact grouped_filter _ hcomma
  · refine List.filter_eq_self.mpr fun c hmem => ?_
    simpa using fun hc : c = ',' => hcomma (hc ▸ hmem)

/-- The digits behind a pattern's point are those of the number and zeros. -/
theorem mem_fraction {c : Char} (h : c ∈ p.fraction digits) : c = '0' ∨ c ∈ digits := by
  rcases List.mem_append.mp h with hmem | hzero
  · exact .inr (List.mem_of_mem_take hmem)
  · exact .inl (List.eq_of_mem_replicate hzero)

/-- What is trimmed at the end are zeros. -/
theorem exists_trimRight_append (digits : Text) :
    ∃ count, digits = Text.trimRight (· == '0') digits ++ List.replicate count '0' := by
  have hzeros : ∀ c ∈ digits.reverse.takeWhile (· == '0'), c = '0' := fun c hmem => by
    simpa using List.mem_takeWhile_imp hmem
  have hsplit := congrArg List.reverse
    (@List.takeWhile_append_dropWhile _ (· == '0') digits.reverse)
  rw [List.reverse_append, List.reverse_reverse, List.eq_replicate_of_mem hzeros,
    List.reverse_replicate] at hsplit
  exact ⟨_, hsplit.symm⟩

/-- The fraction of a pattern and the fraction that it is given differ by zeros at the end. -/
theorem exists_fraction_append (p : NumberPattern) (digits : Text) :
    ∃ more less, p.fraction digits ++ List.replicate more '0' =
      digits ++ List.replicate less '0' := by
  obtain ⟨count, htrim⟩ := exists_trimRight_append digits
  have hkept : (Text.trimRight (· == '0') digits).length ≤
    max p.minFraction (Text.trimRight (· == '0') digits).length := le_max_right _ _
  rw [fraction]
  generalize max p.minFraction (Text.trimRight (· == '0') digits).length = kept at *
  generalize Text.trimRight (· == '0') digits = trimmed at *
  rcases le_total kept digits.length with hshort | hlong
  · -- The digits that are left out are zeros.
    have hdrop : digits.drop kept = List.replicate (count - (kept - trimmed.length)) '0' := by
      rw [htrim, List.drop_append, List.drop_of_length_le hkept, List.nil_append,
        List.drop_replicate]
    refine ⟨count - (kept - trimmed.length), 0, ?_⟩
    rw [Nat.sub_eq_zero_of_le hshort, List.replicate_zero, List.append_nil, List.append_nil,
      ← hdrop, List.take_append_drop]
  · refine ⟨0, kept - digits.length, ?_⟩
    rw [List.take_of_length_le hlong, List.replicate_zero, List.append_nil]

/-- The digits behind a pattern's point have the value of the places. -/
theorem fraction_value (p : NumberPattern) (digits : Text) :
    (Nat.ofDigitChars 10 (p.fraction digits) 0 : ℚ) / 10 ^ (p.fraction digits).length =
      Nat.ofDigitChars 10 digits 0 / 10 ^ digits.length := by
  obtain ⟨more, less, h⟩ := exists_fraction_append p digits
  rw [← ofDigitChars_append_replicate_div (p.fraction digits) more, h,
    ofDigitChars_append_replicate_div]

/-- What a pattern makes of digits around a point, without the texts around the slots. -/
def slotText (p : NumberPattern) (parts : Text × Text) : Text :=
  Binary64.pointed (p.integer parts.1, p.fraction parts.2)

/-- A pattern keeps digits digits. -/
theorem areDigits_padded (h : AreDigits parts) :
    AreDigits (p.padded parts.1, p.fraction parts.2) := by
  refine ⟨List.all_eq_true.mpr fun c hmem => ?_, List.all_eq_true.mpr fun c hmem => ?_⟩
  · rcases mem_padded hmem with rfl | hdigit
    · rfl
    · exact List.all_eq_true.mp h.integer c hdigit
  · rcases mem_fraction hmem with rfl | hdigit
    · rfl
    · exact List.all_eq_true.mp h.fraction c hdigit

/-- Without its commas, the text of the slots is the padded number. -/
theorem filter_slotText (hinteger : ',' ∉ parts.1) (hfraction : ',' ∉ parts.2) :
    (p.slotText parts).filter (· ≠ ',') =
      Binary64.pointed (p.padded parts.1, p.fraction parts.2) := by
  have hcomma : ',' ∉ p.fraction parts.2 := fun hmem =>
    (mem_fraction hmem).elim (by decide) hfraction
  rw [slotText, filter_pointed _ hcomma, filter_integer hinteger]

/-- The digits in the slots write the number that was given. -/
theorem writes_slotText (h : AreDigits parts) :
    Writes (p.slotText parts) (pointedValue parts) := by
  refine ⟨_, areDigits_padded h, filter_slotText (Text.not_mem_of_all h.integer rfl)
    (Text.not_mem_of_all h.fraction rfl), ?_⟩
  rw [pointedValue, pointedValue, fraction_value, padded, ofDigitChars_padLeft,
    ofDigitChars_dropWhile_zero]

/-- A text of a pattern is a sign and the slots, and the sign is dropped only for zero. -/
theorem exists_render_eq (p : NumberPattern) (negative : Bool) (h : ',' ∉ parts.1) :
    ∃ shown, p.render negative parts =
        Numeral.sign shown ++ p.before ++ p.slotText parts ++ p.after ∧
      (shown ≠ negative → pointedValue parts = 0) := by
  refine ⟨_, rfl, fun hshown => ?_⟩
  have hzero : ((p.integer parts.1).all fun c => c == '0' || c == ',') = true ∧
      (p.fraction parts.2).all (· == '0') = true := by
    rw [← Bool.and_eq_true]
    by_contra hne
    rw [Bool.not_eq_true] at hne
    exact hshown (by rw [hne, Bool.not_false, Bool.and_true])
  have hinteger : Nat.ofDigitChars 10 (p.padded parts.1) 0 = 0 := by
    refine ofDigitChars_eq_zero fun c hmem => ?_
    rw [← filter_integer h, List.mem_filter] at hmem
    have hc := List.all_eq_true.mp hzero.1 c hmem.1
    simp only [Bool.or_eq_true, beq_iff_eq] at hc
    exact hc.resolve_right (by simpa using hmem.2)
  have hfraction : Nat.ofDigitChars 10 (p.fraction parts.2) 0 = 0 :=
    ofDigitChars_eq_zero fun c hmem => by simpa using List.all_eq_true.mp hzero.2 c hmem
  rw [padded, ofDigitChars_padLeft, ofDigitChars_dropWhile_zero] at hinteger
  rw [pointedValue, hinteger, ← fraction_value p, hfraction, Nat.cast_zero, zero_div, add_zero]

/-- **A pattern prints the number whose digits it is given.** -/
theorem prints_render (h : AreDigits parts) :
    p.Prints (p.render negative parts) (withSign negative (pointedValue parts)) := by
  obtain ⟨shown, htext, hshown⟩ :=
    exists_render_eq p negative (Text.not_mem_of_all h.integer rfl)
  refine ⟨shown, p.slotText parts, pointedValue parts, htext, writes_slotText h, ?_⟩
  by_cases hsame : shown = negative
  · rw [hsame]
  · rw [hshown hsame, withSign_zero, withSign_zero]

/-- An integer **without a scale** is printed as it is. -/
theorem prints_unscaled (p : NumberPattern) (n : ℤ) :
    p.Prints (p.render (n < 0) (decimal n.natAbs, [])) n := by
  have hprints : p.Prints _ _ := @prints_render p _ (n < 0) (areDigits_decimal n.natAbs)
  rwa [pointedValue_decimal, withSign_natAbs] at hprints

/-- Apart from zeros, commas and a point, the slots show only what they are given. -/
theorem mem_of_mem_slotText {c : Char} (hinteger : ',' ∉ parts.1) (hfraction : ',' ∉ parts.2)
    (hc : c ∉ ['0', ',', '.']) (h : c ∈ p.slotText parts) : c ∈ parts.1 ∨ c ∈ parts.2 := by
  simp only [List.mem_cons, List.not_mem_nil, or_false, not_or] at hc
  obtain ⟨hzero, hnotComma, hnotPoint⟩ := hc
  have hpointed : c ∈ (p.slotText parts).filter (· ≠ ',') := by simp [h, hnotComma]
  rw [filter_slotText hinteger hfraction] at hpointed
  rcases mem_pointed hpointed with hmem | hpoint | hmem
  · exact .inl ((mem_padded hmem).resolve_left hzero)
  · exact absurd hpoint hnotPoint
  · exact .inr ((mem_fraction hmem).resolve_left hzero)

/-- Before the point, they show all of it. -/
theorem mem_slotText_iff {c : Char} (hcomma : ',' ∉ digits) (hc : c ∉ ['0', ',', '.']) :
    c ∈ p.slotText (digits, []) ↔ c ∈ digits := by
  constructor
  · intro h
    exact (mem_of_mem_slotText hcomma List.not_mem_nil hc h).resolve_right List.not_mem_nil
  · intro h
    have hzero : c ≠ '0' := fun heq => hc (by simp [heq])
    refine List.mem_of_mem_filter (p := (· ≠ ',')) ?_
    rw [filter_slotText hcomma List.not_mem_nil, Binary64.pointed]
    split
    · exact mem_padded_of_mem h hzero
    · exact List.mem_append_left _ (mem_padded_of_mem h hzero)

/-- Given a word in place of the digits, a pattern **prints no number**. -/
theorem not_prints_render {c : Char} (hmem : c ∈ digits) (hletter : c ∉ ['0', ',', '.'])
    (hdigit : c.isDigit = false) (hcomma : ',' ∉ digits) (hhyphen : '-' ∉ digits) :
    ¬ p.Prints (p.render negative (digits, [])) q := by
  rintro ⟨negative', body, m, htext', hwrites, -⟩
  obtain ⟨shown, htext, -⟩ := @exists_render_eq (digits, []) p negative hcomma
  have hslots : '-' ∉ p.slotText (digits, []) := by
    rwa [mem_slotText_iff hcomma (by decide)]
  obtain ⟨-, rfl⟩ := sign_body_inj hslots (hwrites.not_mem rfl (by decide) (by decide))
    (htext.symm.trans htext')
  simp only [List.mem_cons, List.not_mem_nil, or_false, not_or] at hletter
  refine hwrites.not_mem hdigit hletter.2.1 hletter.2.2 ?_
  rwa [mem_slotText_iff hcomma (by simpa using hletter)]

end NumberPattern

/-! ### A fixed number of places -/

namespace Binary64

open Numeral

variable {a : Ratio} {x : Binary64}

/-- A ratio has digits for places. -/
theorem areDigits_ratioPlaces (a : Ratio) (count : ℕ) : AreDigits (ratioPlaces a count) := by
  refine ⟨List.all_eq_true.mpr fun c hmem => isDigit_of_mem_decimal hmem, ?_⟩
  rw [ratioPlaces]
  split
  · rfl
  · exact all_isDigit_fixed _ _

/-- The digits write the nearest multiple of the last place. -/
theorem pointedValue_ratioPlaces (a : Ratio) (count : ℕ) :
    pointedValue (ratioPlaces a count) = (a.scaleDecimal count).round / 10 ^ count := by
  rw [ratioPlaces]
  generalize (a.scaleDecimal count).round = n
  rcases Nat.eq_zero_or_pos count with rfl | hpos
  · simp [pointedValue, ofDigitChars_decimal]
  · have hlt : n % Nat.pow 10 count < 10 ^ count := Nat.mod_lt _ (Nat.pow_pos (by decide))
    have hlength := length_fixed_of_lt (by decide) hpos hlt
    have hsplit : ((10 ^ count * (n / 10 ^ count) + n % 10 ^ count : ℕ) : ℚ) = n := by
      rw [Nat.div_add_mod]
    push_cast at hsplit
    rw [if_neg hpos.ne', pointedValue, ofDigitChars_decimal, hlength,
      ofDigitChars_fixed (by decide) (by decide), Nat.pow_eq, ← hsplit]
    field_simp

/-- **A fixed number of places** is off by at most half a unit of the last place. -/
theorem abs_pointedValue_ratioPlaces_sub_le (a : Ratio) (count : ℕ) :
    |pointedValue (ratioPlaces a count) - a.toRat| ≤ 1 / 2 / 10 ^ count := by
  have hnear := Ratio.abs_round_sub_le (a.scaleDecimal count)
  have hpos : (0 : ℚ) < 10 ^ count := by positivity
  rw [Ratio.toRat_scaleDecimal, zpow_natCast] at hnear
  rw [pointedValue_ratioPlaces, abs_div_sub hpos]
  exact div_le_div_of_nonneg_right hnear hpos.le

end Binary64

end Stencil
