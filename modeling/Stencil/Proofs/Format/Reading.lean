import Mathlib
import Stencil.Format.Number

/-!
# How a format text is read

A format text for a number is a standard specifier or a custom pattern, never both. A pattern
is cut at its first and its last digit slot: what stands in front and behind is copied, but for
a point directly before the first slot, which belongs to the slots, and commas directly after
the last one, which scale. Commas directly before the point scale too.

## Main definitions

* `Stencil.IsSpecifier`, `Stencil.Unsupported`: texts that are a letter and a precision.
* `Stencil.NumberPattern.IsCut`: a text cut at its first and its last slot.
* `Stencil.NumberPattern.scalingCommas`: the commas of a pattern that scale.

## Main results

* `formatInteger_of_specifier`, `formatFloat_of_specifier`: numbers by a specifier.
* `formatInteger_of_not_specifier`, `formatFloat_of_not_specifier`: numbers by any other text.
* `formatInteger_eq_error_iff`, `formatFloat_eq_error_iff`: the texts by which numbers cannot
  be written.
* `formatInteger_of_parse?`: an integer by a text with slots.
* `NumberPattern.exists_isCut`: a text with a slot can be cut.
* `NumberPattern.parse?_of_isCut`: the pattern of a text that is cut.
-/

namespace Stencil

open Numeral

variable {letter : Char} {digits spec : Text} {s : Specifier} {style : NumberStyle} {n : ℤ}
  {x : Binary64}

/-! ### Specifiers -/

/-- Notations are named by letters. -/
theorem isAlpha_of_ofLetter? (h : NumberStyle.ofLetter? letter = some style) :
    letter.isAlpha = true := by
  unfold NumberStyle.ofLetter? at h
  split at h
  all_goals first | rfl | exact absurd h (Option.some_ne_none style).symm

/-- A letter and at most two digits are read as a specifier. -/
theorem parse?_cons (hletter : letter.isAlpha = true) (hlength : digits.length ≤ 2)
    (hdigits : digits.all Char.isDigit = true) :
    Specifier.parse? (letter :: digits) = some ⟨letter, natural? digits⟩ :=
  if_pos ⟨hletter, hlength, hdigits⟩

/-- A text **is a specifier** with a letter if it is that letter and at most two digits. -/
def IsSpecifier (letter : Char) (spec : Text) : Prop :=
  letter.isAlpha = true ∧
    ∃ digits, digits.length ≤ 2 ∧ digits.all Char.isDigit = true ∧ spec = letter :: digits

/-- A text is **unsupported** by some letters if it is a specifier with another letter. -/
def Unsupported (letters spec : Text) : Prop := ∃ letter ∉ letters, IsSpecifier letter spec

/-- What is read as a specifier is a letter with at most two digits. -/
theorem Specifier.isSpecifier_of_parse? (h : parse? spec = some s) :
    IsSpecifier s.letter spec := by
  unfold parse? at h
  split at h
  · cases h
  · next letter digits =>
    split at h
    · next hspec =>
      obtain rfl := Option.some.inj h
      exact ⟨hspec.1, digits, hspec.2.1, hspec.2.2, rfl⟩
    · cases h

/-- What is unsupported is what is read as a specifier with another letter. -/
theorem unsupported_iff {letters : Text} :
    Unsupported letters spec ↔ ∃ s, Specifier.parse? spec = some s ∧ s.letter ∉ letters := by
  constructor
  · rintro ⟨letter, hnot, halpha, digits, hlength, hdigits, rfl⟩
    exact ⟨_, parse?_cons halpha hlength hdigits, hnot⟩
  · rintro ⟨s, hspec, hnot⟩
    exact ⟨s.letter, hnot, Specifier.isSpecifier_of_parse? hspec⟩

instance (letters spec : Text) : Decidable (Unsupported letters spec) :=
  decidable_of_iff (∃ s ∈ Specifier.parse? spec, s.letter ∉ letters) unsupported_iff.symm

/-- No specifier is empty. -/
theorem Specifier.ne_nil_of_parse? (h : parse? spec = some s) : spec ≠ [] := by
  obtain ⟨-, digits, -, -, rfl⟩ := isSpecifier_of_parse? h
  exact List.cons_ne_nil _ _

/-- A specifier writes an integer in its notation. -/
theorem formatInteger_of_specifier (hspec : Specifier.parse? spec = some s)
    (hstyle : NumberStyle.ofLetter? s.letter = some style) (n : ℤ) :
    formatInteger n spec = .ok (integerInStyle n s.precision style) := by
  simp only [formatInteger, if_neg (Specifier.ne_nil_of_parse? hspec), hspec, hstyle]

/-- A specifier of a notation is written in this notation. -/
theorem formatInteger_of_ofLetter? (h : NumberStyle.ofLetter? letter = some style)
    (hlength : digits.length ≤ 2) (hdigits : digits.all Char.isDigit = true) (n : ℤ) :
    formatInteger n (letter :: digits) = .ok (integerInStyle n (natural? digits) style) :=
  formatInteger_of_specifier (parse?_cons (isAlpha_of_ofLetter? h) hlength hdigits) h n

/-- It writes a finite floating-point number if that has the notation. -/
theorem formatFloat_of_specifier (hx : x.isFinite = true)
    (hspec : Specifier.parse? spec = some s) :
    formatFloat x spec =
      (((NumberStyle.ofLetter? s.letter).bind (floatInStyle? x s.precision)).elim
        (.error (.invalidFormat spec .float)) .ok) := by
  simp only [formatFloat, Specifier.ne_nil_of_parse? hspec, hx, Bool.not_true,
    Bool.false_eq_true, or_self, if_false, hspec]
  cases (NumberStyle.ofLetter? s.letter).bind (floatInStyle? x s.precision) <;> rfl

/-- Every other text is a pattern for an integer, unless it is empty. -/
theorem formatInteger_of_not_specifier (hspec : Specifier.parse? spec = none) (hne : spec ≠ [])
    (n : ℤ) : formatInteger n spec = .ok (integerByPattern n spec) := by
  simp only [formatInteger, if_neg hne, hspec]

/-- It is one for a finite floating-point number. -/
theorem formatFloat_of_not_specifier (hx : x.isFinite = true)
    (hspec : Specifier.parse? spec = none) (hne : spec ≠ []) :
    formatFloat x spec = .ok (floatByPattern x spec) := by
  simp only [formatFloat, hne, hx, Bool.not_true, Bool.false_eq_true, or_self, if_false, hspec]

/-! ### Letters without a notation -/

/-- The letters of all notations. -/
theorem ofLetter?_eq_none_iff :
    NumberStyle.ofLetter? letter = none ↔ letter ∉ "DdXxBbNnFfEePpGgRr".toList := by
  unfold NumberStyle.ofLetter?
  split
  all_goals simp_all

/-- The letters of the notations that floating-point numbers have. -/
theorem bind_floatInStyle?_eq_none_iff {precision : Option ℕ} :
    (NumberStyle.ofLetter? letter).bind (floatInStyle? x precision) = none ↔
      letter ∉ "EeFfGgNnPpRr".toList := by
  unfold NumberStyle.ofLetter?
  split
  all_goals simp_all [floatInStyle?]

/-- **An integer cannot be written** by a specifier whose letter has no notation. -/
theorem formatInteger_eq_error_iff {e : ExpandError} :
    formatInteger n spec = .error e ↔
      e = .invalidFormat spec .integer ∧ Unsupported "DdXxBbNnFfEePpGgRr".toList spec := by
  rw [unsupported_iff, formatInteger]
  split
  · next hempty =>
    have hnone : Specifier.parse? spec = none := by rw [hempty]; rfl
    simp [hnone]
  · split
    · next hnone => simp [hnone]
    · next s hspec =>
      rw [hspec]
      simp only [Option.some.injEq, exists_eq_left', ← ofLetter?_eq_none_iff]
      cases NumberStyle.ofLetter? s.letter <;> simp [eq_comm]

/-- **A finite floating-point number cannot be written** by a specifier whose letter has no
notation for it. -/
theorem formatFloat_eq_error_iff {e : ExpandError} :
    formatFloat x spec = .error e ↔
      e = .invalidFormat spec .float ∧ x.isFinite = true ∧
        Unsupported "EeFfGgNnPpRr".toList spec := by
  rw [unsupported_iff, formatFloat]
  split
  · next hshown =>
    have hnone : x.isFinite = true → Specifier.parse? spec = none := by
      rintro hx
      rcases hshown with rfl | hinfinite
      · rfl
      · simp [hx] at hinfinite
    simp +contextual [hnone]
  · next hshown =>
    have hx : x.isFinite = true := by simpa using (not_or.mp hshown).2
    split
    · next hnone => simp [hnone]
    · next s hspec =>
      rw [hspec]
      simp only [Option.some.injEq, exists_eq_left', hx, true_and,
        ← @bind_floatInStyle?_eq_none_iff s.letter x s.precision]
      cases (NumberStyle.ofLetter? s.letter).bind (floatInStyle? x s.precision) <;>
        simp [eq_comm]

/-! ### Patterns -/

/-- The empty text has no slot. -/
theorem NumberPattern.ne_nil_of_parse? {p : NumberPattern} (h : parse? spec = some p) :
    spec ≠ [] := by
  rintro rfl
  have hempty : parse? [] = none := rfl
  exact Option.some_ne_none p (h.symm.trans hempty)

/-- A text with slots writes an integer as its pattern renders it. -/
theorem formatInteger_of_parse? {p : NumberPattern} (hspec : Specifier.parse? spec = none)
    (hp : NumberPattern.parse? spec = some p) (n : ℤ) :
    formatInteger n spec = .ok (if p.scale = 0 then p.render (n < 0) (decimal n.natAbs, [])
      else p.renderFloat (Binary64.ofInt n)) := by
  rw [formatInteger_of_not_specifier hspec (NumberPattern.ne_nil_of_parse? hp)]
  simp only [integerByPattern, hp]

namespace NumberPattern

variable {before slots after : Text}

/-! ### Slots -/

/-- A text is **cut at its slots**: they start and end with a slot, and no other slot stands in
front or behind. -/
structure IsCut (spec before slots after : Text) : Prop where
  /-- Nothing is lost. -/
  eq : spec = before ++ slots ++ after
  /-- There is no slot in front. -/
  before : ∀ c ∈ before, isSlot c = false
  /-- There is no slot behind. -/
  after : ∀ c ∈ after, isSlot c = false
  /-- The first slot. -/
  head : ∃ c ∈ slots.head?, isSlot c = true
  /-- The last slot. -/
  last : ∃ c ∈ slots.getLast?, isSlot c = true

/-- The commas that **scale** a pattern: those directly before the point and those directly
after the last slot. -/
def scalingCommas (before slots after : Text) : ℕ :=
  (if before.getLast? = some '.' then 0
    else ((slots.takeWhile (· != '.')).rtakeWhile (· == ',')).length) +
  (after.takeWhile (· == ',')).length

/-- Reading up to the first slot. -/
theorem IsCut.front (h : IsCut spec before slots after) :
    spec.takeWhile (!isSlot ·) = before ∧ spec.dropWhile (!isSlot ·) = slots ++ after := by
  obtain ⟨c, hhead, hslot⟩ := h.head
  have hstop : ∀ c' ∈ (slots ++ after).head?, (!isSlot c') = false := by
    intro c' hmem
    rw [List.head?_append, hhead] at hmem
    obtain rfl : c = c' := by simpa using hmem
    simpa using hslot
  rw [h.eq, List.append_assoc]
  exact Text.run_append (List.all_eq_true.mpr (by simpa using h.before)) hstop

/-- Reading down to the last slot. -/
theorem IsCut.back (h : IsCut spec before slots after) :
    ((slots ++ after).reverse.takeWhile (!isSlot ·)).reverse = after ∧
      Text.trimRight (!isSlot ·) (slots ++ after) = slots := by
  obtain ⟨c, hlast, hslot⟩ := h.last
  have hstop : ∀ c' ∈ slots.reverse.head?, (!isSlot c') = false := by
    intro c' hmem
    rw [List.head?_reverse, hlast] at hmem
    obtain rfl : c = c' := by simpa using hmem
    simpa using hslot
  obtain ⟨htake, hdrop⟩ := @Text.run_append (!isSlot ·) after.reverse slots.reverse
    (List.all_eq_true.mpr (by simpa using h.after)) hstop
  rw [Text.trimRight, List.reverse_append, htake, hdrop, List.reverse_reverse,
    List.reverse_reverse]
  exact ⟨rfl, rfl⟩

/-- A text with a slot **can be cut**. -/
theorem exists_isCut (h : '0' ∈ spec ∨ '#' ∈ spec) :
    ∃ before slots after, IsCut spec before slots after := by
  have hslot : ∃ c ∈ spec, isSlot c = true := by
    rcases h with hmem | hmem
    · exact ⟨'0', hmem, rfl⟩
    · exact ⟨'#', hmem, rfl⟩
  obtain ⟨first, hfind⟩ := Option.isSome_iff_exists.mp (List.find?_isSome.mpr hslot)
  obtain ⟨hfirst, before, rest, heq, hbefore⟩ := List.find?_eq_some_iff_append.mp hfind
  have hback : ∃ c ∈ (first :: rest).reverse, isSlot c = true := ⟨first, by simp, hfirst⟩
  obtain ⟨last, hfindBack⟩ := Option.isSome_iff_exists.mp (List.find?_isSome.mpr hback)
  obtain ⟨hlast, after, front, hreverse, hafter⟩ := List.find?_eq_some_iff_append.mp hfindBack
  have hrest : first :: rest = (front.reverse ++ [last]) ++ after.reverse := by
    rw [← List.reverse_reverse (first :: rest), hreverse]
    simp
  refine ⟨before, front.reverse ++ [last], after.reverse, ?_, by simpa using hbefore,
    by simpa using hafter, ⟨first, ?_, hfirst⟩, last, by simp, hlast⟩
  · rw [heq, hrest, ← List.append_assoc]
  · have hhead := congrArg List.head? hrest
    rw [List.head?_append_of_ne_nil _ (by simp)] at hhead
    exact hhead.symm

/-- What stands in front of the first point, or the whole text if there is none. -/
theorem fst_getD_cutAt (t : Text) :
    ((Text.cutAt '.' t).getD (t, [])).1 = t.takeWhile (· != '.') := by
  induction t with
  | nil => rfl
  | cons c t ih =>
    by_cases hc : c = '.'
    · simp [Text.cutAt, hc]
    · cases hcut : Text.cutAt '.' t with
      | none =>
        rw [hcut] at ih
        simpa [Text.cutAt, hc, hcut] using ih
      | some parts =>
        rw [hcut] at ih
        simpa [Text.cutAt, hc, hcut] using ih

/-- What trimming takes off are the commas at the end. -/
theorem length_sub_length_trimRight (t : Text) :
    t.length - (Text.trimRight (· == ',') t).length = (t.rtakeWhile (· == ',')).length := by
  have hlength := congrArg List.length (@List.rdropWhile_append_rtakeWhile _ (· == ',') t)
  rw [List.length_append] at hlength
  change t.length - (t.rdropWhile (· == ',')).length = _
  omega

/-- What dropping takes off are the commas at the start. -/
theorem length_sub_length_dropWhile (t : Text) :
    t.length - (t.dropWhile (· == ',')).length = (t.takeWhile (· == ',')).length := by
  have hlength := congrArg List.length (@List.takeWhile_append_dropWhile _ (· == ',') t)
  rw [List.length_append] at hlength
  omega

/-- **The pattern of a text** that is cut. -/
theorem parse?_of_isCut (h : IsCut spec before slots after) :
    ∃ p, parse? spec = some p ∧
      p.before = (if before.getLast? = some '.' then before.dropLast else before) ∧
      p.after = after.dropWhile (· == ',') ∧
      p.scale = 2 * (p.before.count '%' + p.after.count '%' : ℕ) -
        3 * scalingCommas before slots after := by
  obtain ⟨hfront, hslotted⟩ := h.front
  obtain ⟨htail, hslots⟩ := h.back
  have hne : (slots ++ after).isEmpty = false := by
    obtain ⟨c, hhead, -⟩ := h.head
    obtain ⟨rest, rfl⟩ := List.head?_eq_some_iff.mp hhead
    rfl
  simp only [parse?, hfront, hslotted, hne, htail, hslots, Bool.false_eq_true, if_false,
    fst_getD_cutAt, length_sub_length_trimRight, length_sub_length_dropWhile]
  refine ⟨_, rfl, apply_ite Prod.fst _ _ _, rfl, ?_⟩
  -- A point that belongs to the slots leaves no digits in front of it.
  simp only [scalingCommas]
  congr 3
  split <;> rfl

end NumberPattern

end Stencil
