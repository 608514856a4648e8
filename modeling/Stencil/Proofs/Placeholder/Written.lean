import Mathlib.Data.List.Infix
import Mathlib.Data.List.TakeWhile
import Stencil.Proofs.Placeholder.Tokens

/-!
# Written placeholders

What the readers make of an indexed placeholder that is put together from its parts: the comma
groups of a width and a limit, and a format. The readers of the comma groups stop at the colon,
whatever was written into the groups, and the format reaches up to the first `}`.

## Main definitions

* `Stencil.Placeholder.IsGroups`: a text of comma groups.
* `Stencil.Placeholder.written`: the text of a placeholder for the first argument.

## Main results

* `inner?_written`: the written placeholder is read back.
* `ofFamily_indexed_written`: it is the only indexed token of its text.
-/

namespace Stencil.Placeholder

open Text

variable {groups format digits digits' : Text} {c : Char}

/-! ### Comma groups -/

/-- A text of **comma groups**: the readers of the width and the limit leave nothing of it. -/
def IsGroups (groups : Text) : Prop := (limit (width groups).2).2 = []

instance (groups : Text) : Decidable (IsGroups groups) :=
  inferInstanceAs (Decidable ((limit (width groups).2).2 = []))

/-- The readers stop in front of a character that cannot belong to a comma group. -/
theorem IsGroups.not_mem (h : IsGroups groups) (hdigit : c.isDigit = false) (hcomma : c ≠ ',')
    (hminus : c ≠ '-') : c ∉ groups := by
  intro hmem
  obtain ⟨front, back, rfl, -⟩ := List.eq_append_cons_of_mem hmem
  rw [IsGroups, width_append_stop hdigit hcomma hminus, limit_append_stop hdigit hcomma] at h
  simp at h

/-- Comma groups start with a comma. -/
theorem IsGroups.eq_nil_or_cons (h : IsGroups groups) :
    groups = [] ∨ ∃ tail, groups = ',' :: tail := by
  rcases groups with _ | ⟨d, tail⟩
  · exact Or.inl rfl
  · by_cases hd : d = ','
    · exact Or.inr ⟨tail, by rw [hd]⟩
    · simp [IsGroups, width, limit, hd] at h

/-- Nothing follows digits that are the whole text. -/
theorem afterDigits_of_all (h : digits.all Char.isDigit) : afterDigits digits = [] :=
  List.dropWhile_eq_nil_iff.mpr (List.all_eq_true.mp h)

/-- The digits of a comma group end at the next comma. -/
theorem afterDigits_append_comma (h : digits.all Char.isDigit) (tail : Text) :
    afterDigits (digits ++ ',' :: tail) = ',' :: tail := by
  rw [afterDigits_append_stop (by decide), afterDigits_of_all h, List.nil_append]

/-- Without a minus sign a width is read up to the end of its digits. -/
theorem width_of_ne_minus {x : Text} (h : ∀ tail, x ≠ '-' :: tail) :
    (width (',' :: x)).2 = afterDigits x := by
  rcases x with _ | ⟨d, x⟩
  · rfl
  · rw [width]
    exact h

/-- Digits behind a comma, with a minus sign or without, are a comma group, and so are further
digits behind a second comma. -/
theorem isGroups_of_digits (h : digits.all Char.isDigit) (h' : digits'.all Char.isDigit) :
    IsGroups [] ∧ IsGroups (',' :: digits) ∧ IsGroups (',' :: '-' :: digits) ∧
      IsGroups (',' :: (digits ++ ',' :: digits')) ∧
      IsGroups (',' :: '-' :: (digits ++ ',' :: digits')) := by
  have hminus : ∀ tail : Text, digits ≠ '-' :: tail := by
    rintro tail rfl
    simp at h
  have hminus' : ∀ tail : Text, digits ++ ',' :: digits' ≠ '-' :: tail := by
    intro tail heq
    rcases digits with _ | ⟨d, rest⟩
    · simp at heq
    · exact hminus rest (by rw [(List.cons.inj heq).1])
  have hlimit : (limit (',' :: digits')).2 = [] := afterDigits_of_all h'
  refine ⟨rfl, ?_, ?_, ?_, ?_⟩
  · rw [IsGroups, width_of_ne_minus hminus, afterDigits_of_all h]
    rfl
  · change (limit (afterDigits digits)).2 = []
    rw [afterDigits_of_all h]
    rfl
  · rw [IsGroups, width_of_ne_minus hminus', afterDigits_append_comma h, hlimit]
  · change (limit (afterDigits (digits ++ ',' :: digits'))).2 = []
    rw [afterDigits_append_comma h, hlimit]

/-! ### Placeholders -/

/-- The text of a placeholder for the first argument, put together from comma groups and a
format. -/
def written (groups format : Text) : Text := braced ('0' :: (groups ++ ':' :: format))

/-- The layout that comma groups and a format spell. -/
def writtenLayout (groups format : Text) : Layout :=
  ⟨(width groups).1, (limit (width groups).2).1, some format⟩

/-- The layout of a written placeholder is read back. -/
theorem layoutOf?_written (hgroups : IsGroups groups) (hformat : format ≠ []) :
    layoutOf? (groups ++ ':' :: format) = some (writtenLayout groups format) := by
  obtain ⟨c, format, rfl⟩ := List.exists_cons_of_ne_nil hformat
  have hdigit : Char.isDigit ':' = false := by decide
  rw [IsGroups] at hgroups
  simp only [layoutOf?, width_append_stop hdigit (by decide) (by decide),
    limit_append_stop hdigit (by decide), hgroups]
  rfl

/-- **A written placeholder** is read back. -/
theorem inner?_written (hgroups : IsGroups groups) (hformat : format ≠ []) :
    inner? .indexed ('0' :: (groups ++ ':' :: format)) =
      some (.indexed 0 (writtenLayout groups format)) := by
  have hstop : ∀ tail : Text, leadingDigits ('0' :: (groups ++ ':' :: tail)) = ['0'] ∧
      afterDigits ('0' :: (groups ++ ':' :: tail)) = groups ++ ':' :: tail := by
    intro tail
    rcases hgroups.eq_nil_or_cons with rfl | ⟨rest, rfl⟩ <;> simp [leadingDigits, afterDigits]
  simp only [inner?, (hstop format).1, (hstop format).2, layoutOf?_written hgroups hformat]
  rfl

/-- The inner text of a written placeholder has no `}`. -/
theorem not_mem_written (hgroups : IsGroups groups) (hclose : '}' ∉ format) :
    '}' ∉ '0' :: (groups ++ ':' :: format) := by
  have := hgroups.not_mem (c := '}') (by decide) (by decide) (by decide)
  simp_all

end Stencil.Placeholder

namespace Stencil.Token

open Placeholder Text

/-- A written placeholder is the only indexed token of its text. -/
theorem ofFamily_indexed_written {groups format : Text} (hgroups : IsGroups groups)
    (hformat : format ≠ []) (hclose : '}' ∉ format) :
    ofFamily .indexed (written groups format) =
      [⟨.indexed 0 (writtenLayout groups format), written groups format, 0⟩] := by
  have hscan := scan_group_of_some (by decide) (not_mem_written hgroups hclose)
    (inner?_written hgroups hformat) 0 []
  rwa [List.append_nil, scan_nil] at hscan

end Stencil.Token
