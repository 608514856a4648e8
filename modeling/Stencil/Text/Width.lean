import Stencil.Text

/-!
# Display width

A rendered text is first padded with spaces to a width and then cut to a limit, both counted
in characters. The cut comes second, so a limit below the width cuts into padding on the left.

## Main definitions

* `Stencil.Text.maxWidth`: the largest width that padding honours.
* `Stencil.Text.fit`: padding, then cutting.
-/

namespace Stencil.Text

/-- The largest width honoured when padding. -/
def maxWidth : Nat := 4096

/-- A text padded with spaces to `|width|` characters: on the left for a positive width, on the
right for a negative one. -/
def pad (width : Int) (t : Text) : Text :=
  let padding := List.replicate (min width.natAbs maxWidth - t.length) ' '
  if 0 < width then padding ++ t else t ++ padding

/-- The first `limit` characters of a text; a limit of zero keeps everything. -/
def cut (limit : Nat) (t : Text) : Text :=
  if limit = 0 then t else t.take limit

/-- A text padded to an optional width and then cut to an optional limit. -/
def fit (width : Option Int) (limit : Option Nat) (t : Text) : Text :=
  let padded := match width with
    | none => t
    | some w => pad w t
  match limit with
  | none => padded
  | some n => cut n padded

/-! ### Lemmas -/

@[simp] theorem fit_none_none (t : Text) : fit none none t = t := rfl

/-- Padding reaches the width, up to the largest one honoured, and never shortens. -/
theorem length_pad (width : Int) (t : Text) :
    (pad width t).length = max t.length (min width.natAbs maxWidth) := by
  unfold pad
  split <;> simp <;> omega

/-- Padding adds nothing but spaces. -/
theorem mem_pad {width : Int} {t : Text} {c : Char} (h : c ∈ pad width t) :
    c ∈ t ∨ c = ' ' := by
  rw [pad] at h
  split at h
  · exact (List.mem_append.mp h).symm.imp_right List.eq_of_mem_replicate
  · exact (List.mem_append.mp h).imp_right List.eq_of_mem_replicate

/-- Cutting adds nothing. -/
theorem mem_cut {limit : Nat} {t : Text} {c : Char} (h : c ∈ cut limit t) : c ∈ t := by
  rw [cut] at h
  split at h
  · exact h
  · exact List.mem_of_mem_take h

/-- Fitting a text adds nothing but spaces. -/
theorem mem_fit {width : Option Int} {limit : Option Nat} {t : Text} {c : Char}
    (h : c ∈ fit width limit t) : c ∈ t ∨ c = ' ' := by
  cases width <;> cases limit
  · exact Or.inl h
  · exact Or.inl (mem_cut h)
  · exact mem_pad h
  · exact mem_pad (mem_cut h)

end Stencil.Text
