import Mathlib
import Stencil.Proofs.Placeholder.Cursor
import Stencil.Proofs.Placeholder.Nesting

/-!
# Brace tokens in any context

The readers of brace tokens look ahead: over runs of digits and key characters, and for the
brace that ends a format. They never look behind the first `}`, though, and where they succeed
they step over it. So the text of a brace token spells its placeholder wherever it stands,
whatever is in front of it or behind it. Such texts have their only `}` at their end, which
leaves two occurrences of them in one text little choice: if they overlap, then the `}` of the
one that ends first stands in the other one, and so it is the end of that one too.

## Main definitions

* `Stencil.Cursor.Matches`: a cursor reads a text as a placeholder somewhere.

## Main results

* `Closed.disjoint_or_same_end`: how occurrences of closed texts lie to each other.
* `matches_brace_iff`: the texts of brace tokens are those that spell a placeholder between
  braces.
* `Matches.read?_append`: what is read somewhere is read everywhere.
* `matches_local`: brace tokens are determined by their own text.
-/

namespace Stencil

open Placeholder Text

/-! ### Closed texts -/

namespace Text

variable {t x y before after before' after' : Text}

/-- A text is closed if it has one `}`, which is its last character. -/
theorem closed_iff : Closed t ↔ t.count '}' = 1 ∧ t.getLast? = some '}' := by
  constructor
  · rintro ⟨body, hbody, rfl⟩
    rw [List.count_append, List.count_eq_zero_of_not_mem hbody, List.getLast?_concat]
    exact ⟨rfl, rfl⟩
  · rintro ⟨hcount, hlast⟩
    obtain ⟨body, rfl⟩ := List.getLast?_eq_some_iff.mp hlast
    rw [List.count_append, List.count_singleton_self, Nat.add_eq_right] at hcount
    exact ⟨body, List.count_eq_zero.mp hcount, rfl⟩

/-- A closed text that ends in front of the end of another one ends in front of its start
too. -/
theorem Closed.prefix_of_end_ne (hx : Closed x) (hy : Closed y)
    (h : before ++ x <+: before' ++ y) (hne : before ++ x ≠ before' ++ y) :
    before ++ x <+: before' := by
  obtain ⟨more, hmore⟩ := h
  rcases List.append_eq_append_iff.mp hmore with ⟨gap, rfl, -⟩ | ⟨inside, hinside, hy'⟩
  · exact List.prefix_append _ gap
  by_cases hnil : inside = []
  · rw [hinside, hnil, List.append_nil]
  · -- The brace at the end of the first text stands in the other one, but not at its end.
    have hlast : inside.getLast? = some '}' := by
      rw [← List.getLast?_append_of_ne_nil before' hnil, ← hinside,
        List.getLast?_append_of_ne_nil before hx.ne_nil]
      exact (closed_iff.mp hx).2
    have hshort : inside ≠ y := by
      rintro rfl
      exact hne hinside
    exact absurd (List.mem_of_getLast? hlast)
      (hy.not_mem_of_prefix (hy' ▸ List.prefix_append inside more) hshort)

/-- **Two occurrences of closed texts** in one text are disjoint or have one end. -/
theorem Closed.disjoint_or_same_end (hx : Closed x) (hy : Closed y)
    (h : before ++ (x ++ after) = before' ++ (y ++ after')) :
    before ++ x <+: before' ∨ before' ++ y <+: before ∨ before ++ x = before' ++ y := by
  rw [← List.append_assoc, ← List.append_assoc] at h
  by_cases hne : before ++ x = before' ++ y
  · exact .inr (.inr hne)
  rcases List.prefix_or_prefix_of_prefix (List.prefix_append (before ++ x) after)
      (h ▸ List.prefix_append (before' ++ y) after') with hle | hle
  · exact .inl (hx.prefix_of_end_ne hy hle hne)
  · exact .inr (.inl (hy.prefix_of_end_ne hx hle (Ne.symm hne)))

end Text

/-! ### Reading in any context -/

namespace Cursor

variable {family other : Family} {placeholder placeholder' : Placeholder}
  {raw raw' before after before' after' : Text}

/-- A cursor **matches** a text as a placeholder if it finds the placeholder at some byte of
some text and the text is what it steps over there. -/
def Matches (family : Family) (placeholder : Placeholder) (raw : Text) : Prop :=
  ∃ t start stop, Cursor.read family (.ofText t) start = .ok (some (placeholder, stop)) ∧
    (Source.ofText t).slice start stop = .ok raw

/-- A slice of a source is a text exactly if the text stands between the two bytes. -/
theorem slice_eq_ok_iff {t : Text} {start stop : Nat} :
    (Source.ofText t).slice start stop = .ok raw ↔ ∃ before rest, t = before ++ (raw ++ rest) ∧
      before.utf8Size = start ∧ (before ++ raw).utf8Size = stop := by
  rw [← slice?_eq_some_iff, Source.slice, Source.ofText]
  cases slice? start stop t <;> simp

/-- What a cursor steps over is what the reader consumes. -/
theorem matches_iff : Matches family placeholder raw ↔
    ∃ rest, read? family (raw ++ rest) = some (placeholder, rest) := by
  constructor
  · rintro ⟨t, start, stop, hread, hslice⟩
    obtain ⟨before, raw', rest, rfl, rfl, rfl, hreader⟩ := read_eq_some_iff.mp hread
    obtain ⟨before', rest', heq, hstart, hstop⟩ := slice_eq_ok_iff.mp hslice
    obtain ⟨rfl, hbehind⟩ := append_inj_of_utf8Size heq hstart.symm
    rw [utf8Size_append, utf8Size_append, Nat.add_left_cancel_iff] at hstop
    obtain ⟨rfl, -⟩ := append_inj_of_utf8Size hbehind hstop.symm
    exact ⟨rest, hreader⟩
  · rintro ⟨rest, hread⟩
    exact ⟨raw ++ rest, 0, raw.utf8Size,
      read_eq_some_iff.mpr ⟨[], raw, rest, rfl, rfl, rfl, hread⟩,
      slice_eq_ok_iff.mpr ⟨[], rest, rfl, rfl, rfl⟩⟩

/-- **The texts of brace tokens** are those that spell a placeholder between braces. -/
theorem matches_brace_iff (hfamily : family ≠ .hex) : Matches family placeholder raw ↔
    ∃ x, '}' ∉ x ∧ raw = braced x ∧ inner? family x = some placeholder := by
  rw [matches_iff]
  constructor
  · rintro ⟨rest, hread⟩
    obtain ⟨x, hx, heq, hinner⟩ := exists_inner?_of_read? hfamily hread
    exact ⟨x, hx, List.append_cancel_right heq, hinner⟩
  · rintro ⟨x, hx, rfl, hinner⟩
    exact ⟨[], by rw [read?_braced hfamily hx, hinner]; rfl⟩

/-- The text of a brace token is closed wherever it has been found. -/
theorem Matches.closed (h : Matches family placeholder raw) (hfamily : family ≠ .hex) :
    Closed raw := by
  obtain ⟨x, hx, rfl, -⟩ := (matches_brace_iff hfamily).mp h
  exact closed_braced hx

/-- **What is read somewhere is read everywhere**, if it is a brace token. -/
theorem Matches.read?_append (h : Matches family placeholder raw) (hfamily : family ≠ .hex)
    (rest : Text) : read? family (raw ++ rest) = some (placeholder, rest) := by
  obtain ⟨x, hx, rfl, hinner⟩ := (matches_brace_iff hfamily).mp h
  rw [read?_braced hfamily hx, hinner]
  rfl

/-- No reader of another family finds anything where a brace token stands. -/
theorem Matches.read?_other (h : Matches family placeholder raw) (hfamily : family ≠ .hex)
    (hother : other ≠ family) (rest : Text) : read? other (raw ++ rest) = none := by
  rw [Option.eq_none_iff_forall_ne_some]
  rintro ⟨found, after⟩ hread
  exact hother (read?_family_unique hread (h.read?_append hfamily rest))

/-- **Brace tokens are determined by their own text.** Let a cursor of brace tokens match a
text as a placeholder somewhere. Then the text has one `}`, which is its last character.
Wherever the text is put, the cursor finds the placeholder at its start and steps over just the
text, the reader of the family does the same, and no cursor of another family finds anything.
And an occurrence of the text and one of any text of a brace token are disjoint, or they end
with the same `}`. -/
theorem matches_local (hfamily : family ≠ .hex) (h : Matches family placeholder raw) :
    (raw.count '}' = 1 ∧ raw.getLast? = some '}') ∧
    (∀ before after,
      Cursor.read family (.ofText (before ++ (raw ++ after))) before.utf8Size =
        .ok (some (placeholder, (before ++ raw).utf8Size)) ∧
      read? family (raw ++ after) = some (placeholder, after) ∧
      ∀ other, other ≠ family →
        Cursor.read other (.ofText (before ++ (raw ++ after))) before.utf8Size = .ok none) ∧
    ∀ family' placeholder' raw', family' ≠ .hex → Matches family' placeholder' raw' →
      ∀ before after before' after', before ++ (raw ++ after) = before' ++ (raw' ++ after') →
        before ++ raw <+: before' ∨ before' ++ raw' <+: before ∨
          before ++ raw = before' ++ raw' := by
  refine ⟨closed_iff.mp (h.closed hfamily),
    fun before after => ⟨?_, ?_, fun other hother => ?_⟩,
    fun family' placeholder' raw' hfamily' h' before after before' after' heq => ?_⟩
  · exact read_eq_some_iff.mpr
      ⟨before, raw, after, rfl, rfl, rfl, h.read?_append hfamily after⟩
  · exact h.read?_append hfamily after
  · exact (follows_read other).absent before _ (h.read?_other hfamily hother after)
  · exact (h.closed hfamily).disjoint_or_same_end (h'.closed hfamily') heq

/-- The format of a named token may hold the text of an indexed one, and both end with the same
`}`. -/
theorem matches_local_nested :
    let placeholder : Placeholder := .named "A".toList none ⟨none, none, some "\x7b0".toList⟩
    let outer := "\x7bA:\x7b0\x7d".toList
    let inner := "\x7b0\x7d".toList
    Matches .named placeholder outer ∧ Matches .indexed (.indexed 0 .plain) inner ∧
      Cursor.read .named (.ofText ('é' :: (outer ++ ['}']))) 2 = .ok (some (placeholder, 8)) ∧
      Cursor.read .indexed (.ofText ('é' :: (outer ++ ['}']))) 2 = .ok none ∧
      ('é' :: outer <+: "é\x7bA:".toList ∨ "é\x7bA:".toList ++ inner <+: ['é'] ∨
        'é' :: outer = "é\x7bA:".toList ++ inner) := by
  intro placeholder outer inner
  have houter : Matches .named placeholder outer := ⟨outer, 0, 6, rfl, rfl⟩
  have hinner : Matches .indexed (.indexed 0 .plain) inner := ⟨inner, 0, 3, rfl, rfl⟩
  have hfamily : Family.named ≠ .hex := by decide
  obtain ⟨-, hread, hoverlap⟩ := matches_local hfamily houter
  obtain ⟨hnamed, -, hother⟩ := hread ['é'] ['}']
  exact ⟨houter, hinner, hnamed, hother .indexed (by decide),
    hoverlap .indexed _ inner (by decide) hinner ['é'] ['}'] "é\x7bA:".toList ['}'] rfl⟩

end Cursor

end Stencil
