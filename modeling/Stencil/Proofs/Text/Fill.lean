import Mathlib.Data.List.Infix
import Stencil.Proofs.Text.Occurrence

/-!
# Filling in

A marker character holds the place of a text that is filled in later. If neither the marker nor
the text has anything to do with braces, filling in moves no brace. So a text between braces is
found at the corresponding places before and after, unless filling in completes it somewhere.

## Main definitions

* `Stencil.Text.fill`: a text with every marker replaced by another text.
* `Stencil.Text.Completes`: filling in makes a text between braces of a group with a marker.

## Main results

* `cutAround_fill`: a search after filling in finds what a search before finds.
-/

namespace Stencil.Text

variable {c d : Char} {x s t body : Text}

/-- A text with every `c` replaced by the text `x`. -/
def fill (c : Char) (x t : Text) : Text := t.flatMap fun d => if d = c then x else [d]

@[simp] theorem fill_nil (c : Char) (x : Text) : fill c x [] = [] := rfl

/-- A hole gives way to the text that fills it. -/
theorem fill_cons_self (c : Char) (x t : Text) : fill c x (c :: t) = x ++ fill c x t := by
  simp [fill]

/-- Another character stays as it is. -/
theorem fill_cons_of_ne (h : d ≠ c) (x t : Text) : fill c x (d :: t) = d :: fill c x t := by
  simp [fill, h]

/-- The two parts of a text are filled on their own. -/
@[simp] theorem fill_append (c : Char) (x s t : Text) :
    fill c x (s ++ t) = fill c x s ++ fill c x t :=
  List.flatMap_append

@[simp] theorem fill_singleton (c : Char) (x : Text) : fill c x [c] = x := by
  simp [fill]

/-- A text without the marker stays as it is. -/
theorem fill_of_not_mem (h : c ∉ t) (x : Text) : fill c x t = t := by
  induction t with
  | nil => rfl
  | cons d t ih =>
    rw [List.mem_cons, not_or] at h
    rw [fill_cons_of_ne (Ne.symm h.1), ih h.2]

/-- What is filled in shows. -/
theorem infix_fill (h : c ∈ t) (x : Text) : x <:+: fill c x t := by
  obtain ⟨before, after, rfl, -⟩ := List.eq_append_cons_of_mem h
  rw [fill_append, fill_cons_self]
  exact List.infix_append' _ x _

/-- A character of a filled text comes from the text or from what fills it. -/
theorem mem_of_mem_fill (h : d ∈ fill c x t) : d ∈ t ∨ d ∈ x := by
  obtain ⟨e, he, h⟩ := List.mem_flatMap.mp h
  split at h
  · exact Or.inr h
  · exact Or.inl (List.mem_singleton.mp h ▸ he)

/-! ### Groups -/

/-- Up to a character that is not filled in, the filled text is made of a part of the text. -/
theorem exists_prefix_of_prefix_fill (hx : d ∉ x) (hd : d ≠ c) (h : s ++ [d] <+: fill c x t) :
    ∃ part, part ++ [d] <+: t ∧ fill c x part = s := by
  induction t generalizing s with
  | nil => simp [List.prefix_nil] at h
  | cons e t ih =>
    by_cases he : e = c
    · subst he
      rw [fill_cons_self] at h
      rcases List.prefix_or_prefix_of_prefix h (List.prefix_append x _) with
        hle | ⟨more, hmore⟩
      · exact absurd (hle.subset (by simp)) hx
      · rw [← hmore, List.prefix_append_right_inj] at h
        -- The last character lies behind the text that is filled in.
        rcases List.eq_nil_or_concat' more with rfl | ⟨s', b, rfl⟩
        · rw [List.append_nil] at hmore
          exact absurd (hmore ▸ by simp) hx
        · rw [← List.append_assoc] at hmore
          obtain ⟨hs, hlast⟩ := List.append_inj' hmore rfl
          obtain ⟨part, hpart, hfill⟩ := ih (hlast ▸ h)
          exact ⟨e :: part, (List.prefix_cons_inj e).mpr hpart, by
            rw [fill_cons_self, hfill, hs]⟩
    · rw [fill_cons_of_ne he] at h
      rcases s with _ | ⟨b, s⟩
      · obtain rfl : d = e := by simpa using h
        exact ⟨[], by simp, rfl⟩
      · rw [List.cons_append, List.cons_prefix_cons] at h
        obtain ⟨part, hpart, hfill⟩ := ih h.2
        exact ⟨e :: part, (List.prefix_cons_inj e).mpr hpart, by
          rw [fill_cons_of_ne he, hfill, h.1]⟩

/-- Filling in **completes** a text between braces if it makes it of a group that holds a
marker. -/
def Completes (c : Char) (x body t : Text) : Prop :=
  ∃ inner, braced inner <:+: t ∧ c ∈ inner ∧ fill c x inner = body

namespace Completes

/-- What completes a body in a part of a text completes it in the text. -/
theorem mono (h : Completes c x body s) (hs : s <:+: t) : Completes c x body t := by
  obtain ⟨inner, hinner, hmem, hfill⟩ := h
  exact ⟨inner, hinner.trans hs, hmem, hfill⟩

/-- There must be a marker. -/
theorem mem (h : Completes c x body t) : c ∈ t := by
  obtain ⟨inner, hinner, hmem, -⟩ := h
  exact hinner.subset (List.mem_cons_of_mem _ (List.mem_append_left _ hmem))

/-- What is completed holds what is filled in. -/
theorem infix_body (h : Completes c x body t) : x <:+: body := by
  obtain ⟨inner, -, hmem, rfl⟩ := h
  exact infix_fill hmem x

end Completes

/-! ### Searching -/

/-- A search for a text between braces skips what has no `{`. -/
theorem cutAround_append_of_not_mem (hs : '{' ∉ s) (body t : Text) :
    cutAround (braced body) (s ++ t) =
      (cutAround (braced body) t).map fun (before, after) => (s ++ before, after) := by
  induction s with
  | nil => simp
  | cons d s ih =>
    rw [List.mem_cons, not_or] at hs
    have hafter : after? (braced body) (d :: (s ++ t)) = none := by simp [braced, after?, hs.1]
    rw [List.cons_append, cutAround, hafter, ih hs.2, Option.map_map]
    rfl

/-- **A search after filling in** finds a text between braces where the search before finds it,
if filling in does not complete it. -/
theorem cutAround_fill (hopen : '{' ∉ x) (hclose : '}' ∉ x) (hc : c ≠ '{')
    (hc' : c ≠ '}') (hbody : c ∉ body) (h : ¬ Completes c x body t) :
    cutAround (braced body) (fill c x t) =
      (cutAround (braced body) t).map fun (before, after) =>
        (fill c x before, fill c x after) := by
  induction t with
  | nil => simp [cutAround, braced]
  | cons d t ih =>
    have ih := ih fun hrest => h (hrest.mono (List.suffix_cons d t).isInfix)
    by_cases hd : d = c
    · subst hd
      have hafter : after? (braced body) (d :: t) = none := by
        simp [braced, after?, Ne.symm hc]
      rw [fill_cons_self, cutAround_append_of_not_mem hopen, ih, cutAround, hafter,
        Option.map_map, Option.map_map]
      refine congrArg (Option.map · _) (funext fun found => ?_)
      simp [fill_cons_self]
    · cases hafter : after? (braced body) (d :: t) with
      | some tail =>
        have hraw : c ∉ braced body := by simp [braced, hc, hc', hbody]
        have hfilled : after? (braced body) (d :: fill c x t) = some (fill c x tail) := by
          rw [after?_eq_some_iff, ← fill_cons_of_ne hd, after?_eq_some_iff.mp hafter,
            fill_append, fill_of_not_mem hraw]
        rw [fill_cons_of_ne hd, cutAround, cutAround, hafter, hfilled]
        rfl
      | none =>
        have hfilled : after? (braced body) (d :: fill c x t) = none := by
          rw [Option.eq_none_iff_forall_ne_some]
          intro tail htail
          rw [after?_eq_some_iff, ← fill_cons_of_ne hd] at htail
          obtain ⟨part, hpart, hfill⟩ := exists_prefix_of_prefix_fill (s := '{' :: body) hclose
            (Ne.symm hc') ⟨tail, htail.symm⟩
          rcases part with _ | ⟨e, inner⟩
          · simp at hfill
          obtain ⟨rest, hrest⟩ := hpart
          obtain rfl : e = d := (List.cons.inj hrest).1
          rw [fill_cons_of_ne hd, List.cons.injEq] at hfill
          obtain ⟨rfl, hfill⟩ := hfill
          by_cases hmem : c ∈ inner
          · exact h ⟨inner, ⟨[], rest, hrest⟩, hmem, hfill⟩
          · rw [fill_of_not_mem hmem] at hfill
            have hsome : after? (braced body) ('{' :: t) = some rest := by
              rw [after?_eq_some_iff, ← hrest, hfill]
              rfl
            rw [hafter] at hsome
            exact absurd hsome (by simp)
        rw [fill_cons_of_ne hd, cutAround, cutAround, hafter, hfilled, ih, Option.map_map,
          Option.map_map]
        refine congrArg (Option.map · _) (funext fun found => ?_)
        simp [fill_cons_of_ne hd]

end Stencil.Text
