/-!
# Texts

Templates, placeholder names, format texts and rendered output are all lists of Unicode
scalar values. This module fixes that representation and the few operations on it that the
rest of the library needs beside those of `List`: the byte length of the UTF-8 form, cutting
at the first occurrence of a character or of another text, and trimming.

## Main definitions

* `Stencil.Text`: a list of characters.
* `Stencil.Text.cutAt`: the texts before and after the first occurrence of a character.
* `Stencil.Text.cutAround`: the texts before and after the first occurrence of a text.
* `Stencil.Text.trimBoth`: what is left after dropping a class of characters at both ends.
-/

namespace Stencil

/-- A **text** is a list of Unicode scalar values. -/
abbrev Text := List Char

namespace Text

/-! ### Length -/

/-- The number of bytes of the UTF-8 form of a text. -/
def utf8Size (t : Text) : Nat := t.foldr (fun c n => c.utf8Size + n) 0

@[simp] theorem utf8Size_nil : utf8Size [] = 0 := rfl

@[simp] theorem utf8Size_cons (c : Char) (t : Text) :
    utf8Size (c :: t) = c.utf8Size + utf8Size t := rfl

/-- The lengths of two texts add up. -/
@[simp] theorem utf8Size_append (s t : Text) :
    utf8Size (s ++ t) = utf8Size s + utf8Size t := by
  induction s with
  | nil => simp
  | cons c rest ih => simp [ih, Nat.add_assoc]

/-! ### Cutting -/

/-- The texts before and after the first `c` of a text, or `none` where there is no `c`. -/
def cutAt (c : Char) : Text → Option (Text × Text)
  | [] => none
  | x :: rest =>
    if x = c then some ([], rest)
    else (cutAt c rest).map fun (before, after) => (x :: before, after)

/-- What follows `pattern` in a text that starts with it. -/
def after? : (pattern : Text) → Text → Option Text
  | [], t => some t
  | _ :: _, [] => none
  | p :: ps, x :: rest => if p = x then after? ps rest else none

/-- The texts before and after the first occurrence of `pattern`, or `none` where it does not
occur. The empty pattern occurs at the start of every text. -/
def cutAround (pattern : Text) : Text → Option (Text × Text)
  | [] => if pattern.isEmpty then some ([], []) else none
  | x :: rest =>
    match after? pattern (x :: rest) with
    | some after => some ([], after)
    | none => (cutAround pattern rest).map fun (before, after) => (x :: before, after)

/-! ### Trimming -/

/-- A text without the characters of class `p` at its end. -/
def trimRight (p : Char → Bool) (t : Text) : Text := (t.reverse.dropWhile p).reverse

/-- A text without the characters of class `p` at its start and at its end. -/
def trimBoth (p : Char → Bool) (t : Text) : Text := trimRight p (t.dropWhile p)

/-! ### Padding -/

/-- A text extended on the left with copies of `c` to at least `width` characters. -/
def padLeft (c : Char) (width : Nat) (t : Text) : Text :=
  List.replicate (width - t.length) c ++ t

/-! ### Lemmas on cutting -/

/-- A cut around a character puts the text back together, and the first part is free of it. -/
theorem cutAt_eq_some {c : Char} {t before after : Text}
    (h : cutAt c t = some (before, after)) : t = before ++ c :: after ∧ c ∉ before := by
  induction t generalizing before with
  | nil => simp [cutAt] at h
  | cons x rest ih =>
    rw [cutAt] at h
    split at h
    · next hx =>
      simp only [Option.some.injEq, Prod.mk.injEq] at h
      simp [← h.1, ← h.2, hx]
    · next hx =>
      simp only [Option.map_eq_some_iff, Prod.mk.injEq, Prod.exists] at h
      obtain ⟨b, a, hcut, rfl, rfl⟩ := h
      have := ih hcut
      refine ⟨by simp [this.1], ?_⟩
      simp only [List.mem_cons, not_or]
      exact ⟨fun e => hx e.symm, this.2⟩

/-- A text is cut around the first of its characters that is `c`. -/
theorem cutAt_append {c : Char} {before : Text} (h : c ∉ before) (after : Text) :
    cutAt c (before ++ c :: after) = some (before, after) := by
  induction before with
  | nil => simp [cutAt]
  | cons x before ih =>
    rw [List.mem_cons, not_or] at h
    rw [List.cons_append, cutAt, if_neg (Ne.symm h.1), ih h.2]
    rfl

/-- A text without `c` is not cut, and no other is left whole. -/
theorem cutAt_eq_none_iff {c : Char} {t : Text} : cutAt c t = none ↔ c ∉ t := by
  induction t with
  | nil => simp [cutAt]
  | cons x rest ih =>
    by_cases hx : x = c
    · simp [cutAt, hx]
    · simp [cutAt, hx, ih, Ne.symm hx]

/-- A text starts with `pattern` exactly if it is `pattern` followed by the rest found. -/
theorem after?_eq_some_iff {pattern t rest : Text} :
    after? pattern t = some rest ↔ t = pattern ++ rest := by
  induction pattern generalizing t with
  | nil => simp [after?]
  | cons p ps ih =>
    cases t with
    | nil => simp [after?]
    | cons x xs =>
      by_cases hx : p = x
      · simp [after?, hx, ih]
      · simp [after?, hx, Ne.symm hx]

/-- A cut around a text puts the text back together. -/
theorem cutAround_eq_some {pattern t before after : Text}
    (h : cutAround pattern t = some (before, after)) : t = before ++ (pattern ++ after) := by
  induction t generalizing before with
  | nil =>
    rw [cutAround] at h
    split at h
    · next hp => simp_all
    · simp at h
  | cons x rest ih =>
    rw [cutAround] at h
    split at h
    · next a ha =>
      simp only [Option.some.injEq, Prod.mk.injEq] at h
      simp [← h.1, ← h.2, after?_eq_some_iff.1 ha]
    · simp only [Option.map_eq_some_iff, Prod.mk.injEq, Prod.exists] at h
      obtain ⟨b, a, hcut, rfl, rfl⟩ := h
      simp [ih hcut]

/-! ### Lemmas on runs -/

/-- A character of another class is not in a run of one class. -/
theorem not_mem_of_all {p : Char → Bool} {c : Char} {t : Text} (h : t.all p)
    (hc : p c = false) : c ∉ t := by
  intro hmem
  rw [List.all_eq_true.mp h c hmem] at hc
  exact absurd hc (by decide)

/-- A run of one class of characters in front of a character of another class. -/
theorem run_append {p : Char → Bool} {run rest : Text} (h : run.all p)
    (hrest : ∀ c ∈ rest.head?, p c = false) :
    (run ++ rest).takeWhile p = run ∧ (run ++ rest).dropWhile p = rest := by
  have hall := List.all_eq_true.mp h
  have hhead : rest.takeWhile p = [] ∧ rest.dropWhile p = rest := by
    cases rest with
    | nil => simp
    | cons c rest => simp [hrest c rfl]
  rw [List.takeWhile_append_of_pos hall, List.dropWhile_append_of_pos hall, hhead.1, hhead.2,
    List.append_nil]
  exact ⟨rfl, rfl⟩

end Text

end Stencil
