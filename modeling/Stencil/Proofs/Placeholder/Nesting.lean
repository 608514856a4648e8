import Mathlib
import Stencil.Proofs.Placeholder.Forms
import Stencil.Proofs.Placeholder.Tokens

/-!
# Tokens of different families

The families are scanned independently of each other, so their tokens may overlap: a format may
hold the text of another token, and the braces of an escape may hold an index. They do not
overlap by halves, though. The text of a token either ends with its only `}` or is a bare
escape, which has no brace at all. A token that starts inside another one of a different family
does not start in a bare escape, so the outer one ends with the first `}` that follows. The
inner one ends with the same `}` or in front of it.

## Main definitions

* `Stencil.Text.Bare`: texts of the form of a bare escape.
* `Stencil.Token.Apart`, `Stencil.Token.Encloses`: how the spans of two tokens lie to each
  other.

## Main results

* `closed_or_bare`: the two forms of the text of a token.
* `read?_family_unique`: placeholders of two families do not start at one place.
* `laminar_of_standsIn`: tokens of two families are apart or one inside the other.
* `ofText_laminar`: so are the tokens of a text, which are ordered by offset.
-/

namespace Stencil

open Placeholder Text

/-! ### Closed and bare texts -/

namespace Text

variable {s t u x y gap : Text}

/-- A text is **bare** if it has a `#` in front and no brace. -/
def Bare (t : Text) : Prop := ∃ run : Text, '{' ∉ run ∧ '}' ∉ run ∧ t = '#' :: run

/-- A bare text has no `}`. -/
theorem Bare.not_mem (h : Bare t) : '}' ∉ t := by
  obtain ⟨run, -, hclose, rfl⟩ := h
  simp [hclose]

/-- The end of a closed text is closed. -/
theorem Closed.of_append (h : Closed (x ++ y)) (hne : y ≠ []) : Closed y := by
  obtain ⟨body, hbody, hxy⟩ := h
  obtain ⟨z, c, rfl⟩ := (List.eq_nil_or_concat' y).resolve_left hne
  rw [← List.append_assoc] at hxy
  obtain ⟨rfl, hc⟩ := List.append_inj' hxy rfl
  obtain rfl : c = '}' := List.singleton_inj.mp hc
  exact ⟨z, fun hmem => hbody (List.mem_append_right x hmem), rfl⟩

/-- What starts where a closed text starts ends within it, if it is closed or has no `}`. -/
theorem Closed.prefix_of_append_eq (hx : Closed x) (hy : Closed y ∨ '}' ∉ y)
    (h : x ++ s = y ++ u) : y <+: x := by
  rcases List.prefix_or_prefix_of_prefix (List.prefix_append x s)
    (h ▸ List.prefix_append y u) with hle | hle
  · rcases hy with hy | hy
    · by_cases heq : x = y
      · exact heq ▸ List.prefix_rfl
      · exact absurd hx.mem (hy.not_mem_of_prefix hle heq)
    · exact absurd (hle.subset hx.mem) hy
  · exact hle

/-- A closed or bare text and another one that starts behind its start: the other one starts
behind its end too, or it ends within it. No brace starts inside a bare text. -/
theorem eq_append_or_eq_append (hx : Closed x ∨ Bare x) (hy : Closed y ∨ Bare y)
    (hbrace : Bare x → y.head? = some '{') (hgap : gap ≠ []) (h : x ++ s = gap ++ (y ++ u)) :
    (∃ between, gap = x ++ between) ∨ ∃ behind, x = gap ++ (y ++ behind) := by
  rcases List.append_eq_append_iff.mp h with ⟨between, rfl, -⟩ | ⟨inside, rfl, hinside⟩
  · exact Or.inl ⟨between, rfl⟩
  by_cases hnil : inside = []
  · exact Or.inl ⟨[], by simp [hnil]⟩
  rcases hx with hx | hx
  · obtain ⟨behind, hbehind⟩ :=
      (hx.of_append hnil).prefix_of_append_eq (hy.imp_right Bare.not_mem)
      hinside.symm
    exact Or.inr ⟨behind, by rw [hbehind]⟩
  · -- All characters of a bare text behind its first one are in the run.
    have hhead := hbrace hx
    obtain ⟨run, hopen, -, hrun⟩ := hx
    obtain ⟨c, gap, rfl⟩ := List.exists_cons_of_ne_nil hgap
    obtain ⟨d, inside, rfl⟩ := List.exists_cons_of_ne_nil hnil
    have hd : d = '{' := by
      have := congrArg List.head? hinside
      rw [List.head?_append, hhead] at this
      simpa [eq_comm] using this
    exact absurd ((List.cons.inj hrun).2 ▸ by simp [hd]) hopen

end Text

/-! ### The forms of placeholders -/

namespace Placeholder

variable {family other : Family} {t raw rest rest' : Text}
  {placeholder placeholder' : Placeholder}

/-- An escape is closed or bare. -/
theorem Written.closed_or_bare_of_hex (h : Written placeholder raw rest)
    (hfamily : placeholder.family = .hex) : Closed raw ∨ Bare raw := by
  have hcode : ∀ e : Encoding, '{' ∉ e.code ∧ '}' ∉ e.code := by
    intro e
    cases e <;> simp [Encoding.code]
  cases h with
  | named => exact nomatch hfamily
  | indexed => exact nomatch hfamily
  | @bracedHex e digits _ _ hdigits =>
    have hclose : '}' ∉ digits := not_mem_of_all hdigits (by decide)
    refine Or.inl ⟨'#' :: (e.code ++ '{' :: digits), ?_, by simp [braced]⟩
    simp [(hcode e).2, hclose]
  | @bareHex e digits _ _ hdigits =>
    have hopen : '{' ∉ digits := not_mem_of_all hdigits (by decide)
    have hclose : '}' ∉ digits := not_mem_of_all hdigits (by decide)
    refine Or.inr ⟨e.code ++ digits, ?_, ?_, rfl⟩
    · simp [(hcode e).1, hopen]
    · simp [(hcode e).2, hclose]

/-- **The two forms of a token**: it ends with its only `}` or has no brace. -/
theorem closed_or_bare (h : read? family (raw ++ rest) = some (placeholder, rest)) :
    Closed raw ∨ Bare raw := by
  by_cases hfamily : family = .hex
  · obtain ⟨raw', heq, hplaceholder, hwritten⟩ := read?_eq_some_iff.mp h
    rw [List.append_cancel_right heq]
    exact hwritten.closed_or_bare_of_hex (hplaceholder.trans hfamily)
  · obtain ⟨x, hx, heq, -⟩ := exists_inner?_of_read? hfamily h
    rw [List.append_cancel_right heq]
    exact Or.inl (closed_braced hx)

/-- An escape starts with `#`, any other token with `{`. -/
theorem head?_of_read? (h : read? family (raw ++ rest) = some (placeholder, rest)) :
    raw.head? = some (if family = .hex then '#' else '{') := by
  obtain ⟨raw', heq, rfl, hwritten⟩ := read?_eq_some_iff.mp h
  rw [List.append_cancel_right heq]
  cases hwritten <;> rfl

/-- Placeholders of two families do not start at one place. -/
theorem read?_family_unique (h : read? family t = some (placeholder, rest))
    (h' : read? other t = some (placeholder', rest')) : family = other := by
  obtain ⟨raw, rfl⟩ := Token.exists_append_of_read? h
  obtain ⟨raw', heq⟩ := Token.exists_append_of_read? h'
  have hread' : read? other (raw' ++ rest') = some (placeholder', rest') := heq ▸ h'
  have hhead : (if family = .hex then '#' else '{') = if other = .hex then '#' else '{' := by
    have := congrArg List.head? heq
    rw [List.head?_append, List.head?_append, head?_of_read? h, head?_of_read? hread'] at this
    exact Option.some.inj this
  by_contra hne
  have hbrace : family ≠ .hex ∧ other ≠ .hex := by
    constructor <;> rintro rfl <;> simp_all [eq_comm]
  obtain ⟨x, hx, hbraced, hinner⟩ := exists_inner?_of_read? hbrace.1 h
  rw [hbraced, read?_braced hbrace.2 hx, inner?_eq_none_of_ne (Ne.symm hne) hinner] at h'
  exact nomatch h'

end Placeholder

/-! ### Spans -/

namespace Token

variable {family : Family} {t : Text} {a b token : Token}

/-- Two tokens are **apart** if their spans are disjoint. -/
def Apart (a b : Token) : Prop := a.stop ≤ b.offset ∨ b.stop ≤ a.offset

/-- A token **encloses** another one if the span of the other one lies in its own. -/
def Encloses (a b : Token) : Prop := a.offset ≤ b.offset ∧ b.stop ≤ a.stop

/-- Two tokens are **laminar** if they start at two places and do not overlap by halves. -/
def Laminar (a b : Token) : Prop :=
  a.offset ≠ b.offset ∧ (a.Apart b ∨ a.Encloses b ∨ b.Encloses a)

/-- Two spans lie to each other as they do the other way round. -/
theorem Laminar.symm (h : a.Laminar b) : b.Laminar a := by
  obtain ⟨hoffset, hapart | hab | hba⟩ := h
  · exact ⟨hoffset.symm, Or.inl hapart.symm⟩
  · exact ⟨hoffset.symm, Or.inr (Or.inr hab)⟩
  · exact ⟨hoffset.symm, Or.inr (Or.inl hba)⟩

/-- A token **stands in** a text if it can be read at its offset. -/
def StandsIn (t : Text) (token : Token) : Prop :=
  ∃ before after, t = before ++ (token.raw ++ after) ∧ before.utf8Size = token.offset ∧
    read? token.family (token.raw ++ after) = some (token.placeholder, after)

/-- A token of a family stands in its text. -/
theorem standsIn_of_mem_ofFamily (h : token ∈ ofFamily family t) : token.StandsIn t := by
  obtain ⟨before, after, ht, hoffset, hread⟩ := exists_read?_of_mem_scan h
  rw [Nat.zero_add] at hoffset
  exact ⟨before, after, ht, hoffset, family_of_mem_scan h ▸ hread⟩

/-- A token and one of another family that starts `gap` behind it. -/
theorem laminar_of_append {gap s u : Text} (hne : a.family ≠ b.family)
    (ha : read? a.family (a.raw ++ s) = some (a.placeholder, s))
    (hb : read? b.family (b.raw ++ u) = some (b.placeholder, u))
    (hoffset : b.offset = a.offset + gap.utf8Size) (h : a.raw ++ s = gap ++ (b.raw ++ u)) :
    a.Laminar b := by
  have hgap : gap ≠ [] := by
    rintro rfl
    rw [List.nil_append] at h
    exact hne (read?_family_unique (h ▸ ha) hb)
  have hpos : 0 < gap.utf8Size := by
    obtain ⟨c, gap, rfl⟩ := List.exists_cons_of_ne_nil hgap
    exact Nat.add_pos_left c.utf8Size_pos _
  -- A bare token is an escape, so the other one is none.
  have hbrace : Bare a.raw → b.raw.head? = some '{' := by
    rintro ⟨run, -, -, hrun⟩
    have hhex : a.family = .hex := by
      by_contra hfamily
      have := head?_of_read? ha
      simp [hrun, hfamily] at this
    rw [head?_of_read? hb, if_neg (fun h => hne (hhex.trans h.symm))]
  refine ⟨by omega, ?_⟩
  rcases eq_append_or_eq_append (closed_or_bare ha) (closed_or_bare hb) hbrace hgap h with
    ⟨between, rfl⟩ | ⟨behind, hraw⟩
  · rw [utf8Size_append] at hoffset
    exact Or.inl (Or.inl (by rw [stop]; omega))
  · refine Or.inr (Or.inl ⟨by omega, ?_⟩)
    rw [stop, stop, hraw, utf8Size_append, utf8Size_append]
    omega

/-- **Tokens of two families** that stand in one text are apart or one inside the other. -/
theorem laminar_of_standsIn (ha : a.StandsIn t) (hb : b.StandsIn t)
    (hne : a.family ≠ b.family) : a.Laminar b := by
  obtain ⟨before, after, ht, hoffset, hread⟩ := ha
  obtain ⟨before', after', ht', hoffset', hread'⟩ := hb
  rcases List.append_eq_append_iff.mp (ht.symm.trans ht') with ⟨gap, rfl, h⟩ | ⟨gap, rfl, h⟩
  · rw [utf8Size_append, hoffset] at hoffset'
    exact laminar_of_append hne hread hread' hoffset'.symm h
  · rw [utf8Size_append, hoffset'] at hoffset
    exact (laminar_of_append hne.symm hread' hread hoffset.symm h).symm

/-! ### The tokens of a text -/

/-- Tokens of one family are apart. -/
theorem pairwise_laminar_ofFamily (family : Family) (t : Text) :
    (ofFamily family t).Pairwise Laminar := by
  refine (located_scan family 0 t).pairwise.imp_of_mem fun {a b} ha _ hle => ?_
  have hlt := offset_lt_stop_of_mem_scan ha
  exact ⟨by omega, Or.inl (Or.inl hle)⟩

/-- Tokens of two families are apart or one inside the other. -/
theorem laminar_of_mem_ofFamily {other : Family} (hne : family ≠ other)
    (ha : a ∈ ofFamily family t) (hb : b ∈ ofFamily other t) : a.Laminar b := by
  refine laminar_of_standsIn (standsIn_of_mem_ofFamily ha) (standsIn_of_mem_ofFamily hb) ?_
  rw [family_of_mem_scan ha, family_of_mem_scan hb]
  exact hne

/-- Any two tokens of a text are apart or one inside the other. -/
theorem pairwise_laminar_ofText (t : Text) : (ofText t).Pairwise Laminar := by
  rw [ofText, (List.mergeSort_perm _ _).pairwise_iff Laminar.symm, List.pairwise_append,
    List.pairwise_append]
  refine ⟨⟨pairwise_laminar_ofFamily .named t, pairwise_laminar_ofFamily .hex t, ?_⟩,
    pairwise_laminar_ofFamily .indexed t, ?_⟩
  · exact fun a ha b hb => laminar_of_mem_ofFamily (by decide) ha hb
  · intro a ha b hb
    rcases List.mem_append.mp ha with ha | ha
    · exact laminar_of_mem_ofFamily (by decide) ha hb
    · exact laminar_of_mem_ofFamily (by decide) ha hb

/-- **The tokens of a text.** Their offsets increase strictly, so no two tokens start at one
place; those of each family are the tokens that the scan of the family finds, in the same
order; and of any two, either their spans are disjoint or the span of the one that starts later
lies in the span of the other. -/
theorem ofText_laminar (t : Text) :
    (ofText t).Pairwise (fun a b => a.offset < b.offset) ∧
    (∀ family, (ofText t).filter (·.family = family) = ofFamily family t) ∧
    (ofText t).Pairwise (fun a b => a.Apart b ∨ a.Encloses b) := by
  have hpairs := (pairwise_offset_ofText t).and (pairwise_laminar_ofText t)
  refine ⟨hpairs.imp ?_, fun family => filter_family_ofText family t, hpairs.imp ?_⟩
  · rintro a b ⟨hle, hne, -⟩
    omega
  · rintro a b ⟨hle, hne, hapart | hab | hba⟩
    · exact Or.inl hapart
    · exact Or.inr hab
    · exact absurd (hle.antisymm hba.1) hne

end Token

end Stencil
