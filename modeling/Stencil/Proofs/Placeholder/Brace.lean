import Mathlib.Data.List.Infix
import Stencil.Placeholder.Grammar
import Stencil.Proofs.Text.Occurrence

/-!
# Brace tokens

The readers of named and indexed placeholders stop at the first `}`. What they find depends on
the text between the braces alone and never on what follows, so a reader of either family is
given by a function on the texts without `}`.

## Main definitions

* `Stencil.Placeholder.inner?`: the placeholder that a text between braces spells.

## Main results

* `read?_braced`: a reader applied to a text without `}` between braces and anything else.
* `exists_inner?_of_read?`: a reader succeeds on nothing else.
-/

namespace Stencil.Placeholder

open Text

variable {x rest t : Text} {family : Family} {placeholder : Placeholder}

/-! ### The text between the braces -/

/-- The format that stands between the comma groups and the closing brace. -/
def formatOf? : Text → Option (Option Text)
  | [] => some none
  | ':' :: c :: format => some (some (c :: format))
  | _ => none

/-- The layout that stands between the key or index and the closing brace. -/
def layoutOf? (x : Text) : Option Layout :=
  let (w, x) := width x
  let (m, x) := limit x
  (formatOf? x).map fun format => ⟨w, m, format⟩

/-- The placeholder of a family that a text between braces spells. -/
def inner? : Family → Text → Option Placeholder
  | .named, c :: x =>
    if c.isAlpha then do
      let (index, tail) ← binding? (x.dropWhile isKeyChar)
      let layout ← layoutOf? tail
      pure (named (c :: x.takeWhile isKeyChar) index layout)
    else none
  | .indexed, x => do
    let index ← wordOf? 64 (leadingDigits x)
    let layout ← layoutOf? (afterDigits x)
    pure (indexed index layout)
  | _, _ => none

/-- Characters of one class at the start of a text end before a character of no such class. -/
theorem takeWhile_append_stop {p : Char → Bool} {c : Char} (hp : p c = false) (x rest : Text) :
    (x ++ c :: rest).takeWhile p = x.takeWhile p := by
  rw [List.takeWhile_append]
  split
  · next hall =>
    have : x.takeWhile p = x := (List.takeWhile_prefix p).eq_of_length hall
    simp [this, hp]
  · rfl

/-- Dropping stops in front of a character that is kept, whatever stands behind it. -/
theorem dropWhile_append_stop {p : Char → Bool} {c : Char} (hp : p c = false) (x rest : Text) :
    (x ++ c :: rest).dropWhile p = x.dropWhile p ++ c :: rest := by
  rw [List.dropWhile_append]
  split
  · next hall =>
    have : x.dropWhile p = [] := by simpa using hall
    simp [this, hp]
  · rfl

/-- The leading digits end in front of a character that is no digit. -/
theorem leadingDigits_append_stop {c : Char} (hc : c.isDigit = false) (x rest : Text) :
    leadingDigits (x ++ c :: rest) = leadingDigits x :=
  takeWhile_append_stop hc x rest

/-- What follows the leading digits takes what stands behind such a character along. -/
theorem afterDigits_append_stop {c : Char} (hc : c.isDigit = false) (x rest : Text) :
    afterDigits (x ++ c :: rest) = afterDigits x ++ c :: rest :=
  dropWhile_append_stop hc x rest

/-- The first comma group ends before a character that cannot belong to it. -/
theorem width_append_stop {c : Char} (hdigit : c.isDigit = false) (hcomma : c ≠ ',')
    (hminus : c ≠ '-') (x rest : Text) :
    width (x ++ c :: rest) = ((width x).1, (width x).2 ++ c :: rest) := by
  rcases x with _ | ⟨d, x⟩
  · simp [width, hcomma]
  by_cases hd : d = ','
  · subst hd
    rcases x with _ | ⟨e, x⟩
    · simp [width, leadingDigits, afterDigits, hdigit, hminus]
    by_cases he : e = '-'
    · simp [he, width, leadingDigits_append_stop hdigit, afterDigits_append_stop hdigit]
    · have := leadingDigits_append_stop hdigit (e :: x) rest
      have := afterDigits_append_stop hdigit (e :: x) rest
      simp_all [width]
  · simp [width, hd]

/-- The limit is read in the same way in front of a character that cannot belong to it. -/
theorem limit_append_stop {c : Char} (hdigit : c.isDigit = false) (hcomma : c ≠ ',')
    (x rest : Text) : limit (x ++ c :: rest) = ((limit x).1, (limit x).2 ++ c :: rest) := by
  rcases x with _ | ⟨d, x⟩
  · simp [limit, hcomma]
  · by_cases hd : d = ','
    · simp [limit, hd, leadingDigits_append_stop hdigit, afterDigits_append_stop hdigit]
    · simp [limit, hd]

/-- A binding is read in the same way in front of a `}` and all that stands behind it. -/
theorem binding?_append_brace (x rest : Text) :
    binding? (x ++ '}' :: rest) =
      (binding? x).map fun (index, tail) => (index, tail ++ '}' :: rest) := by
  rcases x with _ | ⟨c, x⟩
  · simp [binding?]
  by_cases hc : c = '-'
  · have hdigit : Char.isDigit '}' = false := by decide
    by_cases hdigits : leadingDigits x = [] <;>
      simp [hc, binding?, hdigits, leadingDigits_append_stop hdigit,
        afterDigits_append_stop hdigit]
  · simp [binding?, hc]

/-- A format ends at the first `}`, and what is read is what stands in front of it. -/
theorem close?_append_brace (hx : '}' ∉ x) (rest : Text) :
    close? (x ++ '}' :: rest) = (formatOf? x).map fun format => (format, rest) := by
  rcases x with _ | ⟨c, x⟩
  · simp [close?, formatOf?]
  rw [List.mem_cons, not_or] at hx
  by_cases hc : c = ':'
  · have hcut := cutAt_append hx.2 rest
    rcases x with _ | ⟨d, x⟩
    · simp [hc, close?, formatOf?, cutAt]
    · rw [List.cons_append] at hcut
      simp [hc, close?, formatOf?, hcut]
  · simp [close?, formatOf?, hc, Ne.symm hx.1]

/-- The layout in front of the first `}` does not depend on what stands behind it. -/
theorem layout?_append_brace (hx : '}' ∉ x) (rest : Text) :
    layout? (x ++ '}' :: rest) = (layoutOf? x).map fun layout => (layout, rest) := by
  have hlimit : '}' ∉ (limit (width x).2).2 :=
    fun h => hx (((limit_suffix _).trans (width_suffix _)).subset h)
  have hdigit : Char.isDigit '}' = false := by decide
  simp only [layout?, layoutOf?, width_append_stop hdigit (by decide) (by decide),
    limit_append_stop hdigit (by decide), close?_append_brace hlimit, Option.map_map]
  rfl

/-! ### Readers -/

/-- **A reader of brace tokens** sees the text before the first `}` and nothing else. -/
theorem read?_braced (hfamily : family ≠ .hex) (hx : '}' ∉ x) (rest : Text) :
    read? family (braced x ++ rest) =
      (inner? family x).map fun placeholder => (placeholder, rest) := by
  rw [braced_append]
  cases family with
  | hex => exact absurd rfl hfamily
  | indexed =>
    have hafter : '}' ∉ afterDigits x := fun h => hx ((List.dropWhile_suffix _).subset h)
    have hdigit : Char.isDigit '}' = false := by decide
    simp only [read?, indexed?, inner?, leadingDigits_append_stop hdigit,
      afterDigits_append_stop hdigit, layout?_append_brace hafter]
    cases wordOf? 64 (leadingDigits x) with
    | none => rfl
    | some index => cases layoutOf? (afterDigits x) <;> rfl
  | named =>
    rcases x with _ | ⟨c, x⟩
    · simp [read?, named?, inner?]
    by_cases hc : c.isAlpha
    · have hkey : isKeyChar '}' = false := by decide
      simp only [read?, named?, inner?, List.cons_append, hc, if_true,
        takeWhile_append_stop hkey, dropWhile_append_stop hkey, binding?_append_brace]
      cases hbinding : binding? (x.dropWhile isKeyChar) with
      | none => rfl
      | some bound =>
        have htail : '}' ∉ bound.2 := fun h => hx <| List.mem_cons_of_mem c <|
          ((binding?_suffix hbinding).trans (List.dropWhile_suffix _)).subset h
        have := layout?_append_brace htail rest
        cases hlayout : layoutOf? bound.2 <;> simp_all
    · simp [read?, named?, inner?, hc]

/-- The end of a brace token is read only if there is a `}`. -/
theorem mem_of_close? {format : Option Text} (h : close? t = some (format, rest)) :
    '}' ∈ t := by
  unfold close? at h
  split at h
  · exact List.mem_cons_self
  · split at h
    · next hcut =>
      rw [(cutAt_eq_some hcut).1]
      simp
    · simp at h
  · simp at h

/-- A layout is read only if there is a `}` at its end. -/
theorem mem_of_layout? {layout : Layout} (h : layout? t = some (layout, rest)) : '}' ∈ t := by
  simp only [layout?, Option.map_eq_some_iff, Prod.mk.injEq, Prod.exists] at h
  obtain ⟨format, after, hclose, -, -⟩ := h
  exact ((limit_suffix _).trans (width_suffix _)).subset (mem_of_close? hclose)

/-- A brace token starts with `{` and has a `}` behind it. -/
theorem exists_cons_of_read? (hfamily : family ≠ .hex)
    (h : read? family t = some (placeholder, rest)) :
    ∃ tail, t = '{' :: tail ∧ '}' ∈ tail := by
  cases family with
  | hex => exact absurd rfl hfamily
  | indexed =>
    simp only [read?, indexed?] at h
    split at h
    · next tail =>
      simp only [bind, Option.bind_eq_some_iff, Prod.exists] at h
      obtain ⟨_, -, _, _, hlayout, -⟩ := h
      exact ⟨tail, rfl, (List.dropWhile_suffix _).subset (mem_of_layout? hlayout)⟩
    · simp at h
  | named =>
    simp only [read?, named?] at h
    split at h
    · next c tail =>
      split at h
      · simp only [bind, Option.bind_eq_some_iff, Prod.exists] at h
        obtain ⟨_, _, hbinding, _, _, hlayout, -⟩ := h
        exact ⟨c :: tail, rfl, List.mem_cons_of_mem c <| (List.dropWhile_suffix _).subset <|
          (binding?_suffix hbinding).subset (mem_of_layout? hlayout)⟩
      · simp at h
    · simp at h

/-- Where a reader of brace tokens succeeds, a placeholder stands between braces. -/
theorem exists_inner?_of_read? (hfamily : family ≠ .hex)
    (h : read? family t = some (placeholder, rest)) :
    ∃ x, '}' ∉ x ∧ t = braced x ++ rest ∧ inner? family x = some placeholder := by
  obtain ⟨tail, rfl, hmem⟩ := exists_cons_of_read? hfamily h
  obtain ⟨x, after, rfl, hx⟩ := List.eq_append_cons_of_mem hmem
  rw [← braced_append, read?_braced hfamily hx, Option.map_eq_some_iff] at h
  obtain ⟨found, hinner, hfound⟩ := h
  obtain ⟨rfl, rfl⟩ := Prod.mk.inj hfound
  exact ⟨x, hx, (braced_append x after).symm, hinner⟩

/-- Readers of brace tokens find nothing where no `{` stands. -/
theorem read?_eq_none_of_ne (hfamily : family ≠ .hex) {c : Char} (hc : c ≠ '{') (rest : Text) :
    read? family (c :: rest) = none := by
  rw [Option.eq_none_iff_forall_ne_some]
  rintro ⟨placeholder, after⟩ h
  obtain ⟨tail, htail, -⟩ := exists_cons_of_read? hfamily h
  exact hc (List.cons.inj htail).1

/-- The text between braces spells a placeholder of the family that is asked for. -/
theorem family_of_inner? (h : inner? family x = some placeholder) :
    placeholder.family = family := by
  unfold inner? at h
  split at h
  · split at h
    · simp only [bind, Option.bind_eq_some_iff, Prod.exists, pure, Option.some.injEq] at h
      obtain ⟨_, _, -, _, -, rfl⟩ := h
      rfl
    · simp at h
  · simp only [bind, Option.bind_eq_some_iff, pure, Option.some.injEq] at h
    obtain ⟨_, -, _, -, rfl⟩ := h
    rfl
  · simp at h

/-- No letter is a digit, so no key starts like an index. -/
theorem isDigit_of_isAlpha {c : Char} (h : c.isAlpha = true) : c.isDigit = false := by
  have hbound : 'A'.toNat ≤ c.toNat := by
    have hcase : (c.isUpper || c.isLower) = true := h
    rcases Bool.or_eq_true_iff.mp hcase with hupper | hlower
    · have hletter : c.val ≥ 'A'.val ∧ c.val ≤ 'Z'.val := of_decide_eq_true hupper
      exact UInt32.le_iff_toNat_le.mp hletter.1
    · have hletter : (decide (c.val ≥ 'a'.val) && decide (c.val ≤ 'z'.val)) = true := hlower
      have hle := of_decide_eq_true (Bool.and_eq_true_iff.mp hletter).1
      exact (show 'A'.toNat ≤ 'a'.toNat by decide).trans (UInt32.le_iff_toNat_le.mp hle)
  by_contra hdigit
  have hle := (Char.isDigit_iff_toNat.mp (eq_true_of_ne_false hdigit)).2
  exact absurd (hbound.trans hle) (by decide)

/-- No text spells both a named and an indexed placeholder. -/
theorem inner?_indexed_of_named (h : inner? .named x = some placeholder) :
    inner? .indexed x = none := by
  rcases x with _ | ⟨c, x⟩
  · simp [inner?] at h
  · have halpha : c.isAlpha = true := by
      by_contra hc
      simp [inner?, hc] at h
    have hdigit := isDigit_of_isAlpha halpha
    simp [inner?, wordOf?, leadingDigits, hdigit, Numeral.natural?]

/-- No text spells placeholders of two families. -/
theorem inner?_eq_none_of_ne {other : Family} (hne : other ≠ family)
    (h : inner? family x = some placeholder) : inner? other x = none := by
  cases hother : inner? other x with
  | none => rfl
  | some found =>
    cases family <;> cases other
    case named.indexed => simp [inner?_indexed_of_named h] at hother
    case indexed.named => simp [inner?_indexed_of_named hother] at h
    all_goals simp_all [inner?]

end Stencil.Placeholder

/-! ### Tokens -/

namespace Stencil.Token

open Placeholder Text

variable {token : Token}

/-- A named or indexed token is **spelled** by the text between its braces. -/
def Spelled (token : Token) : Prop :=
  ∃ x, '}' ∉ x ∧ token.raw = braced x ∧ inner? token.family x = some token.placeholder

/-- The text of a brace token is closed. -/
theorem Spelled.closed (h : token.Spelled) : Closed token.raw := by
  obtain ⟨x, hx, hraw, -⟩ := h
  exact hraw ▸ closed_braced hx

end Stencil.Token
