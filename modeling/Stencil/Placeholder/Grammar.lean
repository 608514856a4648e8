import Stencil.Numeral
import Stencil.Placeholder

/-!
# The grammar of placeholders

One reader for each family. A reader looks at the start of a text and yields the placeholder
that stands there together with the text after it, or `none`.

## Main definitions

* `Stencil.Placeholder.named?`, `Stencil.Placeholder.indexed?`, `Stencil.Placeholder.hex?`: the
  readers of the three families.
* `Stencil.Placeholder.read?`: the reader of a given family.

## Main results

* `Stencil.Placeholder.read?_suffix`: what a reader leaves is a proper end of the text.
-/

namespace Stencil.Placeholder

/-! ### Parts of a brace token -/

/-- The digits at the start of a text. -/
def leadingDigits (t : Text) : Text := t.takeWhile Char.isDigit

/-- A text after the digits at its start. -/
def afterDigits (t : Text) : Text := t.dropWhile Char.isDigit

/-- The number of a numeral, if it fits an unsigned word of a number of bits. -/
def wordOf? (bits : Nat) (digits : Text) : Option Nat :=
  (Numeral.natural? digits).bind (Numeral.word? bits)

/-- The first comma group: a width, absent unless it is a 32-bit integer. -/
def width : Text → Option Int × Text
  | ',' :: '-' :: rest =>
    ((Numeral.natural? (leadingDigits rest)).bind fun n => Numeral.signedWord? 32 (-(n : Int)),
      afterDigits rest)
  | ',' :: rest =>
    ((Numeral.natural? (leadingDigits rest)).bind fun n => Numeral.signedWord? 32 n,
      afterDigits rest)
  | t => (none, t)

/-- The second comma group: a limit, absent unless it is a natural number of 32 bits. -/
def limit : Text → Option Nat × Text
  | ',' :: rest => (wordOf? 32 (leadingDigits rest), afterDigits rest)
  | t => (none, t)

/-- The end of a brace token: an optional format, which is not empty, and the closing brace. -/
def close? : Text → Option (Option Text × Text)
  | '}' :: rest => some (none, rest)
  | ':' :: rest =>
    match Text.cutAt '}' rest with
    | some (c :: format, after) => some (some (c :: format), after)
    | _ => none
  | _ => none

/-- The layout of a brace token, up to and including the closing brace. -/
def layout? (t : Text) : Option (Layout × Text) :=
  let (w, t) := width t
  let (m, t) := limit t
  (close? t).map fun (format, rest) => (⟨w, m, format⟩, rest)

/-- The index bound by a named token: absent without `-`, and absent too where the number has
more than 64 bits. A `-` without a digit is no index. -/
def binding? : Text → Option (Option Nat × Text)
  | '-' :: rest =>
    if leadingDigits rest = [] then none
    else some (wordOf? 64 (leadingDigits rest), afterDigits rest)
  | t => some (none, t)

/-! ### Readers -/

/-- `{KEY[-INDEX][,width][,limit][:format]}` -/
def named? : Text → Option (Placeholder × Text)
  | '{' :: c :: rest =>
    if c.isAlpha then do
      let (index, tail) ← binding? (rest.dropWhile isKeyChar)
      let (layout, after) ← layout? tail
      pure (named (c :: rest.takeWhile isKeyChar) index layout, after)
    else none
  | _ => none

/-- `{INDEX[,width][,limit][:format]}`, where the index has at most 64 bits. -/
def indexed? : Text → Option (Placeholder × Text)
  | '{' :: rest => do
    let index ← wordOf? 64 (leadingDigits rest)
    let (layout, after) ← layout? (afterDigits rest)
    pure (indexed index layout, after)
  | _ => none

/-- The encoding that the code letter at the start of a text selects, and the text after it;
without a code letter the encoding is UTF-8. -/
def encoding : Text → Encoding × Text
  | [] => (.utf8, [])
  | c :: rest =>
    match Encoding.ofCode? c with
    | some e => (e, rest)
    | none => (.utf8, c :: rest)

/-- The digits of an escape: all of a braced run, which must be a whole number of units, or the
longest whole number of units at the start of a bare run. -/
def units? (unit : Nat) : Text → Option (Text × Bool × Text)
  | '{' :: rest =>
    let digits := rest.takeWhile Hex.isDigit
    match rest.dropWhile Hex.isDigit with
    | '}' :: after =>
      if digits ≠ [] ∧ digits.length % unit = 0 then some (digits, true, after) else none
    | _ => none
  | t =>
    let available := (t.takeWhile Hex.isDigit).length
    let taken := available - available % unit
    if taken = 0 then none else some (t.take taken, false, t.drop taken)

/-- `#[u|U]hh…` or `#[u|U]{hh…}` -/
def hex? : Text → Option (Placeholder × Text)
  | '#' :: rest =>
    let (e, body) := encoding rest
    (units? e.unitDigits body).map fun (digits, braced, after) => (hex e digits braced, after)
  | _ => none

/-- The placeholder of a family at the start of a text, and the text after it. -/
def read? : Family → Text → Option (Placeholder × Text)
  | .named => named?
  | .indexed => indexed?
  | .hex => hex?

/-! ### What a reader leaves -/

/-- Reading a width leaves an end of the text. -/
theorem width_suffix (t : Text) : (width t).2 <:+ t := by
  unfold width
  split
  · exact ((List.dropWhile_suffix _).trans (List.suffix_cons ..)).trans (List.suffix_cons ..)
  · exact (List.dropWhile_suffix _).trans (List.suffix_cons ..)
  · exact List.suffix_rfl

/-- Reading a limit leaves an end of the text. -/
theorem limit_suffix (t : Text) : (limit t).2 <:+ t := by
  unfold limit
  split
  · exact (List.dropWhile_suffix _).trans (List.suffix_cons ..)
  · exact List.suffix_rfl

/-- Reading a format and the closing brace leaves an end of the text. -/
theorem close?_suffix {t rest : Text} {format : Option Text}
    (h : close? t = some (format, rest)) : rest <:+ t := by
  unfold close? at h
  split at h
  · simp only [Option.some.injEq, Prod.mk.injEq] at h
    exact h.2 ▸ List.suffix_cons ..
  · split at h
    · next hcut =>
      simp only [Option.some.injEq, Prod.mk.injEq] at h
      have := (Text.cutAt_eq_some hcut).1
      rw [this, ← h.2]
      exact ((List.suffix_cons ..).trans (List.suffix_append ..)).trans (List.suffix_cons ..)
    · simp at h
  · simp at h

/-- Reading a layout leaves an end of the text. -/
theorem layout?_suffix {t rest : Text} {layout : Layout}
    (h : layout? t = some (layout, rest)) : rest <:+ t := by
  simp only [layout?, Option.map_eq_some_iff, Prod.mk.injEq, Prod.exists] at h
  obtain ⟨format, after, hclose, -, rfl⟩ := h
  exact ((close?_suffix hclose).trans (limit_suffix _)).trans (width_suffix _)

/-- Reading a binding leaves an end of the text. -/
theorem binding?_suffix {t rest : Text} {index : Option Nat}
    (h : binding? t = some (index, rest)) : rest <:+ t := by
  unfold binding? at h
  split at h
  · split at h
    · simp at h
    · simp only [Option.some.injEq, Prod.mk.injEq] at h
      exact h.2 ▸ (List.dropWhile_suffix _).trans (List.suffix_cons ..)
  · simp only [Option.some.injEq, Prod.mk.injEq] at h
    exact h.2 ▸ List.suffix_rfl

/-- Reading the code of an encoding leaves an end of the text. -/
theorem encoding_suffix (t : Text) : (encoding t).2 <:+ t := by
  unfold encoding
  split
  · exact List.suffix_rfl
  · split
    · exact List.suffix_cons ..
    · exact List.suffix_rfl

/-- Reading the digits of an escape leaves an end of the text. -/
theorem units?_suffix {unit : Nat} {t digits rest : Text} {braced : Bool}
    (h : units? unit t = some (digits, braced, rest)) : rest <:+ t := by
  unfold units? at h
  split at h
  · next tail =>
    simp only at h
    split at h
    · next after hdrop =>
      split at h
      · simp only [Option.some.injEq, Prod.mk.injEq] at h
        have hafter : after <:+ tail.dropWhile Hex.isDigit := hdrop ▸ List.suffix_cons ..
        exact h.2.2 ▸ (hafter.trans (List.dropWhile_suffix _)).trans (List.suffix_cons ..)
      · simp at h
    · simp at h
  · simp only at h
    split at h
    · simp at h
    · simp only [Option.some.injEq, Prod.mk.injEq] at h
      exact h.2.2 ▸ List.drop_suffix ..

/-- What a reader leaves is an end of the text without its first character. -/
theorem read?_suffix {family : Family} {t rest : Text} {p : Placeholder}
    (h : read? family t = some (p, rest)) : rest <:+ t.tail := by
  cases family with
  | named =>
    simp only [read?, named?] at h
    split at h
    · split at h
      · simp only [bind, Option.bind_eq_some_iff, Prod.exists, pure, Option.some.injEq,
          Prod.mk.injEq] at h
        obtain ⟨index, tail, hbinding, layout, after, hlayout, -, rfl⟩ := h
        exact (((layout?_suffix hlayout).trans (binding?_suffix hbinding)).trans
          (List.dropWhile_suffix _)).trans (List.suffix_cons ..)
      · simp at h
    · simp at h
  | indexed =>
    simp only [read?, indexed?] at h
    split at h
    · simp only [bind, Option.bind_eq_some_iff, Prod.exists, pure, Option.some.injEq,
        Prod.mk.injEq] at h
      obtain ⟨index, -, layout, after, hlayout, -, rfl⟩ := h
      exact (layout?_suffix hlayout).trans (List.dropWhile_suffix _)
    · simp at h
  | hex =>
    simp only [read?, hex?] at h
    split at h
    · simp only [Option.map_eq_some_iff, Prod.exists, Prod.mk.injEq] at h
      obtain ⟨digits, braced, after, hunits, -, rfl⟩ := h
      exact (units?_suffix hunits).trans (encoding_suffix _)
    · simp at h

/-- No reader succeeds on the empty text. -/
@[simp] theorem read?_nil (family : Family) : read? family [] = none := by
  cases family <;> rfl

/-- A reader that succeeds consumes at least one character. -/
theorem length_lt_of_read? {family : Family} {t rest : Text} {p : Placeholder}
    (h : read? family t = some (p, rest)) : rest.length < t.length := by
  cases t with
  | nil => simp at h
  | cons c tail =>
    have := (read?_suffix h).length_le
    simp only [List.tail_cons, List.length_cons] at this ⊢
    omega

end Stencil.Placeholder
