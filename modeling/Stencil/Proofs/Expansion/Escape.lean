import Mathlib.Data.List.Infix
import Mathlib.Data.List.TakeWhile
import Stencil.Expansion
import Stencil.Proofs.Placeholder.Tokens

/-!
# Decoding escapes

The second pass of an expansion rewrites the hexadecimal escapes of the working text and
nothing else. Every escape starts with `#` and goes on with at least one whole unit of digits,
and what it decodes to is shorter, so a text with escapes does not come out of the pass as it
was.

## Main results

* `length_decodeEscapes_add_le`: decoding shortens a text by at least one character an escape.
* `decodeEscapes_eq_self_of_scan`: a text without escapes is left as it is.
* `decodeEscapes_eq_self`: in particular, so is a text without `#`.
-/

namespace Stencil

open Placeholder Text

variable {c : Char} {t rest : Text}

/-- A template of which trimming leaves nothing is blank. -/
theorem isBlank_of_trim_eq_nil (h : t.trim = []) (hmem : c ∈ t) : isBlank c = true := by
  rw [trim, trimBoth, trimRight, List.reverse_eq_nil_iff, List.dropWhile_eq_nil_iff] at h
  have hdrop : t.dropWhile isBlank = [] := by
    by_contra hne
    have hhead := List.head_dropWhile_not isBlank hne
    rw [h _ (List.mem_reverse.mpr (List.head_mem hne))] at hhead
    exact absurd hhead (by decide)
  exact List.dropWhile_eq_nil_iff.mp hdrop c hmem

/-- An escape starts with `#`. -/
theorem read?_hex_of_ne (hc : c ≠ '#') (rest : Text) : read? .hex (c :: rest) = none := by
  simp [read?, hex?, hc]

/-- A character at which no escape starts stays. -/
theorem decodeEscapes_of_read?_eq_none (h : read? .hex (c :: rest) = none) :
    decodeEscapes (c :: rest) = c :: decodeEscapes rest := by
  rw [decodeEscapes]
  split <;> simp_all

/-- An escape gives way to its text, and decoding goes on behind it. -/
theorem decodeEscapes_of_read?_eq_some {placeholder : Placeholder} {after : Text}
    (h : read? .hex (c :: rest) = some (placeholder, after)) :
    decodeEscapes (c :: rest) = escapeText placeholder ++ decodeEscapes after := by
  rw [decodeEscapes]
  split <;> simp_all

/-- A text in which no escape starts has no escapes. -/
theorem scan_hex_eq_nil {t : Text}
    (h : ∀ rest : Text, '#' :: rest <:+ t → read? .hex ('#' :: rest) = none) (offset : Nat) :
    Token.scan .hex offset t = [] := by
  induction t generalizing offset with
  | nil => exact Token.scan_nil _ _
  | cons c t ih =>
    have hread : read? .hex (c :: t) = none := by
      by_cases hc : c = '#'
      · subst hc
        exact h t List.suffix_rfl
      · exact read?_hex_of_ne hc t
    rw [Token.scan_of_read?_eq_none hread]
    exact ih (fun rest hrest => h rest (hrest.trans (List.suffix_cons c t))) _

/-- A text without escapes is left as it is. -/
theorem decodeEscapes_eq_self_of_scan {t : Text} {offset : Nat}
    (h : Token.scan .hex offset t = []) : decodeEscapes t = t := by
  induction t generalizing offset with
  | nil => rw [decodeEscapes]
  | cons c t ih =>
    cases hread : read? .hex (c :: t) with
    | none =>
      rw [Token.scan_of_read?_eq_none hread] at h
      rw [decodeEscapes_of_read?_eq_none hread, ih h]
    | some found =>
      obtain ⟨placeholder, after⟩ := found
      obtain ⟨raw, hraw⟩ := Token.exists_append_of_read? hread
      rw [hraw] at h hread
      rw [Token.scan_of_read?_eq_some hread] at h
      exact absurd h (List.cons_ne_nil _ _)

/-- A text without `#` is left as it is. -/
theorem decodeEscapes_eq_self (h : '#' ∉ t) : decodeEscapes t = t :=
  decodeEscapes_eq_self_of_scan <| scan_hex_eq_nil
    (fun _ hrest => absurd (hrest.subset List.mem_cons_self) h) 0

/-! ### Lengths -/

/-- A sequence of bytes has at most one character a byte. -/
theorem Utf8.length_parts_le (bytes : List UInt8) : (parts bytes).length ≤ bytes.length := by
  fun_induction parts bytes <;> simp_all <;> omega

/-- Units decode to no more characters than there are units. -/
theorem Utf16.length_decode_le (units : List UInt16) :
    (decode units).length ≤ units.length := by
  fun_induction decode units <;> simp_all
  omega

/-- Bytes make no more units than there are bytes. -/
theorem Utf16.length_units_le (order : ByteOrder) (bytes : List UInt8) :
    (units order bytes).length ≤ bytes.length := by
  fun_induction units order bytes <;> simp_all
  omega

/-- Digits make no more bytes than there are digits. -/
theorem Hex.length_pairs_le (digits : List Digit) : (pairs digits).length ≤ digits.length := by
  fun_induction pairs digits <;> simp_all
  omega

/-- Bytes decode to no more characters than there are bytes. -/
theorem Encoding.length_decode_le (e : Encoding) (bytes : List UInt8) :
    (e.decode bytes).length ≤ bytes.length := by
  cases e with
  | utf8 =>
    rw [decode, Utf8.decode, List.length_map]
    exact Utf8.length_parts_le bytes
  | utf16le => exact (Utf16.length_decode_le _).trans (Utf16.length_units_le .little bytes)
  | utf16be => exact (Utf16.length_decode_le _).trans (Utf16.length_units_le .big bytes)

/-- Digits decode to at most one character a digit. -/
theorem Encoding.length_decodeHex_le (e : Encoding) (digits : Text) :
    (e.decodeHex digits).length ≤ digits.length := by
  refine (e.length_decode_le _).trans ?_
  rw [Hex.bytes?]
  split
  · exact (Hex.length_pairs_le _).trans (List.length_filterMap_le _ _)
  · exact Nat.zero_le _

/-- The digits of an escape and what stands behind them fit into the text. -/
theorem length_add_le_of_units? {unit : Nat} {digits : Text} {braced : Bool}
    (h : units? unit t = some (digits, braced, rest)) :
    digits.length + rest.length ≤ t.length := by
  unfold units? at h
  split at h
  · next tail =>
    have hlength := congrArg List.length
      (List.takeWhile_append_dropWhile (p := Hex.isDigit) (l := tail))
    simp only at h
    split at h
    · next after hdrop =>
      split at h
      · simp only [Option.some.injEq, Prod.mk.injEq] at h
        obtain ⟨rfl, -, rfl⟩ := h
        rw [hdrop] at hlength
        simp only [List.length_append, List.length_cons] at hlength ⊢
        omega
      · simp at h
    · simp at h
  · simp only at h
    split at h
    · simp at h
    · simp only [Option.some.injEq, Prod.mk.injEq] at h
      obtain ⟨rfl, -, rfl⟩ := h
      rw [List.length_take, List.length_drop]
      omega

/-- An escape is longer than its text. -/
theorem length_escapeText_lt {placeholder : Placeholder}
    (h : read? .hex t = some (placeholder, rest)) :
    (escapeText placeholder).length + rest.length < t.length := by
  simp only [read?, hex?] at h
  split at h
  · next tail =>
    simp only [Option.map_eq_some_iff, Prod.mk.injEq, Prod.exists] at h
    obtain ⟨digits, braced, after, hunits, rfl, rfl⟩ := h
    have hbody := (encoding_suffix tail).length_le
    have hdigits := length_add_le_of_units? hunits
    have htext := (encoding tail).1.length_decodeHex_le digits
    rw [escapeText, List.length_cons]
    omega
  · simp at h

/-- **Decoding shortens** a text by at least one character an escape. -/
theorem length_decodeEscapes_add_le (t : Text) (offset : Nat) :
    (decodeEscapes t).length + (Token.scan .hex offset t).length ≤ t.length := by
  fun_induction Token.scan .hex offset t with
  | case1 => simp [decodeEscapes]
  | case2 offset c rest hread ih =>
    rw [decodeEscapes_of_read?_eq_none hread]
    simp only [List.length_cons]
    omega
  | case3 offset c rest placeholder after hread raw ih =>
    have hlt := length_escapeText_lt hread
    rw [decodeEscapes_of_read?_eq_some hread]
    simp only [List.length_cons, List.length_append] at hlt ⊢
    omega

end Stencil
