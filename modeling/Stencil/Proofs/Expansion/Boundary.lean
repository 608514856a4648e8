import Mathlib
import Stencil.Proofs.Expansion.Escape
import Stencil.Proofs.Placeholder.Forms

/-!
# Boundaries between escapes

Behind its `#` an escape holds digits, a code letter and braces and nothing else. A character
of any other kind is a boundary: an escape that starts in front of it also ends in front of it.
So an attempt to read an escape in front of a boundary comes out the same whatever stands
there. A successful one is written in front of the boundary as a whole, since a bare run of
digits ends there too. A failed one stays a failure, because what would make it succeed cannot
stand behind the boundary. Decoding thus splits at every boundary, and this holds of no other
character: each of them goes on with some escape.

## Main definitions

* `Stencil.IsBoundary`: the characters with which no escape goes on.

## Main results

* `Written.not_isBoundary`: behind its `#` an escape has no boundary.
* `read?_hex_append_iff`: reading an escape does not depend on what stands behind a boundary.
* `scan_append_of_isBoundary`: the escapes of a text are those on both sides of a boundary.
* `decodeEscapes_append`: decoding splits at boundaries, and at no other character.
-/

namespace Stencil

open Placeholder Text

variable {a b raw rest after more : Text} {c : Char} {placeholder : Placeholder}

/-- A character is a **boundary** if it is no digit, no code letter and no brace. -/
def IsBoundary (c : Char) : Prop :=
  Hex.isDigit c = false ∧ c ≠ 'u' ∧ c ≠ 'U' ∧ c ≠ '{' ∧ c ≠ '}'

instance (c : Char) : Decidable (IsBoundary c) := inferInstanceAs (Decidable (_ ∧ _))

/-! ### Escapes in front of a boundary -/

namespace Placeholder

/-- **Behind its `#`** an escape has no boundary. -/
theorem Written.not_isBoundary (h : Written placeholder raw rest)
    (hfamily : placeholder.family = .hex) (hc : c ∈ raw.tail) : ¬ IsBoundary c := by
  have hcode : ∀ e : Encoding, ∀ d ∈ e.code, d = 'u' ∨ d = 'U' := by
    intro e
    cases e <;> simp [Encoding.code]
  rintro ⟨hdigit, hu, hU, hopen, hclose⟩
  cases h with
  | named => exact nomatch hfamily
  | indexed => exact nomatch hfamily
  | @bracedHex e digits _ _ hdigits =>
    have hmem : c ∈ e.code ∨ c = '{' ∨ c ∈ digits ∨ c = '}' := by simpa [braced] using hc
    obtain hmem | hmem | hmem | hmem := hmem
    · exact (hcode e c hmem).elim hu hU
    · exact hopen hmem
    · exact not_mem_of_all hdigits hdigit hmem
    · exact hclose hmem
  | @bareHex e digits _ _ hdigits =>
    have hmem : c ∈ e.code ∨ c ∈ digits := by simpa using hc
    obtain hmem | hmem := hmem
    · exact (hcode e c hmem).elim hu hU
    · exact not_mem_of_all hdigits hdigit hmem

/-- Digits in front of a boundary do not go on behind it. -/
theorem prefix_of_prefix_append (hb : ∀ c ∈ b.head?, IsBoundary c)
    (hall : more.all Hex.isDigit) (h : more <+: rest ++ b) : more <+: rest := by
  obtain ⟨behind, heq⟩ := h
  rcases List.append_eq_append_iff.mp heq with ⟨between, rfl, -⟩ | ⟨inside, rfl, rfl⟩
  · exact List.prefix_append more between
  · cases inside with
    | nil => rw [List.append_nil]
    | cons c inside =>
      have hdigit := List.all_eq_true.mp hall c (List.mem_append_right _ List.mem_cons_self)
      rw [(hb c rfl).1] at hdigit
      exact absurd hdigit Bool.false_ne_true

/-- What an escape is does not depend on what stands behind a boundary. -/
theorem written_append_iff (hb : ∀ c ∈ b.head?, IsBoundary c)
    (hfamily : placeholder.family = .hex) :
    Written placeholder raw (rest ++ b) ↔ Written placeholder raw rest := by
  constructor
  · intro h
    cases h with
    | named => exact nomatch hfamily
    | indexed => exact nomatch hfamily
    | bracedHex _ hne hdigits hdvd => exact .bracedHex rest hne hdigits hdvd
    | bareHex hne hdigits hdvd hmax =>
      exact .bareHex hne hdigits hdvd fun more hmore =>
        hmax more (hmore.trans (List.prefix_append rest b))
  · intro h
    cases h with
    | named => exact nomatch hfamily
    | indexed => exact nomatch hfamily
    | bracedHex _ hne hdigits hdvd => exact .bracedHex (rest ++ b) hne hdigits hdvd
    | bareHex hne hdigits hdvd hmax =>
      exact .bareHex hne hdigits hdvd fun more hmore hall =>
        hmax more (prefix_of_prefix_append hb hall hmore) hall

/-- **Reading an escape** in front of a boundary: it is read, or not, as if nothing stood
there. -/
theorem read?_hex_append_iff (ha : a ≠ []) (hb : ∀ c ∈ b.head?, IsBoundary c) :
    read? .hex (a ++ b) = some (placeholder, after) ↔
      ∃ rest, after = rest ++ b ∧ read? .hex a = some (placeholder, rest) := by
  constructor
  · intro h
    obtain ⟨raw, heq, hfamily, hwritten⟩ := read?_hex_iff.mp h
    rcases List.append_eq_append_iff.mp heq with ⟨inside, rfl, rfl⟩ | ⟨rest, rfl, rfl⟩
    · -- The escape would have to go on behind the boundary.
      cases inside with
      | nil =>
        rw [List.append_nil] at hwritten
        exact ⟨[], rfl, read?_hex_iff.mpr ⟨a, (List.append_nil a).symm, hfamily,
          (written_append_iff hb hfamily).mp hwritten⟩⟩
      | cons c inside =>
        refine absurd (hb c rfl) (hwritten.not_isBoundary hfamily ?_)
        rw [List.tail_append_of_ne_nil ha]
        exact List.mem_append_right _ List.mem_cons_self
    · exact ⟨rest, rfl, read?_hex_iff.mpr ⟨raw, rfl, hfamily,
        (written_append_iff hb hfamily).mp hwritten⟩⟩
  · rintro ⟨rest, rfl, h⟩
    obtain ⟨raw, rfl, hfamily, hwritten⟩ := read?_hex_iff.mp h
    exact read?_hex_iff.mpr ⟨raw, List.append_assoc raw rest b, hfamily,
      (written_append_iff hb hfamily).mpr hwritten⟩

end Placeholder

/-! ### Texts that are cut at a boundary -/

/-- Where no escape starts, none starts if a boundary follows. -/
theorem read?_hex_append_of_none (ha : a ≠ []) (hb : ∀ c ∈ b.head?, IsBoundary c)
    (h : read? .hex a = none) : read? .hex (a ++ b) = none := by
  refine Option.eq_none_iff_forall_not_mem.mpr fun ⟨placeholder, after⟩ hread => ?_
  obtain ⟨rest, -, hrest⟩ := (read?_hex_append_iff ha hb).mp hread
  rw [h] at hrest
  exact nomatch hrest

/-- **The escapes of a text** are those in front of a boundary and those behind it. -/
theorem scan_append_of_isBoundary (hb : ∀ c ∈ b.head?, IsBoundary c) (offset : Nat)
    (a : Text) :
    Token.scan .hex offset (a ++ b) =
      Token.scan .hex offset a ++ Token.scan .hex (offset + a.utf8Size) b := by
  fun_induction Token.scan .hex offset a with
  | case1 offset => rfl
  | case2 offset c rest hread ih =>
    have hnone := read?_hex_append_of_none (List.cons_ne_nil c rest) hb hread
    rw [List.cons_append] at hnone ⊢
    rw [Token.scan_of_read?_eq_none hnone, ih, utf8Size_cons, Nat.add_assoc]
  | case3 offset c rest placeholder after hread raw ih =>
    obtain ⟨raw', hraw'⟩ := Token.exists_append_of_read? hread
    have hraw : raw = raw' := by simp [raw, hraw']
    rw [← hraw] at hraw'
    have hsome := (read?_hex_append_iff (List.cons_ne_nil c rest) hb).mpr ⟨after, rfl, hread⟩
    rw [hraw', List.append_assoc] at hsome
    rw [hraw', List.append_assoc, Token.scan_of_read?_eq_some hsome, ih, utf8Size_append,
      Nat.add_assoc, List.cons_append]

/-! ### Texts that are cut inside an escape -/

/-- An escape that is cut in two parts without escapes is not decoded part by part. -/
theorem decodeEscapes_append_ne (ha : read? .hex ('#' :: a) = none) (ha' : '#' ∉ a)
    (hb : '#' ∉ b) (h : read? .hex ('#' :: a ++ b) = some (placeholder, [])) :
    decodeEscapes ('#' :: a ++ b) ≠ decodeEscapes ('#' :: a) ++ decodeEscapes b := by
  have hshort := length_escapeText_lt h
  rw [List.cons_append] at h
  rw [List.cons_append, decodeEscapes_of_read?_eq_some h, decodeEscapes_of_read?_eq_none ha,
    decodeEscapes_eq_self ha', decodeEscapes_eq_self hb, decodeEscapes, List.append_nil]
  intro heq
  rw [heq] at hshort
  exact Nat.lt_irrefl _ hshort

/-- A digit goes on with an escape of one digit less. -/
theorem read?_hex_pair (hdigit : Hex.isDigit c = true) :
    read? .hex ['#', '4', c] = some (.hex .utf8 ['4', c] false, []) := by
  refine read?_hex_iff.mpr ⟨['#', '4', c], rfl, rfl, .bareHex (List.cons_ne_nil _ _) ?_ ?_ ?_⟩
  · simp [hdigit, show Hex.isDigit '4' = true by decide]
  · exact Nat.dvd_refl 2
  · intro more hmore _
    rw [List.prefix_nil.mp hmore]
    exact Nat.zero_lt_two

/-- Every other character goes on with some escape. -/
theorem exists_decodeEscapes_append_ne (hc : ¬ IsBoundary c) :
    ∃ a rest, decodeEscapes (a ++ c :: rest) ≠
      decodeEscapes a ++ decodeEscapes (c :: rest) := by
  by_cases hdigit : Hex.isDigit c = true
  · have hhash : '#' ≠ c := by
      rintro rfl
      exact absurd hdigit (by decide)
    exact ⟨['#', '4'], [], decodeEscapes_append_ne rfl (by decide) (by simpa using hhash)
      (read?_hex_pair hdigit)⟩
  · have hkind : c = 'u' ∨ c = 'U' ∨ c = '{' ∨ c = '}' := by
      by_contra hnone
      simp only [not_or] at hnone
      exact hc ⟨Bool.eq_false_of_not_eq_true hdigit, hnone⟩
    obtain rfl | rfl | rfl | rfl := hkind
    · exact ⟨['#'], "0041".toList, decodeEscapes_append_ne rfl (by decide) (by decide) rfl⟩
    · exact ⟨['#'], "0041".toList, decodeEscapes_append_ne rfl (by decide) (by decide) rfl⟩
    · exact ⟨['#'], "41\x7d".toList, decodeEscapes_append_ne rfl (by decide) (by decide) rfl⟩
    · exact ⟨"#\x7b41".toList, [], decodeEscapes_append_ne rfl (by decide) (by decide) rfl⟩

/-- **Decoding splits at boundaries** and at no other character. If a text is empty or starts
with a boundary, then the escapes of another text in front of it are found and decoded as if
they stood alone, and so are its own. Any other character can be the one at which an escape is
cut in two. -/
theorem decodeEscapes_append :
    (∀ a b : Text, (∀ c ∈ b.head?, IsBoundary c) →
      decodeEscapes (a ++ b) = decodeEscapes a ++ decodeEscapes b ∧
      Token.ofFamily .hex (a ++ b) = Token.ofFamily .hex a ++ Token.scan .hex a.utf8Size b) ∧
    ∀ c, ¬ IsBoundary c →
      ∃ a rest, decodeEscapes (a ++ c :: rest) ≠
        decodeEscapes a ++ decodeEscapes (c :: rest) := by
  refine ⟨fun a b hb => ⟨?_, ?_⟩, fun c => exists_decodeEscapes_append_ne⟩
  · fun_induction decodeEscapes a with
    | case1 => rfl
    | case2 c rest hread ih =>
      have hnone := read?_hex_append_of_none (List.cons_ne_nil c rest) hb hread
      rw [List.cons_append] at hnone ⊢
      rw [decodeEscapes_of_read?_eq_none hnone, ih, List.cons_append]
    | case3 c rest placeholder after hread ih =>
      have hsome := (read?_hex_append_iff (List.cons_ne_nil c rest) hb).mpr ⟨after, rfl, hread⟩
      rw [List.cons_append] at hsome ⊢
      rw [decodeEscapes_of_read?_eq_some hsome, ih, List.append_assoc]
  · have hscan := scan_append_of_isBoundary hb 0 a
    rwa [Nat.zero_add] at hscan

/-- An escape whose braces are not closed, in front of a boundary that starts an escape itself,
and a code letter, which is no boundary. -/
theorem decodeEscapes_append_unclosed :
    (∀ c ∈ "#42\x7d".toList.head?, IsBoundary c) ∧
    decodeEscapes ("#41#U\x7b0041".toList ++ "#42\x7d".toList) =
      "A#U\x7b0041".toList ++ "B\x7d".toList ∧
    ¬ IsBoundary 'U' ∧
    ∃ a rest, decodeEscapes (a ++ 'U' :: rest) ≠
      decodeEscapes a ++ decodeEscapes ('U' :: rest) := by
  have hb : ∀ c ∈ "#42\x7d".toList.head?, IsBoundary c := by
    rintro c ⟨⟩
    decide
  have hU : ¬ IsBoundary 'U' := by decide
  obtain ⟨hsplit, -⟩ := decodeEscapes_append.1 "#41#U\x7b0041".toList "#42\x7d".toList hb
  have hfront : decodeEscapes "#41#U\x7b0041".toList = "A#U\x7b0041".toList := by cbv
  have hback : decodeEscapes "#42\x7d".toList = "B\x7d".toList := by cbv
  rw [hfront, hback] at hsplit
  exact ⟨hb, hsplit, hU, decodeEscapes_append.2 'U' hU⟩

end Stencil
