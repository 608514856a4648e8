import Mathlib
import Stencil.Builtin
import Stencil.Proofs.Format.Failure
import Stencil.Proofs.Hex

/-!
# Identifiers and their written forms

The simple form of an identifier is the text of its digits, and the hyphenated form is the
simple one with hyphens at four places. Reading takes the hyphens out again and then the
digits, in either case, so the texts that are read as an identifier are its simple form and its
hyphenated form, by itself, in braces or after `urn:uuid:`. The form of nested fields is not
read, but its parts have known lengths, so it shows all digits, too. Hence no form loses
anything of an identifier.

## Main definitions

* `Stencil.Guid.hyphenate`, `Stencil.Guid.unhyphenate`: hyphens put into a text and taken out.
* `Stencil.Guid.HyphensInPlace`: the texts that have hyphens at the four places.
* `Stencil.IsLetterOf`: the format texts that select a form.

## Main results

* `Guid.read?_eq_some_iff`: the texts that are read as an identifier.
* `Guid.injective_of_guidForm?`: no written form loses anything.
* `formatGuid_lossless`: what is written can be told apart, and read back by placeholders.
-/

namespace Stencil

namespace Guid

variable {g h : Guid} {t u middle : Text} {spec : Text} {form : Guid → Text}

/-! ### Digits -/

/-- The simple form has thirty-two digits. -/
theorem length_simple (g : Guid) : g.simple.length = 32 := by
  rw [simple, List.length_map, g.length_digits]

/-- Identifiers with the same simple form are the same. -/
theorem simple_injective : Function.Injective simple := by
  intro g h heq
  obtain ⟨digits, hlength⟩ := g
  obtain ⟨digits', hlength'⟩ := h
  obtain rfl : digits = digits' := Hex.digitChar_injective.list_map heq
  rfl

/-- The characters of digits are in lower case. -/
theorem map_toLower_simple (g : Guid) : g.simple.map Char.toLower = g.simple := by
  rw [simple, List.map_map]
  exact List.map_congr_left fun d _ => Hex.digit?_eq_some_iff.mp (Hex.digit?_digitChar d)

/-- An identifier is made of its own digits, and of no others. -/
theorem ofDigits?_eq_some_iff {digits : List Hex.Digit} :
    ofDigits? digits = some g ↔ digits = g.digits := by
  rw [ofDigits?]
  constructor
  · intro hread
    split at hread
    · rw [← Option.some.inj hread]
    · simp at hread
  · rintro rfl
    exact dif_pos g.length_digits

/-- **The simple form** is read in either case. -/
theorem ofSimple?_eq_some_iff : ofSimple? t = some g ↔ t.map Char.toLower = g.simple := by
  rw [ofSimple?, Option.bind_eq_some_iff]
  simp only [ofDigits?_eq_some_iff, exists_eq_right]
  exact Hex.mapM_digit?_eq_some_iff

/-! ### Hyphens -/

/-- A text of 32 characters with hyphens between groups of 8, 4, 4, 4 and 12. -/
def hyphenate (t : Text) : Text :=
  t.take 8 ++ '-' :: (t.drop 8).take 4 ++ '-' :: (t.drop 12).take 4 ++
    '-' :: (t.drop 16).take 4 ++ '-' :: t.drop 20

/-- The text without the characters at the places of hyphens. -/
def unhyphenate (t : Text) : Text :=
  t.take 8 ++ (t.drop 9).take 4 ++ (t.drop 14).take 4 ++ (t.drop 19).take 4 ++ t.drop 24

/-- A text has **hyphens in place** if it is 36 characters with hyphens between the groups. -/
def HyphensInPlace (t : Text) : Prop :=
  t.length = 36 ∧ t[8]? = some '-' ∧ t[13]? = some '-' ∧ t[18]? = some '-' ∧ t[23]? = some '-'

/-- Letter case does not matter to where hyphens go. -/
theorem map_hyphenate (t : Text) :
    (hyphenate t).map Char.toLower = hyphenate (t.map Char.toLower) := by
  have hhyphen : '-'.toLower = '-' := rfl
  simp only [hyphenate, List.map_append, List.map_cons, List.map_take, List.map_drop, hhyphen]

/-- Letter case does not matter to where hyphens are taken out. -/
theorem map_unhyphenate (t : Text) :
    (unhyphenate t).map Char.toLower = unhyphenate (t.map Char.toLower) := by
  simp only [unhyphenate, List.map_append, List.map_take, List.map_drop]

/-- A text of 32 characters consists of five groups. -/
theorem exists_groups (h : t.length = 32) :
    ∃ a b c d e : Text, a.length = 8 ∧ b.length = 4 ∧ c.length = 4 ∧ d.length = 4 ∧
      e.length = 12 ∧ t = a ++ (b ++ (c ++ (d ++ e))) := by
  refine ⟨t.take 8, (t.drop 8).take 4, (t.drop 12).take 4, (t.drop 16).take 4, t.drop 20,
    ?_, ?_, ?_, ?_, ?_, ?_⟩
  case refine_6 =>
    have hsplit (i : ℕ) : (t.drop i).take 4 ++ t.drop (i + 4) = t.drop i := by
      rw [← List.drop_drop, List.take_append_drop]
    rw [hsplit 16, hsplit 12, hsplit 8, List.take_append_drop]
  all_goals simp [h]

/-- What is left of a text from a known character on starts with that character. -/
theorem drop_of_getElem? {x : Char} {i : ℕ} (h : t[i]? = some x) :
    t.drop i = x :: t.drop (i + 1) := by
  obtain ⟨hlt, rfl⟩ := List.getElem?_eq_some_iff.mp h
  exact List.drop_eq_getElem_cons hlt

/-- A text with hyphens in place consists of five groups and the hyphens between them. -/
theorem HyphensInPlace.exists_groups (h : HyphensInPlace t) :
    ∃ a b c d e : Text, a.length = 8 ∧ b.length = 4 ∧ c.length = 4 ∧ d.length = 4 ∧
      e.length = 12 ∧
      t = a ++ '-' :: (b ++ '-' :: (c ++ '-' :: (d ++ '-' :: e))) := by
  obtain ⟨hlength, h8, h13, h18, h23⟩ := h
  refine ⟨t.take 8, (t.drop 9).take 4, (t.drop 14).take 4, (t.drop 19).take 4, t.drop 24,
    ?_, ?_, ?_, ?_, ?_, ?_⟩
  case refine_6 =>
    have hsplit (i : ℕ) : (t.drop i).take 4 ++ t.drop (i + 4) = t.drop i := by
      rw [← List.drop_drop, List.take_append_drop]
    rw [← drop_of_getElem? h23, hsplit 19, ← drop_of_getElem? h18, hsplit 14,
      ← drop_of_getElem? h13, hsplit 9, ← drop_of_getElem? h8, List.take_append_drop]
  all_goals simp [hlength]

/-- Hyphens that were put in can be taken out. -/
theorem unhyphenate_hyphenate (h : t.length = 32) : unhyphenate (hyphenate t) = t := by
  obtain ⟨a, b, c, d, e, ha, hb, hc, hd, he, rfl⟩ := exists_groups h
  simp (disch := omega) [hyphenate, unhyphenate, List.drop_append, ha, hb, hc, hd,
    List.drop_of_length_le]

/-- Hyphens in place are put back when they have been taken out. -/
theorem hyphenate_unhyphenate (h : HyphensInPlace t) : hyphenate (unhyphenate t) = t := by
  obtain ⟨a, b, c, d, e, ha, hb, hc, hd, he, rfl⟩ := h.exists_groups
  simp (disch := omega) [hyphenate, unhyphenate, List.drop_append, ha, hb, hc, hd,
    List.drop_of_length_le]

/-- Hyphens that were put in stand in their places. -/
theorem hyphensInPlace_hyphenate (h : t.length = 32) : HyphensInPlace (hyphenate t) := by
  obtain ⟨a, b, c, d, e, ha, hb, hc, hd, he, rfl⟩ := exists_groups h
  simp (disch := omega) [hyphenate, HyphensInPlace, List.drop_append, ha, hb, hc, hd, he,
    List.drop_of_length_le, List.getElem?_append, List.getElem?_cons_zero]

/-- Hyphens have no case. -/
theorem HyphensInPlace.of_map (h : HyphensInPlace (t.map Char.toLower)) :
    HyphensInPlace t := by
  have hhyphen {i : ℕ} (hi : (t.map Char.toLower)[i]? = some '-') : t[i]? = some '-' := by
    rw [List.getElem?_map, Option.map_eq_some_iff] at hi
    obtain ⟨c, hc, hlower⟩ := hi
    rw [hc, Hex.eq_of_toLower_eq rfl hlower]
  obtain ⟨hlength, h8, h13, h18, h23⟩ := h
  rw [List.length_map] at hlength
  exact ⟨hlength, hhyphen h8, hhyphen h13, hhyphen h18, hhyphen h23⟩

/-! ### Texts that are read -/

/-- The hyphenated form is the simple one with hyphens. -/
theorem hyphenated_eq (g : Guid) : g.hyphenated = hyphenate g.simple := by
  have hlast : (g.digits.drop 20).take 12 = g.digits.drop 20 :=
    List.take_of_length_le (by rw [List.length_drop, g.length_digits])
  simp only [hyphenated, hyphenate, slice, simple, hlast, List.map_take, List.map_drop,
    List.drop_zero]

/-- The hyphenated form is in lower case. -/
theorem map_toLower_hyphenated (g : Guid) : g.hyphenated.map Char.toLower = g.hyphenated := by
  rw [hyphenated_eq, map_hyphenate, map_toLower_simple]

/-- The hyphenated form has thirty-six characters. -/
theorem length_hyphenated (g : Guid) : g.hyphenated.length = 36 := by
  rw [hyphenated_eq]
  exact (hyphensInPlace_hyphenate (length_simple g)).1

/-- **The hyphenated form** is read in either case. -/
theorem ofHyphenated?_eq_some_iff :
    ofHyphenated? t = some g ↔ t.map Char.toLower = g.hyphenated := by
  have hread : ofHyphenated? t = some g ↔
      HyphensInPlace t ∧ (unhyphenate t).map Char.toLower = g.simple := by
    rw [← ofSimple?_eq_some_iff, ofHyphenated?]
    split
    · next hplaces => exact (and_iff_right hplaces).symm
    · next hplaces => exact iff_of_false (by simp) fun h => hplaces h.1
  rw [hread, hyphenated_eq]
  constructor
  · rintro ⟨hplaces, hdigits⟩
    rw [← hdigits, ← map_hyphenate, hyphenate_unhyphenate hplaces]
  · intro h
    refine ⟨HyphensInPlace.of_map (h ▸ hyphensInPlace_hyphenate (length_simple g)), ?_⟩
    rw [map_unhyphenate, h, unhyphenate_hyphenate (length_simple g)]

/-- What is between two texts, if a text consists of them and something in the middle. -/
theorem between?_eq_some_iff {opening closing : Text} :
    between? opening closing t = some middle ↔ t = opening ++ (middle ++ closing) := by
  simp only [between?, Option.bind_eq_bind, Option.bind_eq_some_iff, Text.after?_eq_some_iff,
    Option.pure_def, Option.some.injEq]
  constructor
  · rintro ⟨rest, rfl, reversed, hrest, rfl⟩
    rw [← List.reverse_reverse rest, hrest, List.reverse_append, List.reverse_reverse]
  · rintro rfl
    exact ⟨middle ++ closing, rfl, middle.reverse, List.reverse_append,
      List.reverse_reverse middle⟩

/-- **The form in braces** is read in either case. -/
theorem between?_bind_eq_some_iff :
    (between? ['\x7b'] ['\x7d'] t).bind ofHyphenated? = some g ↔
      t.map Char.toLower = g.braced := by
  simp only [Option.bind_eq_some_iff, between?_eq_some_iff, ofHyphenated?_eq_some_iff]
  constructor
  · rintro ⟨middle, rfl, hmiddle⟩
    rw [List.map_append, List.map_append, hmiddle]
    rfl
  · intro h
    obtain ⟨front, back, rfl, hfront, hback⟩ := List.map_eq_append_iff.mp h
    obtain ⟨opening, middle, rfl, hopening, hmiddle⟩ := List.map_eq_cons_iff.mp hfront
    obtain ⟨closing, none, rfl, hclosing, hnone⟩ := List.map_eq_cons_iff.mp hback
    obtain rfl := List.map_eq_nil_iff.mp hnone
    rw [Hex.eq_of_toLower_eq rfl hopening, Hex.eq_of_toLower_eq rfl hclosing]
    exact ⟨middle, rfl, hmiddle⟩

/-- **The form after `urn:uuid:`** is read in either case. -/
theorem afterUrn?_bind_eq_some_iff :
    (afterUrn? t).bind ofHyphenated? = some g ↔
      t.map Char.toLower = "urn:uuid:".toList ++ g.hyphenated := by
  have hsplit : t.map Char.toLower =
      (t.take 9).map Char.toLower ++ (t.drop 9).map Char.toLower := by
    rw [← List.map_append, List.take_append_drop]
  have hurn : ("urn:uuid:".toList).length = 9 := rfl
  rw [afterUrn?]
  constructor
  · intro h
    split at h
    · next hfront => rw [hsplit, hfront, ofHyphenated?_eq_some_iff.mp h]
    · simp at h
  · intro h
    have hfront : (t.take 9).map Char.toLower = "urn:uuid:".toList := by
      rw [List.map_take, h, List.take_append_of_le_length hurn.ge,
        List.take_of_length_le hurn.le]
    rw [if_pos hfront]
    exact ofHyphenated?_eq_some_iff.mpr
      (List.append_cancel_left ((hfront ▸ hsplit).symm.trans h))

/-- The form with braces is in lower case. -/
theorem map_toLower_braced (g : Guid) : g.braced.map Char.toLower = g.braced := by
  rw [braced, List.map_append, List.map_cons, map_toLower_hyphenated]
  rfl

/-- The form with braces has thirty-eight characters. -/
theorem length_braced (g : Guid) : g.braced.length = 38 := by
  simp [braced, length_hyphenated]

/-- **The texts that are read as an identifier** write it, in either case, in the simple form,
in the hyphenated one, or in that one in braces or after `urn:uuid:`. -/
theorem read?_eq_some_iff :
    read? t = some g ↔
      t.map Char.toLower = g.simple ∨ t.map Char.toLower = g.hyphenated ∨
        t.map Char.toLower = g.braced ∨
          t.map Char.toLower = "urn:uuid:".toList ++ g.hyphenated := by
  simp only [read?, Option.or_eq_some_iff, ofSimple?_eq_some_iff, ofHyphenated?_eq_some_iff,
    between?_bind_eq_some_iff, afterUrn?_bind_eq_some_iff]
  constructor
  · rintro (h | ⟨-, h | ⟨-, h | ⟨-, h⟩⟩⟩)
    exacts [.inl h, .inr (.inl h), .inr (.inr (.inl h)), .inr (.inr (.inr h))]
  · -- The four forms have different lengths, so a reader that comes first does not read the
    -- others.
    have hsimple (h : (t.map Char.toLower).length ≠ 32) : ofSimple? t = none :=
      Option.eq_none_iff_forall_ne_some.mpr fun g hg => h <| by
        rw [ofSimple?_eq_some_iff.mp hg, length_simple]
    have hhyphenated (h : (t.map Char.toLower).length ≠ 36) : ofHyphenated? t = none :=
      Option.eq_none_iff_forall_ne_some.mpr fun g hg => h <| by
        rw [ofHyphenated?_eq_some_iff.mp hg, length_hyphenated]
    have hbraced (h : (t.map Char.toLower).length ≠ 38) :
        (between? ['{'] ['}'] t).bind ofHyphenated? = none :=
      Option.eq_none_iff_forall_ne_some.mpr fun g hg => h <| by
        rw [between?_bind_eq_some_iff.mp hg, length_braced]
    rintro (h | h | h | h)
    · exact .inl h
    · have hlength : (t.map Char.toLower).length = 36 := by rw [h, length_hyphenated]
      exact .inr ⟨hsimple (by omega), .inl h⟩
    · have hlength : (t.map Char.toLower).length = 38 := by rw [h, length_braced]
      exact .inr ⟨hsimple (by omega), .inr ⟨hhyphenated (by omega), .inl h⟩⟩
    · have hlength : (t.map Char.toLower).length = 45 := by
        rw [h, List.length_append, length_hyphenated]
        rfl
      exact .inr ⟨hsimple (by omega),
        .inr ⟨hhyphenated (by omega), .inr ⟨hbraced (by omega), h⟩⟩⟩

/-! ### Forms that lose nothing -/

/-- Identifiers with the same hyphenated form are the same. -/
theorem hyphenated_injective : Function.Injective hyphenated := by
  intro g h heq
  rw [hyphenated_eq, hyphenated_eq] at heq
  apply simple_injective
  rw [← unhyphenate_hyphenate (length_simple g), heq, unhyphenate_hyphenate (length_simple h)]

/-- Identifiers with the same form in braces are the same. -/
theorem braced_injective : Function.Injective braced := by
  intro g h heq
  exact hyphenated_injective (List.cons.inj (List.append_cancel_right heq)).2

/-- Identifiers with the same form in parentheses are the same. -/
theorem parenthesized_injective : Function.Injective parenthesized := by
  intro g h heq
  exact hyphenated_injective (List.cons.inj (List.append_cancel_right heq)).2

/-- A slice of an identifier has nothing but digits. -/
theorem not_mem_slice {c : Char} (hc : Hex.digit? c = none) (i n : ℕ) : c ∉ g.slice i n :=
  Hex.not_mem_map_digitChar hc

/-- Neighbouring slices make up a longer one. -/
theorem slice_append_slice {i j m n : ℕ} (hij : i + m = j) :
    g.slice i m ++ g.slice j n = g.slice i (m + n) := by
  rw [slice, slice, slice, ← hij, ← List.map_append, ← List.drop_drop, List.take_add]

/-- The slice of all digits is the simple form. -/
theorem slice_all (g : Guid) : g.slice 0 32 = g.simple := by
  rw [slice, simple, List.drop_zero, List.take_of_length_le g.length_digits.le]

/-- Digits at the same places of two identifiers are as many, so what follows them is compared
by itself. -/
theorem slice_append_inj {i n : ℕ} :
    g.slice i n ++ t = h.slice i n ++ u ↔ g.slice i n = h.slice i n ∧ t = u := by
  refine ⟨fun heq => List.append_inj heq ?_, fun ⟨hslice, hrest⟩ => by rw [hslice, hrest]⟩
  simp only [slice, List.length_map, List.length_take, List.length_drop, g.length_digits,
    h.length_digits]

/-- The nested fields, in parts of known lengths. -/
theorem fields_eq (g : Guid) :
    g.fields = '\x7b' :: '0' :: 'x' :: (g.slice 0 8 ++ ',' :: '0' :: 'x' :: (g.slice 8 4 ++
      ',' :: '0' :: 'x' :: (g.slice 12 4 ++ ',' :: '\x7b' :: '0' :: 'x' :: (g.slice 16 2 ++
      ',' :: '0' :: 'x' :: (g.slice 18 2 ++ ',' :: '0' :: 'x' :: (g.slice 20 2 ++
      ',' :: '0' :: 'x' :: (g.slice 22 2 ++ ',' :: '0' :: 'x' :: (g.slice 24 2 ++
      ',' :: '0' :: 'x' :: (g.slice 26 2 ++ ',' :: '0' :: 'x' :: (g.slice 28 2 ++
      ',' :: '0' :: 'x' :: (g.slice 30 2 ++ ['\x7d', '\x7d']))))))))))) := by
  calc g.fields
      = '\x7b' :: '0' :: 'x' :: g.slice 0 8 ++ ',' :: '0' :: 'x' :: g.slice 8 4 ++
          ',' :: '0' :: 'x' :: g.slice 12 4 ++ ',' :: '\x7b' :: [','].intercalate
            ((List.range 8).map fun i => '0' :: 'x' :: g.slice (16 + 2 * i) 2) ++
          ['\x7d', '\x7d'] := rfl
    _ = _ := by simp [List.range_succ, List.intercalate]

/-- Identifiers with the same form of hexadecimal fields are the same. -/
theorem fields_injective : Function.Injective fields := by
  intro g h heq
  simp only [fields_eq, slice_append_inj, List.cons.injEq, true_and, and_true] at heq
  obtain ⟨h0, h8, h12, h16, h18, h20, h22, h24, h26, h28, h30⟩ := heq
  have hslices (g : Guid) : g.simple =
      g.slice 0 8 ++ g.slice 8 4 ++ g.slice 12 4 ++ g.slice 16 2 ++
        g.slice 18 2 ++ g.slice 20 2 ++ g.slice 22 2 ++ g.slice 24 2 ++ g.slice 26 2 ++
        g.slice 28 2 ++ g.slice 30 2 := by
    rw [← slice_all]
    simp (disch := rfl) only [slice_append_slice, Nat.reduceAdd]
  apply simple_injective
  rw [hslices g, hslices h, h0, h8, h12, h16, h18, h20, h22, h24, h26, h28, h30]

/-- **No written form loses anything** of an identifier. -/
theorem injective_of_guidForm? (h : guidForm? spec = some form) : Function.Injective form := by
  unfold guidForm? at h
  split at h
  · obtain rfl := Option.some.inj h
    exact hyphenated_injective
  · split at h
    case h_11 => simp at h
    all_goals obtain rfl := Option.some.inj h
    exacts [hyphenated_injective, hyphenated_injective, simple_injective, simple_injective,
      braced_injective, braced_injective, parenthesized_injective, parenthesized_injective,
      fields_injective, fields_injective]
  · simp at h

end Guid

/-! ### Identifiers written and bound -/

variable {σ : Type} {g : Guid} {spec t text : Text}

/-- A format text is **empty or a letter** of some letters. -/
def IsLetterOf (letters : String) (spec : Text) : Prop :=
  spec = [] ∨ ∃ letter ∈ letters.toList, spec = [letter]

/-- Each letter of a form, in either case, selects one. -/
theorem exists_guidForm? (h : IsLetterOf "NnDdBbPpXx" spec) :
    ∃ form, guidForm? spec = some form := by
  rw [← Option.ne_none_iff_exists']
  intro hnone
  obtain ⟨hne, hletters⟩ := guidForm?_eq_none_iff.mp hnone
  obtain hempty | ⟨letter, hletter, hspec⟩ := h
  · exact hne hempty
  · exact hletters letter hletter hspec

/-- The letter `N` selects the simple form, and `D` and `B` select forms with hyphens. -/
theorem guidForm?_cases (h : IsLetterOf "NnDdBb" spec) :
    (spec = ['N'] ∨ spec = ['n']) ∧ guidForm? spec = some Guid.simple ∨
      ¬ (spec = ['N'] ∨ spec = ['n']) ∧
        (guidForm? spec = some Guid.hyphenated ∨ guidForm? spec = some Guid.braced) := by
  obtain rfl | ⟨letter, hletter, rfl⟩ := h
  · exact .inr ⟨by decide, .inl rfl⟩
  · simp only [String.reduceToList, List.mem_cons, List.not_mem_nil, or_false] at hletter
    obtain rfl | rfl | rfl | rfl | rfl | rfl := hletter
    · exact .inl ⟨.inl rfl, rfl⟩
    · exact .inl ⟨.inr rfl, rfl⟩
    · exact .inr ⟨by decide, .inl rfl⟩
    · exact .inr ⟨by decide, .inl rfl⟩
    · exact .inr ⟨by decide, .inr rfl⟩
    · exact .inr ⟨by decide, .inr rfl⟩

/-- The simple, the hyphenated and the braced form are read back, in either case. -/
theorem read?_of_formatGuid (h : IsLetterOf "NnDdBb" spec)
    (hformat : formatGuid g spec = .ok text)
    (hcase : t.map Char.toLower = text) : Guid.read? t = some g := by
  rw [formatGuid] at hformat
  rw [Guid.read?_eq_some_iff, hcase]
  obtain ⟨-, hform⟩ | ⟨-, hform | hform⟩ := guidForm?_cases h
  all_goals rw [hform] at hformat
  · exact .inl (Except.ok.inj hformat).symm
  · exact .inr (.inl (Except.ok.inj hformat).symm)
  · exact .inr (.inr (.inl (Except.ok.inj hformat).symm))

/-- **Written identifiers can be told apart and read back.** In every format identifiers have
different texts. Those of the simple, the hyphenated and the braced form, in either case, are
read as the identifier that was written, and a placeholder to which such a text is bound is
served as if the identifier itself were bound. -/
theorem formatGuid_lossless :
    (IsLetterOf "NnDdBbPpXx" spec →
      (∀ g, ∃ text, formatGuid g spec = .ok text) ∧
      Function.Injective fun g => formatGuid g spec) ∧
    (IsLetterOf "NnDdBb" spec → ∀ g text t,
      formatGuid g spec = .ok text → t.map Char.toLower = text →
        (Value.str t).toGuid? = some g ∧
          ∀ call : HandlerCall,
            Builtin.guidText (σ := σ) { call with value? := some (.str t) } =
              Builtin.guidText { call with value? := some (.guid g) }) := by
  constructor
  · intro h
    obtain ⟨form, hform⟩ := exists_guidForm? h
    simp only [formatGuid, hform]
    refine ⟨fun g => ⟨form g, rfl⟩, ?_⟩
    intro g g' heq
    exact Guid.injective_of_guidForm? hform (Except.ok.inj heq)
  · intro h g text t hformat hcase
    have hread : (Value.str t).toGuid? = some g := read?_of_formatGuid h hformat hcase
    have hguid : (Value.guid g).toGuid? = some g := rfl
    refine ⟨hread, ?_⟩
    intro call
    simp only [Builtin.guidText, Option.bind_some, hread, hguid]

/-- All digits in order, twice. -/
def Guid.inOrder : Guid := ⟨List.finRange 16 ++ List.finRange 16, rfl⟩

/-- The fields of an identifier are its own, and its braced form in capitals is read back. -/
theorem formatGuid_lossless_inOrder :
    IsLetterOf "NnDdBbPpXx" ['X'] ∧
      (Function.Injective fun g => formatGuid g ['X']) ∧
      IsLetterOf "NnDdBb" ['B'] ∧
      formatGuid .inOrder ['B'] = .ok "\x7b01234567-89ab-cdef-0123-456789abcdef\x7d".toList ∧
      "\x7b01234567-89AB-CDEF-0123-456789ABCDEF\x7d".toList.map Char.toLower =
        "\x7b01234567-89ab-cdef-0123-456789abcdef\x7d".toList ∧
      (Value.str "\x7b01234567-89AB-CDEF-0123-456789ABCDEF\x7d".toList).toGuid? =
        some .inOrder := by
  have hfields : IsLetterOf "NnDdBbPpXx" ['X'] := .inr ⟨'X', by decide, rfl⟩
  have hbraced : IsLetterOf "NnDdBb" ['B'] := .inr ⟨'B', by decide, rfl⟩
  have hformat : formatGuid .inOrder ['B'] =
    .ok "\x7b01234567-89ab-cdef-0123-456789abcdef\x7d".toList := by decide
  have hcase : "\x7b01234567-89AB-CDEF-0123-456789ABCDEF\x7d".toList.map Char.toLower =
    "\x7b01234567-89ab-cdef-0123-456789abcdef\x7d".toList := by decide
  exact ⟨hfields, ((@formatGuid_lossless Unit _).1 hfields).2, hbraced, hformat, hcase,
    ((@formatGuid_lossless Unit _).2 hbraced _ _ _ hformat hcase).1⟩

end Stencil
