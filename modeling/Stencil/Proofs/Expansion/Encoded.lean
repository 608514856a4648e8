import Mathlib
import Stencil.Proofs.Expansion.Escape
import Stencil.Proofs.Hex
import Stencil.Proofs.Placeholder.Forms
import Stencil.Proofs.Text.Encoding

/-!
# Escapes of encoded texts

An escape that writes the bytes of a text decodes to this text, in each of the three encodings
and whatever the case of its digits. The digits of a text are a whole number of units, since an
encoding has whole bytes and UTF-16 has two of them for each unit, so the reader takes all of
them: up to the brace that closes them, or up to a character that is no digit.

## Main definitions

* `Stencil.Hex.Spells`: digits of either case that write some bytes.

## Main results

* `Encoding.decodeHex_of_spells`: the digits of an encoded text decode to the text.
* `decodeEscapes_append_written`: an escape behind a text without `#` is decoded in its place.
* `decodeEscapes_encoded`: the escape of a text decodes to the text.
-/

namespace Stencil

open Placeholder Text

variable {t digits before after rest raw : Text} {bytes : List UInt8}
  {placeholder : Placeholder}

/-! ### Digits of either case -/

/-- As many values for each element of a list. -/
theorem length_flatMap_of_forall {α β : Type} {f : α → List β} {n : Nat}
    (h : ∀ a, (f a).length = n) (l : List α) : (l.flatMap f).length = n * l.length := by
  induction l with
  | nil => rfl
  | cons a l ih =>
    rw [List.flatMap_cons, List.length_append, h, ih, List.length_cons, Nat.mul_succ,
      Nat.add_comm]

namespace Hex

/-- A text **spells** bytes if it writes two digits for each of them, with letters of either
case. -/
def Spells (digits : Text) (bytes : List UInt8) : Prop :=
  digits.map Char.toLower = ofBytes bytes

instance (digits : Text) (bytes : List UInt8) : Decidable (Spells digits bytes) :=
  inferInstanceAs (Decidable (_ = _))

/-- Digits that spell bytes have the values that the bytes have. -/
theorem Spells.map_digit? (h : Spells digits bytes) :
    digits.map digit? = (bytes.flatMap digitsOfByte).map some :=
  calc digits.map digit?
      = (digits.map Char.toLower).map digit? := by
        rw [List.map_map]
        exact List.map_congr_left fun c _ => (digit?_toLower c).symm
    _ = ((bytes.flatMap digitsOfByte).map digitChar).map digit? := by rw [h, ofBytes]
    _ = (bytes.flatMap digitsOfByte).map some := by
        rw [List.map_map]
        exact List.map_congr_left fun d _ => digit?_digitChar d

/-- The digits that spell bytes are those of the bytes, in either letter case. -/
theorem Spells.filterMap_digit? (h : Spells digits bytes) :
    digits.filterMap digit? = bytes.flatMap digitsOfByte := by
  have hid := congrArg (List.filterMap id) h.map_digit?
  rw [List.filterMap_map, List.filterMap_map] at hid
  exact hid.trans (List.filterMap_some)

/-- What spells bytes consists of digits. -/
theorem Spells.all_isDigit (h : Spells digits bytes) : digits.all isDigit := by
  refine List.all_eq_true.mpr fun c hc => ?_
  have hmem : digit? c ∈ digits.map digit? := List.mem_map_of_mem hc
  rw [h.map_digit?, List.mem_map] at hmem
  obtain ⟨d, -, hd⟩ := hmem
  rw [isDigit, ← hd]
  rfl

/-- There are two digits for each byte. -/
theorem Spells.length_eq (h : Spells digits bytes) : digits.length = 2 * bytes.length := by
  have htwo : ∀ b, (digitsOfByte b).length = 2 := fun _ => rfl
  have hlength := congrArg List.length h.map_digit?
  rwa [List.length_map, List.length_map, length_flatMap_of_forall htwo] at hlength

/-- Bytes are not spelled by nothing. -/
theorem Spells.ne_nil (h : Spells digits bytes) (hne : bytes ≠ []) : digits ≠ [] := by
  have hpos := List.length_pos_of_ne_nil hne
  refine List.ne_nil_of_length_pos ?_
  rw [h.length_eq]
  omega

/-- Digits are no blanks. -/
theorem isBlank_of_isDigit {c : Char} (h : isDigit c = true) : isBlank c = false := by
  have hrange : 48 ≤ c.toNat ∧ c.toNat ≤ 102 := by
    simp only [isDigit, digit?] at h
    split_ifs at h <;> first | omega | simp at h
  refine eq_false_of_ne_true fun hblank => ?_
  simp only [isBlank, Bool.or_eq_true, Bool.and_eq_true, decide_eq_true_eq, beq_iff_eq]
    at hblank
  omega

/-- The digits of bytes pair up to the bytes. -/
theorem pairs_flatMap_digitsOfByte (bytes : List UInt8) :
    pairs (bytes.flatMap digitsOfByte) = bytes := by
  induction bytes with
  | nil => rfl
  | cons b bytes ih => rw [List.flatMap_cons, pairs_digitsOfByte_append, ih]

/-- Digits that spell bytes read back as these bytes. -/
theorem Spells.bytes?_eq (h : Spells digits bytes) (hne : bytes ≠ []) :
    bytes? digits false = some bytes := by
  have htrim : digits.trim ≠ [] := by
    intro hnil
    obtain ⟨c, rest, rfl⟩ := List.exists_cons_of_ne_nil (h.ne_nil hne)
    have hdigit := List.all_eq_true.mp h.all_isDigit c List.mem_cons_self
    have hblank := isBlank_of_trim_eq_nil hnil List.mem_cons_self
    rw [isBlank_of_isDigit hdigit] at hblank
    exact Bool.false_ne_true hblank
  have hhex : isHex digits false = true := by
    have hall := h.all_isDigit
    simp [isHex, htrim, hall]
  rw [bytes?, if_pos hhex, h.filterMap_digit?, pairs_flatMap_digitsOfByte]

end Hex

/-! ### Encoded texts -/

namespace Encoding

variable {e : Encoding} {s : Text}

/-- A text that is not empty has bytes in every encoding. -/
theorem encode_ne_nil (e : Encoding) (h : t ≠ []) : e.encode t ≠ [] := fun hnil => by
  have := e.decode_encode t
  rw [hnil] at this
  cases e <;> exact h this.symm

/-- An encoding has whole units. -/
theorem unitDigits_dvd (e : Encoding) (t : Text) : e.unitDigits ∣ 2 * (e.encode t).length := by
  have htwo : ∀ (order : Utf16.ByteOrder) u, (order.bytes u).length = 2 := by
    rintro ⟨⟩ u <;> rfl
  cases e with
  | utf8 => exact Nat.dvd_mul_right 2 _
  | utf16le =>
    rw [encode, length_flatMap_of_forall (htwo _), ← Nat.mul_assoc]
    exact Nat.dvd_mul_right 4 _
  | utf16be =>
    rw [encode, length_flatMap_of_forall (htwo _), ← Nat.mul_assoc]
    exact Nat.dvd_mul_right 4 _

/-- **The digits of a text** in an encoding decode to the text. -/
theorem decodeHex_of_spells (h : Hex.Spells digits (e.encode t)) (ht : t ≠ []) :
    e.decodeHex digits = t := by
  rw [decodeHex, h.bytes?_eq (e.encode_ne_nil ht), Option.getD_some, decode_encode]

end Encoding

/-! ### Escapes -/

/-- Nothing is decoded in front of the first `#`. -/
theorem decodeEscapes_append_of_not_mem (h : '#' ∉ before) (t : Text) :
    decodeEscapes (before ++ t) = before ++ decodeEscapes t := by
  induction before with
  | nil => rfl
  | cons c before ih =>
    rw [List.mem_cons, not_or] at h
    rw [List.cons_append, decodeEscapes_of_read?_eq_none (read?_hex_of_ne (Ne.symm h.1) _),
      ih h.2]
    rfl

/-- **An escape is decoded in its place**, if no `#` stands in front of it. -/
theorem decodeEscapes_append_written (hbefore : '#' ∉ before)
    (hfamily : placeholder.family = .hex) (h : Written placeholder raw rest) :
    decodeEscapes (before ++ (raw ++ rest)) =
      before ++ (escapeText placeholder ++ decodeEscapes rest) := by
  have hread := read?_hex_iff.mpr ⟨raw, rfl, hfamily, h⟩
  rw [decodeEscapes_append_of_not_mem hbefore]
  cases hraw : raw ++ rest with
  | nil => simp [hraw] at hread
  | cons c tail =>
    rw [hraw] at hread
    rw [decodeEscapes_of_read?_eq_some hread]

/-- **The escape of a text decodes to the text.** Let digits of either case spell the bytes of
a text that is not empty, in any of the encodings. In braces behind `#` and the code letter
they decode to the text, and so they do without braces if no further digit follows. What stands
in front and behind stays, as long as it has no `#`. -/
theorem decodeEscapes_encoded (e : Encoding) (ht : t ≠ [])
    (hdigits : Hex.Spells digits (e.encode t)) (hbefore : '#' ∉ before)
    (hafter : '#' ∉ after) :
    decodeEscapes (before ++ ('#' :: (e.code ++ braced digits) ++ after)) =
      before ++ (t ++ after) ∧
    ((∀ c ∈ after.head?, Hex.isDigit c = false) →
      decodeEscapes (before ++ ('#' :: (e.code ++ digits) ++ after)) =
        before ++ (t ++ after)) := by
  have htext := Encoding.decodeHex_of_spells hdigits ht
  have hne := hdigits.ne_nil (e.encode_ne_nil ht)
  have hdvd : e.unitDigits ∣ digits.length := hdigits.length_eq ▸ e.unitDigits_dvd t
  constructor
  · rw [decodeEscapes_append_written hbefore rfl
      (.bracedHex after hne hdigits.all_isDigit hdvd),
      escapeText, htext, decodeEscapes_eq_self hafter]
  · intro hstop
    -- No further digit follows, so no further unit does.
    have hmax : ∀ more, more <+: after → more.all Hex.isDigit →
        more.length < e.unitDigits := by
      rintro (_ | ⟨c, more⟩) hmore hall
      · exact unitDigits_pos e
      · obtain ⟨tail, rfl⟩ := hmore
        have hdigit := List.all_eq_true.mp hall c List.mem_cons_self
        rw [hstop c rfl] at hdigit
        exact absurd hdigit Bool.false_ne_true
    rw [decodeEscapes_append_written hbefore rfl (.bareHex hne hdigits.all_isDigit hdvd hmax),
      escapeText, htext, decodeEscapes_eq_self hafter]

/-- A character of two units, in digits of both cases, in front of a letter that is no
digit. -/
theorem decodeEscapes_encoded_pair :
    Hex.Spells "00E9d83DdE00".toList (Encoding.utf16be.encode "é😀".toList) ∧
    decodeEscapes ("{0} ".toList ++ ('#' :: ("U".toList ++ braced "00E9d83DdE00".toList) ++
      "g\x7d".toList)) = "{0} ".toList ++ ("é😀".toList ++ "g\x7d".toList) ∧
    decodeEscapes ("{0} ".toList ++ ('#' :: ("U".toList ++ "00E9d83DdE00".toList) ++
      "g\x7d".toList)) = "{0} ".toList ++ ("é😀".toList ++ "g\x7d".toList) := by
  have hdigits : Hex.Spells "00E9d83DdE00".toList (Encoding.utf16be.encode "é😀".toList) := by
    decide
  have hstop : ∀ c ∈ "g\x7d".toList.head?, Hex.isDigit c = false := by
    rintro c ⟨⟩
    decide
  have hdecoded := decodeEscapes_encoded .utf16be (List.cons_ne_nil _ _) hdigits
    (show '#' ∉ "{0} ".toList by decide) (show '#' ∉ "g\x7d".toList by decide)
  exact ⟨hdigits, hdecoded.1, hdecoded.2 hstop⟩

end Stencil
