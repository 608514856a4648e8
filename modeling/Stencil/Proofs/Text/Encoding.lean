import Mathlib
import Stencil.Hex

/-!
# Encoded texts read back

Every character is a scalar value, so its bytes in UTF-8 and its units in UTF-16 are
well-formed, and decoding them gives the character itself. Nothing that stands behind them
changes this, so a whole text reads back character by character, whatever the encoding and the
byte order.

## Main results

* `Utf8.decode_encode`, `Utf16.decode_encode`: a text reads back from its bytes and its units.
* `Utf16.units_bytes`: units read back from their bytes.
* `Encoding.decode_encode`: a text reads back from its bytes in any encoding.
-/

namespace Stencil

variable {a b c d : UInt8} {x : Char}

/-! ### Scalar values -/

/-- A scalar value is no surrogate and at most U+10FFFF. -/
theorem toNat_scalar (x : Char) : x.toNat < 0xD800 ∨ 0xDFFF < x.toNat ∧ x.toNat < 0x110000 :=
  x.valid

/-- A character is determined by its scalar value. -/
theorem ofNat_eq_of_toNat {n : Nat} (h : n = x.toNat) : Char.ofNat n = x := by
  rw [h, Char.ofNat_toNat]

/-- A number below `0x100` is kept by a byte. -/
theorem toNat_ofNat_byte {n : Nat} (h : n < 0x100) : (UInt8.ofNat n).toNat = n := by
  rw [UInt8.toNat_ofNat', Nat.mod_eq_of_lt h]

/-! ### UTF-8 -/

namespace Utf8

/-- A range of bytes is a range of numbers. -/
theorem between_iff {low high : UInt8} :
    (decide (low ≤ b) && decide (b ≤ high)) = true ↔
      low.toNat ≤ b.toNat ∧ b.toNat ≤ high.toNat := by
  rw [Bool.and_eq_true, decide_eq_true_eq, decide_eq_true_eq, UInt8.le_iff_toNat_le,
    UInt8.le_iff_toNat_le]

/-- Continuation bytes, by their range. -/
theorem isTail_iff : isTail b = true ↔ 0x80 ≤ b.toNat ∧ b.toNat ≤ 0xBF := between_iff

/-- Lead bytes of two-byte sequences, by their range. -/
theorem isLead2_iff : isLead2 a = true ↔ 0xC2 ≤ a.toNat ∧ a.toNat ≤ 0xDF := between_iff

/-- Lead bytes of three-byte sequences, by their range. -/
theorem isLead3_iff : isLead3 a = true ↔ 0xE0 ≤ a.toNat ∧ a.toNat ≤ 0xEF := between_iff

/-- Lead bytes of four-byte sequences, by their range. -/
theorem isLead4_iff : isLead4 a = true ↔ 0xF0 ≤ a.toNat ∧ a.toNat ≤ 0xF4 := between_iff

/-- The second byte of three is a continuation byte, and the lead bytes `0xE0` and `0xED`
narrow it: there are neither overlong forms nor surrogates. -/
theorem isSecond3_iff : isSecond3 a b = true ↔ (0x80 ≤ b.toNat ∧ b.toNat ≤ 0xBF) ∧
    (a.toNat = 0xE0 → 0xA0 ≤ b.toNat) ∧ (a.toNat = 0xED → b.toNat ≤ 0x9F) := by
  simp only [isSecond3, Bool.and_eq_true, isTail_iff, Bool.or_eq_true, bne_iff_ne, ne_eq,
    decide_eq_true_eq, UInt8.le_iff_toNat_le, ← UInt8.toNat_inj, ← imp_iff_not_or, and_assoc]
  rfl

/-- The second byte of four is a continuation byte, and the lead bytes `0xF0` and `0xF4` narrow
it: there are neither overlong forms nor values past the last scalar value. -/
theorem isSecond4_iff : isSecond4 a b = true ↔ (0x80 ≤ b.toNat ∧ b.toNat ≤ 0xBF) ∧
    (a.toNat = 0xF0 → 0x90 ≤ b.toNat) ∧ (a.toNat = 0xF4 → b.toNat ≤ 0x8F) := by
  simp only [isSecond4, Bool.and_eq_true, isTail_iff, Bool.or_eq_true, bne_iff_ne, ne_eq,
    decide_eq_true_eq, UInt8.le_iff_toNat_le, ← UInt8.toNat_inj, ← imp_iff_not_or, and_assoc]
  rfl

/-- A byte that is no ASCII. -/
theorem not_lt_of_le (h : 0x80 ≤ a.toNat) : ¬ a < 0x80 :=
  UInt8.not_lt.mpr (UInt8.le_iff_toNat_le.mpr h)

/-- A byte below `0x80` is a part by itself. -/
theorem parts_of_lt (h : a < 0x80) (rest : List UInt8) :
    parts (a :: rest) = some (Char.ofNat a.toNat) :: parts rest := by
  rw [parts.eq_def]
  exact if_pos h

/-- A well-formed sequence of two bytes is one part. -/
theorem parts_of_isLead2 (ha : isLead2 a = true) (hb : isTail b = true) (rest : List UInt8) :
    parts (a :: b :: rest) = some (join2 a b) :: parts rest := by
  have hle := (isLead2_iff.mp ha).1
  rw [parts.eq_def]
  simp only [not_lt_of_le (show 0x80 ≤ a.toNat by omega), if_false, ha, hb, Bool.and_self,
    if_true]

/-- A well-formed sequence of three bytes is one part. -/
theorem parts_of_isLead3 (ha : isLead3 a = true) (hb : isSecond3 a b = true)
    (hc : isTail c = true) (rest : List UInt8) :
    parts (a :: b :: c :: rest) = some (join3 a b c) :: parts rest := by
  have hle := (isLead3_iff.mp ha).1
  have hlead : isLead2 a = false := eq_false_of_ne_true fun h => by
    have := (isLead2_iff.mp h).2
    omega
  rw [parts.eq_def]
  simp only [not_lt_of_le (show 0x80 ≤ a.toNat by omega), if_false, hlead, Bool.false_and,
    Bool.false_eq_true, ha, hb, Bool.and_self, if_true, hc]

/-- A well-formed sequence of four bytes is one part. -/
theorem parts_of_isLead4 (ha : isLead4 a = true) (hb : isSecond4 a b = true)
    (hc : isTail c = true) (hd : isTail d = true) (rest : List UInt8) :
    parts (a :: b :: c :: d :: rest) = some (join4 a b c d) :: parts rest := by
  have hle := (isLead4_iff.mp ha).1
  have hlead2 : isLead2 a = false := eq_false_of_ne_true fun h => by
    have := (isLead2_iff.mp h).2
    omega
  have hlead3 : isLead3 a = false := eq_false_of_ne_true fun h => by
    have := (isLead3_iff.mp h).2
    omega
  rw [parts.eq_def]
  simp only [not_lt_of_le (show 0x80 ≤ a.toNat by omega), if_false, hlead2, hlead3,
    Bool.false_and, Bool.false_eq_true, ha, hb, Bool.and_self, if_true, hc, hd]

/-- **A character reads back** from its bytes, whatever follows. -/
theorem parts_append (x : Char) (rest : List UInt8) :
    parts (String.utf8EncodeChar x ++ rest) = some x :: parts rest := by
  have hscalar := toNat_scalar x
  simp only [String.utf8EncodeChar, Char.toNat_val]
  split_ifs with h1 h2 h3
  · have ha := toNat_ofNat_byte (n := x.toNat) (by omega)
    have hlt : UInt8.ofNat x.toNat < 0x80 := by
      rw [UInt8.lt_iff_toNat_lt, ha]
      exact Nat.lt_succ_of_le h1
    rw [List.singleton_append, parts_of_lt hlt, ofNat_eq_of_toNat ha]
  · have ha := toNat_ofNat_byte (n := x.toNat / 64 % 32 + 192) (by omega)
    have hb := toNat_ofNat_byte (n := x.toNat % 64 + 128) (by omega)
    refine (parts_of_isLead2 ?_ ?_ rest).trans (congrArg (some · :: parts rest) ?_)
    · rw [isLead2_iff, ha]
      omega
    · rw [isTail_iff, hb]
      omega
    · refine ofNat_eq_of_toNat ?_
      rw [payload, ha, hb]
      omega
  · have ha := toNat_ofNat_byte (n := x.toNat / 4096 % 16 + 224) (by omega)
    have hb := toNat_ofNat_byte (n := x.toNat / 64 % 64 + 128) (by omega)
    have hc := toNat_ofNat_byte (n := x.toNat % 64 + 128) (by omega)
    refine (parts_of_isLead3 ?_ ?_ ?_ rest).trans (congrArg (some · :: parts rest) ?_)
    · rw [isLead3_iff, ha]
      omega
    · rw [isSecond3_iff, ha, hb]
      omega
    · rw [isTail_iff, hc]
      omega
    · refine ofNat_eq_of_toNat ?_
      rw [payload, payload, ha, hb, hc]
      omega
  · have ha := toNat_ofNat_byte (n := x.toNat / 262144 % 8 + 240) (by omega)
    have hb := toNat_ofNat_byte (n := x.toNat / 4096 % 64 + 128) (by omega)
    have hc := toNat_ofNat_byte (n := x.toNat / 64 % 64 + 128) (by omega)
    have hd := toNat_ofNat_byte (n := x.toNat % 64 + 128) (by omega)
    refine (parts_of_isLead4 ?_ ?_ ?_ ?_ rest).trans (congrArg (some · :: parts rest) ?_)
    · rw [isLead4_iff, ha]
      omega
    · rw [isSecond4_iff, ha, hb]
      omega
    · rw [isTail_iff, hc]
      omega
    · rw [isTail_iff, hd]
      omega
    · refine ofNat_eq_of_toNat ?_
      rw [payload, payload, payload, ha, hb, hc, hd]
      omega

/-- The bytes of a text have its characters as their parts, and nothing is ill-formed. -/
theorem parts_encode (t : Text) : parts (encode t) = t.map some := by
  induction t with
  | nil => rfl
  | cons x t ih => rw [encode, List.flatMap_cons, parts_append, ← encode, ih, List.map_cons]

/-- A text reads back from its bytes. -/
theorem decode_encode (t : Text) : decode (encode t) = t := by
  rw [decode, parts_encode, List.map_map]
  exact List.map_id t

end Utf8

/-! ### UTF-16 -/

namespace Utf16

/-- A range of units is a range of numbers. -/
theorem between_iff {u low high : UInt16} :
    (decide (low ≤ u) && decide (u ≤ high)) = true ↔
      low.toNat ≤ u.toNat ∧ u.toNat ≤ high.toNat := by
  rw [Bool.and_eq_true, decide_eq_true_eq, decide_eq_true_eq, UInt16.le_iff_toNat_le,
    UInt16.le_iff_toNat_le]

/-- High surrogates, by their range. -/
theorem isHigh_iff {u : UInt16} : isHigh u = true ↔ 0xD800 ≤ u.toNat ∧ u.toNat ≤ 0xDBFF :=
  between_iff

/-- Low surrogates, by their range. -/
theorem isLow_iff {u : UInt16} : isLow u = true ↔ 0xDC00 ≤ u.toNat ∧ u.toNat ≤ 0xDFFF :=
  between_iff

/-- A number below `0x10000` is kept by a unit. -/
theorem toNat_ofNat_unit {n : Nat} (h : n < 0x10000) : (UInt16.ofNat n).toNat = n := by
  rw [UInt16.toNat_ofNat', Nat.mod_eq_of_lt h]

/-- A unit that is no surrogate is a character of its own. -/
theorem decode_of_plain {u : UInt16} (hhigh : isHigh u = false) (hlow : isLow u = false)
    (rest : List UInt16) : decode (u :: rest) = Char.ofNat u.toNat :: decode rest := by
  cases rest with
  | nil => simp only [decode, hhigh, hlow, Bool.or_self, Bool.false_eq_true, if_false]
  | cons v rest =>
    rw [decode]
    simp only [hhigh, hlow, Bool.false_eq_true, if_false]

/-- A surrogate pair is one character. -/
theorem decode_of_pair {u v : UInt16} (hhigh : isHigh u = true) (hlow : isLow v = true)
    (rest : List UInt16) : decode (u :: v :: rest) = join u v :: decode rest := by
  rw [decode]
  simp only [hhigh, hlow, if_true]

/-- **A character reads back** from its units, whatever follows. -/
theorem decode_append (x : Char) (rest : List UInt16) :
    decode (encodeChar x ++ rest) = x :: decode rest := by
  have hscalar := toNat_scalar x
  simp only [encodeChar]
  split_ifs with h
  · have hu := toNat_ofNat_unit h
    rw [List.singleton_append, decode_of_plain, ofNat_eq_of_toNat hu]
    · refine eq_false_of_ne_true fun hhigh => ?_
      rw [isHigh_iff, hu] at hhigh
      omega
    · refine eq_false_of_ne_true fun hlow => ?_
      rw [isLow_iff, hu] at hlow
      omega
  · have hu := toNat_ofNat_unit (n := 0xD800 + (x.toNat - 0x10000) / 0x400) (by omega)
    have hv := toNat_ofNat_unit (n := 0xDC00 + (x.toNat - 0x10000) % 0x400) (by omega)
    refine (decode_of_pair ?_ ?_ rest).trans (congrArg (· :: decode rest) ?_)
    · rw [isHigh_iff, hu]
      omega
    · rw [isLow_iff, hv]
      omega
    · refine ofNat_eq_of_toNat ?_
      rw [hu, hv]
      omega

/-- A text reads back from its units. -/
theorem decode_encode (t : Text) : decode (encode t) = t := by
  induction t with
  | nil => rfl
  | cons x t ih => rw [encode, List.flatMap_cons, decode_append, ← encode, ih]

/-- A unit reads back from its bytes. -/
theorem units_bytes_append (order : ByteOrder) (u : UInt16) (rest : List UInt8) :
    units order (order.bytes u ++ rest) = u :: units order rest := by
  have hu := u.toNat_lt
  have hlow := toNat_ofNat_byte (n := u.toNat % 0x100) (by omega)
  have hhigh := toNat_ofNat_byte (n := u.toNat / 0x100) (by omega)
  have hjoin : UInt16.ofNat (u.toNat / 0x100 * 0x100 + u.toNat % 0x100) = u := by
    rw [Nat.div_add_mod', UInt16.ofNat_toNat]
  cases order <;> simp only [ByteOrder.bytes, List.cons_append, List.nil_append, units,
    ByteOrder.unit, hlow, hhigh, hjoin]

/-- Units read back from their bytes. -/
theorem units_bytes (order : ByteOrder) (us : List UInt16) :
    units order (us.flatMap order.bytes) = us := by
  induction us with
  | nil => rfl
  | cons u us ih => rw [List.flatMap_cons, units_bytes_append, ih]

end Utf16

/-! ### All encodings -/

/-- **A text reads back** from its bytes in any encoding. -/
theorem Encoding.decode_encode (e : Encoding) (t : Text) : e.decode (e.encode t) = t := by
  cases e with
  | utf8 => exact Utf8.decode_encode t
  | utf16le => rw [decode, encode, Utf16.units_bytes, Utf16.decode_encode]
  | utf16be => rw [decode, encode, Utf16.units_bytes, Utf16.decode_encode]

end Stencil
