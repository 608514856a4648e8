import Mathlib
import Stencil.Proofs.Expansion.Encoded

/-!
# Hexadecimal digits of arbitrary units

A sequence of 16-bit units need not be well-formed: surrogates may stand alone, in the wrong
order or at either end. It still has one reading, from left to right, in which a high surrogate
and a low one right behind it are one character and every surrogate that is left over is a
replacement character. The decoder looks at two units at a time and gives this reading. The
digits of the units have their bytes in either order; to swap the bytes of each unit is to swap
the two pairs of digits in each group of four.

## Main definitions

* `Stencil.Utf16.Reads`: the reading of a sequence of units.
* `Stencil.Hex.swapUnits`: digits with the bytes of each unit swapped.

## Main results

* `reads_decode`, `Reads.decode_eq`: the decoder gives the reading, and there is no other.
* `Spells.swapUnits`: swapped digits spell the units in the other byte order.
* `decodeHex_eq_iff_reads`: the digits of units decode to their reading, in either byte order.
-/

namespace Stencil

/-! ### Readings -/

namespace Utf16

/-- **The reading** of a sequence of units, from left to right. -/
inductive Reads : List UInt16 → Text → Prop
  | nil : Reads [] []
  /-- A unit that is no surrogate is a character. -/
  | plain {u : UInt16} {us : List UInt16} {x : Char} {t : Text} : isHigh u = false →
      isLow u = false → x.toNat = u.toNat → Reads us t → Reads (u :: us) (x :: t)
  /-- A high surrogate and a low one right behind it are one supplementary character. -/
  | pair {u v : UInt16} {us : List UInt16} {x : Char} {t : Text} : isHigh u = true →
      isLow v = true → x.toNat = 0x10000 + (u.toNat - 0xD800) * 0x400 + (v.toNat - 0xDC00) →
      Reads us t → Reads (u :: v :: us) (x :: t)
  /-- Any other surrogate is a replacement character. -/
  | lone {u : UInt16} {us : List UInt16} {t : Text} : isHigh u = true ∨ isLow u = true →
      (isHigh u = true → ∀ v ∈ us.head?, isLow v = false) → Reads us t →
      Reads (u :: us) (replacement :: t)

variable {u v : UInt16} {us : List UInt16} {t : Text}

/-- A unit that is no surrogate is a scalar value. -/
theorem toNat_ofNat_plain (hhigh : isHigh u = false) (hlow : isLow u = false) :
    (Char.ofNat u.toNat).toNat = u.toNat := by
  have hu := u.toNat_lt
  rw [← Bool.not_eq_true, isHigh_iff] at hhigh
  rw [← Bool.not_eq_true, isLow_iff] at hlow
  have hvalid : u.toNat.isValidChar := by
    unfold Nat.isValidChar
    omega
  rw [Char.toNat_ofNat, if_pos hvalid]

/-- A surrogate pair is a scalar value. -/
theorem toNat_join (hhigh : isHigh u = true) (hlow : isLow v = true) :
    (join u v).toNat = 0x10000 + (u.toNat - 0xD800) * 0x400 + (v.toNat - 0xDC00) := by
  rw [isHigh_iff] at hhigh
  rw [isLow_iff] at hlow
  have hvalid : (0x10000 + (u.toNat - 0xD800) * 0x400 + (v.toNat - 0xDC00)).isValidChar := by
    unfold Nat.isValidChar
    omega
  rw [join, Char.toNat_ofNat, if_pos hvalid]

/-- A surrogate that is not part of a pair is a replacement character. -/
theorem decode_of_lone (h : isHigh u = true ∨ isLow u = true)
    (hnext : isHigh u = true → ∀ v ∈ us.head?, isLow v = false) :
    decode (u :: us) = replacement :: decode us := by
  cases us with
  | nil =>
    simp only [decode]
    exact if_pos (Bool.or_eq_true_iff.mpr h)
  | cons v us =>
    rw [decode]
    by_cases hhigh : isHigh u = true
    · rw [if_pos hhigh, hnext hhigh v rfl]
      rfl
    · rw [if_neg hhigh, if_pos (h.resolve_left hhigh)]

/-- **The decoder gives the reading** of every sequence of units. -/
theorem reads_decode (us : List UInt16) : Reads us (decode us) := by
  fun_induction decode us with
  | case1 => exact .nil
  | case2 u h =>
    exact .lone (Bool.or_eq_true_iff.mp h)
      (fun _ v hv => absurd hv (Option.not_mem_none v)) .nil
  | case3 u h =>
    obtain ⟨hhigh, hlow⟩ := Bool.or_eq_false_iff.mp (Bool.eq_false_of_not_eq_true h)
    exact .plain hhigh hlow (toNat_ofNat_plain hhigh hlow) .nil
  | case4 u v rest hhigh hlow ih => exact .pair hhigh hlow (toNat_join hhigh hlow) ih
  | case5 u v rest hhigh hlow ih =>
    refine .lone (.inl hhigh) (fun _ w hw => ?_) ih
    obtain rfl : v = w := Option.some.inj hw
    exact Bool.eq_false_of_not_eq_true hlow
  | case6 u v rest hhigh hlow ih => exact .lone (.inr hlow) (fun h => absurd h hhigh) ih
  | case7 u v rest hhigh hlow ih =>
    have hhigh := Bool.eq_false_of_not_eq_true hhigh
    have hlow := Bool.eq_false_of_not_eq_true hlow
    exact .plain hhigh hlow (toNat_ofNat_plain hhigh hlow) ih

/-- There is no other reading. -/
theorem Reads.decode_eq (h : Reads us t) : decode us = t := by
  induction h with
  | nil => rfl
  | plain hhigh hlow hx _ ih =>
    rw [decode_of_plain hhigh hlow, ofNat_eq_of_toNat hx.symm, ih]
  | @pair u v us x t hhigh hlow hx _ ih =>
    have hjoin : join u v = x := Char.toNat_inj.mp ((toNat_join hhigh hlow).trans hx.symm)
    rw [decode_of_pair hhigh hlow, hjoin, ih]
  | lone h hnext _ ih => rw [decode_of_lone h hnext, ih]

end Utf16

/-! ### Byte orders -/

open Utf16 (ByteOrder)

namespace Hex

variable {digits : Text} {bytes : List UInt8} {us : List UInt16}

/-- Digits with the two bytes of each unit swapped. -/
def swapUnits : Text → Text
  | a :: b :: c :: d :: rest => c :: d :: a :: b :: swapUnits rest
  | rest => rest

/-- **Swapped digits** spell the units in the other byte order. -/
theorem Spells.swapUnits (h : Spells digits (us.flatMap ByteOrder.big.bytes)) :
    Spells (swapUnits digits) (us.flatMap ByteOrder.little.bytes) := by
  induction us generalizing digits with
  | nil =>
    obtain rfl : digits = [] := List.map_eq_nil_iff.mp h
    rfl
  | cons u us ih =>
    -- The digits of the high byte come first, and then those of the low one.
    obtain ⟨high, low, hbig, hlittle⟩ : ∃ high low, ByteOrder.big.bytes u = [high, low] ∧
        ByteOrder.little.bytes u = [low, high] := ⟨_, _, rfl, rfl⟩
    rw [List.flatMap_cons, hbig] at h
    rw [List.flatMap_cons, hlittle]
    obtain ⟨a, digits, rfl, ha, h⟩ := List.map_eq_cons_iff.mp h
    obtain ⟨b, digits, rfl, hb, h⟩ := List.map_eq_cons_iff.mp h
    obtain ⟨c, digits, rfl, hc, h⟩ := List.map_eq_cons_iff.mp h
    obtain ⟨d, digits, rfl, hd, h⟩ := List.map_eq_cons_iff.mp h
    have hrest := ih h
    simp only [Hex.swapUnits, Spells, List.map_cons, ha, hb, hc, hd]
    rw [hrest]
    rfl

end Hex

/-- Digits that spell bytes decode to the text of these bytes. -/
theorem Encoding.decodeHex_eq_decode (e : Encoding) {digits : Text} {bytes : List UInt8}
    (h : Hex.Spells digits bytes) : e.decodeHex digits = e.decode bytes := by
  by_cases hne : bytes = []
  · subst hne
    obtain rfl : digits = [] := List.map_eq_nil_iff.mp h
    rfl
  · rw [decodeHex, h.bytes?_eq hne, Option.getD_some]

/-- **The digits of units decode to their reading.** Let digits of either case spell a sequence
of units, well-formed or not, the high byte of each unit first. As UTF-16 in this byte order
they decode to the one reading of the units, and so they do in the other one once the bytes of
each unit are swapped. -/
theorem decodeHex_eq_iff_reads {digits : Text} {us : List UInt16}
    (h : Hex.Spells digits (us.flatMap ByteOrder.big.bytes)) :
    (∀ t, Encoding.utf16be.decodeHex digits = t ↔ Utf16.Reads us t) ∧
    Encoding.utf16le.decodeHex (Hex.swapUnits digits) = Encoding.utf16be.decodeHex digits := by
  have hbig : Encoding.utf16be.decodeHex digits = Utf16.decode us := by
    rw [Encoding.decodeHex_eq_decode .utf16be h, Encoding.decode, Utf16.units_bytes]
  have hlittle : Encoding.utf16le.decodeHex (Hex.swapUnits digits) = Utf16.decode us := by
    rw [Encoding.decodeHex_eq_decode .utf16le h.swapUnits, Encoding.decode, Utf16.units_bytes]
  refine ⟨fun t => ?_, hlittle.trans hbig.symm⟩
  rw [hbig]
  constructor
  · rintro rfl
    exact Utf16.reads_decode us
  · exact Utf16.Reads.decode_eq

/-- Two high surrogates in front of a low one, and lone surrogates at both ends. -/
theorem decodeHex_eq_iff_reads_lone :
    Hex.Spells "Dc00D83dD83DDE000041d800".toList
      ([0xDC00, 0xD83D, 0xD83D, 0xDE00, 0x0041, 0xD800].flatMap ByteOrder.big.bytes) ∧
    Utf16.Reads [0xDC00, 0xD83D, 0xD83D, 0xDE00, 0x0041, 0xD800]
      "\uFFFD\uFFFD😀A\uFFFD".toList ∧
    Encoding.utf16le.decodeHex "00Dc3dD83DD800DE410000d8".toList =
      "\uFFFD\uFFFD😀A\uFFFD".toList := by
  have hdigits : Hex.Spells "Dc00D83dD83DDE000041d800".toList
      ([0xDC00, 0xD83D, 0xD83D, 0xDE00, 0x0041, 0xD800].flatMap ByteOrder.big.bytes) := by
    decide
  have htext : Encoding.utf16be.decodeHex "Dc00D83dD83DDE000041d800".toList =
      "\uFFFD\uFFFD😀A\uFFFD".toList := by decide
  obtain ⟨hreads, hswapped⟩ := decodeHex_eq_iff_reads hdigits
  exact ⟨hdigits, (hreads _).mp htext, hswapped.trans htext⟩

end Stencil
