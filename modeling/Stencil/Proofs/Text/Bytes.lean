import Mathlib
import Stencil.Placeholder.Cursor

/-!
# Texts and their bytes

A place in a text is the number of bytes in front of it. ASCII characters can be looked for in
the bytes, since no byte of any other character looks like one of them.

## Main definitions

* `Stencil.IsAscii`: a class of ASCII characters.

## Main results

* `Text.slice?_eq_some_iff`: a slice between two places is what stands between them.
* `Utf8.takeWhile_encode`, `Utf8.findIdx?_encode`: a run of characters and the first character
  of a kind, found byte by byte.
* `Utf8.boundary_or_tail`: a byte at which no character starts is no ASCII.
-/

namespace Stencil

open Text Cursor

variable {c : Char} {p : Char → Bool} {s t rest before : Text} {start stop : Nat}

/-! ### Slices -/

namespace Text

/-- A number of bytes that begins with those of a character is positive, as the recursion over
bytes asks for, and what is left of it without them is the rest. -/
theorem exists_utf8Size_add (c : Char) (n : Nat) :
    ∃ k, c.utf8Size + n = k + 1 ∧ c.utf8Size ≤ k + 1 ∧ k + 1 - c.utf8Size = n := by
  have hpos := c.utf8Size_pos
  exact ⟨c.utf8Size + n - 1, by omega, by omega, by omega⟩

/-- The bytes of the first character are dropped together. -/
theorem dropBytes?_cons (c : Char) (n : Nat) (t : Text) :
    dropBytes? (c.utf8Size + n) (c :: t) = dropBytes? n t := by
  obtain ⟨k, hsucc, hle, hrest⟩ := exists_utf8Size_add c n
  rw [hsucc, dropBytes?, if_pos hle, hrest]

/-- The bytes of the first character are taken together. -/
theorem takeBytes?_cons (c : Char) (n : Nat) (t : Text) :
    takeBytes? (c.utf8Size + n) (c :: t) = (takeBytes? n t).map (c :: ·) := by
  obtain ⟨k, hsucc, hle, hrest⟩ := exists_utf8Size_add c n
  rw [hsucc, takeBytes?, if_pos hle, hrest]

/-- Dropping the bytes of a text leaves what stands behind it. -/
theorem dropBytes?_append (s t : Text) : dropBytes? s.utf8Size (s ++ t) = some t := by
  induction s with
  | nil => rw [utf8Size_nil, dropBytes?, List.nil_append]
  | cons c s ih => rw [utf8Size_cons, List.cons_append, dropBytes?_cons, ih]

/-- Taking the bytes of a text gives the text, whatever stands behind it. -/
theorem takeBytes?_append (s t : Text) : takeBytes? s.utf8Size (s ++ t) = some s := by
  induction s with
  | nil => rw [utf8Size_nil, takeBytes?]
  | cons c s ih =>
    rw [utf8Size_cons, List.cons_append, takeBytes?_cons, ih]
    rfl

/-- The text behind a place is determined by the place, and so is the text in front of it. -/
theorem append_inj_of_utf8Size {s' t' : Text} (h : s ++ t = s' ++ t')
    (hsize : s.utf8Size = s'.utf8Size) : s = s' ∧ t = t' := by
  have hdrop := dropBytes?_append s t
  rw [h, hsize, dropBytes?_append s' t', Option.some.injEq] at hdrop
  subst hdrop
  exact ⟨List.append_cancel_right h, rfl⟩

/-- Bytes can only be dropped up to a place between two characters. -/
theorem append_of_dropBytes? (h : dropBytes? start t = some rest) :
    ∃ before, t = before ++ rest ∧ before.utf8Size = start := by
  induction start, t using dropBytes?.induct generalizing rest with
  | case1 t =>
    rw [dropBytes?, Option.some.injEq] at h
    exact ⟨[], h, rfl⟩
  | case2 => simp [dropBytes?] at h
  | case3 n c tail hle ih =>
    rw [dropBytes?, if_pos hle] at h
    obtain ⟨before, rfl, hsize⟩ := ih h
    exact ⟨c :: before, rfl, by rw [utf8Size_cons]; omega⟩
  | case4 n c tail hle => simp [dropBytes?, hle] at h

/-- Bytes can only be taken up to a place between two characters. -/
theorem append_of_takeBytes? (h : takeBytes? stop t = some s) :
    ∃ rest, t = s ++ rest ∧ s.utf8Size = stop := by
  induction stop, t using takeBytes?.induct generalizing s with
  | case1 t =>
    rw [takeBytes?, Option.some.injEq] at h
    exact ⟨t, by rw [← h]; rfl, by rw [← h]; rfl⟩
  | case2 => simp [takeBytes?] at h
  | case3 n c tail hle ih =>
    rw [takeBytes?, if_pos hle, Option.map_eq_some_iff] at h
    obtain ⟨s, hs, rfl⟩ := h
    obtain ⟨rest, rfl, hsize⟩ := ih hs
    exact ⟨rest, rfl, by rw [utf8Size_cons]; omega⟩
  | case4 n c tail hle => simp [takeBytes?, hle] at h

/-- **A slice** between two places of a text is what stands between them. There is none where a
place is out of range or inside a character. -/
theorem slice?_eq_some_iff : t.slice? start stop = some s ↔
    ∃ before rest, t = before ++ (s ++ rest) ∧ before.utf8Size = start ∧
      (before ++ s).utf8Size = stop := by
  constructor
  · intro h
    rw [slice?] at h
    split at h
    · next hle =>
      obtain ⟨after, hdrop, htake⟩ := Option.bind_eq_some_iff.mp h
      obtain ⟨before, rfl, hstart⟩ := append_of_dropBytes? hdrop
      obtain ⟨rest, rfl, hsize⟩ := append_of_takeBytes? htake
      exact ⟨before, rest, rfl, hstart, by rw [utf8Size_append]; omega⟩
    · simp at h
  · rintro ⟨before, rest, rfl, rfl, rfl⟩
    rw [slice?, if_pos (by rw [utf8Size_append]; omega), dropBytes?_append, Option.bind_some,
      utf8Size_append, Nat.add_sub_cancel_left, takeBytes?_append]

end Text

/-! ### ASCII characters -/

/-- A class of ASCII characters. -/
def IsAscii (p : Char → Bool) : Prop := ∀ c, p c = true → c.toNat < 0x80

/-- A test for ASCII characters fails on all others. -/
theorem IsAscii.eq_false (hp : IsAscii p) (h : 0x80 ≤ c.toNat) : p c = false :=
  eq_false_of_ne_true fun hc => Nat.not_lt.mpr h (hp c hc)

/-- Decimal digits are ASCII characters. -/
theorem isAscii_isDigit : IsAscii Char.isDigit := fun _ h =>
  (Char.isDigit_iff_toNat.mp h).2.trans_lt (by decide)

/-- The letters of the grammar are ASCII characters. -/
theorem isAscii_isAlpha : IsAscii Char.isAlpha := by
  intro c h
  simp only [Char.isAlpha, Char.isUpper, Char.isLower, Bool.or_eq_true, Bool.and_eq_true,
    decide_eq_true_eq, UInt32.le_iff_toNat_le] at h
  change c.val.toNat < _
  rcases h with h | h
  · exact h.2.trans_lt (by decide)
  · exact h.2.trans_lt (by decide)

/-- The characters of keys are ASCII characters. -/
theorem isAscii_isKeyChar : IsAscii isKeyChar := by
  intro c h
  simp only [isKeyChar, Char.isAlphanum, Bool.or_eq_true, beq_iff_eq] at h
  rcases h with (h | h) | rfl
  · exact isAscii_isAlpha c h
  · exact isAscii_isDigit c h
  · decide

/-- Hexadecimal digits are ASCII characters. -/
theorem isAscii_hexDigit : IsAscii Hex.isDigit := by
  intro c h
  simp only [Hex.isDigit, Hex.digit?] at h
  split_ifs at h <;> first | omega | simp at h

/-! ### The bytes of a text -/

namespace Utf8

@[simp] theorem encode_nil : encode [] = [] := rfl

/-- The bytes of the first character come first. -/
theorem encode_cons (c : Char) (t : Text) :
    encode (c :: t) = String.utf8EncodeChar c ++ encode t := rfl

/-- The bytes of a text come in front of those of the text behind it. -/
@[simp] theorem encode_append (s t : Text) : encode (s ++ t) = encode s ++ encode t :=
  List.flatMap_append

/-- The size of a text is the number of its bytes. -/
@[simp] theorem length_encode (t : Text) : (encode t).length = t.utf8Size := by
  induction t with
  | nil => rfl
  | cons c t ih =>
    rw [encode_cons, List.length_append, String.length_utf8EncodeChar, ih, utf8Size_cons]

/-- A character has one byte of its own, or several bytes that are no ASCII. -/
theorem bytes_char (c : Char) :
    (c.toNat < 0x80 ∧ String.utf8EncodeChar c = [byte c]) ∨
      (0x80 ≤ c.toNat ∧ ∀ b ∈ String.utf8EncodeChar c, 0x80 ≤ b) := by
  have hge : ∀ n : Nat, 0x80 ≤ n % 256 → (0x80 : UInt8) ≤ UInt8.ofNat n := by
    intro n hn
    rw [UInt8.le_iff_toNat_le, UInt8.toNat_ofNat']
    exact hn
  rcases Nat.lt_or_ge c.toNat 0x80 with hlt | hle
  · have hval : c.val.toNat ≤ 127 := Nat.le_of_lt_succ hlt
    refine Or.inl ⟨hlt, ?_⟩
    rw [String.utf8EncodeChar]
    simp only [hval, if_true]
    rfl
  · have hval : ¬ c.val.toNat ≤ 127 := Nat.not_le_of_lt hle
    refine Or.inr ⟨hle, fun b hb => ?_⟩
    rw [String.utf8EncodeChar] at hb
    simp only [hval, if_false] at hb
    split_ifs at hb <;>
      (simp only [List.mem_cons, List.not_mem_nil, or_false] at hb
       rcases hb with rfl | rfl | rfl | rfl) <;>
      (apply hge; omega)

/-- The byte of an ASCII character is its number. -/
theorem toNat_byte (h : c.toNat < 0x80) : (byte c).toNat = c.toNat := by
  rw [byte, Nat.toUInt8, UInt8.toNat_ofNat', Nat.mod_eq_of_lt (by omega)]

/-- The byte of an ASCII character is below `0x80`, unlike any byte of another character. -/
theorem byte_lt (h : c.toNat < 0x80) : byte c < 0x80 := by
  rw [UInt8.lt_iff_toNat_lt, toNat_byte h]
  exact h

/-- An ASCII character is determined by its byte. -/
theorem byte_inj {d : Char} (hc : c.toNat < 0x80) (hd : d.toNat < 0x80) :
    byte c = byte d ↔ c = d := by
  refine ⟨fun h => ?_, fun h => by rw [h]⟩
  have := congrArg UInt8.toNat h
  rw [toNat_byte hc, toNat_byte hd] at this
  rw [← Char.ofNat_toNat c, this, Char.ofNat_toNat]

/-- A test of bytes says of the byte of an ASCII character what the test of characters does. -/
theorem isByte_byte (p : Char → Bool) (h : c.toNat < 0x80) : isByte p (byte c) = p c := by
  rw [isByte, toNat_byte h, Char.ofNat_toNat, decide_eq_true (byte_lt h), Bool.true_and]

/-- A test of bytes fails on the bytes of all other characters. -/
theorem isByte_of_ge (p : Char → Bool) {b : UInt8} (h : 0x80 ≤ b) : isByte p b = false := by
  rw [isByte, decide_eq_false (UInt8.not_lt.mpr h), Bool.false_and]

/-- An ASCII character has one byte. -/
theorem encode_cons_of_lt (h : c.toNat < 0x80) (t : Text) :
    encode (c :: t) = byte c :: encode t := by
  rcases bytes_char c with ⟨-, hbytes⟩ | ⟨hle, -⟩
  · rw [encode_cons, hbytes, List.singleton_append]
  · omega

/-- Another character has at least one byte, and none of them is that of an ASCII character. -/
theorem encode_cons_of_ge (h : 0x80 ≤ c.toNat) (t : Text) :
    ∃ b bs, (∀ x ∈ b :: bs, 0x80 ≤ x) ∧ encode (c :: t) = b :: bs ++ encode t := by
  rcases bytes_char c with ⟨hlt, -⟩ | ⟨-, hbytes⟩
  · omega
  · have hpos : 0 < (String.utf8EncodeChar c).length := by
      rw [String.length_utf8EncodeChar]
      exact c.utf8Size_pos
    obtain ⟨b, bs, hcons⟩ := List.exists_cons_of_length_pos hpos
    exact ⟨b, bs, hcons ▸ hbytes, by rw [encode_cons, hcons]⟩

/-- A text starts with the byte of an ASCII character exactly if it starts with the character.
-/
theorem head?_encode_eq_byte (hc : c.toNat < 0x80) :
    (encode t).head? = some (byte c) ↔ t.head? = some c := by
  cases t with
  | nil => simp
  | cons d t =>
    rcases Nat.lt_or_ge d.toNat 0x80 with hd | hd
    · rw [encode_cons_of_lt hd, List.head?_cons, List.head?_cons, Option.some.injEq,
        Option.some.injEq, byte_inj hd hc]
    · obtain ⟨b, bs, hbytes, hencode⟩ := encode_cons_of_ge hd t
      rw [hencode, List.cons_append, List.head?_cons, List.head?_cons, Option.some.injEq,
        Option.some.injEq]
      refine iff_of_false ?_ ?_
      · rintro rfl
        exact UInt8.not_lt.mpr (hbytes _ List.mem_cons_self) (byte_lt hc)
      · rintro rfl
        omega

/-- Whether a text starts with a character of an ASCII class can be seen at its first byte. -/
theorem any_head?_encode (hp : IsAscii p) (t : Text) :
    (encode t).head?.any (isByte p) = t.head?.any p := by
  cases t with
  | nil => rfl
  | cons c t =>
    rcases Nat.lt_or_ge c.toNat 0x80 with hc | hc
    · exact (congrArg (·.head?.any (isByte p)) (encode_cons_of_lt hc t)).trans
        (isByte_byte p hc)
    · obtain ⟨b, bs, hbytes, hencode⟩ := encode_cons_of_ge hc t
      rw [hencode]
      exact (isByte_of_ge p (hbytes b List.mem_cons_self)).trans (hp.eq_false hc).symm

/-- A run of characters of an ASCII class, found byte by byte. -/
theorem takeWhile_encode (hp : IsAscii p) (t : Text) :
    (encode t).takeWhile (isByte p) = encode (t.takeWhile p) := by
  induction t with
  | nil => rfl
  | cons c t ih =>
    rw [List.takeWhile_cons]
    rcases Nat.lt_or_ge c.toNat 0x80 with hc | hc
    · rw [encode_cons_of_lt hc, List.takeWhile_cons, isByte_byte p hc, ih]
      cases p c with
      | false => rfl
      | true => exact (encode_cons_of_lt hc _).symm
    · obtain ⟨b, bs, hbytes, hencode⟩ := encode_cons_of_ge hc t
      rw [hencode, List.cons_append, List.takeWhile_cons,
        isByte_of_ge p (hbytes b List.mem_cons_self), hp.eq_false hc]
      rfl

/-- The first ASCII character of a kind, found byte by byte. -/
theorem findIdx?_encode (hc : c.toNat < 0x80) (t : Text) :
    (encode t).findIdx? (· == byte c) = (cutAt c t).map fun parts => parts.1.utf8Size := by
  induction t with
  | nil => rfl
  | cons d t ih =>
    rw [cutAt]
    by_cases hd : d = c
    · rw [hd, encode_cons_of_lt hc, if_pos rfl, List.findIdx?_cons, beq_self_eq_true]
      rfl
    · have hnone : (String.utf8EncodeChar d).findIdx? (· == byte c) = none := by
        refine List.findIdx?_eq_none_iff.mpr fun b hb => beq_eq_false_iff_ne.mpr ?_
        rintro rfl
        rcases bytes_char d with ⟨hlt, hbytes⟩ | ⟨-, hbytes⟩
        · rw [hbytes, List.mem_singleton] at hb
          exact hd ((byte_inj hc hlt).mp hb).symm
        · exact UInt8.not_lt.mpr (hbytes _ hb) (byte_lt hc)
      rw [encode_cons, List.findIdx?_append, ih, hnone, if_neg hd, Option.none_or,
        Option.map_map, Option.map_map, String.length_utf8EncodeChar]
      congr 1
      funext parts
      exact Nat.add_comm _ _

/-- The bytes inside a character are no ASCII. -/
theorem tail_of_inside {pos : Nat} (hlt : before.utf8Size < pos)
    (hstop : pos < before.utf8Size + c.utf8Size) :
    ∀ b ∈ (encode (before ++ c :: t))[pos]?, 0x80 ≤ b := by
  intro b hb
  rw [encode_append, List.getElem?_append_right (by rw [length_encode]; omega), length_encode,
    encode_cons, List.getElem?_append_left (by rw [String.length_utf8EncodeChar]; omega)] at hb
  rcases bytes_char c with ⟨-, hbytes⟩ | ⟨-, hbytes⟩
  · rw [← String.length_utf8EncodeChar, hbytes, List.length_singleton] at hstop
    omega
  · exact hbytes b (List.mem_of_getElem? hb)

/-- At a byte of a text starts a character, or the byte is no ASCII, or the text ends in
front. -/
theorem boundary_or_tail (t : Text) (pos : Nat) :
    (∃ before rest, t = before ++ rest ∧ before.utf8Size = pos) ∨
      ∀ b ∈ (encode t)[pos]?, 0x80 ≤ b := by
  induction t generalizing pos with
  | nil =>
    cases pos with
    | zero => exact Or.inl ⟨[], [], rfl, rfl⟩
    | succ n => exact Or.inr (by simp)
  | cons c t ih =>
    rcases Nat.eq_zero_or_pos pos with rfl | hpos
    · exact Or.inl ⟨[], c :: t, rfl, rfl⟩
    rcases Nat.lt_or_ge pos c.utf8Size with hlt | hge
    · have hinside := @tail_of_inside c t [] pos hpos (by simpa using hlt)
      exact Or.inr hinside
    · rcases ih (pos - c.utf8Size) with ⟨before, rest, rfl, hsize⟩ | htail
      · exact Or.inl ⟨c :: before, rest, rfl, by rw [utf8Size_cons]; omega⟩
      · refine Or.inr ?_
        rwa [encode_cons, List.getElem?_append_right
          (by rw [String.length_utf8EncodeChar]; exact hge), String.length_utf8EncodeChar]

end Utf8

/-- The size of an ASCII character is one byte. -/
theorem Text.utf8Size_of_lt (h : c.toNat < 0x80) : c.utf8Size = 1 := by
  rcases Utf8.bytes_char c with ⟨-, hbytes⟩ | ⟨hle, -⟩
  · rw [← String.length_utf8EncodeChar, hbytes, List.length_singleton]
  · omega

end Stencil
