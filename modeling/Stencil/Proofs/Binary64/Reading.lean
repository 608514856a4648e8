import Stencil.Binary64.Decimal
import Stencil.Proofs.Binary64.Rounding
import Stencil.Proofs.Numeral
import Stencil.Value.Argument

/-!
# Reading decimal texts

A number is read from digits and, after a point, more digits, and an exponent. Without a point
the digits in front and the rest decide by themselves: the digits have to be there, and the
rest is empty or `e` and an integer. So every integer is read as a number, too, and a number
has at most one hyphen behind its sign. The guard against exponents out of reach is of no
effect for an integer, since what it takes for infinite is.

## Main results

* `readMagnitude?_of_not_mem`: a text without a point.
* `read?_of_count_hyphen`: a text with many hyphens is no number.
* `read?_signed`: the numeral of an integer is read as the number nearest to it.
-/

namespace Stencil.Binary64

open Numeral

variable {t rest : Text} {c : Char} {n : ℕ} {e : ℤ} {a : Ratio}

/-! ### Texts without a point -/

/-- **Without a point** a text is digits and an exponent. -/
theorem readMagnitude?_of_not_mem (h : '.' ∉ t) :
    readMagnitude? t = (natural? (t.takeWhile Char.isDigit)).bind fun n =>
      (readExponent? (t.dropWhile Char.isDigit)).map fun e => ⟨n, e⟩ := by
  have hpoint (tail : Text) : t.dropWhile Char.isDigit ≠ '.' :: tail := by
    intro heq
    have hmem : '.' ∈ t.dropWhile Char.isDigit := by rw [heq]; exact List.mem_cons_self
    exact h ((List.dropWhile_suffix _).mem hmem)
  rw [readMagnitude?]
  split
  next hparts =>
    split at hparts
    · next heq => exact absurd heq (hpoint _)
    · obtain ⟨rfl, rfl⟩ := Prod.mk.inj hparts
      rw [List.append_nil]
      cases natural? (t.takeWhile Char.isDigit) <;>
        cases readExponent? (t.dropWhile Char.isDigit) <;> simp

/-- Without a point, a magnitude is digits with an exponent behind them. -/
theorem isSome_readMagnitude?_iff (h : '.' ∉ t) :
    (readMagnitude? t).isSome ↔
      (natural? (t.takeWhile Char.isDigit)).isSome ∧
        (readExponent? (t.dropWhile Char.isDigit)).isSome := by
  rw [readMagnitude?_of_not_mem h]
  cases natural? (t.takeWhile Char.isDigit) <;> simp

/-- A text of digits is taken as a whole. -/
theorem takeWhile_isDigit (h : t.all Char.isDigit) : t.takeWhile Char.isDigit = t :=
  List.takeWhile_eq_self_iff.mpr (List.all_eq_true.mp h)

/-- Nothing is left of a text of digits. -/
theorem dropWhile_isDigit (h : t.all Char.isDigit) : t.dropWhile Char.isDigit = [] :=
  List.dropWhile_eq_nil_iff.mpr (List.all_eq_true.mp h)

/-- Digits by themselves are read as a natural number. -/
theorem readMagnitude?_of_natural? (h : natural? t = some n) :
    readMagnitude? t = some ⟨n, 0⟩ := by
  obtain ⟨-, hall⟩ := natural?_isSome_iff.mp (Option.isSome_of_eq_some h)
  rw [readMagnitude?_of_not_mem (Text.not_mem_of_all hall rfl), takeWhile_isDigit hall,
    dropWhile_isDigit hall, h]
  rfl

/-! ### Hyphens -/

/-- A natural number is read without a hyphen. -/
theorem count_hyphen_of_natural? (h : (natural? t).isSome) : t.count '-' = 0 :=
  List.count_eq_zero.mpr (Text.not_mem_of_all (natural?_isSome_iff.mp h).2 rfl)

/-- An integer is read with at most one hyphen. -/
theorem count_hyphen_of_integer? (h : (integer? t).isSome) : t.count '-' ≤ 1 := by
  obtain ⟨digits, ht, hdigits⟩ := exists_natural?_of_integer? h
  have hnone := count_hyphen_of_natural? hdigits
  obtain rfl | rfl | rfl := ht
  · rw [List.count_cons_self, hnone]
  · rw [List.count_cons_of_ne (by decide), hnone]
    exact Nat.zero_le 1
  · exact hnone.trans_le (Nat.zero_le 1)

/-- An exponent is read with at most one hyphen. -/
theorem count_hyphen_of_readExponent? (h : (readExponent? t).isSome) : t.count '-' ≤ 1 := by
  cases t with
  | nil => exact Nat.zero_le 1
  | cons c rest =>
    rw [readExponent?] at h
    split at h
    · next hc =>
      have hne : c ≠ '-' := by
        rintro rfl
        exact absurd hc (by decide)
      rw [List.count_cons_of_ne hne]
      exact count_hyphen_of_integer? h
    · exact absurd h Bool.false_ne_true

/-- A magnitude has at most one hyphen, in its exponent. -/
theorem count_hyphen_of_readMagnitude? (hpoint : '.' ∉ t) (h : (readMagnitude? t).isSome) :
    t.count '-' ≤ 1 := by
  obtain ⟨hnatural, hexponent⟩ := (isSome_readMagnitude?_iff hpoint).mp h
  have hbefore := count_hyphen_of_natural? hnatural
  have hrest := count_hyphen_of_readExponent? hexponent
  rw [← List.takeWhile_append_dropWhile (p := Char.isDigit) (l := t), List.count_append,
    hbefore]
  omega

/-- What is read as a number is a magnitude, with a sign or without one. -/
theorem exists_readMagnitude?_of_read? (h : (read? t).isSome) :
    ∃ rest, (t = '-' :: rest ∨ t = '+' :: rest ∨ t = rest) ∧ (readMagnitude? rest).isSome := by
  unfold read? at h
  split at h <;> rw [Option.isSome_map] at h
  · exact ⟨_, .inl rfl, h⟩
  · exact ⟨_, .inr (.inl rfl), h⟩
  · exact ⟨_, .inr (.inr rfl), h⟩

/-- **A number has at most two hyphens**, so a text with more of them is none. -/
theorem read?_of_count_hyphen (hpoint : '.' ∉ t) (h : 2 < t.count '-') : read? t = none := by
  rw [← Option.not_isSome_iff_eq_none]
  intro hnumber
  obtain ⟨rest, ht, hrest⟩ := exists_readMagnitude?_of_read? hnumber
  have hcount (hrest' : rest <:+ t) : rest.count '-' ≤ 1 :=
    count_hyphen_of_readMagnitude? (fun hmem => hpoint (hrest'.mem hmem)) hrest
  obtain rfl | rfl | rfl := ht
  · have hone := hcount (List.suffix_cons _ _)
    rw [List.count_cons_self] at h
    omega
  · have hone := hcount (List.suffix_cons _ _)
    rw [List.count_cons_of_ne (by decide)] at h
    omega
  · have hone := hcount (List.suffix_refl _)
    omega

/-! ### Signs -/

/-- A text without a sign is a magnitude or no number. -/
theorem read?_of_unsigned (hminus : t.head? ≠ some '-') (hplus : t.head? ≠ some '+') :
    read? t = (readMagnitude? t).map (ofDecimal false) := by
  unfold read?
  split
  · exact absurd rfl hminus
  · exact absurd rfl hplus
  · rfl

/-- A natural number starts with a digit. -/
theorem head?_ne_of_natural? (h : (natural? t).isSome) (hc : c.isDigit = false) :
    t.head? ≠ some c :=
  fun hhead => Text.not_mem_of_all (natural?_isSome_iff.mp h).2 hc (List.mem_of_head? hhead)

/-- **Every integer is a number.** -/
theorem isSome_read?_of_integer? (h : (integer? t).isSome) : (read? t).isSome := by
  obtain ⟨digits, ht, hdigits⟩ := exists_natural?_of_integer? h
  obtain ⟨n, hn⟩ := Option.isSome_iff_exists.mp hdigits
  have hmagnitude := readMagnitude?_of_natural? hn
  obtain rfl | rfl | rfl := ht
  · simp only [read?, hmagnitude, Option.map_some, Option.isSome_some]
  · simp only [read?, hmagnitude, Option.map_some, Option.isSome_some]
  · rw [read?_of_unsigned (head?_ne_of_natural? hdigits rfl)
      (head?_ne_of_natural? hdigits rfl),
      hmagnitude]
    rfl

/-- So what is no number is no integer of 64 bits either. -/
theorem int64?_of_read?_eq_none (h : read? t = none) : Stencil.int64? t = none := by
  cases hinteger : integer? t with
  | none =>
    rw [Stencil.int64?, hinteger]
    rfl
  | some n =>
    have hsome := isSome_read?_of_integer? (Option.isSome_of_eq_some hinteger)
    rw [h] at hsome
    exact absurd hsome Bool.false_ne_true

/-! ### Integers -/

/-- What is too large for a finite number is infinite. -/
theorem ofRatio_eq_infinity {negative : Bool} (h : 2 ^ 1024 ≤ a.toRat) :
    ofRatio negative a = infinity negative := by
  have hpos : 0 < a.num :=
    Ratio.toRat_pos_iff.mp ((by positivity : (0 : ℚ) < 2 ^ 1024).trans_le h)
  have hlog : 1024 < a.log2 + 1 := by
    have hlt := h.trans_lt (Ratio.lt_two_zpow_log2 hpos)
    rw [← zpow_natCast] at hlt
    exact (zpow_lt_zpow_iff_right₀ one_lt_two).mp hlt
  have hunit : 972 ≤ unit a := by rw [unit]; omega
  have hsignificand := le_nearestSignificand hpos (by omega)
  have hword : infinityWord ≤ nearestWord a := by
    rw [nearestWord_eq hpos, infinityWord]
    omega
  simp only [ofRatio, infinity, min_eq_right hword]

/-- A digit of a decimal numeral is worth more than three bits. -/
theorem two_pow_le_of_lt_length {bits count : ℕ} (hpos : 0 < count)
    (h : count < (Nat.toDigits 10 n).length) (hbits : bits ≤ 3 * count) : 2 ^ bits ≤ n := by
  have hle : 10 ^ count ≤ n := by
    rwa [← not_lt, ← Nat.length_toDigits_le_iff (by decide) hpos, not_le]
  calc 2 ^ bits ≤ 2 ^ (3 * count) := Nat.pow_le_pow_right (by decide) hbits
    _ = 8 ^ count := pow_mul 2 3 count
    _ ≤ 10 ^ count := Nat.pow_le_pow_left (by decide) count
    _ ≤ n := hle

/-- **An integer without a power of ten** is rounded as it is, whatever its size. -/
theorem ofDecimal_natCast {negative : Bool} (h : n = 0 → negative = false) :
    ofDecimal negative ⟨n, 0⟩ = ofRatio negative (Ratio.ofNat n) := by
  have hscale : (Ratio.ofNat n).scaleDecimal 0 = Ratio.ofNat n := by
    simp [Ratio.scaleDecimal, Ratio.scale, Ratio.ofNat]
  rw [ofDecimal]
  simp only [hscale]
  split
  · next hsmall =>
    obtain rfl : n = 0 := by omega
    rw [h rfl]
    rfl
  · next hpos =>
    split
    · next hlarge =>
      have hcount : 400 < (Nat.toDigits 10 n).length := by
        rw [Ratio.digitCount, if_neg (by omega)] at hlarge
        omega
      refine (ofRatio_eq_infinity ?_).symm
      rw [Ratio.toRat_ofNat]
      exact_mod_cast two_pow_le_of_lt_length (by decide) hcount (by decide)
    · rfl

/-- **The numeral of an integer** is read as the number nearest to it. -/
theorem read?_signed (n : ℤ) : read? (signed n) = some (ofInt n) := by
  have hmagnitude := readMagnitude?_of_natural? (natural?_decimal n.natAbs)
  have hnatural : (natural? (decimal n.natAbs)).isSome :=
    Option.isSome_of_eq_some (natural?_decimal n.natAbs)
  rcases lt_or_ge n 0 with hneg | hnonneg
  · have hsigned : signed n = '-' :: decimal n.natAbs := by simp [signed, sign, hneg]
    rw [hsigned, read?, hmagnitude, Option.map_some, ofDecimal_natCast (by omega), ofInt,
      decide_eq_true hneg]
  · have hsigned : signed n = decimal n.natAbs := by simp [signed, sign, hnonneg]
    rw [hsigned, read?_of_unsigned (head?_ne_of_natural? hnatural rfl)
      (head?_ne_of_natural? hnatural rfl), hmagnitude, Option.map_some,
      ofDecimal_natCast (fun _ => rfl), ofInt, decide_eq_false hnonneg.not_gt]

end Stencil.Binary64
