import Mathlib
import Stencil.Numeral
import Stencil.Ratio

/-!
# What numerals write

A numeral is read back by the places of its digits in an alphabet, whose length is the base:
this covers binary, decimal and hexadecimal numerals with letters of either case. A numeral of
a fixed width has at least that many digits, and more only where the number needs them. The
zeros in front do not count when it is read, so two numbers have the same numeral only if they
are equal; and a width matters to a number only if it is more than the number needs. Commas
that cut the digits of a numeral into groups of three are not read at all.

## Main definitions

* `Stencil.Numeral.IsNumeral`: a text of digits that writes a number without needless zeros.
* `Stencil.Numeral.IsCanonical`: a decimal text that writes an integer without needless zeros.
* `Stencil.Numeral.InThrees`: digits cut into groups of three from the right.

## Main results

* `ofDigitChars_append_zero`: the number that some digits write.
* `decimal_inj`: canonical numerals are equal only for equal numbers.
* `natural?_fixed`: a numeral of any width reads back.
* `fixed_inj`: numerals of one width are equal only for equal numbers.
* `length_fixed_of_lt`: a number below a power of the base has a numeral of exactly that width.
* `fixed_eq_fixed_succ_iff`: one more digit makes no difference to large numbers only.
* `fixed_add`, `take_fixed`: the last and the first digits of a numeral.
* `integer?_signed_fixed`: an integer of any width reads back.
* `isNumeral_fixed`: what is written with a least width is a numeral, in every alphabet.
* `decimal_ofDigitChars`, `length_dropWhile_zero`: digits without a zero in front are a
  numeral.
* `inThrees_grouped`: grouped digits are in threes.
-/

namespace Stencil.Numeral

variable {base width m n : Nat} {digits : Text}

/-! ### The number that some digits write -/

/-- Digits behind others shift these by as many places. -/
theorem ofDigitChars_append_zero (digits more : Text) :
    Nat.ofDigitChars 10 (digits ++ more) 0 =
      10 ^ more.length * Nat.ofDigitChars 10 digits 0 + Nat.ofDigitChars 10 more 0 := by
  rw [Nat.ofDigitChars_append, Nat.ofDigitChars_eq_ofDigitChars_zero]

/-- An ASCII digit is the character of a number below ten. -/
theorem exists_digitChar {c : Char} (h : c.isDigit = true) :
    ∃ d < 10, c = Nat.digitChar d := by
  have hrange : 48 ≤ c.toNat ∧ c.toNat ≤ 57 := by
    simpa [Char.isDigit, UInt32.le_iff_toNat_le] using h
  refine ⟨c.toNat - 48, by omega, Char.toNat_inj.mp ?_⟩
  rw [Nat.toNat_digitChar_of_lt_ten (by omega)]
  omega

/-- Natural numbers are read from digits, at least one, and from nothing else. -/
theorem natural?_isSome_iff :
    (natural? digits).isSome ↔ digits ≠ [] ∧ digits.all Char.isDigit := by
  rw [natural?]
  split
  · next h => exact iff_of_true rfl h
  · next h => exact iff_of_false Bool.false_ne_true h

/-- Digits are read as the number that they write. -/
theorem natural?_of_all (hne : digits ≠ []) (h : digits.all Char.isDigit) :
    natural? digits = some (Nat.ofDigitChars 10 digits 0) :=
  if_pos ⟨hne, h⟩

/-! ### Canonical numerals -/

/-- A decimal numeral writes its number. -/
theorem ofDigitChars_decimal (n : Nat) : Nat.ofDigitChars 10 (decimal n) 0 = n :=
  Nat.ofDigitChars_ten_toDigits

/-- **Canonical numerals** are equal only for equal numbers. -/
theorem decimal_inj : decimal m = decimal n ↔ m = n := by
  refine ⟨fun h => ?_, fun h => h ▸ rfl⟩
  have hread := congrArg natural? h
  rwa [natural?_decimal, natural?_decimal, Option.some_inj] at hread

/-- **Digits behind a numeral** of a positive number continue it. -/
theorem decimal_ofDigitChars (h : digits.all Char.isDigit = true) (hn : 0 < n) :
    decimal (Nat.ofDigitChars 10 digits n) = decimal n ++ digits := by
  induction digits generalizing n with
  | nil => rw [Nat.ofDigitChars_nil, List.append_nil]
  | cons c digits ih =>
    rw [List.all_cons, Bool.and_eq_true] at h
    obtain ⟨d, hd, rfl⟩ := exists_digitChar h.1
    rw [Nat.ofDigitChars_cons_digitChar_of_lt_ten hd, ih h.2 (by omega), decimal, decimal,
      ← Nat.toDigits_append_toDigits (by decide) hn hd, Nat.toDigits_of_lt_base hd,
      List.append_assoc, List.singleton_append]

/-- Zeros behind a numeral multiply by a power of ten. -/
theorem decimal_mul_pow_ten (hn : 0 < n) (count : Nat) :
    decimal (n * 10 ^ count) = decimal n ++ List.replicate count '0' := by
  have hzeros : (List.replicate count '0').all Char.isDigit = true := by simp
  rw [← decimal_ofDigitChars hzeros hn, Nat.ofDigitChars_replicate_zero, Nat.mul_comm]

/-- **Without the zeros in front**, there are as many digits as the number needs. -/
theorem length_dropWhile_zero (h : digits.all Char.isDigit = true) :
    (digits.dropWhile (· == '0')).length =
      Ratio.digitCount 10 (Nat.ofDigitChars 10 digits 0) := by
  induction digits with
  | nil => rfl
  | cons c digits ih =>
    rw [List.all_cons, Bool.and_eq_true] at h
    obtain ⟨d, hd, rfl⟩ := exists_digitChar h.1
    rw [Nat.ofDigitChars_cons_digitChar_of_lt_ten hd, Nat.mul_zero, Nat.zero_add]
    rcases Nat.eq_zero_or_pos d with rfl | hpos
    · rw [List.dropWhile_cons_of_pos (by decide), ih h.2]
    · have hlead : Nat.digitChar d ≠ '0' := by simpa using hpos.ne'
      have hvalue : Nat.ofDigitChars 10 digits d ≠ 0 := by
        rw [Nat.ofDigitChars_eq_ofDigitChars_zero]
        have : 0 < 10 ^ digits.length * d := by positivity
        omega
      have hread := decimal_ofDigitChars h.2 hpos
      rw [decimal, decimal, Nat.toDigits_of_lt_base hd] at hread
      rw [List.dropWhile_cons_of_neg (by simpa using hlead), Ratio.digitCount,
        if_neg hvalue, hread]
      rfl

/-! ### Numerals of a fixed width -/

/-- A numeral of fixed width is as long as the width or the number itself. -/
theorem length_fixed (base width n : Nat) :
    (fixed base width n).length = max width (Nat.toDigits base n).length := by
  rw [fixed, Text.padLeft, List.length_append, List.length_replicate]
  omega

/-- A width of zero asks for nothing. -/
theorem fixed_zero (base n : Nat) : fixed base 0 n = Nat.toDigits base n := by
  rw [fixed, Text.padLeft, Nat.zero_sub, List.replicate_zero, List.nil_append]

/-- **A number below a power of the base** has a numeral of exactly that width. -/
theorem length_fixed_of_lt (hbase : 1 < base) (hwidth : 0 < width) (h : n < base ^ width) :
    (fixed base width n).length = width := by
  rw [length_fixed, max_eq_left ((Nat.length_toDigits_le_iff hbase hwidth).mpr h)]

/-- The zeros in front do not count when a numeral is read. -/
theorem ofDigitChars_fixed (hbase : 1 < base) (hten : base ≤ 10) (width n : Nat) :
    Nat.ofDigitChars base (fixed base width n) 0 = n := by
  rw [fixed, Text.padLeft, Nat.ofDigitChars_append, Nat.ofDigitChars_replicate_zero,
    Nat.mul_zero, Nat.ofDigitChars_toDigits hbase hten]

/-- A decimal numeral of fixed width consists of digits. -/
theorem all_isDigit_fixed (width n : Nat) : (fixed 10 width n).all Char.isDigit = true := by
  rw [fixed, Text.padLeft, List.all_append, Bool.and_eq_true, List.all_eq_true,
    List.all_eq_true]
  refine ⟨fun c hmem => ?_, fun c hmem => isDigit_of_mem_decimal hmem⟩
  rw [List.eq_of_mem_replicate hmem]
  rfl

/-- No numeral of fixed width is empty. -/
theorem fixed_ne_nil (base width n : Nat) : fixed base width n ≠ [] :=
  List.append_ne_nil_of_right_ne_nil _ Nat.toDigits_ne_nil

/-- **A numeral of any width** reads back. -/
theorem natural?_fixed (width n : Nat) : natural? (fixed 10 width n) = some n := by
  rw [natural?_of_all (fixed_ne_nil 10 width n) (all_isDigit_fixed width n),
    ofDigitChars_fixed (by decide) (by decide)]

/-- **Numerals of one width** are equal only for equal numbers. -/
theorem fixed_inj (hbase : 1 < base) (hten : base ≤ 10) :
    fixed base width m = fixed base width n ↔ m = n := by
  refine ⟨fun h => ?_, fun h => h ▸ rfl⟩
  calc
    m = Nat.ofDigitChars base (fixed base width m) 0 :=
      (ofDigitChars_fixed hbase hten width m).symm
    _ = Nat.ofDigitChars base (fixed base width n) 0 := by rw [h]
    _ = n := ofDigitChars_fixed hbase hten width n

/-- **One more digit makes no difference** to the numbers that need it anyway, and to no
other. -/
theorem fixed_eq_fixed_succ_iff (hbase : 1 < base) (hwidth : 0 < width) :
    fixed base width n = fixed base (width + 1) n ↔ base ^ width ≤ n := by
  rw [← not_lt, ← Nat.length_toDigits_le_iff hbase hwidth]
  constructor
  · intro h
    have hlength := congrArg List.length h
    rw [length_fixed, length_fixed] at hlength
    omega
  · intro h
    have hwide : width - (Nat.toDigits base n).length = 0 := by omega
    have hwider : width + 1 - (Nat.toDigits base n).length = 0 := by omega
    rw [fixed, fixed, Text.padLeft, Text.padLeft, hwide, hwider]

/-- **One more digit** is the last one of the number. -/
theorem fixed_succ (hbase : 1 < base) (hwidth : 0 < width) (n : Nat) :
    fixed base (width + 1) n = fixed base width (n / base) ++ [Nat.digitChar (n % base)] := by
  simp only [fixed, Text.padLeft]
  rcases Nat.lt_or_ge n base with hlt | hge
  · have hpad : List.replicate width '0' = List.replicate (width - 1) '0' ++ ['0'] := by
      rw [← List.replicate_succ', Nat.sub_add_cancel hwidth]
    rw [Nat.toDigits_of_lt_base hlt, Nat.div_eq_of_lt hlt, Nat.mod_eq_of_lt hlt,
      Nat.toDigits_zero, List.length_singleton, List.length_singleton,
      Nat.add_sub_cancel, hpad]
  · rw [Nat.toDigits_of_base_le hbase hge, List.length_append, List.length_singleton,
      Nat.add_sub_add_right, List.append_assoc]

/-- **The last digits** of a numeral are those of the remainder. -/
theorem fixed_add (hbase : 1 < base) (hwidth : 0 < width) {count : Nat} (hcount : 0 < count)
    (n : Nat) : fixed base (width + count) n =
      fixed base width (n / base ^ count) ++ fixed base count (n % base ^ count) := by
  induction count generalizing n with
  | zero => exact absurd hcount (Nat.lt_irrefl 0)
  | succ count ih =>
    rcases Nat.eq_zero_or_pos count with rfl | hpos
    · have hlast : n % base < base := Nat.mod_lt n (by omega)
      rw [Nat.zero_add, fixed_succ hbase hwidth, pow_one, fixed, fixed,
        Nat.toDigits_of_lt_base hlast]
      rfl
    · have hfront : n % base ^ (count + 1) / base = n / base % base ^ count := by
        rw [pow_succ', Nat.mod_mul_right_div_self]
      have hlast : n % base ^ (count + 1) % base = n % base :=
        Nat.mod_mod_of_dvd n (dvd_pow_self base (Nat.succ_ne_zero count))
      rw [← Nat.add_assoc, fixed_succ hbase (by omega), ih hpos, fixed_succ hbase hpos, hfront,
        hlast, Nat.div_div_eq_div_mul, ← pow_succ', List.append_assoc]

/-- **The first digits** of a numeral are those of the quotient. -/
theorem take_fixed (hbase : 1 < base) (hwidth : 0 < width) {count : Nat} (hcount : 0 < count)
    (h : n < base ^ (width + count)) :
    (fixed base (width + count) n).take width = fixed base width (n / base ^ count) := by
  have hquotient : n / base ^ count < base ^ width := by
    rwa [Nat.div_lt_iff_lt_mul (Nat.pow_pos (by omega)), ← pow_add]
  have hlength := length_fixed_of_lt hbase hwidth hquotient
  rw [fixed_add hbase hwidth hcount, List.take_append_of_le_length hlength.ge,
    List.take_of_length_le hlength.le]

/-! ### Signs -/

/-- A sign and digits **read back** as the number that they write. -/
theorem integer?_sign_append {negative : Bool} (h : natural? digits = some m) :
    integer? (sign negative ++ digits) = some (if negative then -(m : ℤ) else m) := by
  have hall : digits.all Char.isDigit = true :=
    (natural?_isSome_iff.mp (Option.isSome_of_eq_some h)).2
  cases negative
  · -- Digits do not start with a sign.
    cases digits with
    | nil => exact absurd h (Option.some_ne_none m).symm
    | cons c digits =>
      have hc : c.isDigit = true := List.all_eq_true.mp hall c List.mem_cons_self
      have hminus : c ≠ '-' := by
        rintro rfl
        exact absurd hc (by decide)
      have hplus : c ≠ '+' := by
        rintro rfl
        exact absurd hc (by decide)
      simp [integer?, sign, hminus, hplus, h]
  · simp [integer?, sign, h]

/-- What is read as an integer is digits, with a sign or without one. -/
theorem exists_natural?_of_integer? {text : Text} (h : (integer? text).isSome) :
    ∃ digits, (text = '-' :: digits ∨ text = '+' :: digits ∨ text = digits) ∧
      (natural? digits).isSome := by
  unfold integer? at h
  split at h <;> simp only [Option.bind_eq_bind, Option.isSome_map, Option.isSome_bind,
    Option.pure_def, Option.isSome_some, Option.any_true] at h
  · exact ⟨_, .inl rfl, h⟩
  · exact ⟨_, .inr (.inl rfl), h⟩
  · exact ⟨_, .inr (.inr rfl), h⟩

/-- **An integer of any width** reads back. -/
theorem integer?_signed_fixed (width : ℕ) (n : ℤ) :
    integer? (sign (n < 0) ++ fixed 10 width n.natAbs) = some n := by
  rw [integer?_sign_append (natural?_fixed width n.natAbs)]
  simp only [decide_eq_true_eq, Option.some_inj]
  split <;> omega

/-- A signed numeral is read back. -/
theorem integer?_signed (n : ℤ) : integer? (signed n) = some n := by
  have hread := integer?_signed_fixed 0 n
  rwa [fixed_zero] at hread

/-! ### The digits of a number -/

/-- What holds of single digits and is kept when a digit is written behind a positive number
holds of every number and its digits. -/
theorem toDigits_induction {motive : ℕ → Text → Prop} (hbase : 1 < base)
    (digit : ∀ d < base, motive d [Nat.digitChar d])
    (append : ∀ n d, 0 < n → d < base → motive n (Nat.toDigits base n) →
      motive (base * n + d) (Nat.toDigits base n ++ [Nat.digitChar d])) (n : ℕ) :
    motive n (Nat.toDigits base n) := by
  induction n using Nat.strong_induction_on with
  | _ n ih =>
    rcases Nat.lt_or_ge n base with hlt | hge
    · rw [Nat.toDigits_of_lt_base hlt]
      exact digit n hlt
    · have hpos : 0 < n / base := Nat.div_pos hge (by omega)
      have hstep := append (n / base) (n % base) hpos (Nat.mod_lt n (by omega))
        (ih _ (Nat.div_lt_self (by omega) hbase))
      rwa [Nat.div_add_mod, ← Nat.toDigits_of_base_le hbase hge] at hstep

/-- Only numbers below the base are written as digits. -/
theorem exists_of_mem_toDigits (hbase : 1 < base) (n : ℕ) :
    ∀ c ∈ Nat.toDigits base n, ∃ d < base, c = Nat.digitChar d := by
  refine toDigits_induction
    (motive := fun _ t => ∀ c ∈ t, ∃ d < base, c = Nat.digitChar d) hbase
    (fun d hd c hmem => ⟨d, hd, List.mem_singleton.mp hmem⟩) (fun n d _ hd ih c hmem => ?_) n
  rcases List.mem_append.mp hmem with hmem | hmem
  · exact ih c hmem
  · exact ⟨d, hd, List.mem_singleton.mp hmem⟩

/-- A positive number **has no zero in front**. -/
theorem head?_toDigits_ne (hbase : 1 < base) (n : ℕ) :
    0 < n → (Nat.toDigits base n).head? ≠ some '0' := by
  refine toDigits_induction (motive := fun n t => 0 < n → t.head? ≠ some '0') hbase
    (fun d _ hd => ?_) (fun n d hn _ ih _ => ?_) n
  · simpa using hd.ne'
  · rw [List.head?_append_of_ne_nil _ Nat.toDigits_ne_nil]
    exact ih hn

/-! ### Numerals in an alphabet -/

/-- The number that digits write, each worth its place in an alphabet. -/
def valueIn (alphabet digits : Text) : ℕ :=
  digits.foldl (fun n c => alphabet.length * n + alphabet.idxOf c) 0

/-- A text is a **numeral** of a number if its digits, each worth its place in the alphabet,
write the number with no zeros in front but those that a least number of digits asks for. -/
structure IsNumeral (alphabet : Text) (least : ℕ) (digits : Text) (n : ℕ) : Prop where
  /-- There are only digits. -/
  subset : digits ⊆ alphabet
  /-- They write the number. -/
  value : valueIn alphabet digits = n
  /-- There are enough of them. -/
  least_le : least ≤ digits.length
  /-- There are no more of them than needed. -/
  head_ne : least < digits.length → digits.head? ≠ some '0'

/-- The digits of binary numerals. -/
def binaryDigits : Text := "01".toList

/-- The digits of decimal numerals. -/
def decimalDigits : Text := "0123456789".toList

/-- The digits of hexadecimal numerals with letters of either case. -/
def hexadecimalDigits (capital : Bool) : Text :=
  if capital then "0123456789ABCDEF".toList else "0123456789abcdef".toList

/-- A decimal text is **canonical** if it is a minus sign before a negative integer and a
numeral with no needless zeros. -/
def IsCanonical (text : Text) (n : ℤ) : Prop :=
  ∃ digits, text = sign (n < 0) ++ digits ∧ IsNumeral decimalDigits 1 digits n.natAbs

/-- An alphabet **lists the digits** in the order of their values, in the case of its
letters. -/
structure ListsDigits (alphabet : Text) (inCase : Char → Char) : Prop where
  /-- A zero has no case. -/
  zero : inCase '0' = '0'
  /-- Every digit stands in its place. -/
  idxOf : ∀ d < alphabet.length, alphabet.idxOf (inCase (Nat.digitChar d)) = d

/-- The binary alphabet lists the digits. -/
theorem listsDigits_binary : ListsDigits binaryDigits id := ⟨rfl, by decide⟩

/-- The decimal alphabet lists the digits. -/
theorem listsDigits_decimal : ListsDigits decimalDigits id := ⟨rfl, by decide⟩

/-- The hexadecimal alphabet in upper case lists the digits in upper case. -/
theorem listsDigits_capitals : ListsDigits (hexadecimalDigits true) Char.toUpper :=
  ⟨rfl, by decide⟩

/-- The hexadecimal alphabet in lower case lists the digits as they are. -/
theorem listsDigits_hexadecimal : ListsDigits (hexadecimalDigits false) id := ⟨rfl, by decide⟩

variable {alphabet : Text} {inCase : Char → Char}

/-- The digits of a number in an alphabet have its value there. -/
theorem valueIn_toDigits (hbase : 1 < alphabet.length) (h : ListsDigits alphabet inCase)
    (n : ℕ) : valueIn alphabet ((Nat.toDigits alphabet.length n).map inCase) = n := by
  refine toDigits_induction (motive := fun n t => valueIn alphabet (t.map inCase) = n) hbase
    (fun d hd => ?_) (fun n d _ hd ih => ?_) n
  · simp [valueIn, h.idxOf d hd]
  · rw [valueIn] at ih
    simp [valueIn, ih, h.idxOf d hd]

/-- Zeros in front are worth nothing. -/
theorem valueIn_zeros (hbase : 1 < alphabet.length) (h : ListsDigits alphabet inCase)
    (count : ℕ) (digits : Text) :
    valueIn alphabet (List.replicate count '0' ++ digits) = valueIn alphabet digits := by
  have hzero : alphabet.idxOf '0' = 0 := h.zero ▸ h.idxOf 0 (by omega)
  induction count with
  | zero => rfl
  | succ count ih =>
    rw [← ih, List.replicate_succ, List.cons_append, valueIn, List.foldl_cons, hzero,
      Nat.mul_zero, Nat.add_zero, ← valueIn]

/-- **What is written with a least width** is a numeral. -/
theorem isNumeral_fixed (hbase : 1 < alphabet.length) (h : ListsDigits alphabet inCase)
    (width n : ℕ) :
    IsNumeral alphabet (max width 1) ((fixed alphabet.length width n).map inCase) n where
  subset := by
    intro c hmem
    rw [← List.idxOf_lt_length_iff]
    obtain ⟨c, hc, rfl⟩ := List.mem_map.mp hmem
    rcases List.mem_append.mp hc with hzero | hdigit
    · rw [List.eq_of_mem_replicate hzero]
      exact (h.idxOf 0 (by omega)).trans_lt (by omega)
    · obtain ⟨d, hd, rfl⟩ := exists_of_mem_toDigits hbase n c hdigit
      rwa [h.idxOf d hd]
  value := by
    rw [fixed, Text.padLeft, List.map_append, List.map_replicate, h.zero,
      valueIn_zeros hbase h, valueIn_toDigits hbase h]
  least_le := by
    have hpos := @Nat.length_toDigits_pos alphabet.length n
    rw [List.length_map, length_fixed]
    omega
  head_ne := by
    intro hlength hhead
    rw [List.length_map, length_fixed] at hlength
    have hwidth : width - (Nat.toDigits alphabet.length n).length = 0 := by omega
    have hn : 0 < n := by
      rw [Nat.pos_iff_ne_zero]
      rintro rfl
      rw [Nat.toDigits_zero, List.length_singleton] at hlength
      omega
    rw [fixed, Text.padLeft, hwidth, List.replicate_zero, List.nil_append, List.head?_map]
      at hhead
    obtain ⟨c, hc, hzero⟩ := Option.map_eq_some_iff.mp hhead
    obtain ⟨d, hd, rfl⟩ := exists_of_mem_toDigits hbase n c (List.mem_of_mem_head? hc)
    -- The digit that looks like a zero stands in the place of the zero.
    obtain rfl : d = 0 := by
      rw [← h.idxOf d hd, hzero, ← h.zero]
      exact h.idxOf 0 (by omega)
    exact head?_toDigits_ne hbase n hn hc

/-- The decimal numeral of a number is one of at least one digit. -/
theorem isNumeral_decimal (n : ℕ) : IsNumeral decimalDigits 1 (decimal n) n := by
  have hnumeral := isNumeral_fixed (by decide) listsDigits_decimal 0 n
  rwa [List.map_id, fixed_zero] at hnumeral

/-- A signed numeral is canonical. -/
theorem isCanonical_signed (n : ℤ) : IsCanonical (signed n) n :=
  ⟨decimal n.natAbs, rfl, isNumeral_decimal _⟩

/-- Decimal digits write the same number by their places in the alphabet and by their
values. -/
theorem valueIn_decimalDigits (h : digits.all Char.isDigit = true) :
    valueIn decimalDigits digits = Nat.ofDigitChars 10 digits 0 := by
  have hfold (start : ℕ) : digits.foldl
      (fun n c => decimalDigits.length * n + decimalDigits.idxOf c) start =
        Nat.ofDigitChars 10 digits start := by
    induction digits generalizing start with
    | nil => rfl
    | cons c digits ih =>
      rw [List.all_cons, Bool.and_eq_true] at h
      obtain ⟨d, hd, rfl⟩ := exists_digitChar h.1
      have hindex : decimalDigits.idxOf (Nat.digitChar d) = d := listsDigits_decimal.idxOf d hd
      rw [List.foldl_cons, ih h.2, Nat.ofDigitChars_cons_digitChar_of_lt_ten hd, hindex]
      rfl
  exact hfold 0

/-- **A numeral without needless zeros** is the one that is written. -/
theorem IsNumeral.eq_decimal (h : IsNumeral decimalDigits 1 digits n) :
    digits = decimal n := by
  have hall : digits.all Char.isDigit = true := by
    have halphabet : decimalDigits.all Char.isDigit = true := rfl
    rw [List.all_eq_true] at halphabet ⊢
    intro c hc
    exact halphabet c (h.subset hc)
  have hvalue := (valueIn_decimalDigits hall).symm.trans h.value
  obtain ⟨c, more, rfl⟩ := List.exists_cons_of_length_pos h.least_le
  rw [List.all_cons, Bool.and_eq_true] at hall
  obtain ⟨d, hd, rfl⟩ := exists_digitChar hall.1
  rw [Nat.ofDigitChars_cons_digitChar_of_lt_ten hd, Nat.mul_zero, Nat.zero_add] at hvalue
  rcases Nat.eq_zero_or_pos d with rfl | hpos
  · -- A zero in front stands by itself.
    obtain rfl : more = [] := by
      by_contra hmore
      have hlength := List.length_pos_iff.mpr hmore
      exact h.head_ne (by rw [List.length_cons]; omega) rfl
    rw [← hvalue]
    rfl
  · rw [← hvalue, decimal_ofDigitChars hall.2 hpos, decimal, Nat.toDigits_of_lt_base hd]
    rfl

/-- **A canonical text** is the one that is written. -/
theorem IsCanonical.eq_signed {text : Text} {i : ℤ} (h : IsCanonical text i) :
    text = signed i := by
  obtain ⟨digits, rfl, hdigits⟩ := h
  rw [hdigits.eq_decimal]
  rfl

/-! ### Digits in threes -/

/-- A text is digits **in threes** if commas cut the digits into a first group of at most
three, which is empty only if there are no digits at all, and groups of exactly three. -/
def InThrees (text digits : Text) : Prop :=
  ∃ (first : Text) (groups : List Text), first.length ≤ 3 ∧ (first = [] → groups = []) ∧
    (∀ group ∈ groups, group.length = 3) ∧ digits = first ++ groups.flatten ∧
    text = first ++ groups.flatMap (',' :: ·)

/-- The length of a numeral in threes. -/
theorem length_append_flatten {groups : List Text} (first : Text)
    (h : ∀ group ∈ groups, group.length = 3) :
    (first ++ groups.flatten).length = first.length + groups.length * 3 := by
  rw [List.length_append, List.length_flatten, List.sum_eq_card_nsmul _ 3 (by simpa using h),
    List.length_map, smul_eq_mul]

/-- **Grouped digits** are in threes. -/
theorem inThrees_grouped (digits : Text) : InThrees (grouped digits) digits := by
  induction digits using grouped.induct with
  | case1 => exact ⟨[], [], by decide, fun _ => rfl, by simp, rfl, rfl⟩
  | case2 c => exact ⟨[c], [], by simp, fun _ => rfl, by simp, rfl, rfl⟩
  | case3 c next rest hmod ih =>
    obtain ⟨first, groups, hfirst, hnil, hgroups, hdigits, htext⟩ := ih
    have hlength := length_append_flatten first hgroups
    have hpos : 0 < first.length := by
      rw [List.length_pos_iff]
      rintro rfl
      rw [hnil rfl] at hdigits
      exact List.cons_ne_nil _ _ hdigits
    rw [← hdigits] at hlength
    -- A comma goes in front of a full group.
    have hfull : first.length = 3 := by omega
    refine ⟨[c], first :: groups, by simp, by simp, ?_, ?_, ?_⟩
    · simpa [hfull] using hgroups
    · rw [hdigits]
      rfl
    · rw [grouped, if_pos hmod, htext]
      rfl
  | case4 c next rest hmod ih =>
    obtain ⟨first, groups, hfirst, -, hgroups, hdigits, htext⟩ := ih
    have hlength := length_append_flatten first hgroups
    rw [← hdigits] at hlength
    refine ⟨c :: first, groups, ?_, by simp, hgroups, ?_, ?_⟩
    · rw [List.length_cons]
      omega
    · rw [hdigits]
      rfl
    · rw [grouped, if_neg hmod, htext]
      rfl

end Stencil.Numeral
