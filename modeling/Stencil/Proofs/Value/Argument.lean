import Stencil.Proofs.Binary64.Reading
import Stencil.Proofs.Binary64.Shortest
import Stencil.Proofs.Expansion.Indexed
import Stencil.Proofs.Guid

/-!
# What arguments are read as

An argument is an integer of 64 bits if it can be, else a number, else an identifier. So an
integer that does not fit 64 bits is rounded to a number. That number is displayed with the
fewest digits that read back, and these are the digits of the integer only if no shorter
integer rounds to the same number.

The digits of identifiers include those of numbers and the mark of their exponents, so the
simple form of an identifier can be taken for a number: if all of its digits are decimal, or
all but one `e` in their midst. The hyphens of the other forms rule that out, since a number
has at most two.

## Main definitions

* `Stencil.FitsInt64`: the integers of 64 bits.
* `Stencil.Guid.LooksNumeric`: identifiers whose digits write a number.

## Main results

* `ofArgument_signed`: what the numeral of an integer is read as.
* `display_ofArgument`: the integers whose text survives.
* `ofArgument_eq_guid_iff`: an identifier is what is read as one and not as a number.
* `Guid.isSome_read?_simple_iff`: the simple forms that are read as numbers.
* `ofArgument_formatGuid`: which written identifiers are identifiers as arguments.
-/

namespace Stencil

open Numeral

variable {σ : Type} {t text : Text} {g : Guid} {spec : Text} {digits : List Hex.Digit}

/-! ### Integers -/

section Integer

variable {n : ℤ}

/-- An integer **fits** a signed word of 64 bits. -/
def FitsInt64 (n : ℤ) : Prop := -2 ^ 63 ≤ n ∧ n < 2 ^ 63

instance (n : ℤ) : Decidable (FitsInt64 n) := inferInstanceAs (Decidable (_ ∧ _))

/-- A signed numeral is read as a word exactly if its number fits. -/
theorem int64?_signed (n : ℤ) :
    int64? (signed n) = if FitsInt64 n then some (Int64.ofInt n) else none := by
  have hrange : FitsInt64 n ↔ -(Nat.pow 2 (64 - 1) : ℤ) ≤ n ∧ n < Nat.pow 2 (64 - 1) := by
    simp [FitsInt64]
  rw [Stencil.int64?, integer?_signed, Option.bind_some, Numeral.int64?, signedWord?]
  simp only [hrange]
  split <;> rfl

/-- **An integer** is one of 64 bits if it fits, and else the number nearest to it. -/
theorem ofArgument_signed (n : ℤ) :
    Value.ofArgument (signed n) =
      if FitsInt64 n then .int (.ofInt n) else .float (.ofInt n) := by
  rw [Value.ofArgument, int64?_signed, Binary64.read?_signed]
  by_cases hfits : FitsInt64 n
  · rw [if_pos hfits, if_pos hfits]
  · rw [if_neg hfits, if_neg hfits]

/-- A signed numeral has digits and at most a minus sign. -/
theorem mem_signed {c : Char} (h : c ∈ signed n) : c = '-' ∨ c.isDigit = true := by
  rw [signed, List.mem_append] at h
  refine h.imp (fun hsign => ?_) isDigit_of_mem_decimal
  rw [sign] at hsign
  split at hsign
  · exact List.mem_singleton.mp hsign
  · exact absurd hsign List.not_mem_nil

/-- Rounding keeps a large integer large. -/
theorem le_magnitude_ofInt {m : ℕ} (hn : 2 ^ 63 ≤ n.natAbs)
    (hx : (Binary64.ofInt n).isFinite = true)
    (h : (Binary64.ofInt n).magnitude = m) : 10 ^ 16 ≤ m := by
  have hn' : (2 ^ 63 : ℚ) ≤ n.natAbs := by exact_mod_cast hn
  have hnear := Binary64.abs_magnitude_ofInt_sub_le hx
  rw [h, abs_le] at hnear
  have hhalf : (n.natAbs : ℚ) / 2 ^ 53 ≤ n.natAbs / 2 :=
    div_le_div_of_nonneg_left (by positivity) two_pos (by norm_num)
  have hle : (10 ^ 16 : ℚ) ≤ m := by linarith [hnear.1]
  exact_mod_cast hle

/-- **The text of a large integer** survives rounding if the integer is the shortest one that
rounds to the same number. -/
theorem display_ofInt_eq_iff (hn : 2 ^ 63 ≤ n.natAbs) :
    (Binary64.ofInt n).display = signed n ↔
      (Binary64.ofInt n).isFinite = true ∧ (Binary64.ofInt n).IsShortest n.natAbs := by
  by_cases hx : (Binary64.ofInt n).isFinite = true
  · obtain ⟨m, hm⟩ := Binary64.exists_magnitude_ofInt hx
    have hlarge := le_magnitude_ofInt hn hx hm
    have hsign : sign (Binary64.ofInt n).negative = sign (n < 0) := rfl
    rw [and_iff_right hx, signed, ← hsign]
    exact Binary64.display_eq_iff_isShortest hx hm (lt_of_lt_of_le (by decide) hlarge) hlarge
  · -- The text of an infinity has a letter.
    refine iff_of_false (fun heq => ?_) fun h => hx h.1
    have hletters (c : Char) (hc : c ∈ (Binary64.ofInt n).nonFiniteText) :
        c = '-' ∨ c.isDigit = true := by
      refine mem_signed (n := n) ?_
      rw [← heq, Binary64.display, if_neg hx]
      exact List.mem_append_right _ hc
    rw [Binary64.nonFiniteText] at hletters
    split at hletters
    · exact absurd (hletters 'N' (by decide)) (by decide)
    · exact absurd (hletters 'i' (by decide)) (by decide)

/-- **Integers as arguments.** A canonical integer is read as one of 64 bits if it fits, and
else as the number nearest to it. Its text survives if it fits, or if it is the shortest
integer that rounds to the same number. A template of one plain placeholder expands to the text
of what was read. -/
theorem display_ofArgument (h : IsCanonical text n) (s : Session σ) (env : Environment)
    (named : NamedValues σ) :
    Value.ofArgument text = (if FitsInt64 n then .int (.ofInt n) else .float (.ofInt n)) ∧
    ((Value.ofArgument text).display = text ↔
      FitsInt64 n ∨ (Binary64.ofInt n).isFinite = true ∧
        (Binary64.ofInt n).IsShortest n.natAbs) ∧
    s.expand env "\x7b0\x7d".toList named [Value.ofArgument text] =
      (.ok (Value.ofArgument text).display, s) := by
  obtain rfl := h.eq_signed
  rw [ofArgument_signed, expand_first]
  by_cases hfits : FitsInt64 n
  · have hvalue : (Int64.ofInt n).toInt = n := Int64.toInt_ofInt_of_le hfits.1 hfits.2
    have hdisplay : (Value.int (.ofInt n)).display = signed n := congrArg signed hvalue
    rw [if_pos hfits]
    exact ⟨rfl, iff_of_true hdisplay (.inl hfits), rfl⟩
  · have hlarge : 2 ^ 63 ≤ n.natAbs := by
      rw [FitsInt64] at hfits
      omega
    have hformat : formatFloat (Binary64.ofInt n) [] = .ok (Binary64.ofInt n).display :=
      if_pos (.inl rfl)
    rw [if_neg hfits, or_iff_right hfits, Value.format, hformat]
    exact ⟨rfl, display_ofInt_eq_iff hlarge, rfl⟩

/-- The least integer of 64 bits is kept, and so is a power of ten that does not fit. -/
theorem display_ofArgument_limits :
    (IsCanonical "-9223372036854775808".toList (-9223372036854775808) ∧
      Session.small.expand .still "\x7b0\x7d".toList ∅
        [Value.ofArgument "-9223372036854775808".toList] =
        (.ok "-9223372036854775808".toList, .small)) ∧
    (IsCanonical "100000000000000000000".toList 100000000000000000000 ∧
      (Binary64.ofInt 100000000000000000000).IsShortest 100000000000000000000 ∧
      Session.small.expand .still "\x7b0\x7d".toList ∅
        [Value.ofArgument "100000000000000000000".toList] =
        (.ok "100000000000000000000".toList, .small)) := by
  have hleast : IsCanonical "-9223372036854775808".toList (-9223372036854775808) := by
    have hsigned : signed (-9223372036854775808) = "-9223372036854775808".toList := by cbv
    exact hsigned ▸ isCanonical_signed (-9223372036854775808)
  have hpower : IsCanonical "100000000000000000000".toList 100000000000000000000 := by
    have hsigned : signed 100000000000000000000 = "100000000000000000000".toList := by cbv
    exact hsigned ▸ isCanonical_signed 100000000000000000000
  have hdisplay : (Value.ofArgument "100000000000000000000".toList).display =
      "100000000000000000000".toList := by decide +kernel
  obtain ⟨-, hleastText, hleastExpand⟩ := display_ofArgument hleast .small .still ∅
  obtain ⟨-, hpowerText, hpowerExpand⟩ := display_ofArgument hpower .small .still ∅
  rw [hleastText.mpr (.inl (by decide))] at hleastExpand
  rw [hdisplay] at hpowerExpand
  have hshortest := (hpowerText.mp hdisplay).resolve_left (by decide)
  exact ⟨⟨hleast, hleastExpand⟩, hpower, hshortest.2, hpowerExpand⟩

/-- **A large integer can lose its value**: one more than the greatest integer of 64 bits is a
power of two that is written with fewer digits. -/
theorem large_integer_lost :
    IsCanonical "9223372036854775808".toList 9223372036854775808 ∧
      (Value.ofArgument "9223372036854775808".toList).display = "9223372036854776000".toList ∧
      (Value.ofArgument "9223372036854775808".toList).display ≠ "9223372036854775808".toList ∧
      Session.small.expand .still "\x7b0\x7d".toList ∅
        [Value.ofArgument "9223372036854775808".toList] =
        (.ok "9223372036854776000".toList, .small) := by
  have hsigned : signed 9223372036854775808 = "9223372036854775808".toList := by cbv
  have hvalue : Value.ofArgument "9223372036854775808".toList =
      .float (.ofInt 9223372036854775808) := by
    rw [← hsigned, ofArgument_signed]
    rfl
  have hdisplay : (Binary64.ofInt 9223372036854775808).display =
      "9223372036854776000".toList := by
    decide +kernel
  have hformat : formatFloat (Binary64.ofInt 9223372036854775808) [] =
      .ok (Binary64.ofInt 9223372036854775808).display := if_pos (.inl rfl)
  rw [expand_first, hvalue, Value.format, hformat, Value.display, hdisplay]
  exact ⟨hsigned ▸ isCanonical_signed 9223372036854775808, rfl, by decide, rfl⟩

end Integer

/-! ### Identifiers and numbers -/

/-- **An identifier** is a text that is read as one and not as a number. -/
theorem ofArgument_eq_guid_iff :
    Value.ofArgument t = .guid g ↔ Binary64.read? t = none ∧ Guid.read? t = some g := by
  rw [Value.ofArgument]
  constructor
  · intro h
    cases hint : int64? t <;> rw [hint] at h
    · cases hnumber : Binary64.read? t <;> rw [hnumber] at h
      · cases hguid : Guid.read? t <;> rw [hguid] at h
        · simp only at h
          split at h <;> simp at h
        · exact ⟨rfl, congrArg some (Value.guid.inj h)⟩
      · simp at h
    · simp at h
  · rintro ⟨hnumber, hguid⟩
    rw [Binary64.int64?_of_read?_eq_none hnumber, hnumber, hguid]

/-- What is read as a number is an integer or a floating-point number as an argument. -/
theorem ofArgument_of_isSome_read? (h : (Binary64.read? t).isSome) :
    (∃ n, Value.ofArgument t = .int n) ∨ ∃ x, Value.ofArgument t = .float x := by
  obtain ⟨x, hx⟩ := Option.isSome_iff_exists.mp h
  rw [Value.ofArgument]
  cases int64? t with
  | some n => exact .inl ⟨n, rfl⟩
  | none => exact .inr ⟨x, by rw [hx]⟩

/-! ### The simple form -/

namespace Guid

/-- A sequence of digits is **decimal** if it is not empty and none of them is a letter. -/
def AreDecimal (digits : List Hex.Digit) : Prop := digits ≠ [] ∧ ∀ d ∈ digits, d.val < 10

/-- An identifier **looks numeric** if its digits are decimal, or decimal ones, an `e` and
decimal ones again. -/
def LooksNumeric (g : Guid) : Prop :=
  ∃ before rest, g.digits = before ++ rest ∧ AreDecimal before ∧
    (rest = [] ∨ ∃ mark after, rest = mark :: after ∧ mark.val = 14 ∧ AreDecimal after)

/-- The digits of an identifier write a natural number if they are decimal. -/
theorem isSome_natural?_map_iff :
    (natural? (digits.map Hex.digitChar)).isSome ↔ AreDecimal digits := by
  simp [natural?_isSome_iff, AreDecimal, Hex.isDigit_digitChar]

/-- They write an integer in the same case, since none of them is a sign. -/
theorem isSome_integer?_map_iff :
    (integer? (digits.map Hex.digitChar)).isSome ↔ AreDecimal digits := by
  have hsign {c : Char} {rest : Text} (hc : Hex.digit? c = none) :
      digits.map Hex.digitChar ≠ c :: rest :=
    fun heq => Hex.not_mem_map_digitChar hc (heq ▸ List.mem_cons_self)
  rw [← isSome_natural?_map_iff]
  constructor
  · intro h
    obtain ⟨rest, hrest | hrest | hrest, hnatural⟩ := exists_natural?_of_integer? h
    · exact absurd hrest (hsign rfl)
    · exact absurd hrest (hsign rfl)
    · rwa [hrest]
  · intro h
    obtain ⟨n, hn⟩ := Option.isSome_iff_exists.mp h
    have hread : integer? (sign false ++ digits.map Hex.digitChar) = _ :=
      integer?_sign_append hn
    exact Option.isSome_of_eq_some hread

/-- They write an exponent if they are an `e` with decimal digits behind it, or nothing. -/
theorem isSome_readExponent?_map_iff :
    (Binary64.readExponent? (digits.map Hex.digitChar)).isSome ↔
      digits = [] ∨ ∃ mark after, digits = mark :: after ∧ mark.val = 14 ∧
        AreDecimal after := by
  cases digits with
  | nil => exact iff_of_true rfl (.inl rfl)
  | cons d after =>
    rw [List.map_cons, Binary64.readExponent?]
    simp only [Hex.isMark_digitChar_iff, List.cons_ne_nil, false_or]
    constructor
    · intro h
      split at h
      · next hmark => exact ⟨d, after, rfl, hmark, isSome_integer?_map_iff.mp h⟩
      · exact absurd h Bool.false_ne_true
    · rintro ⟨mark, rest, heq, hmark, hrest⟩
      obtain ⟨rfl, rfl⟩ := List.cons.inj heq
      rw [if_pos hmark]
      exact isSome_integer?_map_iff.mpr hrest

/-- **The simple forms that are read as numbers.** -/
theorem isSome_read?_simple_iff : (Binary64.read? g.simple).isSome ↔ g.LooksNumeric := by
  have hnone {c : Char} (hc : Hex.digit? c = none) : c ∉ g.simple :=
    Hex.not_mem_map_digitChar hc
  have hhead {c : Char} (hc : Hex.digit? c = none) : g.simple.head? ≠ some c :=
    fun h => hnone hc (List.mem_of_head? h)
  have hdecimal : Char.isDigit ∘ Hex.digitChar = fun d => decide (d.val < 10) :=
    funext Hex.isDigit_digitChar
  have hmagnitude : (Binary64.read? g.simple).isSome ↔
      AreDecimal (g.digits.takeWhile (·.val < 10)) ∧
        (g.digits.dropWhile (·.val < 10) = [] ∨ ∃ mark after,
          g.digits.dropWhile (·.val < 10) = mark :: after ∧ mark.val = 14 ∧
            AreDecimal after) := by
    rw [Binary64.read?_of_unsigned (hhead rfl) (hhead rfl), Option.isSome_map,
      Binary64.isSome_readMagnitude?_iff (hnone rfl), simple, List.takeWhile_map,
      List.dropWhile_map, hdecimal, isSome_natural?_map_iff, isSome_readExponent?_map_iff]
  have hsplit := List.takeWhile_append_dropWhile (p := (·.val < 10)) (l := g.digits)
  rw [hmagnitude]
  constructor
  · rintro ⟨hbefore, hrest⟩
    exact ⟨_, _, hsplit.symm, hbefore, hrest⟩
  · rintro ⟨before, rest, hdigits, hbefore, hrest⟩
    have hall : ∀ d ∈ before, decide (d.val < 10) = true :=
      fun d hd => decide_eq_true (hbefore.2 d hd)
    have hstop : rest.takeWhile (·.val < 10) = [] ∧ rest.dropWhile (·.val < 10) = rest := by
      obtain rfl | ⟨mark, after, rfl, hmark, -⟩ := hrest
      · exact ⟨rfl, rfl⟩
      · exact ⟨List.takeWhile_cons_of_neg (by simp [hmark]),
          List.dropWhile_cons_of_neg (by simp [hmark])⟩
    rw [hdigits, List.takeWhile_append_of_pos hall, List.dropWhile_append_of_pos hall, hstop.1,
      hstop.2, List.append_nil]
    exact ⟨hbefore, hrest⟩

/-! ### The forms with hyphens -/

/-- The hyphenated form has four hyphens, too many for a number. -/
theorem count_hyphen_hyphenated (g : Guid) : g.hyphenated.count '-' = 4 := by
  have hslice (i n : ℕ) : (g.slice i n).count '-' = 0 :=
    List.count_eq_zero.mpr (not_mem_slice rfl i n)
  simp only [hyphenated, List.count_append, List.count_cons_self, hslice]

/-- The hyphenated form has no point. -/
theorem point_not_mem_hyphenated (g : Guid) : '.' ∉ g.hyphenated := by
  have hslice (i n : ℕ) : '.' ∉ g.slice i n := not_mem_slice rfl i n
  simp [hyphenated, hslice]

/-- **The hyphens** keep an identifier from being read as a number. -/
theorem read?_hyphenated (g : Guid) : Binary64.read? g.hyphenated = none := by
  refine Binary64.read?_of_count_hyphen (point_not_mem_hyphenated g) ?_
  rw [count_hyphen_hyphenated]
  decide

/-- The form with braces writes no number. -/
theorem read?_braced (g : Guid) : Binary64.read? g.braced = none := by
  refine Binary64.read?_of_count_hyphen ?_ ?_
  · simp [braced, point_not_mem_hyphenated]
  · simp [braced, count_hyphen_hyphenated]

end Guid

/-! ### Written identifiers -/

/-- **Which written identifiers stay identifiers.** In every form with hyphens an identifier is
read back as itself. In the simple form it is unless its digits write a number; then it is read
as one. -/
theorem ofArgument_formatGuid (hspec : IsLetterOf "NnDdBb" spec) (g : Guid) :
    ∃ text, formatGuid g spec = .ok text ∧
      (¬ ((spec = ['N'] ∨ spec = ['n']) ∧ g.LooksNumeric) → Value.ofArgument text = .guid g) ∧
      ((spec = ['N'] ∨ spec = ['n']) ∧ g.LooksNumeric →
        (∃ n, Value.ofArgument text = .int n) ∨ ∃ x, Value.ofArgument text = .float x) := by
  obtain ⟨hletter, hform⟩ | ⟨hletter, hform⟩ := guidForm?_cases hspec
  · have hformat : formatGuid g spec = .ok g.simple := by rw [formatGuid, hform]
    refine ⟨g.simple, hformat, fun h => ?_, fun h => ?_⟩
    · have hnumber : ¬ (Binary64.read? g.simple).isSome :=
        mt Guid.isSome_read?_simple_iff.mp fun hnumeric => h ⟨hletter, hnumeric⟩
      exact ofArgument_eq_guid_iff.mpr ⟨Option.not_isSome_iff_eq_none.mp hnumber,
        read?_of_formatGuid hspec hformat (Guid.map_toLower_simple g)⟩
    · exact ofArgument_of_isSome_read? (Guid.isSome_read?_simple_iff.mpr h.2)
  · obtain hform | hform := hform
    · have hformat : formatGuid g spec = .ok g.hyphenated := by rw [formatGuid, hform]
      exact ⟨g.hyphenated, hformat,
        fun _ => ofArgument_eq_guid_iff.mpr ⟨Guid.read?_hyphenated g,
          read?_of_formatGuid hspec hformat (Guid.map_toLower_hyphenated g)⟩,
        fun h => absurd h.1 hletter⟩
    · have hformat : formatGuid g spec = .ok g.braced := by rw [formatGuid, hform]
      exact ⟨g.braced, hformat, fun _ => ofArgument_eq_guid_iff.mpr ⟨Guid.read?_braced g,
        read?_of_formatGuid hspec hformat (Guid.map_toLower_braced g)⟩,
        fun h => absurd h.1 hletter⟩

/-- The number seven as an identifier. -/
def Guid.seven : Guid := (Guid.ofSimple? "00000000000000000000000000000007".toList).get rfl

/-- One with an exponent of three as an identifier. -/
def Guid.thousand : Guid := (Guid.ofSimple? "1e000000000000000000000000000003".toList).get rfl

/-- An identifier of letters and decimal digits stays one; one of decimal digits is an
integer. -/
theorem ofArgument_formatGuid_inOrder :
    IsLetterOf "NnDdBb" ['N'] ∧ ¬ Guid.inOrder.LooksNumeric ∧ Guid.seven.LooksNumeric ∧
      (∃ text, formatGuid .inOrder ['N'] = .ok text ∧ Value.ofArgument text = .guid .inOrder) ∧
      ∃ text, formatGuid .seven ['N'] = .ok text ∧
        ((∃ n, Value.ofArgument text = .int n) ∨ ∃ x, Value.ofArgument text = .float x) := by
  have hspec : IsLetterOf "NnDdBb" ['N'] := .inr ⟨'N', by decide, rfl⟩
  have hletters : ¬ Guid.inOrder.LooksNumeric :=
    mt Guid.isSome_read?_simple_iff.mpr (by decide)
  have hseven : Guid.seven.LooksNumeric := Guid.isSome_read?_simple_iff.mp (by decide)
  obtain ⟨text, hformat, hguid, -⟩ := ofArgument_formatGuid hspec .inOrder
  obtain ⟨text', hformat', -, hnumber⟩ := ofArgument_formatGuid hspec .seven
  exact ⟨hspec, hletters, hseven, ⟨text, hformat, hguid fun h => hletters h.2⟩,
    ⟨text', hformat', hnumber ⟨.inl rfl, hseven⟩⟩⟩

/-- **Not every written identifier stays one**: decimal digits are an integer, and an `e` among
them marks an exponent. -/
theorem numeric_guid_is_number :
    (formatGuid .seven ['N'] = .ok "00000000000000000000000000000007".toList ∧
      Value.ofArgument "00000000000000000000000000000007".toList = .int 7 ∧
      Value.ofArgument "00000000000000000000000000000007".toList ≠ .guid .seven) ∧
    (formatGuid .thousand ['N'] = .ok "1e000000000000000000000000000003".toList ∧
      Value.ofArgument "1e000000000000000000000000000003".toList = .float (.ofInt 1000) ∧
      Value.ofArgument "1e000000000000000000000000000003".toList ≠ .guid .thousand) := by
  have hint : Value.ofArgument "00000000000000000000000000000007".toList = .int 7 := by decide
  have hfloat : Value.ofArgument "1e000000000000000000000000000003".toList =
      .float (.ofInt 1000) := by
    decide
  refine ⟨⟨by decide, hint, ?_⟩, by decide, hfloat, ?_⟩
  · rw [hint]
    simp
  · rw [hfloat]
    simp

end Stencil
