import Mathlib
import Stencil.CommandLine.Command
import Stencil.Proofs.Expansion.Encoded
import Stencil.Proofs.Expansion.Evaluation

/-!
# The bytes of a text of digits

A text of digits is accepted by its characters, its digits are picked out one by one, and the
command line takes blanks away before it decodes. A blank is never a digit. So the digits of an
accepted text are its characters other than blanks, and where blanks are allowed they make no
difference, not even inside a pair. This is why the command decodes the bytes of the text that
it has accepted.

## Main definitions

* `Stencil.Hex.Paired`: the bytes that digits make up two by two.

## Main results

* `isHex_iff`: the texts that are accepted.
* `paired_iff`: digits make up one sequence of bytes.
* `bytes?_filter`: bytes do not depend on blanks.
* `hexBytes_exact`: the bytes of a text, and what the command line makes of them.
-/

namespace Stencil

open Hex Text

variable {t : Text} {digits : List Digit} {bytes : List UInt8} {allowBlanks strict : Bool}
  {c : Char}

namespace Hex

/-! ### Pairs -/

/-- Digits are **paired** to bytes if each byte has the value of the next two digits, the high
one first, and of an odd number of digits the last one is a byte of its own. -/
def Paired (digits : List Digit) (bytes : List UInt8) : Prop :=
  ∃ (couples : List (Digit × Digit)) (single : Option Digit),
    digits = couples.flatMap (fun couple => [couple.1, couple.2]) ++ single.toList ∧
    bytes.map UInt8.toNat =
      couples.map (fun couple => couple.1.val * 16 + couple.2.val) ++ single.toList.map Fin.val

/-- Two digits make a byte, the high one first. -/
theorem toNat_pair (high low : Digit) :
    (UInt8.ofNat (high * 16 + low)).toNat = high.val * 16 + low.val := by
  have hhigh := high.isLt
  have hlow := low.isLt
  exact toNat_ofNat_byte (by omega)

/-- The bytes of couples of digits, and of a single digit behind them. -/
theorem map_toNat_pairs (couples : List (Digit × Digit)) (single : Option Digit) :
    (pairs (couples.flatMap (fun couple => [couple.1, couple.2]) ++ single.toList)).map
        UInt8.toNat =
      couples.map (fun couple => couple.1.val * 16 + couple.2.val) ++
        single.toList.map Fin.val := by
  induction couples with
  | nil =>
    cases single with
    | none => rfl
    | some digit =>
      have hdigit := digit.isLt
      exact congrArg ([·]) (toNat_ofNat_byte (by omega))
  | cons couple couples ih =>
    rw [List.map_cons, List.cons_append, ← ih, ← toNat_pair]
    rfl

/-- Digits are couples with at most a single one behind them. -/
theorem exists_couples (digits : List Digit) : ∃ (couples : List (Digit × Digit))
    (single : Option Digit),
    digits = couples.flatMap (fun couple => [couple.1, couple.2]) ++ single.toList := by
  fun_induction pairs digits with
  | case1 high low rest ih =>
    obtain ⟨couples, single, hrest⟩ := ih
    exact ⟨(high, low) :: couples, single, by rw [hrest]; rfl⟩
  | case2 digit => exact ⟨[], some digit, rfl⟩
  | case3 => exact ⟨[], none, rfl⟩

/-- **Digits make up one sequence of bytes.** -/
theorem paired_iff : Paired digits bytes ↔ bytes = pairs digits := by
  have hinj : Function.Injective (List.map UInt8.toNat) :=
    List.map_injective_iff.mpr fun _ _ => UInt8.toNat_inj.mp
  constructor
  · rintro ⟨couples, single, rfl, hbytes⟩
    exact hinj (hbytes.trans (map_toNat_pairs couples single).symm)
  · rintro rfl
    obtain ⟨couples, single, hdigits⟩ := exists_couples digits
    exact ⟨couples, single, hdigits, by rw [hdigits, map_toNat_pairs]⟩

/-! ### Texts of digits -/

/-- Trimming leaves nothing exactly if all characters are blank. -/
theorem trim_eq_nil_iff : t.trim = [] ↔ ∀ c ∈ t, isBlank c = true := by
  refine ⟨fun h c hc => isBlank_of_trim_eq_nil h hc, fun h => ?_⟩
  have hdrop : t.dropWhile isBlank = [] := List.dropWhile_eq_nil_iff.mpr h
  rw [trim, trimBoth, hdrop]
  rfl

/-- **The texts that are accepted** have a digit and nothing else, blanks apart if they are
allowed. -/
theorem isHex_iff : isHex t allowBlanks = true ↔ (∃ c ∈ t, isDigit c = true) ∧
    ∀ c ∈ t, isDigit c = true ∨ allowBlanks = true ∧ isBlank c = true := by
  have hempty : (!t.trim.isEmpty) = true ↔ ∃ c ∈ t, isBlank c = false := by
    rw [Bool.not_eq_true', ← Bool.not_eq_true, List.isEmpty_iff, trim_eq_nil_iff]
    simp
  have hall : (t.all fun c => isDigit c || (allowBlanks && isBlank c)) = true ↔
      ∀ c ∈ t, isDigit c = true ∨ allowBlanks = true ∧ isBlank c = true := by
    simp [List.all_eq_true]
  rw [isHex, Bool.and_eq_true, hempty, hall]
  refine and_congr_left fun h => exists_congr fun c => and_congr_right fun hc => ?_
  constructor
  · intro hblank
    refine (h c hc).resolve_right fun h => ?_
    rw [hblank] at h
    exact Bool.false_ne_true h.2
  · exact isBlank_of_isDigit

/-- What is accepted without blanks is accepted with blanks. -/
theorem isHex_of_isHex (h : isHex t allowBlanks = true) : isHex t true = true := by
  rw [isHex_iff] at h ⊢
  exact ⟨h.1, fun c hc => (h.2 c hc).imp_right fun hblank => ⟨rfl, hblank.2⟩⟩

/-! ### Blanks -/

/-- No blank is a digit. -/
theorem digit?_of_isBlank (h : isBlank c = true) : digit? c = none := by
  by_contra hne
  have hdigit : isDigit c = true := Option.isSome_iff_ne_none.mpr hne
  rw [isBlank_of_isDigit hdigit] at h
  exact Bool.false_ne_true h

/-- Blanks do not matter to the digits of a text. -/
theorem filterMap_digit?_filter (t : Text) :
    (t.filter (!isBlank ·)).filterMap digit? = t.filterMap digit? := by
  rw [List.filterMap_filter]
  refine List.filterMap_congr fun c _ => ?_
  by_cases hc : isBlank c = true
  · simp [hc, digit?_of_isBlank hc]
  · simp [hc]

/-- Where blanks are allowed, a text is accepted exactly if it is without its blanks. -/
theorem isHex_filter (t : Text) : isHex (t.filter (!isBlank ·)) false = isHex t true := by
  have hmem {c : Char} : c ∈ t.filter (!isBlank ·) ↔ c ∈ t ∧ isBlank c = false := by
    rw [List.mem_filter, Bool.not_eq_true']
  rw [Bool.eq_iff_iff, isHex_iff, isHex_iff]
  simp only [hmem, Bool.false_eq_true, false_and, or_false, true_and]
  refine and_congr (exists_congr fun c => ?_) (forall_congr' fun c => ?_)
  · rw [and_assoc, and_congr_right_iff]
    exact fun _ => and_iff_right_of_imp isBlank_of_isDigit
  · rw [and_imp]
    refine imp_congr_right fun _ => ?_
    cases isBlank c <;> simp

/-- **Bytes do not depend on blanks.** -/
theorem bytes?_filter (t : Text) : bytes? (t.filter (!isBlank ·)) false = bytes? t true := by
  rw [bytes?, bytes?, isHex_filter, filterMap_digit?_filter]

/-- A text that is accepted has the bytes of its digits. -/
theorem bytes?_of_isHex (h : isHex t allowBlanks = true) :
    bytes? t allowBlanks = some (pairs (t.filterMap digit?)) := if_pos h

/-- Bytes are read exactly from the texts that are accepted. -/
theorem isSome_bytes?_iff :
    (bytes? t allowBlanks).isSome = true ↔ isHex t allowBlanks = true := by
  rw [bytes?]
  split <;> simp_all

/-- Where all characters are digits, none of them is passed over. -/
theorem map_digit?_of_all (h : ∀ c ∈ t, isDigit c = true) :
    t.map digit? = (t.filterMap digit?).map some := by
  induction t with
  | nil => rfl
  | cons c t ih =>
    rw [List.forall_mem_cons] at h
    obtain ⟨d, hd⟩ := Option.isSome_iff_exists.mp h.1
    rw [List.map_cons, List.filterMap_cons_some hd, List.map_cons, hd, ih h.2]

/-- The digits of an accepted text are its characters other than blanks. -/
theorem map_digit?_filter (h : isHex t allowBlanks = true) :
    (t.filter (!isBlank ·)).map digit? = (t.filterMap digit?).map some := by
  rw [← filterMap_digit?_filter]
  refine map_digit?_of_all fun c hc => ?_
  rw [List.mem_filter, Bool.not_eq_true'] at hc
  refine ((isHex_iff.mp h).2 c hc.1).resolve_right fun hblank => ?_
  rw [hc.2] at hblank
  exact Bool.false_ne_true hblank.2

/-- **The bytes of an accepted text** are those that its digits make up. -/
theorem bytes?_eq_some_iff : bytes? t allowBlanks = some bytes ↔ isHex t allowBlanks = true ∧
    ∃ digits, (t.filter (!isBlank ·)).map digit? = digits.map some ∧ Paired digits bytes := by
  constructor
  · intro h
    have hhex := isSome_bytes?_iff.mp (Option.isSome_of_eq_some h)
    rw [bytes?_of_isHex hhex, Option.some.injEq] at h
    exact ⟨hhex, t.filterMap digit?, map_digit?_filter hhex, paired_iff.mpr h.symm⟩
  · rintro ⟨hhex, digits, hdigits, hpaired⟩
    rw [map_digit?_filter hhex] at hdigits
    have hdigits := List.map_injective_iff.mpr (Option.some_injective Digit) hdigits
    rw [bytes?_of_isHex hhex, hdigits, paired_iff.mp hpaired]

/-- Digits that spell bytes read back as these bytes, whether blanks are allowed or not. -/
theorem Spells.bytes?_eq_of_any (h : Spells t bytes) (hne : bytes ≠ []) (allowBlanks : Bool) :
    bytes? t allowBlanks = some bytes := by
  have hstrict := h.bytes?_eq hne
  cases allowBlanks with
  | false => exact hstrict
  | true =>
    have hblank : t.filter (!isBlank ·) = t := List.filter_eq_self.mpr fun c hc => by
      rw [isBlank_of_isDigit (List.all_eq_true.mp h.all_isDigit c hc)]
      rfl
    rwa [← bytes?_filter, hblank]

end Hex

/-! ### The command -/

/-- **The command** decodes exactly the bytes of its text. -/
theorem runHex_of_bytes? (h : bytes? t (!strict) = some bytes) (e : Encoding) :
    runHex t e strict = .ok (line (e.decode bytes)) := by
  have hhex := isSome_bytes?_iff.mp (Option.isSome_of_eq_some h)
  have hbytes : bytes? (t.filter (!isBlank ·)) false = some bytes := by
    rw [bytes?_filter, bytes?_of_isHex (isHex_of_isHex hhex), ← bytes?_of_isHex hhex, h]
  rw [runHex, if_pos hhex, Encoding.decodeHex, hbytes, Option.getD_some]

/-- The command fails on a text that is not accepted, and its error names the text. -/
theorem runHex_of_not_isHex (h : isHex t (!strict) = false) (e : Encoding) :
    runHex t e strict = .error (.invalidHex t) := by
  rw [runHex, h]
  exact if_neg Bool.false_ne_true

/-- A command line that reads as the command ends with its result. -/
theorem runWords_of_hex {h : Host} {words : List Text} {i : Invocation}
    (hwords : Invocation.ofWords words = .ok i) (hcommand : i.command = .hex t e strict) :
    runWords h words = .done (.ofResult (runHex t e strict)) := by
  rw [runWords, hwords]
  simp only [runInvocation, hcommand]

/-- **Hexadecimal texts are read exactly.** A text has bytes if and only if it is accepted,
which it is if it has a digit and nothing else, blanks apart if they are allowed. Its bytes are
those that its characters other than blanks make up two by two, with a last one of its own if
their number is odd. So blanks make no difference where they are allowed, and the digits of
bytes, in letters of either case, read back as these bytes. A command line that decodes the
text succeeds if and only if it is accepted, and what it prints is the text of its bytes in the
encoding that was chosen. -/
theorem hexBytes_exact (t : Text) :
    (∀ allowBlanks, ((bytes? t allowBlanks).isSome = true ↔ isHex t allowBlanks = true) ∧
      (isHex t allowBlanks = true ↔ (∃ c ∈ t, isDigit c = true) ∧
        ∀ c ∈ t, isDigit c = true ∨ allowBlanks = true ∧ isBlank c = true) ∧
      ∀ bytes, bytes? t allowBlanks = some bytes ↔ isHex t allowBlanks = true ∧
        ∃ digits, (t.filter (!isBlank ·)).map digit? = digits.map some ∧ Paired digits bytes) ∧
    bytes? t true = bytes? (t.filter (!isBlank ·)) false ∧
    (∀ bytes, bytes ≠ [] → Spells t bytes → ∀ allowBlanks, bytes? t allowBlanks = some bytes) ∧
    ∀ (h : Host) (words : List Text) (i : Invocation) (e : Encoding) (strict : Bool),
      Invocation.ofWords words = .ok i → i.command = .hex t e strict →
      (isHex t (!strict) = true → ∃ bytes, bytes? t (!strict) = some bytes ∧
        runWords h words = .done (.success (line (e.decode bytes)))) ∧
      (isHex t (!strict) = false →
        runWords h words = .done ⟨2, [], [], some (.invalidHex t)⟩) := by
  refine ⟨fun allowBlanks => ⟨isSome_bytes?_iff, isHex_iff, fun bytes => bytes?_eq_some_iff⟩,
    (bytes?_filter t).symm, fun bytes hne hspells => hspells.bytes?_eq_of_any hne, ?_⟩
  intro h words i e strict hwords hcommand
  rw [runWords_of_hex hwords hcommand]
  constructor
  · intro hhex
    obtain ⟨bytes, hbytes⟩ := Option.isSome_iff_exists.mp (isSome_bytes?_iff.mpr hhex)
    exact ⟨bytes, hbytes, by rw [runHex_of_bytes? hbytes]; rfl⟩
  · intro hhex
    rw [runHex_of_not_isHex hhex]
    rfl

/-- A host without files, at the epoch. -/
def Host.bare : Host := ⟨[], fun _ => none, [], .still, ⟨0⟩⟩

/-- Three digits with blanks between them, one of them no ASCII: two bytes where blanks are
allowed, and an error where they are not. -/
theorem hexBytes_exact_spaced :
    (∃ digits, ("4 8\u20036".toList.filter (!isBlank ·)).map digit? = digits.map some ∧
      Paired digits [0x48, 0x06]) ∧
    Spells "fF00".toList [0xff, 0x00] ∧ bytes? "fF00".toList true = some [0xff, 0x00] ∧
    (∃ i, Invocation.ofWords ["hex".toList, "4 8\u20036".toList] = .ok i ∧
      i.command = .hex "4 8\u20036".toList .utf8 false) ∧
    runWords .bare ["hex".toList, "4 8\u20036".toList] = .done (.success "H\x06\n".toList) ∧
    runWords .bare ["hex".toList, "--strict".toList, "4 8\u20036".toList] =
      .done ⟨2, [], [], some (.invalidHex "4 8\u20036".toList)⟩ := by
  obtain ⟨hbytes, -, -, hcommand⟩ := hexBytes_exact "4 8\u20036".toList
  have hpaired := ((hbytes true).2.2 [0x48, 0x06]).mp (by decide)
  have hspells : Spells "fF00".toList [0xff, 0x00] := by decide
  have hread := (hexBytes_exact "fF00".toList).2.2.1 [0xff, 0x00] (by decide) hspells true
  obtain ⟨bytes, hsome, hrun⟩ :=
    (hcommand .bare ["hex".toList, "4 8\u20036".toList] _ .utf8 false
    rfl rfl).1 (by decide)
  obtain rfl : [0x48, 0x06] = bytes := Option.some.inj (Eq.trans (by decide) hsome)
  have hrefused :=
    (hcommand .bare ["hex".toList, "--strict".toList, "4 8\u20036".toList] _ .utf8 true
    rfl rfl).2 (by decide)
  exact ⟨hpaired.2, hspells, hread, ⟨_, rfl, rfl⟩, hrun, hrefused⟩

end Stencil
