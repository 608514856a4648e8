import Mathlib
import Stencil.Proofs.Placeholder.Brace

/-!
# The grammar of placeholders as a relation

The readers of placeholders look ahead, skip parts that are absent and give up early. Here the
forms of placeholders are written down on their own, part by part, and the readers are shown to
accept these forms and nothing else. A form fixes the text of a placeholder and what the
placeholder asks for. Only a bare escape depends on the text behind it: it takes all whole
units of the digits that stand there.

## Main definitions

* `Stencil.Placeholder.CommaGroups`: the comma groups of a brace token as they are written.
* `Stencil.Placeholder.Written`: the texts that write a placeholder.

## Main results

* `read?_eq_some_iff`: a reader succeeds exactly on the texts that write a placeholder.
* `Written.unique`: a text starts with one written placeholder of a family at most.
-/

namespace Stencil.Placeholder

open Text

variable {x t raw rest digits digits' : Text} {family : Family} {placeholder : Placeholder}
  {format : Option Text} {index : Option Text}

/-! ### Numbers -/

/-- The number that decimal digits write, the highest digit first. -/
def digitsValue (digits : Text) : Nat :=
  Nat.ofDigits 10 (digits.reverse.map fun c => c.toNat - '0'.toNat)

/-- The number that digits write, if there is a digit and the number fits an unsigned word. -/
def wordValue? (bits : Nat) (digits : Text) : Option Nat :=
  if digits ≠ [] ∧ digitsValue digits < 2 ^ bits then some (digitsValue digits) else none

/-- An integer that digits write after an optional minus sign, if there is a digit and the
integer fits a signed word. -/
def signedValue? (bits : Nat) (minus : Bool) (digits : Text) : Option Int :=
  let n : Int := if minus then -digitsValue digits else digitsValue digits
  if digits ≠ [] ∧ -2 ^ (bits - 1) ≤ n ∧ n < 2 ^ (bits - 1) then some n else none

/-! ### Forms -/

/-- The **comma groups** of a brace token: none, a first one of digits behind an optional minus
sign, or a second one of digits too. Each of them may have no digit. -/
inductive CommaGroups where
  | none
  | first (minus : Bool) (digits : Text)
  | both (minus : Bool) (digits digits' : Text)

namespace CommaGroups

/-- The text of comma groups. -/
def text : CommaGroups → Text
  | none => []
  | first minus digits => ',' :: (Numeral.sign minus ++ digits)
  | both minus digits digits' => ',' :: (Numeral.sign minus ++ (digits ++ ',' :: digits'))

/-- Comma groups hold digits only. -/
def WellFormed : CommaGroups → Prop
  | none => True
  | first _ digits => digits.all Char.isDigit
  | both _ digits digits' => digits.all Char.isDigit ∧ digits'.all Char.isDigit

/-- The first group gives the width, absent unless it is a 32-bit integer. -/
def width : CommaGroups → Option Int
  | none => .none
  | first minus digits | both minus digits _ => signedValue? 32 minus digits

/-- The second group gives the limit, absent unless it is a natural number of 32 bits. -/
def limit : CommaGroups → Option Nat
  | none | first .. => .none
  | both _ _ digits => wordValue? 32 digits

end CommaGroups

/-- The text of an optional format. -/
def formatPart : Option Text → Text
  | none => []
  | some format => ':' :: format

/-- The text of an optional index that a named token binds. -/
def bindingPart : Option Text → Text
  | none => []
  | some digits => '-' :: digits

/-- **The grammar.** A text writes a placeholder in front of a rest. -/
inductive Written : Placeholder → Text → Text → Prop
  /-- `{KEY[-INDEX][,width][,limit][:format]}` -/
  | named {key : Text} {index : Option Text} {groups : CommaGroups} {format : Option Text}
      (rest : Text) : isKey key → (∀ digits ∈ index, digits ≠ [] ∧ digits.all Char.isDigit) →
      groups.WellFormed → (∀ text ∈ format, text ≠ [] ∧ '}' ∉ text) →
      Written (.named key (index.bind (wordValue? 64)) ⟨groups.width, groups.limit, format⟩)
        (braced (key ++ (bindingPart index ++ (groups.text ++ formatPart format)))) rest
  /-- `{INDEX[,width][,limit][:format]}` -/
  | indexed {digits : Text} {n : Nat} {groups : CommaGroups} {format : Option Text}
      (rest : Text) : digits.all Char.isDigit → wordValue? 64 digits = some n →
      groups.WellFormed → (∀ text ∈ format, text ≠ [] ∧ '}' ∉ text) →
      Written (.indexed n ⟨groups.width, groups.limit, format⟩)
        (braced (digits ++ (groups.text ++ formatPart format))) rest
  /-- `#{hh…}`, `#u{hhhh…}`, `#U{hhhh…}` -/
  | bracedHex {e : Encoding} {digits : Text} (rest : Text) : digits ≠ [] →
      digits.all Hex.isDigit → e.unitDigits ∣ digits.length →
      Written (.hex e digits true) ('#' :: (e.code ++ braced digits)) rest
  /-- `#hh…`, `#uhhhh…`, `#Uhhhh…`, behind which no further unit of digits stands -/
  | bareHex {e : Encoding} {digits rest : Text} : digits ≠ [] → digits.all Hex.isDigit →
      e.unitDigits ∣ digits.length →
      (∀ more, more <+: rest → more.all Hex.isDigit → more.length < e.unitDigits) →
      Written (.hex e digits false) ('#' :: (e.code ++ digits)) rest

/-! ### Reading numbers -/

/-- The value of digits is that of the library. -/
theorem digitsValue_eq (digits : Text) :
    digitsValue digits = Nat.ofDigitChars 10 digits 0 := by
  induction digits using List.reverseRecOn with
  | nil => rfl
  | append_singleton digits c ih =>
    rw [digitsValue, List.reverse_append, List.reverse_singleton, List.singleton_append,
      List.map_cons, Nat.ofDigits_cons]
    change _ + 10 * digitsValue digits = _
    rw [ih, Nat.ofDigitChars, Nat.ofDigitChars, List.foldl_append]
    simp only [List.foldl_cons, List.foldl_nil]
    omega

/-- Digits are read as their value unless there are none. -/
theorem natural?_eq (h : digits.all Char.isDigit) :
    Numeral.natural? digits = if digits = [] then none else some (digitsValue digits) := by
  by_cases hne : digits = [] <;> simp [Numeral.natural?, hne, h, digitsValue_eq]

/-- Digits are read as an unsigned word if their value fits. -/
theorem wordOf?_eq (bits : Nat) (h : digits.all Char.isDigit) :
    wordOf? bits digits = wordValue? bits digits := by
  rw [wordOf?, natural?_eq h, wordValue?]
  by_cases hne : digits = []
  · simp [hne]
  · simp [hne, Numeral.word?]

/-- Digits with a sign are read as a signed word if their value fits. -/
theorem signedWord?_eq (minus : Bool) (h : digits.all Char.isDigit) :
    (Numeral.natural? digits).bind (fun n =>
      Numeral.signedWord? 32 (if minus then -(n : Int) else n)) =
        signedValue? 32 minus digits := by
  rw [natural?_eq h, signedValue?]
  by_cases hne : digits = []
  · simp [hne]
  · simp [hne, Numeral.signedWord?]

/-! ### Reading comma groups -/

/-- Digits are read up to the first character that is none, and no further. -/
theorem leadingDigits_append (h : digits.all Char.isDigit)
    (hx : ∀ c ∈ x.head?, c.isDigit = false) :
    leadingDigits (digits ++ x) = digits ∧ afterDigits (digits ++ x) = x :=
  run_append h hx

/-- All leading digits are digits. -/
theorem all_leadingDigits (x : Text) : (leadingDigits x).all Char.isDigit :=
  List.all_eq_true.mpr fun _ hmem => List.mem_takeWhile_imp hmem

/-- A text is its leading digits and what follows them. -/
theorem leadingDigits_append_afterDigits (x : Text) : leadingDigits x ++ afterDigits x = x :=
  List.takeWhile_append_dropWhile

/-- What a sign and digits in front of a text make the reader of the width yield. -/
theorem width_comma (minus : Bool) (h : digits.all Char.isDigit)
    (hx : ∀ c ∈ x.head?, c.isDigit = false ∧ c ≠ '-') :
    width (',' :: (Numeral.sign minus ++ (digits ++ x))) =
      (signedValue? 32 minus digits, x) := by
  have hdigits := leadingDigits_append h fun c hc => (hx c hc).1
  have hvalue := signedWord?_eq minus h
  cases minus with
  | true =>
    simp only [Numeral.sign, if_true, List.singleton_append, width, hdigits]
    rw [← hvalue]
    rfl
  | false =>
    have hminus : ∀ tail, digits ++ x ≠ '-' :: tail := by
      intro tail heq
      rcases digits with _ | ⟨d, digits⟩
      · rw [List.nil_append] at heq
        exact (hx '-' (by simp [heq])).2 rfl
      · rw [List.cons_append, List.cons.injEq] at heq
        rw [heq.1] at h
        simp at h
    have hread : width (',' :: (digits ++ x)) =
        ((Numeral.natural? (leadingDigits (digits ++ x))).bind fun n =>
            Numeral.signedWord? 32 n,
          afterDigits (digits ++ x)) := by
      rw [width]
      exact hminus
    simp only [Numeral.sign, Bool.false_eq_true, if_false, List.nil_append, hread, hdigits]
    rw [← hvalue]
    rfl

/-- A comma and digits are read as a limit. -/
theorem limit_comma (h : digits.all Char.isDigit) (hx : ∀ c ∈ x.head?, c.isDigit = false) :
    limit (',' :: (digits ++ x)) = (wordValue? 32 digits, x) := by
  have hdigits := leadingDigits_append h hx
  rw [limit, hdigits.1, hdigits.2, wordOf?_eq 32 h]

/-- Without a comma there is no width. -/
theorem width_of_ne (h : ∀ c ∈ x.head?, c ≠ ',') : width x = (none, x) := by
  cases x with
  | nil => rfl
  | cons c x => simp [width, h c rfl]

/-- Without a comma there is no limit. -/
theorem limit_of_ne (h : ∀ c ∈ x.head?, c ≠ ',') : limit x = (none, x) := by
  cases x with
  | nil => rfl
  | cons c x => simp [limit, h c rfl]

/-- The readers take well-formed comma groups up to a character that does not belong to
them. -/
theorem read_commaGroups {groups : CommaGroups} (h : groups.WellFormed)
    (hx : ∀ c ∈ x.head?, c.isDigit = false ∧ c ≠ '-' ∧ c ≠ ',') :
    (width (groups.text ++ x)).1 = groups.width ∧
      limit (width (groups.text ++ x)).2 = (groups.limit, x) := by
  have hcomma : ∀ c ∈ x.head?, c ≠ ',' := fun c hc => (hx c hc).2.2
  have hstop : ∀ c ∈ x.head?, c.isDigit = false ∧ c ≠ '-' := fun c hc =>
    ⟨(hx c hc).1, (hx c hc).2.1⟩
  cases groups with
  | none =>
    rw [CommaGroups.text, List.nil_append, width_of_ne hcomma, limit_of_ne hcomma]
    exact ⟨rfl, rfl⟩
  | first minus digits =>
    rw [CommaGroups.text, List.cons_append, List.append_assoc, width_comma minus h hstop,
      limit_of_ne hcomma]
    exact ⟨rfl, rfl⟩
  | both minus digits digits' =>
    have hbehind : ∀ c ∈ (',' :: (digits' ++ x)).head?, c.isDigit = false ∧ c ≠ '-' := by
      intro c hc
      obtain rfl : ',' = c := by simpa using hc
      decide
    have htext : (CommaGroups.both minus digits digits').text ++ x =
        ',' :: (Numeral.sign minus ++ (digits ++ ',' :: (digits' ++ x))) := by
      simp [CommaGroups.text]
    rw [htext, width_comma minus h.1 hbehind, limit_comma h.2 fun c hc => (hstop c hc).1]
    exact ⟨rfl, rfl⟩

/-- Behind a comma stand a sign and digits, up to what the reader of the width leaves. -/
theorem exists_firstGroup (x : Text) : ∃ minus digits y, digits.all Char.isDigit = true ∧
    x = Numeral.sign minus ++ (digits ++ y) ∧
    width (',' :: x) = (signedValue? 32 minus digits, y) := by
  by_cases hminus : ∃ rest, x = '-' :: rest
  · obtain ⟨rest, rfl⟩ := hminus
    refine ⟨true, leadingDigits rest, afterDigits rest, all_leadingDigits rest, ?_, ?_⟩
    · rw [leadingDigits_append_afterDigits]
      rfl
    · rw [← signedWord?_eq true (all_leadingDigits rest)]
      rfl
  · have hne : ∀ rest, x ≠ '-' :: rest := fun rest h => hminus ⟨rest, h⟩
    refine ⟨false, leadingDigits x, afterDigits x, all_leadingDigits x, ?_, ?_⟩
    · rw [leadingDigits_append_afterDigits]
      rfl
    · rw [← signedWord?_eq false (all_leadingDigits x), width]
      · rfl
      · exact hne

/-- A text that starts with a comma, written out. -/
theorem eq_cons_comma (h : ¬ ∀ c ∈ x.head?, c ≠ ',') : ∃ tail, x = ',' :: tail := by
  cases x with
  | nil => simp at h
  | cons c x => exact ⟨x, by rw [show c = ',' by simpa using h]⟩

/-- Every text starts with comma groups, up to what their readers leave. -/
theorem exists_commaGroups (x : Text) : ∃ groups : CommaGroups, groups.WellFormed ∧
    x = groups.text ++ (limit (width x).2).2 ∧ (width x).1 = groups.width ∧
    (limit (width x).2).1 = groups.limit := by
  by_cases hx : ∀ c ∈ x.head?, c ≠ ','
  · rw [width_of_ne hx, limit_of_ne hx]
    exact ⟨.none, trivial, rfl, rfl, rfl⟩
  obtain ⟨tail, rfl⟩ := eq_cons_comma hx
  obtain ⟨minus, digits, y, hdigits, htail, hwidth⟩ := exists_firstGroup tail
  rw [hwidth, htail]
  by_cases hy : ∀ c ∈ y.head?, c ≠ ','
  · rw [limit_of_ne hy]
    exact ⟨.first minus digits, hdigits, by simp [CommaGroups.text], rfl, rfl⟩
  · obtain ⟨z, rfl⟩ := eq_cons_comma hy
    rw [limit, wordOf?_eq 32 (all_leadingDigits z)]
    exact ⟨.both minus digits (leadingDigits z), ⟨hdigits, all_leadingDigits z⟩,
      by simp [CommaGroups.text, leadingDigits_append_afterDigits], rfl, rfl⟩

/-! ### Reading brace tokens -/

/-- The formats that are read are those that are written, which are not empty. -/
theorem formatOf?_eq_some_iff :
    formatOf? x = some format ↔ x = formatPart format ∧ ∀ text ∈ format, text ≠ [] := by
  constructor
  · intro h
    unfold formatOf? at h
    split at h
    · obtain rfl := Option.some.inj h
      exact ⟨rfl, by simp⟩
    · obtain rfl := Option.some.inj h
      exact ⟨rfl, by simp⟩
    · simp at h
  · rintro ⟨rfl, hne⟩
    cases format with
    | none => rfl
    | some text =>
      obtain ⟨c, text, rfl⟩ := List.exists_cons_of_ne_nil (hne text rfl)
      rfl

/-- What is written for a format starts with a colon. -/
theorem head?_formatPart (format : Option Text) :
    ∀ c ∈ (formatPart format).head?, c = ':' := by
  cases format with
  | none => simp [formatPart]
  | some text => simp [formatPart]

/-- The layout that a text writes. -/
theorem layoutOf?_eq_some_iff {layout : Layout} :
    layoutOf? x = some layout ↔ ∃ (groups : CommaGroups) (format : Option Text),
      groups.WellFormed ∧ (∀ text ∈ format, text ≠ []) ∧
      x = groups.text ++ formatPart format ∧
        layout = ⟨groups.width, groups.limit, format⟩ := by
  constructor
  · intro h
    simp only [layoutOf?, Option.map_eq_some_iff] at h
    obtain ⟨format, hformat, rfl⟩ := h
    obtain ⟨hrest, hne⟩ := formatOf?_eq_some_iff.mp hformat
    obtain ⟨groups, hgroups, hx, hwidth, hlimit⟩ := exists_commaGroups x
    exact ⟨groups, format, hgroups, hne, by rw [← hrest, ← hx], by rw [hwidth, hlimit]⟩
  · rintro ⟨groups, format, hgroups, hne, rfl, rfl⟩
    have hstop : ∀ c ∈ (formatPart format).head?, c.isDigit = false ∧ c ≠ '-' ∧ c ≠ ',' := by
      intro c hc
      obtain rfl := head?_formatPart format c hc
      decide
    obtain ⟨hwidth, hlimit⟩ := read_commaGroups hgroups hstop
    have hformat := formatOf?_eq_some_iff.mpr ⟨rfl, hne⟩
    simp only [layoutOf?, hwidth, hlimit, hformat, Option.map_some]

/-- The characters that can follow on a key or on digits. -/
theorem head?_layoutPart (groups : CommaGroups) (format : Option Text) :
    ∀ c ∈ (groups.text ++ formatPart format).head?, c = ',' ∨ c = ':' := by
  intro c hc
  cases groups with
  | none => exact Or.inr (head?_formatPart format c hc)
  | first => exact Or.inl (by simpa [CommaGroups.text, eq_comm] using hc)
  | both => exact Or.inl (by simpa [CommaGroups.text, eq_comm] using hc)

/-- What is written for a binding is read back in front of a layout. -/
theorem binding?_bindingPart (hindex : ∀ digits ∈ index, digits ≠ [] ∧ digits.all Char.isDigit)
    (hx : ∀ c ∈ x.head?, c = ',' ∨ c = ':') :
    binding? (bindingPart index ++ x) = some (index.bind (wordValue? 64), x) := by
  cases index with
  | none =>
    rw [bindingPart, List.nil_append]
    cases x with
    | nil => rfl
    | cons c x => rcases hx c rfl with rfl | rfl <;> rfl
  | some digits =>
    obtain ⟨hne, hdigits⟩ := hindex digits rfl
    have hread := leadingDigits_append hdigits (x := x) fun c hc => by
      rcases hx c hc with rfl | rfl <;> decide
    rw [bindingPart, List.cons_append, binding?, hread.1, hread.2, if_neg hne,
      wordOf?_eq 64 hdigits]
    rfl

/-- Whatever is read as a binding has been written as one. -/
theorem exists_bindingPart {bound : Option Nat} {tail : Text}
    (h : binding? x = some (bound, tail)) :
    ∃ index : Option Text, (∀ digits ∈ index, digits ≠ [] ∧ digits.all Char.isDigit) ∧
      x = bindingPart index ++ tail ∧ bound = index.bind (wordValue? 64) := by
  unfold binding? at h
  split at h
  · next y =>
    split at h
    · simp at h
    · next hne =>
      simp only [Option.some.injEq, Prod.mk.injEq] at h
      refine ⟨some (leadingDigits y), ?_, ?_, ?_⟩
      · rintro digits ⟨⟩
        exact ⟨hne, all_leadingDigits y⟩
      · rw [← h.2, bindingPart, List.cons_append, leadingDigits_append_afterDigits]
      · rw [← h.1, wordOf?_eq 64 (all_leadingDigits y)]
        rfl
  · simp only [Option.some.injEq, Prod.mk.injEq] at h
    exact ⟨none, by simp, h.2, h.1.symm⟩

/-- The named placeholder that a text between braces writes. -/
theorem inner?_named_iff : inner? .named x = some placeholder ↔
    ∃ (key : Text) (index : Option Text) (groups : CommaGroups) (format : Option Text),
      isKey key ∧ (∀ digits ∈ index, digits ≠ [] ∧ digits.all Char.isDigit) ∧
      groups.WellFormed ∧ (∀ text ∈ format, text ≠ []) ∧
      x = key ++ (bindingPart index ++ (groups.text ++ formatPart format)) ∧
      placeholder = .named key (index.bind (wordValue? 64))
        ⟨groups.width, groups.limit, format⟩ := by
  constructor
  · intro h
    rcases x with _ | ⟨c, x⟩
    · simp [inner?] at h
    rw [inner?] at h
    split at h
    · next hc =>
      simp only [bind, Option.bind_eq_some_iff, Prod.exists, pure, Option.some.injEq] at h
      obtain ⟨bound, tail, hbinding, layout, hlayout, rfl⟩ := h
      obtain ⟨index, hindex, htail, rfl⟩ := exists_bindingPart hbinding
      obtain ⟨groups, format, hgroups, hformat, rfl, rfl⟩ := layoutOf?_eq_some_iff.mp hlayout
      refine ⟨c :: x.takeWhile isKeyChar, index, groups, format, ?_, hindex, hgroups,
        hformat, ?_, rfl⟩
      · rw [isKey, hc, Bool.true_and, List.all_eq_true]
        exact fun _ hmem => List.mem_takeWhile_imp hmem
      · rw [← htail, List.cons_append, List.takeWhile_append_dropWhile]
    · simp at h
  · rintro ⟨key, index, groups, format, hkey, hindex, hgroups, hformat, rfl, rfl⟩
    rcases key with _ | ⟨c, key⟩
    · simp [isKey] at hkey
    obtain ⟨hc, hkey⟩ : c.isAlpha = true ∧ key.all isKeyChar = true := by
      simpa [isKey] using hkey
    have hstop : ∀ d ∈ (bindingPart index ++ (groups.text ++ formatPart format)).head?,
        isKeyChar d = false := by
      intro d hd
      cases index with
      | none => rcases head?_layoutPart groups format d hd with rfl | rfl <;> decide
      | some digits =>
        obtain rfl : '-' = d := by simpa [bindingPart] using hd
        decide
    have hread := run_append hkey hstop
    have hbinding := binding?_bindingPart hindex (head?_layoutPart groups format)
    have hlayout := layoutOf?_eq_some_iff.mpr ⟨groups, format, hgroups, hformat, rfl, rfl⟩
    rw [List.cons_append, inner?, if_pos hc, hread.1, hread.2, hbinding]
    simp only [bind, Option.bind_some, hlayout]
    rfl

/-- The indexed placeholder that a text between braces writes. -/
theorem inner?_indexed_iff : inner? .indexed x = some placeholder ↔
    ∃ (digits : Text) (n : Nat) (groups : CommaGroups) (format : Option Text),
      digits.all Char.isDigit ∧ wordValue? 64 digits = some n ∧ groups.WellFormed ∧
      (∀ text ∈ format, text ≠ []) ∧ x = digits ++ (groups.text ++ formatPart format) ∧
      placeholder = .indexed n ⟨groups.width, groups.limit, format⟩ := by
  constructor
  · intro h
    simp only [inner?, bind, Option.bind_eq_some_iff, pure, Option.some.injEq] at h
    obtain ⟨n, hn, layout, hlayout, rfl⟩ := h
    rw [wordOf?_eq 64 (all_leadingDigits x)] at hn
    obtain ⟨groups, format, hgroups, hformat, hx, rfl⟩ := layoutOf?_eq_some_iff.mp hlayout
    exact ⟨leadingDigits x, n, groups, format, all_leadingDigits x, hn, hgroups, hformat,
      by rw [← hx, leadingDigits_append_afterDigits], rfl⟩
  · rintro ⟨digits, n, groups, format, hdigits, hn, hgroups, hformat, rfl, rfl⟩
    have hread := leadingDigits_append hdigits (x := groups.text ++ formatPart format)
      fun c hc => by rcases head?_layoutPart groups format c hc with rfl | rfl <;> decide
    have hlayout := layoutOf?_eq_some_iff.mpr ⟨groups, format, hgroups, hformat, rfl, rfl⟩
    simp only [inner?, hread, wordOf?_eq 64 hdigits, hn, hlayout, bind, Option.bind_some]
    rfl

/-- What is written for a format has no `}` if the format has none. -/
theorem not_mem_formatPart (h : ∀ text ∈ format, '}' ∉ text) : '}' ∉ formatPart format := by
  cases format with
  | none => simp [formatPart]
  | some text => simpa [formatPart] using h text rfl

/-- No part of a brace token but the format could hold a closing brace. -/
theorem CommaGroups.WellFormed.not_mem {groups : CommaGroups} (h : groups.WellFormed) :
    '}' ∉ groups.text := by
  have hdigit : Char.isDigit '}' = false := by decide
  have hsign : ∀ minus, '}' ∉ Numeral.sign minus := by decide
  cases groups with
  | none => simp [text]
  | first minus digits => simp [text, hsign, not_mem_of_all h hdigit]
  | both minus digits digits' =>
    simp [text, hsign, not_mem_of_all h.1 hdigit, not_mem_of_all h.2 hdigit]

/-- What is written for a binding has no `}`. -/
theorem not_mem_bindingPart (h : ∀ digits ∈ index, digits ≠ [] ∧ digits.all Char.isDigit) :
    '}' ∉ bindingPart index := by
  cases index with
  | none => simp [bindingPart]
  | some digits => simpa [bindingPart] using not_mem_of_all (h digits rfl).2 (by decide)

/-- A key has none of the other characters. -/
theorem not_mem_key {key : Text} (h : isKey key) {c : Char} (hc : isKeyChar c = false) :
    c ∉ key := by
  rcases key with _ | ⟨first, key⟩
  · simp
  · obtain ⟨hfirst, hkey⟩ : first.isAlpha = true ∧ key.all isKeyChar = true := by
      simpa [isKey] using h
    refine not_mem_of_all (p := isKeyChar) ?_ hc
    simp [isKeyChar, Char.isAlphanum, hfirst, hkey]

/-- A reader of brace tokens accepts what is written and nothing else. -/
theorem read?_brace_iff (hfamily : family ≠ .hex) : read? family t = some (placeholder, rest) ↔
    ∃ raw, t = raw ++ rest ∧ placeholder.family = family ∧ Written placeholder raw rest := by
  constructor
  · intro h
    obtain ⟨x, hx, rfl, hinner⟩ := exists_inner?_of_read? hfamily h
    refine ⟨braced x, rfl, family_of_inner? hinner, ?_⟩
    have hformat : ∀ (front : Text) {format : Option Text}, (∀ text ∈ format, text ≠ []) →
        '}' ∉ front ++ formatPart format → ∀ text ∈ format, text ≠ [] ∧ '}' ∉ text := by
      rintro front _ hne hclose text ⟨⟩
      exact ⟨hne text rfl, fun hmem => hclose
        (List.mem_append_right _ (List.mem_cons_of_mem _ hmem))⟩
    cases family with
    | hex => exact absurd rfl hfamily
    | named =>
      obtain ⟨key, index, groups, format, hkey, hindex, hgroups, hne, rfl, rfl⟩ :=
        inner?_named_iff.mp hinner
      refine .named rest hkey hindex hgroups (hformat (key ++ bindingPart index ++ groups.text)
        hne ?_)
      simpa using hx
    | indexed =>
      obtain ⟨digits, n, groups, format, hdigits, hn, hgroups, hne, rfl, rfl⟩ :=
        inner?_indexed_iff.mp hinner
      refine .indexed rest hdigits hn hgroups (hformat (digits ++ groups.text) hne ?_)
      simpa using hx
  · rintro ⟨raw, rfl, hplaceholder, hwritten⟩
    cases hwritten with
    | @named key index groups format _ hkey hindex hgroups hformat =>
      obtain rfl : Family.named = family := hplaceholder
      have hclose : '}' ∉ key ++
          (bindingPart index ++ (groups.text ++ formatPart format)) := by
        simp [not_mem_key hkey (show isKeyChar '}' = false by decide),
          not_mem_bindingPart hindex, hgroups.not_mem,
          not_mem_formatPart fun text htext => (hformat text htext).2]
      rw [read?_braced hfamily hclose, inner?_named_iff.mpr ⟨key, index, groups, format, hkey,
        hindex, hgroups, fun text htext => (hformat text htext).1, rfl, rfl⟩]
      rfl
    | @indexed digits n groups format _ hdigits hn hgroups hformat =>
      obtain rfl : Family.indexed = family := hplaceholder
      have hclose : '}' ∉ digits ++ (groups.text ++ formatPart format) := by
        simp [not_mem_of_all hdigits (show Char.isDigit '}' = false by decide),
          hgroups.not_mem, not_mem_formatPart fun text htext => (hformat text htext).2]
      rw [read?_braced hfamily hclose,
        inner?_indexed_iff.mpr ⟨digits, n, groups, format, hdigits, hn, hgroups,
          fun text htext => (hformat text htext).1, rfl, rfl⟩]
      rfl
    | bracedHex => exact absurd hplaceholder.symm hfamily
    | bareHex => exact absurd hplaceholder.symm hfamily

/-! ### Reading escapes -/

/-- Every encoding has digits in its units. -/
theorem unitDigits_pos (e : Encoding) : 0 < e.unitDigits := by
  cases e <;> decide

/-- All digits at the start of a text stand in its longest run of digits. -/
theorem length_le_of_all_prefix {p : Char → Bool} (h : x <+: t) (hx : x.all p) :
    x.length ≤ (t.takeWhile p).length := by
  obtain ⟨rest, rfl⟩ := h
  rw [List.takeWhile_append_of_pos (List.all_eq_true.mp hx), List.length_append]
  omega

/-- The first characters of a run make up a part of the run. -/
theorem all_take_of_le {p : Char → Bool} {n : Nat} (h : n ≤ (t.takeWhile p).length) :
    (t.take n).all p ∧ (t.take n).length = n := by
  have hle : (t.takeWhile p).length ≤ t.length := (List.takeWhile_prefix _).length_le
  have hrun : t.take n <+: t.takeWhile p :=
    List.prefix_of_prefix_length_le (List.take_prefix _ _) (List.takeWhile_prefix _)
      (by rw [List.length_take]; omega)
  refine ⟨List.all_eq_true.mpr fun _ hmem => List.mem_takeWhile_imp (hrun.subset hmem), ?_⟩
  rw [List.length_take]
  omega

/-- The whole units of digits that a text starts with. -/
theorem units?_eq_some_iff {unit : Nat} (hunit : 0 < unit) {isBraced : Bool} :
    units? unit t = some (digits, isBraced, rest) ↔
      digits ≠ [] ∧ digits.all Hex.isDigit ∧ unit ∣ digits.length ∧
      (isBraced = true ∧ t = braced digits ++ rest ∨
        isBraced = false ∧ t = digits ++ rest ∧
          ∀ more, more <+: rest → more.all Hex.isDigit → more.length < unit) := by
  constructor
  · intro h
    unfold units? at h
    split at h
    · next tail =>
      have htail := List.takeWhile_append_dropWhile (p := Hex.isDigit) (l := tail)
      simp only at h
      split at h
      · next after hdrop =>
        split at h
        · next hdigits =>
          simp only [Option.some.injEq, Prod.mk.injEq] at h
          obtain ⟨rfl, rfl, rfl⟩ := h
          refine ⟨hdigits.1, List.all_eq_true.mpr fun _ hmem => List.mem_takeWhile_imp hmem,
            Nat.dvd_of_mod_eq_zero hdigits.2, Or.inl ⟨rfl, ?_⟩⟩
          rw [braced_append, ← hdrop, htail]
        · simp at h
      · simp at h
    · simp only at h
      split at h
      · simp at h
      · next htaken =>
        simp only [Option.some.injEq, Prod.mk.injEq] at h
        obtain ⟨rfl, rfl, rfl⟩ := h
        have hlt := Nat.mod_lt (t.takeWhile Hex.isDigit).length hunit
        -- The digits that are taken are the first ones of the run.
        obtain ⟨hall, hlength⟩ := all_take_of_le (Nat.sub_le (t.takeWhile Hex.isDigit).length
          ((t.takeWhile Hex.isDigit).length % unit))
        refine ⟨fun hnil => htaken ?_, hall, ?_,
          Or.inr ⟨rfl, (List.take_append_drop _ t).symm, ?_⟩⟩
        · rw [← hlength, hnil, List.length_nil]
        · rw [hlength]
          exact Nat.dvd_sub_mod _
        · intro more hmore hdigits
          have hlong := length_le_of_all_prefix (p := Hex.isDigit)
            ((List.prefix_append_right_inj _).mpr hmore)
            (by rw [List.all_append, hall, hdigits]; rfl)
          rw [List.take_append_drop, List.length_append, hlength] at hlong
          omega
  · rintro ⟨hne, hall, hdvd, ⟨rfl, rfl⟩ | ⟨rfl, rfl, hmax⟩⟩
    · have hclose : ∀ c ∈ ('}' :: rest).head?, Hex.isDigit c = false := by
        rintro c ⟨⟩
        decide
      have hread := run_append hall hclose
      simp only [braced_append, units?, hread]
      rw [if_pos ⟨hne, Nat.mod_eq_zero_of_dvd hdvd⟩]
    · obtain ⟨c, tail, rfl⟩ := List.exists_cons_of_ne_nil hne
      have hc : c ≠ '{' := by
        rintro rfl
        have := List.all_eq_true.mp hall '{' List.mem_cons_self
        exact absurd this (by decide)
      have hshort : (rest.takeWhile Hex.isDigit).length < unit :=
        hmax _ (List.takeWhile_prefix _)
          (List.all_eq_true.mpr fun _ hmem => List.mem_takeWhile_imp hmem)
      have hrun : ((c :: tail ++ rest).takeWhile Hex.isDigit).length =
          (c :: tail).length + (rest.takeWhile Hex.isDigit).length := by
        rw [List.takeWhile_append_of_pos (List.all_eq_true.mp hall), List.length_append]
      have hmod : ((c :: tail).length + (rest.takeWhile Hex.isDigit).length) % unit =
          (rest.takeWhile Hex.isDigit).length := by
        rw [Nat.add_mod, Nat.mod_eq_zero_of_dvd hdvd, Nat.zero_add, Nat.mod_mod,
          Nat.mod_eq_of_lt hshort]
      have hread : units? unit (c :: tail ++ rest) =
          if (c :: tail).length = 0 then none
          else some ((c :: tail ++ rest).take (c :: tail).length, false,
            (c :: tail ++ rest).drop (c :: tail).length) := by
        rw [List.cons_append, units?]
        · simp only [← List.cons_append, hrun, hmod, Nat.add_sub_cancel]
        · exact fun rest' h => hc (List.cons.inj h).1
      rw [hread, List.take_left, List.drop_left]
      simp

/-- The code letter in front of digits. -/
theorem encoding_eq_iff {e : Encoding} {body : Text}
    (hbody : ∀ c ∈ body.head?, c ≠ 'u' ∧ c ≠ 'U') :
    encoding t = (e, body) ↔ t = e.code ++ body := by
  have hplain : ∀ c tail, Encoding.ofCode? c = none →
      encoding (c :: tail) = (.utf8, c :: tail) :=
    fun c tail h => by simp [encoding, h]
  constructor
  · intro h
    cases t with
    | nil =>
      obtain ⟨rfl, rfl⟩ := Prod.mk.inj h
      rfl
    | cons c tail =>
      by_cases hu : c = 'u'
      · subst hu
        obtain ⟨rfl, rfl⟩ := Prod.mk.inj h
        rfl
      · by_cases hU : c = 'U'
        · subst hU
          obtain ⟨rfl, rfl⟩ := Prod.mk.inj h
          rfl
        · rw [hplain c tail (by simp [Encoding.ofCode?])] at h
          obtain ⟨rfl, rfl⟩ := Prod.mk.inj h
          rfl
  · rintro rfl
    cases e with
    | utf16le => rfl
    | utf16be => rfl
    | utf8 =>
      cases body with
      | nil => rfl
      | cons c tail =>
        obtain ⟨hu, hU⟩ := hbody c rfl
        exact hplain c tail (by simp [Encoding.ofCode?])

/-- The reader of escapes accepts what is written and nothing else. -/
theorem read?_hex_iff : read? .hex t = some (placeholder, rest) ↔
    ∃ raw, t = raw ++ rest ∧ placeholder.family = .hex ∧ Written placeholder raw rest := by
  constructor
  · intro h
    simp only [read?, hex?] at h
    split at h
    · next tail =>
      simp only [Option.map_eq_some_iff, Prod.exists, Prod.mk.injEq] at h
      obtain ⟨digits, isBraced, after, hunits, rfl, rfl⟩ := h
      obtain ⟨hne, hall, hdvd, hform⟩ := (units?_eq_some_iff (unitDigits_pos _)).mp hunits
      have hbody : ∀ c ∈ (encoding tail).2.head?, c ≠ 'u' ∧ c ≠ 'U' := by
        intro c hc
        rcases hform with ⟨-, hbody⟩ | ⟨-, hbody, -⟩
        · obtain rfl : '{' = c := by simpa [hbody, braced] using hc
          decide
        · obtain ⟨d, digits, rfl⟩ := List.exists_cons_of_ne_nil hne
          obtain rfl : d = c := by simpa [hbody] using hc
          have hd := List.all_eq_true.mp hall d List.mem_cons_self
          constructor <;> rintro rfl <;> exact absurd hd (by decide)
      have htail : tail = (encoding tail).1.code ++ (encoding tail).2 :=
        (encoding_eq_iff hbody).mp rfl
      rcases hform with ⟨rfl, hform⟩ | ⟨rfl, hform, hmax⟩
      · refine ⟨_, ?_, rfl, .bracedHex after hne hall hdvd⟩
        rw [List.cons_append, List.append_assoc, ← hform, ← htail]
      · refine ⟨_, ?_, rfl, .bareHex hne hall hdvd hmax⟩
        rw [List.cons_append, List.append_assoc, ← hform, ← htail]
    · simp at h
  · rintro ⟨raw, rfl, hplaceholder, hwritten⟩
    cases hwritten with
    | named => simp [Placeholder.family] at hplaceholder
    | indexed => simp [Placeholder.family] at hplaceholder
    | @bracedHex e digits _ hne hall hdvd =>
      have hencoding : encoding (e.code ++ (braced digits ++ rest)) =
          (e, braced digits ++ rest) :=
        (encoding_eq_iff (by simp [braced])).mpr rfl
      have hunits : units? e.unitDigits (braced digits ++ rest) = some (digits, true, rest) :=
        (units?_eq_some_iff (unitDigits_pos e)).mpr ⟨hne, hall, hdvd, Or.inl ⟨rfl, rfl⟩⟩
      simp only [List.cons_append, List.append_assoc, read?, hex?, hencoding, hunits,
        Option.map_some]
    | @bareHex e digits _ hne hall hdvd hmax =>
      have hhead : ∀ c ∈ (digits ++ rest).head?, c ≠ 'u' ∧ c ≠ 'U' := by
        obtain ⟨d, digits, rfl⟩ := List.exists_cons_of_ne_nil hne
        intro c hc
        obtain rfl : d = c := by simpa using hc
        have hd := List.all_eq_true.mp hall d List.mem_cons_self
        constructor <;> rintro rfl <;> exact absurd hd (by decide)
      have hencoding : encoding (e.code ++ (digits ++ rest)) = (e, digits ++ rest) :=
        (encoding_eq_iff hhead).mpr rfl
      have hunits : units? e.unitDigits (digits ++ rest) = some (digits, false, rest) :=
        (units?_eq_some_iff (unitDigits_pos e)).mpr ⟨hne, hall, hdvd, Or.inr ⟨rfl, rfl, hmax⟩⟩
      simp only [List.cons_append, List.append_assoc, read?, hex?, hencoding, hunits,
        Option.map_some]

/-! ### All families -/

/-- **The readers accept exactly the grammar.** A reader succeeds on a text if and only if the
text starts with a written placeholder of the family; it yields that placeholder and what
follows. -/
theorem read?_eq_some_iff : read? family t = some (placeholder, rest) ↔
    ∃ raw, t = raw ++ rest ∧ placeholder.family = family ∧ Written placeholder raw rest := by
  by_cases hfamily : family = .hex
  · subst hfamily
    exact read?_hex_iff
  · exact read?_brace_iff hfamily

/-- A text starts with one written placeholder of a family at most. -/
theorem Written.unique {placeholder' : Placeholder} {raw' rest' : Text}
    (h : Written placeholder raw rest) (h' : Written placeholder' raw' rest')
    (hfamily : placeholder.family = placeholder'.family) (heq : raw ++ rest = raw' ++ rest') :
    placeholder = placeholder' ∧ raw = raw' ∧ rest = rest' := by
  have hread := read?_eq_some_iff.mpr ⟨raw, rfl, rfl, h⟩
  have hread' := read?_eq_some_iff.mpr ⟨raw', rfl, rfl, h'⟩
  rw [heq, hfamily, hread'] at hread
  obtain ⟨rfl, rfl⟩ := Prod.mk.inj (Option.some.inj hread)
  exact ⟨rfl, List.append_cancel_right heq, rfl⟩

end Stencil.Placeholder
