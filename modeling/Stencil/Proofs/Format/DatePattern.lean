import Stencil.Proofs.Format.DateTime

/-!
# Well-formed date patterns

Whether a pattern can be written is decided while it is read, before any date-time is looked
at. It is read from left to right, and what is taken off its front is a quoted text, an escaped
character, a percent sign, a run of a field's letter that goes as far as it can, or a single
other character. This goes on up to the end, or up to a place where nothing can be taken off: a
quote that is not closed, a backslash with nothing behind it, or a run of `f` or `F` that is
too long. So a pattern is malformed if and only if reading it comes to such a place.

A pattern that is read to its end is read in the same way in front of anything that does not
start with a field's letter, and a shortened fraction looks back only. So literal text between
two patterns keeps them apart.

## Main definitions

* `Stencil.DatePart.Reads`: the parts that are taken off a pattern, and what is left.
* `Stencil.DatePart.Fault`: the places where nothing can be taken off.
* `Stencil.MalformedDateFormat`: the format texts that no date-time is written by.
* `Stencil.DatePart.renderPattern?`: the text of a pattern.

## Main results

* `DatePart.exists_reads`: reading comes to the end of a pattern or to a fault.
* `DatePart.ofPattern?_eq_some_iff`, `DatePart.ofPattern?_eq_none_iff`: patterns with and
  without parts.
* `formatDateTime_eq_error_iff`: the format texts that fail.
* `DatePart.renderPattern?_append_escaped`: literal text between two patterns.
-/

namespace Stencil

/-! ### Fields -/

namespace DateField

variable {c : Char} {f : DateField}

/-- Only the letters of the fractions have a longest run. -/
theorem allows_iff (h : ofLetter? c = some f) (run : ℕ) :
    f.allows run = true ↔ (c ∈ ['f', 'F'] → run ≤ 7) := by
  unfold ofLetter? at h
  split at h
  all_goals cases h
  all_goals simp [allows, longestRun?]

/-- Only `F` stands for a fraction without zeros at its end. -/
theorem eq_of_ofLetter?_shortFraction (h : ofLetter? c = some .shortFraction) : c = 'F' := by
  unfold ofLetter? at h
  split at h
  all_goals first | rfl | cases h

/-- No letter of a field marks a literal or is a percent sign. -/
theorem not_mem_of_ofLetter? (h : ofLetter? c = some f) : c ∉ ['\'', '"', '\\', '%'] := by
  unfold ofLetter? at h
  split at h
  all_goals first | decide | cases h

end DateField

namespace DatePart

/-! ### Reading a pattern -/

/-- **Reading a pattern** from left to right takes parts off its front until a rest is left. -/
inductive Reads : (pattern : Text) → (parts : List DatePart) → (rest : Text) → Prop where
  /-- The rest may be all of it. -/
  | refl (pattern : Text) : Reads pattern [] pattern
  /-- Text between two quotes of a kind is literal. -/
  | quoted {quote : Char} {body pattern rest : Text} {parts : List DatePart}
      (hquote : quote ∈ ['\'', '"']) (hbody : quote ∉ body) (tail : Reads pattern parts rest) :
      Reads (quote :: body ++ quote :: pattern) (literal body :: parts) rest
  /-- So is a character behind a backslash. -/
  | escaped {c : Char} {pattern rest : Text} {parts : List DatePart}
      (tail : Reads pattern parts rest) :
      Reads ('\\' :: c :: pattern) (literal [c] :: parts) rest
  /-- A percent sign stands for nothing. -/
  | percent {pattern rest : Text} {parts : List DatePart} (tail : Reads pattern parts rest) :
      Reads ('%' :: pattern) parts rest
  /-- A field is as long a run of its letter as there is; runs of `f` and of `F` have a
  limit. -/
  | field {c : Char} {f : DateField} {run : ℕ} {pattern rest : Text} {parts : List DatePart}
      (hletter : DateField.ofLetter? c = some f) (hmaximal : pattern.head? ≠ some c)
      (hlimit : c ∈ ['f', 'F'] → run + 1 ≤ 7) (tail : Reads pattern parts rest) :
      Reads (List.replicate (run + 1) c ++ pattern) (field f (run + 1) :: parts) rest
  /-- Every other character is literal. -/
  | plain {c : Char} {pattern rest : Text} {parts : List DatePart}
      (hmark : c ∉ ['\'', '"', '\\', '%']) (hletter : DateField.ofLetter? c = none)
      (tail : Reads pattern parts rest) : Reads (c :: pattern) (literal [c] :: parts) rest

/-- Nothing can be taken off the front of a text with a **fault**. -/
inductive Fault : Text → Prop where
  /-- A quote has no later matching quote. -/
  | openQuote {quote : Char} {body : Text} (hquote : quote ∈ ['\'', '"'])
      (hbody : quote ∉ body) : Fault (quote :: body)
  /-- A backslash is the last character. -/
  | openEscape : Fault ['\\']
  /-- A run of `f` or of `F` is longer than seven. -/
  | longRun {c : Char} {run : ℕ} {rest : Text} (hletter : c ∈ ['f', 'F'])
      (hmaximal : rest.head? ≠ some c) (hrun : 7 < run) : Fault (List.replicate run c ++ rest)

/-- A pattern is **malformed** if reading it comes to a fault. -/
def Malformed (pattern : Text) : Prop := ∃ parts rest, Reads pattern parts rest ∧ Fault rest

variable {pattern rest more : Text} {parts parts' : List DatePart} {c quote : Char}
  {body : Text} {f : DateField} {run : ℕ} {d : DateTime} {utc : Bool}

/-! ### One part -/

/-- A quoted body is one literal part. -/
theorem ofPattern?_quoted (hquote : quote ∈ ['\'', '"']) (hbody : quote ∉ body)
    (pattern : Text) :
    ofPattern? (quote :: body ++ quote :: pattern) =
      (ofPattern? pattern).map (literal body :: ·) := by
  rw [List.cons_append, ofPattern?.eq_def]
  dsimp only
  rw [if_pos (List.mem_pair.mp hquote)]
  split
  · next hcut => simp [Text.cutAt_append hbody] at hcut
  · next text after hcut =>
    rw [Text.cutAt_append hbody, Option.some.injEq, Prod.mk.injEq] at hcut
    rw [hcut.1, hcut.2]

/-- An escaped character is a literal part. -/
theorem ofPattern?_escaped (c : Char) (pattern : Text) :
    ofPattern? ('\\' :: c :: pattern) = (ofPattern? pattern).map (literal [c] :: ·) := by
  rw [ofPattern?, if_neg (by decide), if_pos rfl]

/-- A percent sign is no part. -/
theorem ofPattern?_percent (pattern : Text) :
    ofPattern? ('%' :: pattern) = ofPattern? pattern := by
  rw [ofPattern?.eq_def]
  dsimp only
  rw [if_neg (by decide), if_neg (by decide), if_pos rfl]

/-- A run of one letter as long as possible is one field, if the field allows its length. -/
theorem ofPattern?_field (hletter : DateField.ofLetter? c = some f)
    (hmaximal : pattern.head? ≠ some c) (run : ℕ) :
    ofPattern? (List.replicate (run + 1) c ++ pattern) =
      if f.allows (run + 1) then (ofPattern? pattern).map (field f (run + 1) :: ·)
      else none := by
  have hmark := DateField.not_mem_of_ofLetter? hletter
  simp only [List.mem_cons, List.not_mem_nil, or_false, not_or] at hmark
  have hall : (List.replicate run c).all (· == c) = true := by simp
  have hstop : ∀ c' ∈ pattern.head?, (c' == c) = false := by
    intro c' hc'
    exact beq_eq_false_iff_ne.mpr fun heq => hmaximal (heq ▸ hc')
  obtain ⟨htake, hdrop⟩ := Text.run_append hall hstop
  rw [List.replicate_succ, List.cons_append, ofPattern?.eq_def]
  dsimp only
  rw [if_neg (not_or.mpr ⟨hmark.1, hmark.2.1⟩), if_neg hmark.2.2.1, if_neg hmark.2.2.2,
    hletter]
  simp only [htake, hdrop, List.length_replicate]

/-- Any other character is a literal part. -/
theorem ofPattern?_plain (hmark : c ∉ ['\'', '"', '\\', '%'])
    (hletter : DateField.ofLetter? c = none) (pattern : Text) :
    ofPattern? (c :: pattern) = (ofPattern? pattern).map (literal [c] :: ·) := by
  simp only [List.mem_cons, List.not_mem_nil, or_false, not_or] at hmark
  rw [ofPattern?.eq_def]
  dsimp only
  rw [if_neg (not_or.mpr ⟨hmark.1, hmark.2.1⟩), if_neg hmark.2.2.1, if_neg hmark.2.2.2,
    hletter]

/-! ### All parts -/

/-- **The parts that are read** are the first ones of the pattern. -/
theorem Reads.ofPattern?_eq (h : Reads pattern parts rest) :
    ofPattern? pattern = (ofPattern? rest).map (parts ++ ·) := by
  induction h with
  | refl => exact Option.map_id'.symm
  | quoted hquote hbody _ ih => rw [ofPattern?_quoted hquote hbody, ih, Option.map_map]; rfl
  | escaped _ ih => rw [ofPattern?_escaped, ih, Option.map_map]; rfl
  | percent _ ih => rw [ofPattern?_percent, ih]
  | field hletter hmaximal hlimit _ ih =>
    rw [ofPattern?_field hletter hmaximal,
      if_pos ((DateField.allows_iff hletter _).mpr hlimit), ih, Option.map_map]
    rfl
  | plain hmark hletter _ ih => rw [ofPattern?_plain hmark hletter, ih, Option.map_map]; rfl

/-- A text with a fault has no parts. -/
theorem Fault.ofPattern?_eq_none (h : Fault rest) : ofPattern? rest = none := by
  cases h with
  | @openQuote quote body hquote hbody =>
    rw [ofPattern?.eq_def]
    dsimp only
    rw [if_pos (List.mem_pair.mp hquote)]
    split
    · rfl
    · next hcut => simp [Text.cutAt_eq_none_iff.mpr hbody] at hcut
  | openEscape => rw [ofPattern?, if_neg (by decide), if_pos rfl]
  | @longRun c run rest hletter hmaximal hrun =>
    obtain ⟨f, hf⟩ : ∃ f, DateField.ofLetter? c = some f := by
      rcases List.mem_pair.mp hletter with rfl | rfl <;> exact ⟨_, rfl⟩
    obtain ⟨run, rfl⟩ := Nat.exists_eq_add_of_lt (Nat.zero_lt_of_lt hrun)
    rw [Nat.zero_add, ofPattern?_field hf hmaximal, if_neg]
    rw [DateField.allows_iff hf]
    exact fun hallowed => absurd (hallowed hletter) (by omega)

/-- A run of a character, as far as it goes. -/
theorem exists_run (c : Char) (t : Text) :
    t = List.replicate (t.takeWhile (· == c)).length c ++ t.dropWhile (· == c) ∧
      (t.dropWhile (· == c)).head? ≠ some c := by
  have hrun : t.takeWhile (· == c) = List.replicate (t.takeWhile (· == c)).length c :=
    List.eq_replicate_of_mem fun c' hmem => by simpa using List.mem_takeWhile_imp hmem
  refine ⟨?_, fun hhead => ?_⟩
  · rw [← hrun, List.takeWhile_append_dropWhile]
  · have hstop := List.head?_dropWhile_not (· == c) t
    rw [hhead] at hstop
    simp at hstop

/-- **Reading comes to the end of a pattern or to a fault.** -/
theorem exists_reads (pattern : Text) :
    ∃ parts rest, Reads pattern parts rest ∧ (rest = [] ∨ Fault rest) := by
  induction pattern using ofPattern?.induct with
  | case1 => exact ⟨[], [], .refl [], .inl rfl⟩
  | case2 quote body hquote hcut =>
    exact ⟨[], _, .refl _,
      .inr (.openQuote (List.mem_pair.mpr hquote) (Text.cutAt_eq_none_iff.mp hcut))⟩
  | case3 quote rest hquote body after hcut ih =>
    obtain ⟨parts, stop, hreads, hstop⟩ := ih
    obtain ⟨rfl, hbody⟩ := Text.cutAt_eq_some hcut
    exact ⟨_, stop, .quoted (List.mem_pair.mpr hquote) hbody hreads, hstop⟩
  | case4 => exact ⟨[], _, .refl _, .inr .openEscape⟩
  | case5 c after _ ih =>
    obtain ⟨parts, stop, hreads, hstop⟩ := ih
    exact ⟨_, stop, .escaped hreads, hstop⟩
  | case6 after _ _ ih =>
    obtain ⟨parts, stop, hreads, hstop⟩ := ih
    exact ⟨_, stop, .percent hreads, hstop⟩
  | case7 c after hquote hescape hpercent hletter ih =>
    obtain ⟨parts, stop, hreads, hstop⟩ := ih
    have hmark : c ∉ ['\'', '"', '\\', '%'] := by
      simpa [not_or, and_assoc] using (⟨hquote, hescape, hpercent⟩ : _ ∧ _ ∧ _)
    exact ⟨_, stop, .plain hmark hletter hreads, hstop⟩
  | case8 c after _ _ _ f hletter run hallows ih =>
    obtain ⟨parts, stop, hreads, hstop⟩ := ih
    obtain ⟨hafter, hmaximal⟩ := exists_run c after
    have hfield :=
      Reads.field hletter hmaximal ((DateField.allows_iff hletter run).mp hallows) hreads
    rw [List.replicate_succ, List.cons_append, ← hafter] at hfield
    exact ⟨_, stop, hfield, hstop⟩
  | case9 c after _ _ _ f hletter run hallows =>
    obtain ⟨hafter, hmaximal⟩ := exists_run c after
    rw [DateField.allows_iff hletter, Classical.not_imp, not_le] at hallows
    have hfault := Fault.longRun hallows.1 hmaximal hallows.2
    rw [List.replicate_succ, List.cons_append, ← hafter] at hfault
    exact ⟨[], _, .refl _, .inr hfault⟩

/-- **The parts of a pattern** are those that are read up to its end. -/
theorem ofPattern?_eq_some_iff : ofPattern? pattern = some parts ↔ Reads pattern parts [] := by
  have hnil : ofPattern? [] = some [] := by rw [ofPattern?]
  constructor
  · intro h
    obtain ⟨read, rest, hreads, rfl | hfault⟩ := exists_reads pattern
    · have hread := hreads.ofPattern?_eq
      rw [hnil, Option.map_some, List.append_nil, h] at hread
      exact Option.some.inj hread ▸ hreads
    · rw [hreads.ofPattern?_eq, hfault.ofPattern?_eq_none] at h
      cases h
  · intro h
    rw [h.ofPattern?_eq, hnil, Option.map_some, List.append_nil]

/-- **A pattern has no parts** if and only if it is malformed. -/
theorem ofPattern?_eq_none_iff : ofPattern? pattern = none ↔ Malformed pattern := by
  constructor
  · intro h
    obtain ⟨parts, rest, hreads, rfl | hfault⟩ := exists_reads pattern
    · rw [ofPattern?_eq_some_iff.mpr hreads] at h
      cases h
    · exact ⟨parts, rest, hreads, hfault⟩
  · rintro ⟨parts, rest, hreads, hfault⟩
    rw [hreads.ofPattern?_eq, hfault.ofPattern?_eq_none]
    rfl

/-! ### Patterns behind each other -/

/-- Reading goes on where it stopped. -/
theorem Reads.trans (h : Reads pattern parts rest) (h' : Reads rest parts' more) :
    Reads pattern (parts ++ parts') more := by
  induction h with
  | refl => exact h'
  | quoted hquote hbody _ ih => exact .quoted hquote hbody (ih h')
  | escaped _ ih => exact .escaped (ih h')
  | percent _ ih => exact .percent (ih h')
  | field hletter hmaximal hlimit _ ih => exact .field hletter hmaximal hlimit (ih h')
  | plain hmark hletter _ ih => exact .plain hmark hletter (ih h')

/-- **A text that starts with no field's letter** does not change what is read in front of
it. -/
theorem Reads.append (h : Reads pattern parts rest)
    (hmore : ∀ c ∈ more.head?, DateField.ofLetter? c = none) :
    Reads (pattern ++ more) parts (rest ++ more) := by
  induction h with
  | refl => exact .refl _
  | quoted hquote hbody _ ih =>
    rw [List.append_assoc, List.cons_append]
    exact Reads.quoted hquote hbody ih
  | escaped _ ih => exact .escaped ih
  | percent _ ih => exact .percent ih
  | @field c f run pattern rest parts hletter hmaximal hlimit _ ih =>
    have hmaximal' : (pattern ++ more).head? ≠ some c := by
      intro hhead
      rw [List.head?_append, Option.or_eq_some_iff] at hhead
      rcases hhead with hhead | ⟨-, hhead⟩
      · exact hmaximal hhead
      · rw [hmore c hhead] at hletter
        cases hletter
    rw [List.append_assoc]
    exact .field hletter hmaximal' hlimit ih
  | plain hmark hletter _ ih => exact .plain hmark hletter ih

/-- A text with a backslash before each character. -/
def escapeAll (t : Text) : Text := t.flatMap fun c => ['\\', c]

/-- It is literal, character by character. -/
theorem reads_escapeAll (t pattern : Text) :
    Reads (escapeAll t ++ pattern) (t.map fun c => literal [c]) pattern := by
  induction t with
  | nil => exact .refl pattern
  | cons c t ih => exact .escaped ih

/-- The runs that are read are those that a pattern may hold. -/
theorem Reads.allows (h : Reads pattern parts rest) :
    ∀ f run, DatePart.field f run ∈ parts → f.allows run = true := by
  induction h with
  | refl => exact fun f run hmem => absurd hmem List.not_mem_nil
  | quoted _ _ _ ih => simpa using ih
  | escaped _ ih => simpa using ih
  | percent _ ih => exact ih
  | field hletter _ hlimit _ ih =>
    intro f run hmem
    rcases List.mem_cons.mp hmem with heq | hmem
    · obtain ⟨rfl, rfl⟩ := DatePart.field.inj heq
      exact (DateField.allows_iff hletter _).mpr hlimit
    · exact ih f run hmem
  | plain _ _ _ ih => simpa using ih

/-- Only the letter `F` asks for a shortened fraction. -/
theorem Reads.not_mem_shortFraction (h : Reads pattern parts rest) (hF : 'F' ∉ pattern)
    (run : ℕ) : DatePart.field .shortFraction run ∉ parts := by
  induction h with
  | refl => exact List.not_mem_nil
  | quoted _ _ _ ih => simp_all
  | escaped _ ih => simp_all
  | percent _ ih => simp_all
  | @field c f count pattern rest parts hletter _ _ _ ih =>
    have hfield : f ≠ .shortFraction := by
      rintro rfl
      exact hF (by simp [DateField.eq_of_ofLetter?_shortFraction hletter])
    have hrest : 'F' ∉ pattern := fun hmem => hF (List.mem_append_right _ hmem)
    simp [hfield.symm, ih hrest]
  | plain _ _ _ ih => simp_all

/-! ### The text of a pattern -/

/-- **The text of a pattern**, if the pattern is well-formed. -/
def renderPattern? (d : DateTime) (utc : Bool) (pattern : Text) : Option Text :=
  (ofPattern? pattern).map (render d utc)

/-- Literal characters are written as they are. -/
theorem flatMap_literal (t : Text) :
    (t.map fun c => literal [c]).flatMap (text d utc) = t := by
  induction t with
  | nil => rfl
  | cons c t ih => rw [List.map_cons, List.flatMap_cons, ih]; rfl

/-- **Literal text between two patterns** keeps them apart: all three are written as they would
be alone, unless the second one may delete a point that is written before it. -/
theorem renderPattern?_append_escaped {p q t text text' : Text} (ht : t ≠ []) (hq : 'F' ∉ q)
    (hp : renderPattern? d utc p = some text) (hq' : renderPattern? d utc q = some text') :
    renderPattern? d utc (p ++ escapeAll t ++ q) = some (text ++ t ++ text') := by
  obtain ⟨parts, hparts, rfl⟩ := Option.map_eq_some_iff.mp hp
  obtain ⟨parts', hparts', rfl⟩ := Option.map_eq_some_iff.mp hq'
  rw [ofPattern?_eq_some_iff] at hparts hparts'
  have hhead : ∀ c ∈ (escapeAll t ++ q).head?, DateField.ofLetter? c = none := by
    obtain ⟨c, t, rfl⟩ := List.exists_cons_of_ne_nil ht
    rintro _ ⟨⟩
    rfl
  have hall : Reads (p ++ (escapeAll t ++ q))
      (parts ++ ((t.map fun c => literal [c]) ++ parts')) [] :=
    (hparts.append hhead).trans ((reads_escapeAll t q).trans hparts')
  have hshort : ∀ run, field .shortFraction run ∉ (t.map fun c => literal [c]) ++ parts' := by
    intro run
    simpa using hparts'.not_mem_shortFraction hq run
  rw [List.append_assoc, renderPattern?, ofPattern?_eq_some_iff.mpr hall,
    Option.map_some, render, List.foldl_append, foldl_append hshort, List.flatMap_append,
    flatMap_literal, render_eq_flatMap fun run => hparts'.not_mem_shortFraction hq run,
    List.append_assoc]
  rfl

end DatePart

/-! ### Format texts -/

variable {d : DateTime} {utc : Bool} {spec : Text} {letter : Char} {e : ExpandError}

/-- A format text for date-times is **malformed** if it is a letter without a standard pattern,
or a longer text that is a malformed pattern. -/
def MalformedDateFormat : Text → Prop
  | [] => False
  | [letter] => letter ∉ "dDfFgGMmoORrstTuYy".toList
  | pattern => DatePart.Malformed pattern

/-- The letters of the standard formats, and no others. -/
theorem standardDatePattern?_eq_none_iff :
    standardDatePattern? letter = none ↔ letter ∉ "dDfFgGMmoORrstTuYy".toList := by
  unfold standardDatePattern?
  split
  all_goals simp_all

/-- Standard patterns are well-formed. -/
theorem isSome_ofPattern?_standard {pattern : Text} {inUtc : Bool}
    (h : standardDatePattern? letter = some (pattern, inUtc)) :
    (DatePart.ofPattern? pattern).isSome = true := by
  unfold standardDatePattern? at h
  split at h
  all_goals cases h
  all_goals decide +kernel

/-- A text of two characters or more stands for itself. -/
theorem renderDateTime?_of_length (h : 2 ≤ spec.length) :
    renderDateTime? d utc spec = DatePart.renderPattern? d utc spec := by
  obtain ⟨c, c', rest, rfl⟩ : ∃ c c' rest, spec = c :: c' :: rest := by
    match spec, h with
    | c :: c' :: rest, _ => exact ⟨c, c', rest, rfl⟩
  simp only [renderDateTime?, datePattern?, DatePart.renderPattern?, Option.bind_eq_bind,
    Option.bind_some, Option.pure_def, Bool.false_eq_true, if_false, Option.map_eq_bind,
    Function.comp_def]

/-- A format text is malformed if it stands for no pattern, or for one without parts. -/
theorem bind_datePattern?_eq_none_iff :
    ((datePattern? spec).bind fun standard => DatePart.ofPattern? standard.1) = none ↔
      MalformedDateFormat spec := by
  match spec with
  | [] =>
    have hdefault := ofPattern?_defaultDatePattern
    simp [datePattern?, hdefault, MalformedDateFormat]
  | [letter] =>
    rw [MalformedDateFormat, ← standardDatePattern?_eq_none_iff, datePattern?]
    cases hpattern : standardDatePattern? letter with
    | none => simp
    | some standard =>
      obtain ⟨parts, hparts⟩ :=
        Option.isSome_iff_exists.mp (isSome_ofPattern?_standard hpattern)
      simp [hparts]
  | c :: c' :: rest => exact DatePart.ofPattern?_eq_none_iff

instance : Decidable (MalformedDateFormat spec) :=
  decidable_of_iff _ bind_datePattern?_eq_none_iff

/-- Rendering fails exactly on malformed formats, whatever the date-time. -/
theorem renderDateTime?_eq_none_iff :
    renderDateTime? d utc spec = none ↔ MalformedDateFormat spec := by
  rw [← bind_datePattern?_eq_none_iff, renderDateTime?]
  cases datePattern? spec with
  | none => exact iff_of_true rfl rfl
  | some standard => cases hparts : DatePart.ofPattern? standard.1 <;> simp [hparts]

/-- **The format texts that fail** are the malformed ones, whatever the date-time. -/
theorem formatDateTime_eq_error_iff :
    formatDateTime d utc spec = .error e ↔
      e = .invalidFormat spec .dateTime ∧ MalformedDateFormat spec := by
  rw [← @renderDateTime?_eq_none_iff d utc, formatDateTime]
  cases renderDateTime? d utc spec with
  | none => simp [eq_comm]
  | some text => simp

/-- **Whether a date-time can be written** is decided by the format text alone: it fails if it
is a letter without a standard pattern, or longer and a malformed pattern. Literal text between
two patterns, each character behind a backslash, is written as it is and changes neither of
them, unless the second one asks for a shortened fraction. -/
theorem formatDateTime_fails_iff_malformed :
    (∀ d utc spec, (∃ e, formatDateTime d utc spec = .error e) ↔ MalformedDateFormat spec) ∧
    (∀ d utc spec, 2 ≤ spec.length → formatDateTime d utc spec =
      (DatePart.renderPattern? d utc spec).elim (.error (.invalidFormat spec .dateTime)) .ok) ∧
    ∀ d utc p q t text text', t ≠ [] → 'F' ∉ q →
      DatePart.renderPattern? d utc p = some text →
      DatePart.renderPattern? d utc q = some text' →
      DatePart.renderPattern? d utc (p ++ DatePart.escapeAll t ++ q) =
        some (text ++ t ++ text') := by
  refine ⟨fun d utc spec => ?_, fun d utc spec hlength => ?_, ?_⟩
  · constructor
    · rintro ⟨e, he⟩
      exact (formatDateTime_eq_error_iff.mp he).2
    · intro hmalformed
      exact ⟨_, formatDateTime_eq_error_iff.mpr ⟨rfl, hmalformed⟩⟩
  · rw [formatDateTime, renderDateTime?_of_length hlength]
    cases DatePart.renderPattern? d utc spec <;> rfl
  · intro d utc p q t text text' ht hq hp hq'
    exact DatePart.renderPattern?_append_escaped ht hq hp hq'

/-- Quotes, a backslash and letters between a shortened fraction and a clock. -/
theorem formatDateTime_fails_iff_malformed_quotes :
    let d : DateTime :=
      ⟨⟨2024, 3, 5, by decide, by decide⟩, 47229, 120000000, .utc, by decide, by decide⟩
    2 ≤ "ss.FFF".toList.length ∧ formatDateTime d true "ss.FFF".toList = .ok "09.12".toList ∧
      "F'\\f".toList ≠ [] ∧ 'F' ∉ "f'h'K".toList ∧
      DatePart.renderPattern? d true "ss.FFF".toList = some "09.12".toList ∧
      DatePart.renderPattern? d true "f'h'K".toList = some "1hZ".toList ∧
      DatePart.renderPattern? d true "ss.FFF\\F\\'\\\\\\ff'h'K".toList =
        some "09.12F'\\f1hZ".toList := by
  intro d
  have hfront : DatePart.renderPattern? d true "ss.FFF".toList = some "09.12".toList := by
    decide +kernel
  have hback : DatePart.renderPattern? d true "f'h'K".toList = some "1hZ".toList := by
    decide +kernel
  have hlong := formatDateTime_fails_iff_malformed.2.1 d true "ss.FFF".toList (by decide)
  rw [hfront] at hlong
  exact ⟨by decide, hlong, by decide, by decide, hfront, hback,
    formatDateTime_fails_iff_malformed.2.2 d true _ _ "F'\\f".toList _ _ (by decide)
      (by decide) hfront hback⟩

end Stencil
