import Mathlib
import Stencil.CommandLine.Command
import Stencil.Proofs.Expansion.Escape
import Stencil.Proofs.Placeholder.Forms
import Stencil.Proofs.Text.Bytes

/-!
# Assignments from the command line

An assignment is a key with blanks around it, an equals sign and the text of a value. Neither
blanks nor keys hold an equals sign, so the sign is the first one and a text is an assignment
in one way at most. Assignments are read in order up to the first text that is none, which is
the error. If there is no such text, each of them is bound in place of what its key was bound
to before. So after every assignment a key is bound to the value of the last one with that key,
and this carries over from one text to the next.

## Main definitions

* `Stencil.Assignment.Assigns`: a text assigns a value to a key.
* `Stencil.Assignment.Holds`: the last assignment to a key among some texts.

## Main results

* `assigns_iff`, `Assigns.unique`: where the parts of an assignment end.
* `holds_concat_iff`: how one more text changes what keys hold.
* `exists_ofTexts`, `ofTexts_eq_error_iff`: reading a sequence of texts.
* `ofTexts_bind_last`: the bindings of a sequence of texts, or its error.
-/

namespace Stencil

open Text Placeholder

variable {t key value left right : Text} {ts : List Text} {c : Char}

/-! ### Trimming -/

/-- No character of keys is blank. -/
theorem isBlank_of_isKeyChar (h : isKeyChar c = true) : isBlank c = false := by
  have hall : ∀ n < 0x80, isKeyChar (Char.ofNat n) = true →
      isBlank (Char.ofNat n) = false := by
    decide
  have hchar := hall c.toNat (isAscii_isKeyChar c h)
  rw [Char.ofNat_toNat] at hchar
  exact hchar h

/-- So no character of a key is. -/
theorem isBlank_of_mem_key (h : isKey key = true) (hc : c ∈ key) : isBlank c = false := by
  refine isBlank_of_isKeyChar (by_contra fun hchar => ?_)
  exact not_mem_key h (Bool.eq_false_of_not_eq_true hchar) hc

namespace Text

/-- Trimming takes blanks away at both ends. -/
theorem exists_trim_append (t : Text) :
    ∃ left right, t = left ++ (t.trim ++ right) ∧ left.all isBlank ∧ right.all isBlank := by
  have hfront := List.takeWhile_append_dropWhile (p := isBlank) (l := t)
  have hback := congrArg List.reverse
    (List.takeWhile_append_dropWhile (p := isBlank) (l := (t.dropWhile isBlank).reverse))
  rw [List.reverse_append, List.reverse_reverse] at hback
  refine ⟨t.takeWhile isBlank, ((t.dropWhile isBlank).reverse.takeWhile isBlank).reverse, ?_,
    List.all_takeWhile, by rw [List.all_reverse, List.all_takeWhile]⟩
  rw [trim, trimBoth, trimRight, hback, hfront]

/-- A key is what trimming leaves of it with blanks around it. -/
theorem trim_append (hleft : left.all isBlank) (hright : right.all isBlank)
    (hkey : isKey key = true) : trim (left ++ (key ++ right)) = key := by
  have hinner : ∀ c ∈ (key ++ right).head?, isBlank c = false := by
    cases key with
    | nil => exact nomatch hkey
    | cons first key =>
      rintro c ⟨⟩
      exact isBlank_of_mem_key hkey List.mem_cons_self
  have hlast : ∀ c ∈ key.reverse.head?, isBlank c = false := fun c hc =>
    isBlank_of_mem_key hkey (List.mem_reverse.mp (List.mem_of_head? hc))
  have hreverse : right.reverse.all isBlank := by rwa [List.all_reverse]
  rw [trim, trimBoth, (run_append hleft hinner).2, trimRight, List.reverse_append,
    (run_append hreverse hlast).2, List.reverse_reverse]

end Text

/-! ### Assignments -/

namespace Assignment

variable {e : ExpandError}

/-- A text **assigns** a value to a key. In front of its first equals sign stands the key, with
blanks around it, and behind the sign stands the text of the value. -/
def Assigns (t key value : Text) : Prop :=
  ∃ left right, t = left ++ (key ++ (right ++ '=' :: value)) ∧ left.all isBlank ∧
    right.all isBlank ∧ isKey key = true

/-- The equals sign of an assignment is the first one, and its key is what stands in front of
it, trimmed. -/
theorem assigns_iff : Assigns t key value ↔
    ∃ name, t = name ++ '=' :: value ∧ '=' ∉ name ∧ name.trim = key ∧ isKey key = true := by
  constructor
  · rintro ⟨left, right, rfl, hleft, hright, hkey⟩
    have hsign : isBlank '=' = false := by decide
    refine ⟨left ++ (key ++ right), by simp, ?_, trim_append hleft hright hkey, hkey⟩
    simp [not_mem_of_all hleft hsign, not_mem_of_all hright hsign,
      not_mem_key hkey (show isKeyChar '=' = false by decide)]
  · rintro ⟨name, rfl, -, rfl, hkey⟩
    obtain ⟨left, right, hname, hleft, hright⟩ := exists_trim_append name
    refine ⟨left, right, ?_, hleft, hright, hkey⟩
    calc name ++ '=' :: value = left ++ (name.trim ++ right) ++ '=' :: value :=
          congrArg (· ++ '=' :: value) hname
      _ = left ++ (name.trim ++ (right ++ '=' :: value)) := by simp only [List.append_assoc]

/-- A text assigns one value to one key. -/
theorem Assigns.unique {key' value' : Text} (h : Assigns t key value)
    (h' : Assigns t key' value') : key = key' ∧ value = value' := by
  obtain ⟨name, rfl, hsign, rfl, -⟩ := assigns_iff.mp h
  obtain ⟨name', heq, hsign', rfl, -⟩ := assigns_iff.mp h'
  have hcut := cutAt_append hsign value
  rw [heq, cutAt_append hsign' value'] at hcut
  obtain ⟨rfl, rfl⟩ := Prod.mk.inj (Option.some.inj hcut)
  exact ⟨rfl, rfl⟩

/-- A text that assigns a value is read. -/
theorem ofText_of_assigns (h : Assigns t key value) :
    ofText t = .ok ⟨key, .ofArgument value⟩ := by
  obtain ⟨name, rfl, hsign, hname, hkey⟩ := assigns_iff.mp h
  rw [ofText, cutAt_append hsign]
  simp only [hname, hkey, if_true]

/-- Any other text is the error. -/
theorem ofText_of_not_assigns (h : ∀ key value, ¬ Assigns t key value) :
    ofText t = .error (.invalidAssignment t) := by
  rw [ofText]
  split
  · rfl
  · next name value hcut =>
    obtain ⟨htext, hsign⟩ := cutAt_eq_some hcut
    refine if_neg fun hkey => h name.trim value ?_
    exact assigns_iff.mpr ⟨name, htext, hsign, rfl, hkey⟩

/-! ### The last assignment to a key -/

/-- A key **holds** a value after some texts if one of them assigns the value to it and no
later one assigns anything to it. -/
def Holds (ts : List Text) (key value : Text) : Prop :=
  ∃ before t later, ts = before ++ t :: later ∧ Assigns t key value ∧
    ∀ s ∈ later, ∀ other, ¬ Assigns s key other

/-- Without assignments no key has a value. -/
theorem not_holds_nil (key value : Text) : ¬ Holds [] key value := by
  rintro ⟨before, t, later, h, -⟩
  exact absurd h.symm (List.append_ne_nil_of_right_ne_nil _ (List.cons_ne_nil _ _))

/-- **One more text** changes what its own key holds and nothing else. -/
theorem holds_concat_iff : Holds (ts ++ [t]) key value ↔
    Assigns t key value ∨ (∀ other, ¬ Assigns t key other) ∧ Holds ts key value := by
  constructor
  · rintro ⟨before, s, later, h, hassigns, hlater⟩
    rcases List.eq_nil_or_concat later with rfl | ⟨later, last, rfl⟩
    · obtain ⟨-, hlast⟩ := List.append_inj' h rfl
      obtain rfl := List.singleton_inj.mp hlast
      exact .inl hassigns
    · rw [List.concat_eq_append, ← List.cons_append, ← List.append_assoc] at h
      obtain ⟨rfl, hlast⟩ := List.append_inj' h rfl
      obtain rfl := List.singleton_inj.mp hlast
      rw [List.concat_eq_append, List.forall_mem_append] at hlater
      exact .inr ⟨hlater.2 t List.mem_cons_self, before, s, later, rfl, hassigns, hlater.1⟩
  · rintro (hassigns | ⟨hother, before, s, later, rfl, hassigns, hlater⟩)
    · exact ⟨ts, t, [], rfl, hassigns, nofun⟩
    · refine ⟨before, s, later ++ [t], by simp, hassigns, ?_⟩
      rw [List.forall_mem_append]
      exact ⟨hlater, by simpa using hother⟩

/-- A key to which a value is assigned holds the last one. -/
theorem exists_holds_iff :
    (∃ value, Holds ts key value) ↔ ∃ t ∈ ts, ∃ value, Assigns t key value := by
  induction ts using List.reverseRecOn with
  | nil => simp [not_holds_nil]
  | append_singleton ts t ih =>
    simp only [holds_concat_iff, exists_or, exists_and_left, ih, List.mem_append,
      List.mem_singleton, or_and_right, exists_eq_left]
    by_cases hassigns : ∃ value, Assigns t key value
    · simp [hassigns]
    · simp [not_exists.mp hassigns]

/-! ### Sequences of assignments -/

/-- A further text that assigns is one more assignment. -/
theorem ofTexts_concat_of_ok {assignments : List Assignment} (h : ofTexts ts = .ok assignments)
    (hassigns : Assigns t key value) :
    ofTexts (ts ++ [t]) = .ok (assignments ++ [⟨key, .ofArgument value⟩]) := by
  rw [ofTexts] at h
  rw [ofTexts, List.mapM_append, h, List.mapM_cons, ofText_of_assigns hassigns]
  rfl

/-- A further assignment binds its key anew and leaves the others. -/
theorem getElem?_toNamedValues_concat (assignments : List Assignment) (a : Assignment)
    (key : Text) :
    (toNamedValues (assignments ++ [a]))[key]? =
      if a.name = key then some (.value a.value) else (toNamedValues assignments)[key]? := by
  rw [toNamedValues, List.foldl_concat]
  simp [Std.ExtTreeMap.getElem?_insert, toNamedValues]

/-- **Assignments are bound** if all texts are assignments, each in place of the last one of
its key. -/
theorem exists_ofTexts (h : ∀ t ∈ ts, ∃ key value, Assigns t key value) :
    ∃ assignments, ofTexts ts = .ok assignments ∧ ∀ key e,
      (toNamedValues assignments)[key]? = some e ↔
        ∃ value, Holds ts key value ∧ e = .value (.ofArgument value) := by
  induction ts using List.reverseRecOn with
  | nil => exact ⟨[], rfl, fun key e => by simp [toNamedValues, not_holds_nil]⟩
  | append_singleton ts t ih =>
    rw [List.forall_mem_append] at h
    obtain ⟨assignments, hread, hbound⟩ := ih h.1
    obtain ⟨key, value, hassigns⟩ := h.2 t List.mem_cons_self
    refine ⟨_, ofTexts_concat_of_ok hread hassigns, fun other e => ?_⟩
    rw [getElem?_toNamedValues_concat]
    simp only [holds_concat_iff]
    by_cases hother : key = other
    · subst hother
      have hnew : ∀ v, Assigns t key v ↔ v = value := fun v =>
        ⟨fun h => (h.unique hassigns).2, fun h => h ▸ hassigns⟩
      simp [hnew, eq_comm]
    · have hnone : ∀ v, ¬ Assigns t other v := fun v h => hother (hassigns.unique h).1
      simp [hother, hnone, hbound]

/-- The first text that is no assignment is the error. -/
theorem ofTexts_of_first {before later : List Text}
    (hbefore : ∀ s ∈ before, ∃ key value, Assigns s key value)
    (ht : ∀ key value, ¬ Assigns t key value) :
    ofTexts (before ++ t :: later) = .error (.invalidAssignment t) := by
  induction before with
  | nil =>
    rw [List.nil_append, ofTexts, List.mapM_cons, ofText_of_not_assigns ht]
    rfl
  | cons s before ih =>
    rw [List.forall_mem_cons] at hbefore
    obtain ⟨key, value, hassigns⟩ := hbefore.1
    have hrest := ih hbefore.2
    rw [ofTexts] at hrest
    rw [List.cons_append, ofTexts, List.mapM_cons, ofText_of_assigns hassigns, hrest]
    rfl

/-- Either all texts assign or there is a first one that does not. -/
theorem forall_assigns_or_exists_first (ts : List Text) :
    (∀ t ∈ ts, ∃ key value, Assigns t key value) ∨
      ∃ before t later, ts = before ++ t :: later ∧
        (∀ s ∈ before, ∃ key value, Assigns s key value) ∧
          ∀ key value, ¬ Assigns t key value := by
  induction ts with
  | nil => exact .inl nofun
  | cons t ts ih =>
    by_cases ht : ∃ key value, Assigns t key value
    · obtain hall | ⟨before, s, later, rfl, hbefore, hs⟩ := ih
      · exact .inl (List.forall_mem_cons.mpr ⟨ht, hall⟩)
      · exact .inr ⟨t :: before, s, later, rfl, List.forall_mem_cons.mpr ⟨ht, hbefore⟩, hs⟩
    · simp only [not_exists] at ht
      exact .inr ⟨[], t, ts, rfl, nofun, ht⟩

/-- The texts are read exactly if all of them are assignments. -/
theorem exists_ofTexts_iff : (∃ assignments, ofTexts ts = .ok assignments) ↔
    ∀ t ∈ ts, ∃ key value, Assigns t key value := by
  refine ⟨fun ⟨assignments, hread⟩ => ?_, fun h => (exists_ofTexts h).imp fun _ => And.left⟩
  obtain hall | ⟨before, t, later, rfl, hbefore, ht⟩ := forall_assigns_or_exists_first ts
  · exact hall
  · exact nomatch hread.symm.trans (ofTexts_of_first hbefore ht)

/-- **The error** is the first text that is no assignment. -/
theorem ofTexts_eq_error_iff : ofTexts ts = .error e ↔
    ∃ before t later, ts = before ++ t :: later ∧
      (∀ s ∈ before, ∃ key value, Assigns s key value) ∧
      (∀ key value, ¬ Assigns t key value) ∧ e = .invalidAssignment t := by
  constructor
  · intro herror
    obtain hall | ⟨before, t, later, rfl, hbefore, ht⟩ := forall_assigns_or_exists_first ts
    · obtain ⟨assignments, hread⟩ := exists_ofTexts_iff.mpr hall
      exact nomatch herror.symm.trans hread
    · exact ⟨before, t, later, rfl, hbefore, ht,
        Except.error.inj (herror.symm.trans (ofTexts_of_first hbefore ht))⟩
  · rintro ⟨before, t, later, rfl, hbefore, ht, rfl⟩
    exact ofTexts_of_first hbefore ht

/-- **Assignments are collected completely.** They are bound exactly if every text is one. The
keys that are bound are those that the texts assign to, and each is bound to the value of the
last text that assigns to it. The error is the first text that is no assignment. -/
theorem ofTexts_bind_last (ts : List Text) :
    ((∃ named, (ofTexts ts).map toNamedValues = .ok named) ↔
      ∀ t ∈ ts, ∃ key value, Assigns t key value) ∧
    (∀ named, (ofTexts ts).map toNamedValues = .ok named →
      (∀ key, key ∈ named ↔ ∃ t ∈ ts, ∃ value, Assigns t key value) ∧
      ∀ key e, named[key]? = some e ↔
        ∃ value, Holds ts key value ∧ e = .value (.ofArgument value)) ∧
    ∀ e, (ofTexts ts).map toNamedValues = .error e ↔
      ∃ before t later, ts = before ++ t :: later ∧
        (∀ s ∈ before, ∃ key value, Assigns s key value) ∧
        (∀ key value, ¬ Assigns t key value) ∧ e = .invalidAssignment t := by
  rw [← exists_ofTexts_iff]
  simp only [← ofTexts_eq_error_iff]
  cases hread : ofTexts ts with
  | error e => exact ⟨⟨nofun, nofun⟩, nofun, fun e' => by simp [Except.map]⟩
  | ok assignments =>
    refine ⟨⟨fun _ => ⟨_, rfl⟩, fun _ => ⟨_, rfl⟩⟩, ?_, fun e => ⟨nofun, nofun⟩⟩
    rintro named ⟨⟩
    obtain ⟨_, hread', hbound⟩ := exists_ofTexts (exists_ofTexts_iff.mp ⟨_, hread⟩)
    obtain rfl := Except.ok.inj (hread.symm.trans hread')
    refine ⟨fun key => ?_, hbound⟩
    rw [Std.ExtTreeMap.mem_iff_isSome_getElem?, Option.isSome_iff_exists, ← exists_holds_iff]
    simp only [hbound]
    exact ⟨fun ⟨_, value, h, _⟩ => ⟨value, h⟩, fun ⟨value, h⟩ => ⟨_, value, h, rfl⟩⟩

/-- The later assignment to a key counts, with all that follows its first equals sign. A key
that starts with a digit makes the whole text the error. -/
theorem ofTexts_bind_last_repeated :
    (∃ named, (ofTexts [" A =1".toList, "A=b=c ".toList]).map toNamedValues = .ok named ∧
      named["A".toList]? = some (.value (.str "b=c ".toList))) ∧
    (ofTexts ["A=1".toList, " 9A=1".toList, "B".toList]).map toNamedValues =
      .error (.invalidAssignment " 9A=1".toList) := by
  have hfirst : Assigns " A =1".toList "A".toList "1".toList :=
    ⟨[' '], [' '], rfl, rfl, rfl, by decide⟩
  have hlast : Assigns "A=b=c ".toList "A".toList "b=c ".toList :=
    ⟨[], [], rfl, rfl, rfl, by decide⟩
  have hplain : Assigns "A=1".toList "A".toList "1".toList :=
    ⟨[], [], rfl, rfl, rfl, by decide⟩
  have hrefused : ofText " 9A=1".toList = .error (.invalidAssignment " 9A=1".toList) := rfl
  have hdigit : ∀ key value, ¬ Assigns " 9A=1".toList key value := fun key value h =>
    nomatch hrefused.symm.trans (ofText_of_assigns h)
  constructor
  · obtain ⟨hread, hbound, -⟩ := ofTexts_bind_last [" A =1".toList, "A=b=c ".toList]
    obtain ⟨named, hnamed⟩ := hread.mpr (by simpa using ⟨⟨_, _, hfirst⟩, _, _, hlast⟩)
    have hholds : Holds [" A =1".toList, "A=b=c ".toList] "A".toList "b=c ".toList :=
      ⟨[" A =1".toList], _, [], rfl, hlast, nofun⟩
    have hvalue : Value.ofArgument "b=c ".toList = .str "b=c ".toList := rfl
    exact ⟨named, hnamed, ((hbound named hnamed).2 _ _).mpr ⟨_, hholds, by rw [hvalue]⟩⟩
  · refine ((ofTexts_bind_last _).2.2 _).mpr ⟨["A=1".toList], _, ["B".toList], rfl, ?_,
      hdigit, rfl⟩
    simpa using ⟨_, _, hplain⟩

end Assignment

end Stencil
