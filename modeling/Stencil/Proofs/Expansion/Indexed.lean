import Mathlib
import Stencil.Proofs.Expansion.Evaluation
import Stencil.Proofs.Placeholder.Written

/-!
# Indexed placeholders

An indexed placeholder writes its argument with the format it gives, fitted to its width and
limit. That is so as long as its text reaches the indexed pass as it was written: a format may
hold the text of a named token, which is replaced before, and a `#` followed by digits, which
the pass before decodes as an escape.

## Main results

* `expand_written`: what a template of one indexed placeholder expands to.
* `expand_written_iff`: escapes are the only other tokens that keep it from doing so.
-/

namespace Stencil

open Placeholder Text

variable {σ : Type} {groups format rest : Text}

/-! ### Escapes in formats -/

/-- An escape that starts in a written placeholder starts in its format. -/
theorem suffix_format_of_suffix_written (hgroups : IsGroups groups)
    (h : '#' :: rest <:+ written groups format) :
    ∃ tail, rest = tail ++ ['}'] ∧ '#' :: tail <:+ format := by
  have hnot : '#' ∉ '{' :: '0' :: (groups ++ [':']) := by
    have := hgroups.not_mem (c := '#') (by decide) (by decide) (by decide)
    simp_all
  have hwritten : written groups format =
      ('{' :: '0' :: (groups ++ [':'])) ++ (format ++ ['}']) := by
    simp [written, braced]
  rw [hwritten] at h
  have hback : '#' :: rest <:+ format ++ ['}'] := by
    rcases List.suffix_or_suffix_of_suffix h (List.suffix_append _ _) with hle | hle
    · exact hle
    · obtain ⟨middle, hmiddle⟩ := hle
      rcases middle with _ | ⟨c, middle⟩
      · exact ⟨[], by rw [List.nil_append] at hmiddle ⊢; exact hmiddle.symm⟩
      · obtain ⟨front, hfront⟩ := h
        obtain rfl : c = '#' := (List.cons.inj hmiddle).1
        rw [← hmiddle, ← List.append_assoc] at hfront
        have := List.append_cancel_right hfront
        exact absurd (this ▸ List.mem_append_right front List.mem_cons_self) hnot
  rcases List.suffix_concat_iff.mp hback with hnil | ⟨tail, htail, hsuffix⟩
  · simp at hnil
  · rcases tail with _ | ⟨c, tail⟩
    · simp at htail
    · rw [List.cons_append, List.cons.injEq] at htail
      obtain ⟨rfl, rfl⟩ := htail
      exact ⟨tail, rfl, hsuffix⟩

/-- A format of digit placeholders and separators. -/
def IsNumericPattern (format : Text) : Prop :=
  ∀ c ∈ format, c = '0' ∨ c = '#' ∨ c = ',' ∨ c = '.'

instance (format : Text) : Decidable (IsNumericPattern format) :=
  List.decidableBAll (fun c => c = '0' ∨ c = '#' ∨ c = ',' ∨ c = '.') format

/-- In front of a closing brace, digit placeholders and separators after `#` are no escape
unless they start with two zeros. -/
theorem read?_hex_of_isNumericPattern {tail : Text} (h : IsNumericPattern tail)
    (hzeros : ¬ ['0', '0'] <+: tail) : read? .hex ('#' :: (tail ++ ['}'])) = none := by
  rcases tail with _ | ⟨c, tail⟩
  · decide
  rw [IsNumericPattern, List.forall_mem_cons] at h
  rcases h.1 with rfl | rfl | rfl | rfl
  case inl =>
    rcases tail with _ | ⟨d, tail⟩
    · decide
    · have hd := (List.forall_mem_cons.mp h.2).1
      rcases hd with rfl | rfl | rfl | rfl
      case inl => exact absurd (by simp) hzeros
      all_goals rfl
  all_goals rfl

/-- A pattern of digit placeholders holds no escape unless a `#` has two zeros behind it. -/
theorem ofFamily_hex_written (hgroups : IsGroups groups) (hpattern : IsNumericPattern format)
    (hzeros : ¬ ['#', '0', '0'] <:+: format) :
    Token.ofFamily .hex (written groups format) = [] := by
  refine scan_hex_eq_nil (fun rest hrest => ?_) 0
  obtain ⟨tail, rfl, htail⟩ := suffix_format_of_suffix_written hgroups hrest
  refine read?_hex_of_isNumericPattern
    (fun c hmem => hpattern c (htail.subset (List.mem_cons_of_mem _ hmem))) fun hstart =>
      hzeros ?_
  have hlong : ['#', '0', '0'] <+: '#' :: tail := (List.prefix_cons_inj '#').mpr hstart
  exact hlong.isInfix.trans htail.isInfix

/-- No named token stands in a written placeholder whose format has no brace. -/
theorem ofFamily_named_written (hgroups : IsGroups groups) (hopen : '{' ∉ format)
    (hclose : '}' ∉ format) : Token.ofFamily .named (written groups format) = [] := by
  have hbody : '{' ∉ '0' :: (groups ++ ':' :: format) := by
    have := hgroups.not_mem (c := '{') (by decide) (by decide) (by decide)
    simp_all
  have hnamed : inner? .named ('0' :: (groups ++ ':' :: format)) = none := rfl
  have hscan := Token.scan_group_of_none (by decide) hbody (not_mem_written hgroups hclose)
    hnamed 0 []
  rwa [List.append_nil, Token.scan_nil] at hscan

/-! ### Expansion -/

variable {s : Session σ} {env : Environment} {named : NamedValues σ} {v : Value}

/-- A template that is one placeholder, without named tokens that stand for something: its text
is looked for in what the pass over the escapes makes of it. -/
theorem expand_single {template : Text} {layout : Layout}
    (hindexed : Token.ofFamily .indexed template = [⟨.indexed 0 layout, template, 0⟩])
    (hnamed : ∀ token ∈ Token.ofFamily .named template,
      namedText? env (lookup named s.registry) [v] token = none) :
    s.expand env template named [v] =
      Action.run (substitute template (layout.fit <$> .ofResult (v.format layout.formatText))
        (decodeEscapes template)) s := by
  have htext : indexedText? [v] ⟨.indexed 0 layout, template, 0⟩ =
      some (layout.fit <$> (.ofResult (v.format layout.formatText) : Action σ Text)) := rfl
  have hpure : substituteAll (indexedText? [v] : _ → Option (Action σ Text)) [] = pure := rfl
  rw [expand_eq, evaluateAll_of_none hnamed, pure_bind, replaceAll_nil, hindexed,
    substituteAll_cons_of_some htext, hpure, bind_pure]

/-- Without escapes and named tokens, a template that is one indexed token shows its argument.
-/
theorem expand_single_of_no_escape {template : Text} {layout : Layout}
    (hindexed : Token.ofFamily .indexed template = [⟨.indexed 0 layout, template, 0⟩])
    (hnamed : ∀ token ∈ Token.ofFamily .named template,
      namedText? env (lookup named s.registry) [v] token = none)
    (hhex : Token.ofFamily .hex template = [])
    (hcut : cutAround template template = some ([], [])) :
    s.expand env template named [v] = (layout.fit <$> v.format layout.formatText, s) := by
  have hid : (fun text : Text => [] ++ (text ++ [])) = id := by
    funext text
    simp
  rw [expand_single hindexed hnamed, decodeEscapes_eq_self_of_scan hhex,
    substitute_of_cutAround hcut, hid, id_map, Action.run_map_ofResult]

/-- So a written placeholder applies its format if it holds no escape. -/
theorem expand_written_of_no_escape (hgroups : IsGroups groups) (hformat : format ≠ [])
    (hclose : '}' ∉ format)
    (hnamed : ∀ token ∈ Token.ofFamily .named (written groups format),
      namedText? env (lookup named s.registry) [v] token = none)
    (hhex : Token.ofFamily .hex (written groups format) = []) :
    s.expand env (written groups format) named [v] =
      ((writtenLayout groups format).fit <$> v.format format, s) := by
  have hcut : cutAround (written groups format) (written groups format) = some ([], []) := by
    have hself := (closed_braced (not_mem_written hgroups hclose)).cutAround_append
      (fun h => List.cons_ne_nil _ _ (List.infix_nil.mp h)) []
    rwa [List.nil_append, List.append_nil] at hself
  exact expand_single_of_no_escape
    (Token.ofFamily_indexed_written hgroups hformat hclose) hnamed hhex
    hcut

/-- **A template of one plain placeholder** expands to the argument without a format. -/
theorem expand_first (s : Session σ) (env : Environment) (named : NamedValues σ) (v : Value) :
    s.expand env "\x7b0\x7d".toList named [v] = (v.format [], s) := by
  have hnamed : Token.ofFamily .named "\x7b0\x7d".toList = [] := by decide +kernel
  have hindexed : Token.ofFamily .indexed "\x7b0\x7d".toList =
      [⟨.indexed 0 .plain, "\x7b0\x7d".toList, 0⟩] := by decide +kernel
  have hid : (.plain : Layout).fit = id := rfl
  have hnone : ∀ token ∈ Token.ofFamily .named "\x7b0\x7d".toList,
      namedText? env (lookup named s.registry) [v] token = none := by
    rw [hnamed]
    exact fun token hmem => absurd hmem List.not_mem_nil
  rw [expand_single_of_no_escape hindexed hnone (by decide +kernel) (by decide), hid, id_map]
  rfl

/-- A written placeholder in which an escape stands never shows its argument. -/
theorem expand_written_of_escape (hgroups : IsGroups groups) (hformat : format ≠ [])
    (hclose : '}' ∉ format)
    (hnamed : ∀ token ∈ Token.ofFamily .named (written groups format),
      namedText? env (lookup named s.registry) [v] token = none)
    (hhex : Token.ofFamily .hex (written groups format) ≠ []) :
    s.expand env (written groups format) named [v] =
      (.ok (decodeEscapes (written groups format)), s) := by
  have hlength := length_decodeEscapes_add_le (written groups format) 0
  have hpos : 0 < (Token.scan .hex 0 (written groups format)).length :=
    List.length_pos_of_ne_nil hhex
  have hcut : cutAround (written groups format) (decodeEscapes (written groups format)) =
      none := by
    rw [cutAround_eq_none_iff]
    intro hoccurs
    have := hoccurs.length_le
    omega
  rw [expand_single (Token.ofFamily_indexed_written hgroups hformat hclose) hnamed,
    substitute, hcut, Action.run_pure]

/-- **Escapes are what matters.** Where no named token stands for anything, a written
placeholder applies its format to every argument exactly if no escape stands in it. -/
theorem expand_written_iff (hgroups : IsGroups groups) (hformat : format ≠ [])
    (hclose : '}' ∉ format)
    (hnamed : ∀ v, ∀ token ∈ Token.ofFamily .named (written groups format),
      namedText? env (lookup named s.registry) [v] token = none) :
    (∀ v, s.expand env (written groups format) named [v] =
        ((writtenLayout groups format).fit <$> v.format format, s)) ↔
      Token.ofFamily .hex (written groups format) = [] := by
  constructor
  · intro h
    by_contra hhex
    have hempty := h (.str [])
    rw [expand_written_of_escape hgroups hformat hclose (hnamed _) hhex] at hempty
    -- The decoded text still starts with the brace, which no fitted empty text does.
    have hdecoded : decodeEscapes (written groups format) =
        (writtenLayout groups format).fit [] := Except.ok.inj (Prod.mk.inj hempty).1
    have hbrace : '{' ∈ decodeEscapes (written groups format) := by
      rw [written, braced, decodeEscapes_of_read?_eq_none (read?_hex_of_ne (by decide) _)]
      exact List.mem_cons_self
    rw [hdecoded] at hbrace
    rcases mem_fit hbrace with hmem | hspace
    · exact absurd hmem List.not_mem_nil
    · exact absurd hspace (by decide)
  · exact fun hhex v => expand_written_of_no_escape hgroups hformat hclose (hnamed v) hhex

/-- **Indexed placeholders apply their format.** A template of one placeholder for the first
argument, with any comma groups and any format, expands to the argument in that format, fitted
to the width and the limit, or fails as the format does. This needs that no named token of the
template stands for anything and that the template holds no escape. Both hold for every format
of `0`, `#`, `,` and `.` in which no `#` is followed by two zeros. -/
theorem expand_written (s : Session σ) (env : Environment) (named : NamedValues σ) (v : Value)
    (groups format : Text) (hgroups : IsGroups groups) (hformat : format ≠ [])
    (hclose : '}' ∉ format) :
    ((∀ token ∈ Token.ofFamily .named (written groups format),
        namedText? env (lookup named s.registry) [v] token = none) →
      Token.ofFamily .hex (written groups format) = [] →
      s.expand env (written groups format) named [v] =
        ((writtenLayout groups format).fit <$> v.format format, s)) ∧
    (IsNumericPattern format → ¬ ['#', '0', '0'] <:+: format →
      s.expand env (written groups format) named [v] =
        ((writtenLayout groups format).fit <$> v.format format, s)) := by
  refine ⟨expand_written_of_no_escape hgroups hformat hclose, fun hpattern hzeros => ?_⟩
  have hopen : '{' ∉ format := fun hmem => by
    rcases hpattern _ hmem with h | h | h | h <;> simp at h
  refine expand_written_of_no_escape hgroups hformat hclose ?_
    (ofFamily_hex_written hgroups hpattern hzeros)
  rw [ofFamily_named_written hgroups hopen hclose]
  exact fun token hmem => absurd hmem List.not_mem_nil

/-- An integer in hexadecimal, padded, and one in a pattern of digit placeholders. -/
theorem expand_written_padded :
    Session.small.expand .still (written ",5".toList "x".toList) ∅ [.int 42] =
        (.ok "   2a".toList, .small) ∧
      Session.small.expand .still (written [] "#,0.0#".toList) ∅ [.int 1234] =
        (.ok "1,234.0".toList, .small) := by
  obtain ⟨hempty, hwidth, -⟩ := @isGroups_of_digits "5".toList [] (by decide) (by decide)
  constructor
  · have hnamed : Token.ofFamily .named (written ",5".toList "x".toList) = [] := by
      decide +kernel
    have hformat : Value.format (.int 42) "x".toList = .ok "2a".toList := by cbv
    have hfit : (writtenLayout ",5".toList "x".toList).fit "2a".toList = "   2a".toList := by
      decide
    rw [(expand_written .small .still ∅ (.int 42) ",5".toList "x".toList hwidth (by decide)
      (by decide)).1 (by rw [hnamed]; simp) (by decide +kernel), hformat, ← hfit]
    rfl
  · have hformat : Value.format (.int 1234) "#,0.0#".toList = .ok "1,234.0".toList := by cbv
    rw [(expand_written .small .still ∅ (.int 1234) [] "#,0.0#".toList hempty (by decide)
      (by decide)).2 (by decide) (by decide), hformat]
    rfl

/-- A named token in a format is replaced before the placeholder is looked for, and a `#` with
two zeros behind it is decoded as an escape. -/
theorem written_text_lost :
    (Value.format (.str "y".toList) ['{', 'A'] = .ok "y".toList ∧
      (writtenLayout [] ['{', 'A']).fit "y".toList = "y".toList ∧
      Session.small.expand .still (written [] ['{', 'A']) ∅ [.str "y".toList] =
        (.ok ('{' :: "0:x".toList), .small)) ∧
    (Value.format (.int 5) "#00".toList = .ok "05".toList ∧
      (writtenLayout [] "#00".toList).fit "05".toList = "05".toList ∧
      Session.small.expand .still (written [] "#00".toList) ∅ [.int 5] =
        (.ok ['{', '0', ':', Char.ofNat 0, '}'], .small)) := by
  refine ⟨⟨by cbv, by decide, by cbv⟩, by cbv, by decide, by cbv⟩

end Stencil
