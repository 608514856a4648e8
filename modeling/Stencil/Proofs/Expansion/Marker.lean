import Mathlib
import Stencil.Proofs.Expansion.Splice
import Stencil.Proofs.Text.Fill

/-!
# Values and markers

What happens to the other placeholders of a template should not depend on the text that a name
is bound to. To say so, the name is bound to a marker, and the text is filled in for the marker
after the expansion. This comes to the same as binding the name to the text at once, as long as
the text does not complete a group of the working text to the text of a token that is still to
come.

The two expansions evaluate the same tokens. So they are two sequences of replacements, and
after each step the one working text is the other one filled in.

## Main definitions

* `Stencil.Session.bind`: a session in which a name is bound to a text.
* `Stencil.CompletesNone`: filling in completes no token when it is its turn.

## Main results

* `replaceAll_fill`: replacements before and after filling in.
* `expand_bind_eq_fill`: expansions before and after filling in.
-/

namespace Stencil

open Placeholder Text

variable {σ : Type} {env : Environment} {tokens : List Token} {token : Token} {key x t : Text}
  {c : Char} {args : List Value} {edits : List (Token × Text)}

/-! ### Registries of texts -/

/-- A text that neither opens nor closes anything. -/
def Text.Plain (t : Text) : Prop := '{' ∉ t ∧ '}' ∉ t ∧ '#' ∉ t

instance (t : Text) : Decidable t.Plain :=
  inferInstanceAs (Decidable ('{' ∉ t ∧ '}' ∉ t ∧ '#' ∉ t))

/-- The text that a name is bound to, if it is bound to one. -/
def Expander.text? : Expander σ → Option Text
  | .value (.str text) => some text
  | _ => none

/-- The expanders with a text are the values that are texts. -/
theorem Expander.text?_eq_some_iff {e : Expander σ} :
    e.text? = some t ↔ e = .value (.str t) := by
  unfold Expander.text?
  split <;> simp_all

/-- A registry in which every name is bound to a text with a property. -/
def Registry.Texts (r : Registry σ) (p : Text → Prop) : Prop :=
  ∀ name e, r.resolve? name = some e → ∃ text, e = .value (.str text) ∧ p text

/-- What holds of all texts of a registry may be weakened. -/
theorem Registry.Texts.mono {r : Registry σ} {p q : Text → Prop} (h : r.Texts p)
    (hpq : ∀ t, p t → q t) : r.Texts q := by
  intro name e hentry
  obtain ⟨text, htext, hp⟩ := h name e hentry
  exact ⟨text, htext, hpq text hp⟩

/-- A session in which a name is bound to a text. -/
def Session.bind (s : Session σ) (key text : Text) : Session σ :=
  { s with registry := s.registry.register key (.value (.str text)) }

/-- What a named token is replaced by where names are bound to texts. -/
def tokenText? (text? : Text → Option Text) (token : Token) : Option Text :=
  match token.placeholder with
  | .named key _ layout => (text? key).map layout.fit
  | .indexed .. | .hex .. => none

/-- The texts for the tokens where names are bound to texts. -/
def textEdits (text? : Text → Option Text) (tokens : List Token) : List (Token × Text) :=
  tokens.filterMap fun token => (tokenText? text? token).map (token, ·)

/-- The texts of a registry with a further name bound to a text. -/
def boundText? (r : Registry σ) (key text name : Text) : Option Text :=
  if key = name then some text else (r.resolve? name).bind Expander.text?

variable {s : Session σ} {text? : Text → Option Text} {lookup' : Text → Option (Expander σ)}

/-- Where names stand for texts, named tokens stand for the fitted texts and cannot fail. -/
theorem namedText?_of_texts (h : ∀ name, lookup' name = (text? name).map (.value ∘ .str))
    (token : Token) :
    namedText? env lookup' args token = (tokenText? text? token).map pure := by
  obtain ⟨placeholder, raw, offset⟩ := token
  cases placeholder with
  | named key index layout =>
    simp only [namedText?, tokenText?, h]
    cases text? key <;> rfl
  | indexed => rfl
  | hex => rfl

/-- Texts are evaluated without failure and without effect. -/
theorem evaluateAll_of_texts (h : ∀ name, lookup' name = (text? name).map (.value ∘ .str))
    (tokens : List Token) :
    evaluateAll (namedText? env lookup' args) tokens = pure (textEdits text? tokens) := by
  induction tokens with
  | nil => rfl
  | cons token tokens ih =>
    have htext := @namedText?_of_texts _ env args _ _ h token
    cases htoken : tokenText? text? token with
    | none =>
      rw [evaluateAll_cons_of_none (by rw [htext, htoken]; rfl), ih]
      simp [textEdits, htoken]
    | some text =>
      rw [htoken] at htext
      rw [evaluateAll_cons_of_some htext, ih]
      simp [textEdits, htoken]

/-- Replacing the tokens up to a place succeeds. -/
theorem substituteAll_of_texts (env : Environment) (args : List Value)
    (h : ∀ name, lookup' name = (text? name).map (.value ∘ .str)) {template : Text}
    {later : List Token} (htokens : Token.ofFamily .named template = tokens ++ later) :
    substituteAll (namedText? env lookup' args) tokens template =
      pure (replaceAll (textEdits text? tokens) template) := by
  have horder : Token.InOrder template (tokens ++ later) :=
    htokens ▸ (Token.located_scan .named 0 template).inOrder
  have hclosed : ∀ token ∈ tokens, Closed token.raw := fun token hmem =>
    closed_of_mem_ofFamily (by decide) (htokens ▸ List.mem_append_left later hmem)
  have hpass := substituteAll_eq_replaceAll (namedText? env lookup' args) horder.of_append
    hclosed []
  rwa [evaluateAll_of_texts h, map_pure] at hpass

/-- Without arguments, an expansion replaces the named tokens and decodes the escapes. -/
theorem expand_of_texts {named : NamedValues σ}
    (h : ∀ name, lookup named s.registry name = (text? name).map (.value ∘ .str))
    (template : Text) :
    s.expand env template named [] =
      (.ok (decodeEscapes (replaceAll (textEdits text? (Token.ofFamily .named template))
        template)), s) := by
  rw [expand_eq, evaluateAll_of_texts h, pure_bind,
    substituteAll_of_none fun token _ => indexedText?_nil token]
  rfl

/-- A text bound in the registry is what its name stands for from then on. -/
theorem lookup_bind {p : Text → Prop} (h : s.registry.Texts p) (key text name : Text) :
    lookup ∅ (s.bind key text).registry name =
      (boundText? s.registry key text name).map (.value ∘ .str) := by
  have hnone : (∅ : NamedValues σ)[name]? = none := Std.ExtTreeMap.getElem?_empty
  rw [lookup, hnone, Option.none_or, Session.bind, Registry.resolve?_register, boundText?]
  by_cases hname : key = name
  · rw [if_pos hname, if_pos hname]
    rfl
  · rw [if_neg hname, if_neg hname]
    cases hentry : s.registry.resolve? name with
    | none => rfl
    | some e =>
      obtain ⟨text, rfl, -⟩ := h name e hentry
      rfl

/-- A text bound for the call is what its name stands for in the call. -/
theorem lookup_insert {p : Text → Prop} (h : s.registry.Texts p) (key text name : Text) :
    lookup ((∅ : NamedValues σ).insert key (.value (.str text))) s.registry name =
      (boundText? s.registry key text name).map (.value ∘ .str) := by
  rw [← lookup_bind h, lookup, lookup, Std.ExtTreeMap.getElem?_insert, Session.bind,
    Registry.resolve?_register]
  by_cases hname : key = name <;> simp [hname]

/-! ### Filling in -/

/-- Texts for tokens, filled in. -/
def fillEdits (c : Char) (x : Text) (edits : List (Token × Text)) : List (Token × Text) :=
  edits.map fun edit => (edit.1, fill c x edit.2)

/-- **Replacements before and after filling in.** If filling in completes no token at its turn,
the two working texts stay the same up to filling in. -/
theorem replaceAll_fill (hopen : '{' ∉ x) (hclose : '}' ∉ x) (hc : c ≠ '{') (hc' : c ≠ '}')
    (hraw : ∀ edit ∈ edits, ∃ body, edit.1.raw = braced body ∧ c ∉ body)
    (h : ∀ done edit later, edits = done ++ edit :: later → ∀ body, edit.1.raw = braced body →
      ¬ Completes c x body (replaceAll done t)) :
    replaceAll (fillEdits c x edits) (fill c x t) = fill c x (replaceAll edits t) := by
  induction edits generalizing t with
  | nil => rfl
  | cons edit edits ih =>
    obtain ⟨token, text⟩ := edit
    rw [List.forall_mem_cons] at hraw
    obtain ⟨⟨body, htoken, hbody⟩, hrest⟩ := hraw
    have hcut := cutAround_fill hopen hclose hc hc' hbody (h [] _ edits rfl body htoken)
    have hstep : replaceFirst token.raw (fill c x text) (fill c x t) =
        fill c x (replaceFirst token.raw text t) := by
      rw [replaceAll_nil] at hcut
      rw [replaceFirst, replaceFirst, htoken, hcut]
      cases cutAround (braced body) t with
      | none => rfl
      | some found => simp
    rw [fillEdits, List.map_cons, replaceAll_cons, replaceAll_cons, hstep]
    exact ih hrest fun done edit later hedits =>
      h ((token, text) :: done) edit later (by rw [hedits, List.cons_append])

/-- Spans that are replaced take what is filled in along. -/
theorem splice_fill {offset : Nat} (h : c ∉ t) :
    splice (fillEdits c x edits) offset t = fill c x (splice edits offset t) := by
  induction t generalizing offset with
  | nil => rfl
  | cons d t ih =>
    rw [List.mem_cons, not_or] at h
    rw [splice, splice, fill_append, ih h.2, fillEdits, List.find?_map]
    refine congrArg (· ++ _) ?_
    have hcovers : (fun edit : Token × Text => edit.1.covers offset) ∘
        (fun edit : Token × Text => (edit.1, fill c x edit.2)) =
        fun edit => edit.1.covers offset := rfl
    rw [hcovers]
    cases edits.find? fun edit => edit.1.covers offset with
    | none => exact (fill_of_not_mem (by simpa using h.1) x).symm
    | some edit =>
      simp only [Option.map_some]
      split <;> simp

/-- The texts for the tokens with a name bound to the marker, filled in, are those with the
name bound to the text. -/
theorem textEdits_fill {r : Registry σ} (hentries : r.Texts fun t => t.Plain ∧ c ∉ t)
    (hlayout : ∀ token ∈ tokens, ∀ index layout, token.placeholder = .named key index layout →
      layout.width = none ∧ layout.limit = none) (hspace : c ≠ ' ') (x : Text) :
    textEdits (boundText? r key x) tokens =
      fillEdits c x (textEdits (boundText? r key [c]) tokens) := by
  rw [fillEdits, textEdits, textEdits, List.map_filterMap]
  refine List.filterMap_congr fun token hmem => ?_
  obtain ⟨placeholder, raw, offset⟩ := token
  cases placeholder with
  | indexed => rfl
  | hex => rfl
  | named name index layout =>
    simp only [tokenText?, boundText?]
    by_cases hname : key = name
    · obtain ⟨hwidth, hlimit⟩ := hlayout _ hmem index layout (by rw [hname])
      simp [hname, Layout.fit, hwidth, hlimit]
    · cases hentry : r.resolve? name with
      | none => simp [hname]
      | some e =>
        obtain ⟨text, rfl, -, htext⟩ := hentries name e hentry
        have hfit : c ∉ layout.fit text := fun hmem => (mem_fit hmem).elim htext hspace
        simp [hname, Expander.text?, fill_of_not_mem hfit]

/-- What a token is replaced by is a fitted text of the registry, or the fitted text for the
key. -/
theorem exists_fit_of_tokenText? {r : Registry σ} {text u : Text}
    (h : tokenText? (boundText? r key u) token = some text) :
    ∃ (layout : Layout) (source : Text), text = layout.fit source ∧
      (token.key? = some key ∧ source = u ∨
        ∃ name, r.resolve? name = some (.value (.str source))) := by
  obtain ⟨placeholder, raw, offset⟩ := token
  cases placeholder with
  | indexed => simp [tokenText?] at h
  | hex => simp [tokenText?] at h
  | named name index layout =>
    simp only [tokenText?, boundText?, Option.map_eq_some_iff] at h
    obtain ⟨source, hsource, rfl⟩ := h
    refine ⟨layout, source, rfl, ?_⟩
    by_cases hname : key = name
    · rw [if_pos hname, Option.some.injEq] at hsource
      exact Or.inl ⟨congrArg some hname.symm, hsource.symm⟩
    · rw [if_neg hname, Option.bind_eq_some_iff] at hsource
      obtain ⟨e, hentry, he⟩ := hsource
      rw [Expander.text?_eq_some_iff] at he
      exact Or.inr ⟨name, he ▸ hentry⟩

/-- A character in the text for a token comes from the text for the key. -/
theorem key?_of_mem_textEdits {r : Registry σ} {u : Text} {edit : Token × Text}
    (hentries : r.Texts fun t => c ∉ t) (hspace : c ≠ ' ')
    (hedit : edit ∈ textEdits (boundText? r key u) tokens) (hmem : c ∈ edit.2) :
    edit.1 ∈ tokens ∧ edit.1.key? = some key ∧ c ∈ u := by
  obtain ⟨token, htoken, hedit⟩ := List.mem_filterMap.mp hedit
  obtain ⟨text, htext, rfl⟩ := Option.map_eq_some_iff.mp hedit
  obtain ⟨layout, source, rfl, hsource⟩ := exists_fit_of_tokenText? htext
  have hmem : c ∈ source := (mem_fit hmem).resolve_right hspace
  rcases hsource with ⟨hkey, rfl⟩ | ⟨name, hentry⟩
  · exact ⟨htoken, hkey, hmem⟩
  · obtain ⟨text, htext, hnot⟩ := hentries name _ hentry
    obtain rfl : source = text := by simpa using htext
    exact absurd hmem hnot

/-! ### Expansions -/

/-- Filling in the text `x` for the marker `c` **completes none** of the tokens of a template:
when a token that stands for something has its turn, with the key bound to the marker, filling
in makes its text of no group of the working text that holds a marker. -/
def CompletesNone (s : Session σ) (env : Environment) (template key x : Text)
    (c : Char) : Prop :=
  ∀ before token later, Token.ofFamily .named template = before ++ token :: later →
    (namedText? env (lookup ∅ (s.bind key [c]).registry) [] token).isSome →
    ∀ working s',
      (substituteAll (namedText? env (lookup ∅ (s.bind key [c]).registry) []) before
        template).run (s.bind key [c]) = (.ok working, s') →
      ∀ body, token.raw = braced body → ¬ Completes c x body working

/-- A text that does not occur in the tokens behind completes none of them. -/
theorem completesNone_of_not_inside {template : Text}
    (hentries : s.registry.Texts fun t => t.Plain ∧ c ∉ t) (hspace : c ≠ ' ')
    (htemplate : c ∉ template)
    (h : ∀ before token later, Token.ofFamily .named template = before ++ token :: later →
      token.key? = some key → ∀ other ∈ later,
        (namedText? env (lookup ∅ (s.bind key [c]).registry) [] other).isSome →
          ¬ x <:+: other.raw) :
    CompletesNone s env template key x c := by
  intro before token later htokens hresolved working s' hrun body hbody hcompletes
  rw [substituteAll_of_texts env [] (lookup_bind hentries key [c]) htokens, Action.run_pure,
    Prod.mk.injEq, Except.ok.injEq] at hrun
  obtain ⟨rfl, -⟩ := hrun
  -- The marker comes from the text for a token of the key.
  obtain ⟨edit, hedit, hmem⟩ := (mem_replaceAll hcompletes.mem).resolve_left htemplate
  obtain ⟨hmem, hkey, -⟩ :=
    key?_of_mem_textEdits (hentries.mono fun _ h => h.2) hspace hedit hmem
  obtain ⟨front, back, rfl⟩ := List.append_of_mem hmem
  refine h front edit.1 (back ++ token :: later) (by rw [htokens]; simp) hkey token
    (by simp) hresolved ?_
  rw [hbody]
  exact hcompletes.infix_body.trans (List.infix_append' ['{'] body ['}'])

/-- The tokens that have texts. -/
theorem map_fst_textEdits (text? : Text → Option Text) (tokens : List Token) :
    (textEdits text? tokens).map Prod.fst =
      tokens.filter fun token => (tokenText? text? token).isSome := by
  rw [textEdits, List.map_filterMap, ← List.filterMap_eq_filter]
  refine List.filterMap_congr fun token _ => ?_
  cases htext : tokenText? text? token <;> simp [Option.guard, htext]

/-- With separated braces, what tokens are replaced by is filled in at their places. -/
theorem replaceAll_textEdits_fill_of_separated {template : Text}
    (hseparated : Separated template) (htemplate : c ∉ template) (text? : Text → Option Text)
    (hplain : ∀ edit ∈ textEdits text? (Token.ofFamily .named template), '{' ∉ edit.2)
    (hx : '{' ∉ x) :
    replaceAll (fillEdits c x (textEdits text? (Token.ofFamily .named template))) template =
      fill c x (replaceAll (textEdits text? (Token.ofFamily .named template)) template) := by
  have hpass : ∀ edits, edits.map Prod.fst =
      (textEdits text? (Token.ofFamily .named template)).map Prod.fst →
      (∀ edit ∈ edits, '{' ∉ edit.2) →
      replaceAll edits template = splice edits 0 template := by
    intro edits hedits hplain
    rw [map_fst_textEdits] at hedits
    have hedits : Edits .named
        (fun placeholder => (tokenText? text? ⟨placeholder, [], 0⟩).isSome) 0 template edits :=
      hedits
    have hall := replaceAll_splice hseparated.grouped (by decide) (by decide) (by decide)
      (edits_nil .indexed 0 template) hedits (by simp) hplain (.nil hedits (by decide))
    simpa using hall
  have hfilled : ∀ edit ∈ fillEdits c x (textEdits text? (Token.ofFamily .named template)),
      '{' ∉ edit.2 := by
    intro edit hmem hopen
    obtain ⟨source, hsource, rfl⟩ := List.mem_map.mp hmem
    exact (mem_of_mem_fill hopen).elim (hplain source hsource) hx
  rw [hpass _ (by simp [fillEdits]) hfilled, hpass _ rfl hplain, splice_fill htemplate]

/-- If filling in completes no token, what tokens are replaced by is filled in afterwards. -/
theorem replaceAll_textEdits_fill {template : Text} {p : Text → Prop}
    (hentries : s.registry.Texts p) (hx : x.Plain) (hc : Text.Plain [c])
    (htemplate : c ∉ template) (h : CompletesNone s env template key x c) :
    replaceAll (fillEdits c x (textEdits (boundText? s.registry key [c])
        (Token.ofFamily .named template))) template =
      fill c x (replaceAll (textEdits (boundText? s.registry key [c])
        (Token.ofFamily .named template)) template) := by
  have hc : c ≠ '{' ∧ c ≠ '}' := by simp_all [Text.Plain, eq_comm]
  have hpass := @replaceAll_fill x template c (textEdits (boundText? s.registry key [c])
    (Token.ofFamily .named template)) hx.1 hx.2.1 hc.1 hc.2 ?_ ?_
  · rwa [fill_of_not_mem htemplate] at hpass
  · intro edit hedit
    obtain ⟨token, hmem, hedit⟩ := List.mem_filterMap.mp hedit
    obtain ⟨text, -, rfl⟩ := Option.map_eq_some_iff.mp hedit
    obtain ⟨body, -, hraw, -⟩ := Token.spelled_of_mem_scan (by decide) hmem
    refine ⟨body, hraw, fun hbody => htemplate ?_⟩
    refine ((Token.located_scan .named 0 template).raw_occurs hmem).subset ?_
    rw [hraw]
    exact List.mem_cons_of_mem _ (List.mem_append_left _ hbody)
  · intro done edit later hedits body hbody
    obtain ⟨before, behind, htokens, rfl, hbehind⟩ := List.filterMap_eq_append_iff.mp hedits
    obtain ⟨skipped, token, behind', rfl, hskipped, htoken, -⟩ :=
      List.filterMap_eq_cons_iff.mp hbehind
    obtain ⟨text, htext, rfl⟩ := Option.map_eq_some_iff.mp htoken
    have hsame : textEdits (boundText? s.registry key [c]) (before ++ skipped) =
        textEdits (boundText? s.registry key [c]) before := by
      rw [textEdits, List.filterMap_append, List.filterMap_eq_nil_iff.mpr hskipped,
        List.append_nil]
      rfl
    have htokens : Token.ofFamily .named template =
        (before ++ skipped) ++ token :: behind' := by
      rw [htokens, List.append_assoc]
    have hrun := substituteAll_of_texts env [] (lookup_bind hentries key [c]) htokens
    refine h _ token _ htokens ?_ _ (s.bind key [c]) ?_ body hbody
    · rw [namedText?_of_texts (lookup_bind hentries key [c]), htext]
      rfl
    · rw [hrun, hsame]
      rfl

/-- **A value does not decide what happens to other placeholders**, unless it completes one of
them. In a template without `#`, with names bound to texts without braces and `#`, binding a
further name to such a text comes to the same as binding it to a marker and filling in the text
afterwards. This needs one of three things: the braces of the template are separated, or the
text occurs in no token that stands for something and stands behind a token of the name, or at
least filling it in completes none of the tokens. -/
theorem expand_bind_eq_fill (s : Session σ) (env : Environment) (template key x : Text)
    (c : Char) (hhash : '#' ∉ template) (hentries : s.registry.Texts fun t => t.Plain ∧ c ∉ t)
    (hlayout : ∀ token ∈ Token.ofFamily .named template, ∀ index layout,
      token.placeholder = .named key index layout → layout.width = none ∧ layout.limit = none)
    (hx : x.Plain) (hc : Text.Plain [c]) (hspace : c ≠ ' ') (htemplate : c ∉ template)
    (hsafe : Separated template ∨
      (∀ before token later, Token.ofFamily .named template = before ++ token :: later →
        token.key? = some key → ∀ other ∈ later,
          (namedText? env (lookup ∅ (s.bind key [c]).registry) [] other).isSome →
            ¬ x <:+: other.raw) ∨
      CompletesNone s env template key x c) :
    ∃ out, (s.bind key [c]).expand env template ∅ [] = (.ok out, s.bind key [c]) ∧
      (s.bind key x).expand env template ∅ [] = (.ok (fill c x out), s.bind key x) ∧
      s.expand env template ((∅ : NamedValues σ).insert key (.value (.str [c]))) [] =
        (.ok out, s) ∧
      s.expand env template ((∅ : NamedValues σ).insert key (.value (.str x))) [] =
        (.ok (fill c x out), s) := by
  -- Neither text brings a `{` or a `#` along.
  have hclean : ∀ d u, d ∉ u → d ≠ ' ' → (s.registry.Texts fun t => d ∉ t) →
      ∀ edit ∈ textEdits (boundText? s.registry key u) (Token.ofFamily .named template),
        d ∉ edit.2 := fun d u hu hspace htexts edit hedit hmem =>
    hu (key?_of_mem_textEdits htexts hspace hedit hmem).2.2
  have hdecoded : ∀ u, '#' ∉ u →
      decodeEscapes (replaceAll (textEdits (boundText? s.registry key u)
        (Token.ofFamily .named template)) template) =
      replaceAll (textEdits (boundText? s.registry key u)
        (Token.ofFamily .named template)) template := fun u hu =>
    decodeEscapes_eq_self fun hmem =>
      (mem_replaceAll hmem).elim hhash fun ⟨edit, hedit, hmem⟩ =>
        hclean '#' u hu (by decide) (hentries.mono fun _ h => h.1.2.2) edit hedit hmem
  have hfill : replaceAll (textEdits (boundText? s.registry key x)
        (Token.ofFamily .named template)) template =
      fill c x (replaceAll (textEdits (boundText? s.registry key [c])
        (Token.ofFamily .named template)) template) := by
    rw [textEdits_fill hentries hlayout hspace]
    rcases hsafe with hseparated | hlater | hnone
    · exact replaceAll_textEdits_fill_of_separated hseparated htemplate _
        (hclean '{' [c] hc.1 (by decide) (hentries.mono fun _ h => h.1.1)) hx.1
    · exact replaceAll_textEdits_fill hentries hx hc htemplate
        (completesNone_of_not_inside hentries hspace htemplate hlater)
    · exact replaceAll_textEdits_fill hentries hx hc htemplate hnone
  refine ⟨replaceAll (textEdits (boundText? s.registry key [c])
    (Token.ofFamily .named template)) template, ?_, ?_, ?_, ?_⟩
  · rw [expand_of_texts (lookup_bind hentries key [c]), hdecoded _ hc.2.2]
  · rw [expand_of_texts (lookup_bind hentries key x), hdecoded _ hx.2.2, hfill]
  · rw [expand_of_texts (lookup_insert hentries key [c]), hdecoded _ hc.2.2]
  · rw [expand_of_texts (lookup_insert hentries key x), hdecoded _ hx.2.2, hfill]

/-! ### A value between further braces -/

/-- A template with a token between further braces and another token behind it. -/
def wrappedTemplate : Text := "\x7b{B}\x7d{A}".toList

/-- The named tokens of the template, the outer braces apart. -/
theorem ofFamily_wrappedTemplate : Token.ofFamily .named wrappedTemplate =
    [⟨.named "B".toList none .plain, "{B}".toList, 1⟩,
      ⟨.named "A".toList none .plain, "{A}".toList, 5⟩] := by
  decide +kernel

/-- The registry of the small session binds plain texts without the marker. -/
theorem texts_small : Session.small.registry.Texts fun t => t.Plain ∧ '*' ∉ t := by
  intro name e hentry
  rw [Session.small, Registry.resolve?_register] at hentry
  split at hentry
  · obtain rfl := Option.some.inj hentry
    exact ⟨"x".toList, rfl, by decide⟩
  · simp [Registry.resolve?, Registry.empty] at hentry

/-- The token that is bound has neither a width nor a limit. -/
theorem plain_wrappedTemplate : ∀ token ∈ Token.ofFamily .named wrappedTemplate,
    ∀ index layout, token.placeholder = .named "B".toList index layout →
      layout.width = none ∧ layout.limit = none := by
  rw [ofFamily_wrappedTemplate]
  intro token hmem index layout htoken
  simp only [List.mem_cons, List.not_mem_nil, or_false] at hmem
  rcases hmem with rfl | rfl <;> simp_all [Layout.plain, eq_comm]

/-- A value that does not occur in the token behind. -/
theorem expand_bind_eq_fill_wrapped :
    (Session.small.bind "B".toList "y".toList).expand .still wrappedTemplate ∅ [] =
      (.ok "\x7by\x7dx".toList, Session.small.bind "B".toList "y".toList) := by
  have hbehind : ∀ before token later,
      Token.ofFamily .named wrappedTemplate = before ++ token :: later →
      token.key? = some "B".toList → ∀ other ∈ later, ¬ "y".toList <:+: other.raw := by
    rw [ofFamily_wrappedTemplate]
    intro before token later htokens _ other hmem
    rcases before with _ | ⟨first, before⟩
    · rw [List.nil_append, List.cons.injEq] at htokens
      obtain rfl := List.mem_singleton.mp (htokens.2 ▸ hmem)
      decide
    · have hlength := congrArg List.length htokens
      have hpos := List.length_pos_of_mem hmem
      simp only [List.length_cons, List.length_append, List.length_nil] at hlength
      omega
  obtain ⟨out, hmarked, hfilled, -, -⟩ := expand_bind_eq_fill .small .still wrappedTemplate
    "B".toList "y".toList '*' (by decide) texts_small plain_wrappedTemplate (by decide)
    (by decide) (by decide) (by decide)
    (Or.inr (Or.inl fun before token later htokens hkey other hmem _ =>
      hbehind before token later htokens hkey other hmem))
  have hout : (Session.small.bind "B".toList ['*']).expand .still wrappedTemplate ∅ [] =
      (.ok "\x7b*\x7dx".toList, Session.small.bind "B".toList ['*']) := by
    cbv
  rw [hout, Prod.mk.injEq, Except.ok.injEq] at hmarked
  rw [hfilled, ← hmarked.1]
  rfl

/-- A value that completes the token behind takes its replacement. -/
theorem value_completes_token :
    '#' ∉ wrappedTemplate ∧ (Session.small.registry.Texts fun t => t.Plain ∧ '*' ∉ t) ∧
    (∀ token ∈ Token.ofFamily .named wrappedTemplate, ∀ index layout,
      token.placeholder = .named "B".toList index layout →
        layout.width = none ∧ layout.limit = none) ∧
    Text.Plain "A".toList ∧ Text.Plain ['*'] ∧ '*' ≠ ' ' ∧ '*' ∉ wrappedTemplate ∧
    (Session.small.bind "B".toList ['*']).expand .still wrappedTemplate ∅ [] =
      (.ok "\x7b*\x7dx".toList, Session.small.bind "B".toList ['*']) ∧
    (Session.small.bind "B".toList "A".toList).expand .still wrappedTemplate ∅ [] =
      (.ok "x{A}".toList, Session.small.bind "B".toList "A".toList) ∧
    fill '*' "A".toList "\x7b*\x7dx".toList = "{A}x".toList ∧
      "{A}x".toList ≠ "x{A}".toList := by
  refine ⟨by decide, texts_small, plain_wrappedTemplate, by decide, by decide, by decide,
    by decide, by cbv, by cbv, by decide, by decide⟩

end Stencil
