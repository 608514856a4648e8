import Mathlib
import Stencil.Proofs.Expansion.Evaluation

/-!
# Tokens that stand for nothing

An expansion passes over the tokens that stand for nothing, yet their texts are not safe: the
text of another token may stand in the text of such a token, and it is replaced wherever it
occurs first. Each replacement costs a text one occurrence at most, and none unless one of the
two texts ends the other. So a text is lost only to rivals that endanger it, and to each of
them only once.

## Main definitions

* `Stencil.Token.endangers`: whether the text of a token can stand in the way of another text.
* `Stencil.Token.rivals`: the tokens whose replacement may reach tokens with a given text.

## Main results

* `occurrences_le_replaceAll`: what replacements cost a text.
* `unresolved_le_occurrences`: what is left of the tokens that stand for nothing.
-/

namespace Stencil

open Text

variable {σ : Type} {text? : Token → Option (Action σ Text)} {tokens : List Token}
  {edits : List (Token × Text)} {token : Token} {raw t working out : Text}

/-! ### Costs -/

/-- Replacing the texts of tokens costs a text one occurrence at most for each token whose text
ends it or is ended by it. -/
theorem occurrences_le_replaceAll (hraw : Closed raw)
    (hclosed : ∀ edit ∈ edits, Closed edit.1.raw) (working : Text) :
    occurrences raw working ≤ occurrences raw (replaceAll edits working) +
      (edits.map Prod.fst).countP fun token => raw <:+ token.raw ∨ token.raw <:+ raw := by
  induction edits generalizing working with
  | nil => simp
  | cons edit edits ih =>
    obtain ⟨token, text⟩ := edit
    rw [List.forall_mem_cons] at hclosed
    have hrest := ih hclosed.2 (replaceFirst token.raw text working)
    rw [replaceAll_cons, List.map_cons, List.countP_cons]
    cases hcut : cutAround token.raw working with
    | none =>
      rw [replaceFirst_of_cutAround_eq_none hcut] at hrest ⊢
      omega
    | some found =>
      obtain ⟨before, after⟩ := found
      have hstep := hraw.occurrences_le_replaced hclosed.1 before text after
      rw [← cutAround_eq_some hcut, ← replaceFirst_of_cutAround hcut] at hstep
      simp only [decide_eq_true_eq] at hstep ⊢
      omega

/-- Replacing some of the tokens that stand for something costs no more than replacing all. -/
theorem occurrences_le_of_sublist {resolved : Token → Bool} (hraw : Closed raw)
    (hclosed : ∀ token ∈ tokens, Closed token.raw)
    (h : (edits.map Prod.fst).Sublist (tokens.filter resolved)) (working : Text) :
    occurrences raw working ≤ occurrences raw (replaceAll edits working) +
      tokens.countP fun token =>
        (raw <:+ token.raw ∨ token.raw <:+ raw : Bool) && resolved token := by
  have hedits : ∀ edit ∈ edits, Closed edit.1.raw := fun edit hmem =>
    hclosed edit.1 (List.mem_filter.mp (h.subset (List.mem_map_of_mem hmem))).1
  have hcost := occurrences_le_replaceAll hraw hedits working
  rw [← List.countP_filter]
  exact hcost.trans (Nat.add_le_add_left h.countP_le _)

/-- A text occurs once at least for each of the tokens in order that ends with it. -/
theorem countP_le_occurrences (hraw : Closed raw) (h : Token.InOrder t tokens) :
    tokens.countP (fun token => raw <:+ token.raw) ≤ occurrences raw t := by
  induction h with
  | nil => simp
  | @cons gap rest token tokens _ ih =>
    have hfirst : (if raw <:+ token.raw then 1 else 0) ≤ occurrences raw token.raw := by
      split
      · next hend => exact occurrences_pos_iff.mpr hend.isInfix
      · exact Nat.zero_le _
    have hgap := add_occurrences_le_append hraw.ne_nil gap (token.raw ++ rest)
    have hrest := add_occurrences_le_append hraw.ne_nil token.raw rest
    rw [List.countP_cons]
    simp only [decide_eq_true_eq]
    omega

/-! ### Tokens in danger -/

/-- Whether a token stands for something in an expansion. -/
def resolves (env : Environment) (lookup : Text → Option (Expander σ)) (args : List Value)
    (token : Token) : Bool :=
  (namedText? env lookup args token).isSome ||
    (indexedText? args token : Option (Action σ Text)).isSome

/-- A named token resolves exactly if it is replaced by something. -/
theorem resolves_of_named {env : Environment} {lookup : Text → Option (Expander σ)}
    {args : List Value} (h : token.family = .named) :
    resolves env lookup args token = (namedText? env lookup args token).isSome := by
  obtain ⟨placeholder, raw, offset⟩ := token
  cases placeholder <;> simp_all [resolves, indexedText?, Token.family, Placeholder.family]

/-- An indexed token resolves exactly if it is replaced by something. -/
theorem resolves_of_indexed {env : Environment} {lookup : Text → Option (Expander σ)}
    {args : List Value} (h : token.family = .indexed) :
    resolves env lookup args token =
      (indexedText? args token : Option (Action σ Text)).isSome := by
  obtain ⟨placeholder, raw, offset⟩ := token
  cases placeholder <;> simp_all [resolves, namedText?, Token.family, Placeholder.family]

/-- A token **endangers** the tokens of a family with text `raw` if its own text occurs in
`raw`, or if it belongs to another family and `raw` occurs in its text. -/
def Token.endangers (family : Family) (raw : Text) (token : Token) : Bool :=
  token.raw <:+: raw ∨ (token.family ≠ family ∧ raw <:+: token.raw)

/-- The **rivals** of the tokens of a family with text `raw`: those whose replacement may reach
them. A named token in front of the first named token with that text is no rival, since at its
turn its own text still stands in front of theirs. -/
def Token.rivals (family : Family) (raw template : Text) : List Token :=
  match family with
  | .named =>
    (Token.ofFamily .named template).dropWhile (·.raw ≠ raw) ++
      Token.ofFamily .indexed template
  | .indexed | .hex => Token.ofFamily .named template ++ Token.ofFamily .indexed template

/-- Two counts together are bounded by two others if they are for each element. -/
theorem countP_add_le_countP_add {α : Type} {p q p' q' : α → Bool} {l : List α}
    (h : ∀ a ∈ l, (p a).toNat + (q a).toNat ≤ (p' a).toNat + (q' a).toNat) :
    l.countP p + l.countP q ≤ l.countP p' + l.countP q' := by
  induction l with
  | nil => simp
  | cons a l ih =>
    rw [List.forall_mem_cons] at h
    have hcons : ∀ r : α → Bool, (a :: l).countP r = l.countP r + (r a).toNat := fun r => by
      rw [List.countP_cons]
      cases r a <;> rfl
    have hrest := ih h.2
    rw [hcons, hcons, hcons, hcons]
    omega

/-- Tokens of other families are replaced at the cost of those they endanger. -/
theorem countP_other_le {family other : Family} (hne : other ≠ family)
    (resolved : Token → Bool) (raw t : Text) :
    (Token.ofFamily other t).countP (fun token =>
        (raw <:+ token.raw ∨ token.raw <:+ raw : Bool) && resolved token) ≤
      (Token.ofFamily other t).countP fun token =>
        resolved token && token.endangers family raw := by
  refine List.countP_mono_left fun token hmem htoken => ?_
  simp only [Bool.and_eq_true, decide_eq_true_eq, Token.endangers] at htoken ⊢
  obtain ⟨hend, hresolved⟩ := htoken
  refine ⟨hresolved, ?_⟩
  rcases hend with hend | hend
  · exact Or.inr ⟨Token.family_of_mem_scan hmem ▸ hne, hend.isInfix⟩
  · exact Or.inl hend.isInfix

/-- Tokens of the same family that end with a text are replaced at no cost to the others: each
of them holds an occurrence of its own. -/
theorem countP_same_le {family : Family} (resolved : Token → Bool) (raw : Text) :
    tokens.countP (fun token => token.raw = raw && !resolved token) +
        tokens.countP (fun token =>
          (raw <:+ token.raw ∨ token.raw <:+ raw : Bool) && resolved token) ≤
      tokens.countP (fun token => raw <:+ token.raw) +
        tokens.countP fun token => resolved token && token.endangers family raw := by
  refine countP_add_le_countP_add fun token _ => ?_
  cases resolved token with
  | true =>
    by_cases hraw : raw <:+ token.raw
    · simp [hraw]
    · by_cases hend : token.raw <:+ raw
      · simp [hend, Token.endangers, hend.isInfix]
      · simp [hraw, hend]
  | false =>
    by_cases hraw : token.raw = raw
    · simp [hraw]
    · simp [hraw]

/-! ### Expansion -/

variable {s s' : Session σ} {env : Environment} {template : Text} {named : NamedValues σ}
  {args : List Value}

/-- What an expansion costs a closed text from a place on up to which the first named tokens
have been replaced. These tokens cost nothing. -/
theorem exists_occurrences_le_expand {before later : List Token} (hraw : Closed raw)
    (hhash : '#' ∉ template)
    (hplain : ∀ names s', (evaluateAll (namedText? env (lookup named s.registry) args)
        (Token.ofFamily .named template)).run s = (.ok names, s') →
      ∀ edit ∈ names, '#' ∉ edit.2)
    (htokens : Token.ofFamily .named template = before ++ later)
    (hout : s.expand env template named args = (.ok out, s')) :
    ∃ front back, template = front ++ back ∧ Token.InOrder back later ∧
      (before = [] → front = []) ∧
      occurrences raw back ≤ occurrences raw out +
        (later ++ Token.ofFamily .indexed template).countP fun token =>
          (raw <:+ token.raw ∨ token.raw <:+ raw : Bool) &&
            resolves env (lookup named s.registry) args token := by
  rw [expand_eq, Action.run_bind_eq_ok_iff] at hout
  obtain ⟨names, s₁, hnames, hout⟩ := hout
  have hdecoded : decodeEscapes (replaceAll names template) = replaceAll names template := by
    refine decodeEscapes_eq_self fun hmem => ?_
    rcases mem_replaceAll hmem with hmem | ⟨edit, hedit, hmem⟩
    · exact hhash hmem
    · exact hplain names s₁ hnames edit hedit hmem
  rw [hdecoded] at hout
  obtain ⟨values, hvalues, rfl⟩ := exists_edits_of_substituteAll hout
  have hclosed : ∀ token ∈ before ++ later, Closed token.raw := fun token hmem =>
    closed_of_mem_ofFamily (by decide) (htokens ▸ hmem)
  have hfamily : ∀ token ∈ before ++ later, token.family = .named := fun token hmem =>
    Token.family_of_mem_scan (htokens ▸ hmem)
  -- The texts for the first named tokens and those for the others.
  have hnames := evaluateAll_tokens hnames
  rw [htokens, List.filter_congr fun token hmem =>
    (resolves_of_named (hfamily token hmem)).symm,
    List.filter_append, List.map_eq_append_iff] at hnames
  obtain ⟨firsts, others, rfl, hfirsts, hothers⟩ := hnames
  have hsuffix : ∃ front back kept, template = front ++ back ∧ Token.InOrder back later ∧
      (before = [] → front = []) ∧ replaceAll firsts template = kept ++ back := by
    cases before with
    | nil =>
      obtain rfl : firsts = [] := by simpa using hfirsts
      rw [List.nil_append] at htokens
      exact ⟨[], template, [], rfl, htokens ▸ (Token.located_scan .named 0 template).inOrder,
        fun _ => rfl, rfl⟩
    | cons first before =>
      have hlocated : Token.Located 0 template (first :: before ++ later) :=
        htokens ▸ Token.located_scan .named 0 template
      obtain ⟨front, back, kept, htemplate, hback, hkept⟩ :=
        exists_replaceAll_eq_append hlocated
        (fun token hmem => hclosed token (List.mem_append_left later hmem))
        (by rw [hfirsts]; exact List.filter_sublist) []
      exact ⟨front, back, kept, htemplate, hback.inOrder, fun h => by contradiction, hkept⟩
  obtain ⟨front, back, kept, htemplate, hback, hfront, hkept⟩ := hsuffix
  refine ⟨front, back, htemplate, hback, hfront, ?_⟩
  have hindexed : (values.map Prod.fst).Sublist ((Token.ofFamily .indexed template).filter
      (resolves env (lookup named s.registry) args)) := by
    refine (List.filter_congr fun token hmem => ?_) ▸ hvalues
    exact (resolves_of_indexed (Token.family_of_mem_scan hmem)).symm
  have hstart := add_occurrences_le_append hraw.ne_nil kept back
  have hfirst := occurrences_le_of_sublist hraw
    (fun token hmem => hclosed token (List.mem_append_right before hmem))
    (by rw [hothers]) (kept ++ back)
  have hsecond := occurrences_le_of_sublist hraw
    (fun token hmem => closed_of_mem_ofFamily (by decide) hmem) hindexed
    (replaceAll (firsts ++ others) template)
  rw [replaceAll_append, hkept] at hsecond ⊢
  rw [List.countP_append]
  omega

/-- **What is left of the tokens that stand for nothing.** In a template without `#`, with
texts for named tokens that have none either, an expansion leaves the text of a named or
indexed token that stands for nothing as often as there are such tokens, apart from one
occurrence at most for each of their rivals that stands for something and endangers it. -/
theorem unresolved_le_occurrences (s s' : Session σ) (env : Environment) (template : Text)
    (named : NamedValues σ) (args : List Value) (out raw : Text) (family : Family)
    (hhash : '#' ∉ template)
    (hplain : ∀ names s', (evaluateAll (namedText? env (lookup named s.registry) args)
        (Token.ofFamily .named template)).run s = (.ok names, s') →
      ∀ edit ∈ names, '#' ∉ edit.2)
    (hfamily : family ≠ .hex) (hout : s.expand env template named args = (.ok out, s')) :
    (Token.ofFamily family template).countP (fun token =>
        token.raw = raw && !resolves env (lookup named s.registry) args token) ≤
      occurrences raw out +
        (Token.rivals family raw template).countP fun token =>
          resolves env (lookup named s.registry) args token && token.endangers family raw := by
  rcases Nat.eq_zero_or_pos ((Token.ofFamily family template).countP fun token =>
    token.raw = raw && !resolves env (lookup named s.registry) args token) with hzero | hpos
  · omega
  obtain ⟨token, hmem, htoken⟩ := List.countP_pos_iff.mp hpos
  obtain rfl : token.raw = raw := by simp_all
  have hraw : Closed token.raw := closed_of_mem_ofFamily hfamily hmem
  cases family with
  | hex => exact absurd rfl hfamily
  | named =>
    -- No token with this text stands in front of the first of them.
    have htokens := (List.takeWhile_append_dropWhile
      (p := (·.raw ≠ token.raw)) (l := Token.ofFamily .named template)).symm
    have hbefore : ((Token.ofFamily .named template).takeWhile (·.raw ≠ token.raw)).countP
        (fun other => other.raw = token.raw &&
          !resolves env (lookup named s.registry) args other) = 0 := by
      refine List.countP_eq_zero.mpr fun other hother => ?_
      have hne : other.raw ≠ token.raw := by simpa using List.mem_takeWhile_imp hother
      simp [hne]
    obtain ⟨front, back, -, hback, -, hcost⟩ :=
      exists_occurrences_le_expand hraw hhash hplain htokens hout
    have hown := countP_le_occurrences hraw hback
    have hsame :=
      @countP_same_le ((Token.ofFamily .named template).dropWhile (·.raw ≠ token.raw))
      .named (resolves env (lookup named s.registry) args) token.raw
    have hother := @countP_other_le .named .indexed (by decide)
      (resolves env (lookup named s.registry) args) token.raw template
    rw [htokens, List.countP_append, hbefore, Token.rivals, List.countP_append]
    rw [List.countP_append] at hcost
    omega
  | indexed =>
    obtain ⟨front, back, htemplate, -, hfront, hcost⟩ :=
      exists_occurrences_le_expand hraw hhash hplain (List.nil_append _).symm hout
    obtain rfl : template = back := by rw [htemplate, hfront rfl, List.nil_append]
    have hown :
        (Token.ofFamily .indexed template).countP (fun other => token.raw <:+ other.raw) ≤
          occurrences token.raw template :=
      countP_le_occurrences hraw (Token.located_scan .indexed 0 template).inOrder
    have hsame := @countP_same_le (Token.ofFamily .indexed template) .indexed
      (resolves env (lookup named s.registry) args) token.raw
    have hother := @countP_other_le .indexed .named (by decide)
      (resolves env (lookup named s.registry) args) token.raw template
    rw [Token.rivals, List.countP_append]
    rw [List.countP_append] at hcost
    omega

/-- Two tokens that stand for nothing, on both sides of one that endangers neither. -/
theorem unresolved_le_occurrences_twice :
    Session.small.expand .still "{U}{A}{U}".toList ∅ [] = (.ok "{U}x{U}".toList, .small) ∧
      2 ≤ occurrences "{U}".toList "{U}x{U}".toList := by
  have hout : Session.small.expand .still "{U}{A}{U}".toList ∅ [] =
      (.ok "{U}x{U}".toList, .small) := by
    cbv
  refine ⟨hout, ?_⟩
  have hnames : (evaluateAll (namedText? .still (lookup ∅ Session.small.registry) [])
      (Token.ofFamily .named "{U}{A}{U}".toList)).run .small =
      (.ok [(⟨.named "A".toList none .plain, "{A}".toList, 3⟩, "x".toList)], .small) := by
    cbv
  have hleft := unresolved_le_occurrences _ _ _ _ _ _ _ "{U}".toList .named (by decide)
    (fun names s' h => by
      rw [hnames] at h
      obtain ⟨rfl, -⟩ : [_] = names ∧ _ = s' := by simpa using h
      decide) (by decide) hout
  have hcount : (Token.ofFamily .named "{U}{A}{U}".toList).countP (fun token =>
      token.raw = "{U}".toList &&
        !resolves .still (lookup ∅ Session.small.registry) [] token) = 2 := by
    cbv
  have hsafe : (Token.rivals .named "{U}".toList "{U}{A}{U}".toList).countP (fun token =>
        resolves .still (lookup ∅ Session.small.registry) [] token &&
          token.endangers .named "{U}".toList) = 0 := by
    cbv
  omega

/-- A token that stands for nothing loses its text to a token behind it, whose text occurs in
it first. -/
theorem unresolved_text_lost :
    '#' ∉ nestedTemplate ∧
    (∀ names s', (evaluateAll (namedText? .still (lookup ∅ Session.small.registry) [])
        (Token.ofFamily .named nestedTemplate)).run .small = (.ok names, s') →
      ∀ edit ∈ names, '{' ∉ edit.2 ∧ '}' ∉ edit.2 ∧ '#' ∉ edit.2) ∧
    Session.small.expand .still nestedTemplate ∅ [] = (.ok ('{' :: "U:x{A}".toList), .small) ∧
    (Token.ofFamily .named nestedTemplate).countP (fun token =>
      token.raw = '{' :: "U:{A}".toList &&
        !resolves .still (lookup ∅ Session.small.registry) [] token) = 1 ∧
    occurrences ('{' :: "U:{A}".toList) ('{' :: "U:x{A}".toList) = 0 := by
  have hnames : (evaluateAll (namedText? .still (lookup ∅ Session.small.registry) [])
      (Token.ofFamily .named nestedTemplate)).run .small =
      (.ok [(⟨.named "A".toList none .plain, "{A}".toList, 6⟩, "x".toList)], .small) := by
    cbv
  refine ⟨by decide, fun names s' h => ?_, by cbv, by cbv, by decide⟩
  rw [hnames] at h
  obtain ⟨rfl, -⟩ : [_] = names ∧ _ = s' := by simpa using h
  decide

end Stencil
