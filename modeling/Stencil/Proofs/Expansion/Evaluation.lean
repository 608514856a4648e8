import Mathlib
import Stencil.Proofs.Expansion.Escape
import Stencil.Proofs.Placeholder.Tokens

/-!
# Evaluation and replacement

Substituting tokens one after the other mixes two things: evaluating what the tokens stand for,
which may fail and may change the session, and replacing texts, which does neither. While the
working text still ends with the part of the template in which the remaining tokens stand, no
token can be missed, so the two come apart: all evaluations first, all replacements afterwards.

## Main definitions

* `Stencil.evaluateAll`: what tokens stand for, evaluated from left to right.
* `Stencil.replaceAll`: the first occurrences of the tokens' texts replaced one after the
  other.

## Main results

* `substituteAll_eq_replaceAll`: substitution is evaluation followed by replacement.
* `expand_evaluates_named_once`: the named tokens of every expansion.
-/

namespace Stencil

open Text

variable {σ : Type}

/-! ### Runs -/

namespace Action

variable {α β : Type} {act : Action σ α} {f : α → Action σ β} {s s' : Session σ} {a : α}
  {e : ExpandError}

/-- The outcome of a computation and the session after it. -/
def run (act : Action σ α) (s : Session σ) : ExpandResult α × Session σ := act s

@[simp] theorem run_pure (a : α) (s : Session σ) : run (pure a) s = (.ok a, s) := rfl

/-- After a step that succeeds, the next one works on the session that it leaves. -/
theorem run_bind_of_ok (h : run act s = (.ok a, s')) : run (act >>= f) s = run (f a) s' := by
  change StateT.bind act (ExceptT.bindCont f) s = _
  rw [StateT.bind, show act s = (.ok a, s') from h]
  rfl

/-- After a step that fails, nothing else takes place. -/
theorem run_bind_of_error (h : run act s = (.error e, s')) :
    run (act >>= f) s = (.error e, s') := by
  change StateT.bind act (ExceptT.bindCont f) s = _
  rw [StateT.bind, show act s = (.error e, s') from h]
  rfl

/-- A sequence of two steps succeeds exactly if both do. -/
theorem run_bind_eq_ok_iff {b : β} {s'' : Session σ} :
    run (act >>= f) s = (.ok b, s'') ↔
      ∃ a s', run act s = (.ok a, s') ∧ run (f a) s' = (.ok b, s'') := by
  rcases h : run act s with ⟨e | a, s'⟩
  · rw [run_bind_of_error h]
    simp
  · rw [run_bind_of_ok h]
    simp

/-- A mapped result leaves the session as it is, too. -/
@[simp] theorem run_map_ofResult (g : α → β) (r : ExpandResult α) (s : Session σ) :
    run (g <$> .ofResult r) s = (g <$> r, s) := by
  cases r <;> rfl

/-- A mapped computation succeeds exactly if the computation does. -/
theorem run_map_eq_ok_iff {g : α → β} {b : β} :
    run (g <$> act) s = (.ok b, s') ↔ ∃ a, run act s = (.ok a, s') ∧ g a = b := by
  rw [map_eq_pure_bind, run_bind_eq_ok_iff]
  simp only [run_pure, Prod.mk.injEq, Except.ok.injEq]
  constructor
  · rintro ⟨a, _, hact, hb, rfl⟩
    exact ⟨a, hact, hb⟩
  · rintro ⟨a, hact, hb⟩
    exact ⟨a, s', hact, hb, rfl⟩

end Action

/-! ### Steps of a substitution -/

variable {text? : Token → Option (Action σ Text)} {token : Token}
  {tokens done later : List Token} {replacement : Action σ Text} {working x t : Text}
  {edits : List (Token × Text)} {offset : Nat}

@[simp] theorem substituteAll_nil (text? : Token → Option (Action σ Text)) (working : Text) :
    substituteAll text? [] working = pure working := rfl

/-- A token that stands for nothing is passed over. -/
theorem substituteAll_cons_of_none (h : text? token = none) (tokens : List Token)
    (working : Text) :
    substituteAll text? (token :: tokens) working = substituteAll text? tokens working := by
  rw [substituteAll, List.foldlM_cons, h]
  exact pure_bind working _

/-- A token that stands for something is substituted before the others. -/
theorem substituteAll_cons_of_some (h : text? token = some replacement) (tokens : List Token)
    (working : Text) :
    substituteAll text? (token :: tokens) working =
      substitute token.raw replacement working >>= substituteAll text? tokens := by
  rw [substituteAll, List.foldlM_cons, h]
  rfl

/-- Tokens that stand for nothing leave the working text alone. -/
theorem substituteAll_of_none (h : ∀ token ∈ tokens, text? token = none) (working : Text) :
    substituteAll text? tokens working = pure working := by
  induction tokens with
  | nil => rfl
  | cons token tokens ih =>
    rw [List.forall_mem_cons] at h
    rw [substituteAll_cons_of_none h.1, ih h.2]

/-- Without arguments indexed tokens stand for nothing. -/
@[simp] theorem indexedText?_nil (token : Token) :
    (indexedText? [] token : Option (Action σ Text)) = none := by
  unfold indexedText?
  split <;> rfl

/-! ### Evaluation and replacement -/

/-- What tokens stand for, evaluated from left to right up to the first failure. Tokens that
stand for nothing are left out. -/
def evaluateAll (text? : Token → Option (Action σ Text)) :
    List Token → Action σ (List (Token × Text))
  | [] => pure []
  | token :: tokens =>
    match text? token with
    | none => evaluateAll text? tokens
    | some replacement => do
      let text ← replacement
      let others ← evaluateAll text? tokens
      pure ((token, text) :: others)

/-- A text with the first occurrence of `raw` replaced. -/
def replaceFirst (raw replacement working : Text) : Text :=
  match cutAround raw working with
  | none => working
  | some (before, after) => before ++ (replacement ++ after)

/-- A text with the first occurrences of the tokens' texts replaced one after the other. -/
def replaceAll (texts : List (Token × Text)) (working : Text) : Text :=
  texts.foldl (fun working (token, text) => replaceFirst token.raw text working) working

@[simp] theorem replaceAll_nil (working : Text) : replaceAll [] working = working := rfl

@[simp] theorem replaceAll_cons (token : Token) (text : Text) (texts : List (Token × Text))
    (working : Text) :
    replaceAll ((token, text) :: texts) working =
      replaceAll texts (replaceFirst token.raw text working) := rfl

/-- Edits may be made in two parts. -/
theorem replaceAll_append (texts others : List (Token × Text)) (working : Text) :
    replaceAll (texts ++ others) working = replaceAll others (replaceAll texts working) :=
  List.foldl_append

/-- A token that stands for nothing is passed over. -/
theorem evaluateAll_cons_of_none (h : text? token = none) (tokens : List Token) :
    evaluateAll text? (token :: tokens) = evaluateAll text? tokens := by
  rw [evaluateAll, h]

/-- A token that stands for something is evaluated before the others. -/
theorem evaluateAll_cons_of_some (h : text? token = some replacement) (tokens : List Token) :
    evaluateAll text? (token :: tokens) = (do
      let text ← replacement
      let others ← evaluateAll text? tokens
      pure ((token, text) :: others)) := by
  rw [evaluateAll, h]

/-- Where no token stands for anything, nothing is evaluated. -/
theorem evaluateAll_of_none (h : ∀ token ∈ tokens, text? token = none) :
    evaluateAll text? tokens = pure [] := by
  induction tokens with
  | nil => rfl
  | cons token tokens ih =>
    rw [List.forall_mem_cons] at h
    rw [evaluateAll_cons_of_none h.1, ih h.2]

/-- Exactly the tokens that stand for something are evaluated, each once and in order. -/
theorem evaluateAll_tokens {texts : List (Token × Text)} {s s' : Session σ}
    (h : (evaluateAll text? tokens).run s = (.ok texts, s')) :
    texts.map Prod.fst = tokens.filter fun token => (text? token).isSome := by
  induction tokens generalizing texts s s' with
  | nil =>
    simp only [evaluateAll, Action.run_pure, Prod.mk.injEq, Except.ok.injEq] at h
    simp [← h.1]
  | cons token tokens ih =>
    cases htext : text? token with
    | none =>
      rw [evaluateAll_cons_of_none htext] at h
      simp [htext, ih h]
    | some replacement =>
      rw [evaluateAll_cons_of_some htext, Action.run_bind_eq_ok_iff] at h
      obtain ⟨text, s₁, -, h⟩ := h
      rw [Action.run_bind_eq_ok_iff] at h
      obtain ⟨others, s₂, hothers, h⟩ := h
      simp only [Action.run_pure, Prod.mk.injEq, Except.ok.injEq] at h
      simp [← h.1, htext, ih hothers]

/-! ### The two come apart -/

variable {raw before after : Text}

/-- Where the text of a token is found, it gives way to the outcome. -/
theorem substitute_of_cutAround (h : cutAround raw working = some (before, after))
    (replacement : Action σ Text) :
    substitute raw replacement working =
      (fun text => before ++ (text ++ after)) <$> replacement := by
  rw [substitute, h]

/-- Where nothing is found, nothing is replaced. -/
theorem replaceFirst_of_cutAround_eq_none (h : cutAround raw working = none) (text : Text) :
    replaceFirst raw text working = working := by
  rw [replaceFirst, h]

/-- Where a text is found, its first occurrence is replaced. -/
theorem replaceFirst_of_cutAround (h : cutAround raw working = some (before, after))
    (text : Text) : replaceFirst raw text working = before ++ (text ++ after) := by
  rw [replaceFirst, h]

/-- A character comes from the text or from a replacement. -/
theorem mem_replaceAll {c : Char} (h : c ∈ replaceAll edits working) :
    c ∈ working ∨ ∃ edit ∈ edits, c ∈ edit.2 := by
  induction edits generalizing working with
  | nil => exact Or.inl h
  | cons edit edits ih =>
    obtain ⟨token, text⟩ := edit
    rw [replaceAll_cons] at h
    rcases ih h with h | ⟨edit, hmem, h⟩
    · cases hcut : cutAround token.raw working with
      | none =>
        rw [replaceFirst_of_cutAround_eq_none hcut] at h
        exact Or.inl h
      | some found =>
        obtain ⟨before, after⟩ := found
        rw [replaceFirst_of_cutAround hcut] at h
        rw [cutAround_eq_some hcut]
        simp only [List.mem_append] at h ⊢
        rcases h with h | h | h
        · exact Or.inl (Or.inl h)
        · exact Or.inr ⟨_, List.mem_cons_self, h⟩
        · exact Or.inl (Or.inr (Or.inr h))
    · exact Or.inr ⟨edit, List.mem_cons_of_mem _ hmem, h⟩

/-- **Evaluation first, replacement afterwards.** While the working text ends with the text in
which the tokens stand, each of them is found, whatever the others are replaced by. -/
theorem substituteAll_eq_replaceAll (text? : Token → Option (Action σ Text))
    (h : Token.InOrder t tokens) (hclosed : ∀ token ∈ tokens, Closed token.raw) (x : Text) :
    substituteAll text? tokens (x ++ t) =
      (fun texts => replaceAll texts (x ++ t)) <$> evaluateAll text? tokens := by
  induction h generalizing x with
  | nil => rfl
  | @cons gap rest token tokens _ ih =>
    have hraw : Closed token.raw := hclosed token List.mem_cons_self
    have ih := ih fun token hmem => hclosed token (List.mem_cons_of_mem _ hmem)
    rw [← List.append_assoc]
    cases htext : text? token with
    | none =>
      rw [substituteAll_cons_of_none htext, evaluateAll_cons_of_none htext,
        ← List.append_assoc]
      exact ih _
    | some replacement =>
      obtain ⟨front, kept, hcut⟩ := hraw.exists_cutAround (x ++ gap) rest
      rw [substituteAll_cons_of_some htext, evaluateAll_cons_of_some htext,
        substitute_of_cutAround hcut, map_eq_pure_bind, map_eq_pure_bind, bind_assoc,
        bind_assoc]
      refine bind_congr fun text => ?_
      have hfront : front ++ (text ++ (kept ++ rest)) = (front ++ text ++ kept) ++ rest := by
        simp
      rw [pure_bind, hfront, ih, map_eq_pure_bind, bind_assoc]
      refine bind_congr fun others => ?_
      rw [pure_bind, replaceAll_cons, replaceFirst_of_cutAround hcut, hfront]

/-- A substitution replaces the texts of some of the tokens that stand for something. -/
theorem exists_edits_of_substituteAll {s s' : Session σ}
    (h : (substituteAll text? tokens working).run s = (.ok out, s')) :
    ∃ edits, (edits.map Prod.fst).Sublist (tokens.filter fun token => (text? token).isSome) ∧
      out = replaceAll edits working := by
  induction tokens generalizing working s with
  | nil =>
    simp only [substituteAll_nil, Action.run_pure, Prod.mk.injEq, Except.ok.injEq] at h
    exact ⟨[], List.nil_sublist _, h.1.symm⟩
  | cons token tokens ih =>
    cases htext : text? token with
    | none =>
      rw [substituteAll_cons_of_none htext] at h
      obtain ⟨edits, hsub, hout⟩ := ih h
      exact ⟨edits, by simpa [htext] using hsub, hout⟩
    | some replacement =>
      rw [substituteAll_cons_of_some htext, Action.run_bind_eq_ok_iff] at h
      obtain ⟨next, s₁, hnext, h⟩ := h
      obtain ⟨edits, hsub, hout⟩ := ih h
      have hsub' : ((tokens.filter fun token => (text? token).isSome)).Sublist
          ((token :: tokens).filter fun token => (text? token).isSome) :=
        (List.sublist_cons_self token tokens).filter _
      cases hcut : cutAround token.raw working with
      | none =>
        rw [substitute, hcut, Action.run_pure, Prod.mk.injEq, Except.ok.injEq] at hnext
        exact ⟨edits, hsub.trans hsub', hnext.1 ▸ hout⟩
      | some found =>
        rw [substitute_of_cutAround hcut, Action.run_map_eq_ok_iff] at hnext
        obtain ⟨text, -, rfl⟩ := hnext
        refine ⟨(token, text) :: edits, ?_, ?_⟩
        · rw [List.map_cons, List.filter_cons_of_pos (by rw [htext]; rfl)]
          exact hsub.cons_cons token
        · rw [replaceAll_cons, replaceFirst_of_cutAround hcut, hout]

/-- **The suffix invariant.** After some of the first tokens have been replaced, the working
text still ends with the part of the text in which the other tokens stand. -/
theorem exists_replaceAll_eq_append (h : Token.Located offset t (done ++ later))
    (hclosed : ∀ token ∈ done, Closed token.raw) (hedits : (edits.map Prod.fst).Sublist done)
    (x : Text) :
    ∃ front back kept, t = front ++ back ∧ Token.Located (offset + front.utf8Size) back later ∧
      replaceAll edits (x ++ t) = kept ++ back := by
  induction done generalizing offset t x edits with
  | nil =>
    obtain rfl : edits = [] := by simpa using hedits
    exact ⟨[], t, x, rfl, h, rfl⟩
  | cons first done ih =>
    have hraw : Closed first.raw := hclosed first List.mem_cons_self
    have hdone : ∀ token ∈ done, Closed token.raw :=
      fun token hmem => hclosed token (List.mem_cons_of_mem _ hmem)
    cases h with
    | @cons _ gap rest _ _ hoffset hrest =>
      -- Whether the first token is replaced or not, the rest of the text stays at the end.
      have hstep : ∃ x' edits', (edits'.map Prod.fst).Sublist done ∧
          replaceAll edits (x ++ (gap ++ (first.raw ++ rest))) =
            replaceAll edits' (x' ++ rest) := by
        rcases List.sublist_cons_iff.mp hedits with hskip | ⟨tokens, htokens, hsub⟩
        · exact ⟨x ++ gap ++ first.raw, edits, hskip, by simp⟩
        · obtain ⟨⟨token, text⟩, edits', rfl, rfl, rfl⟩ := List.map_eq_cons_iff.mp htokens
          obtain ⟨front, kept, hcut⟩ := hraw.exists_cutAround (x ++ gap) rest
          refine ⟨front ++ text ++ kept, edits', hsub, ?_⟩
          rw [← List.append_assoc, replaceAll_cons, replaceFirst_of_cutAround hcut]
          simp
      obtain ⟨x', edits', hsub, hstep⟩ := hstep
      obtain ⟨front, back, kept, rfl, hback, hworking⟩ := ih hrest hdone hsub x'
      refine ⟨gap ++ (first.raw ++ front), back, kept, by simp, ?_, hstep.trans hworking⟩
      rw [utf8Size_append, utf8Size_append, ← Nat.add_assoc, ← Nat.add_assoc, ← hoffset]
      exact hback

/-! ### The named pass -/

/-- The tokens of a brace family have closed texts. -/
theorem closed_of_mem_ofFamily {family : Family} (hfamily : family ≠ .hex)
    (hmem : token ∈ Token.ofFamily family t) : Closed token.raw :=
  (Token.spelled_of_mem_scan hfamily hmem).closed

/-- Expansion with the evaluation of the named tokens brought to the front. A blank template
needs no case of its own, since it has no tokens and no escapes, and neither do missing
arguments. -/
theorem expand_eq (s : Session σ) (env : Environment) (template : Text) (named : NamedValues σ)
    (args : List Value) :
    s.expand env template named args = Action.run (do
      let texts ← evaluateAll (namedText? env (lookup named s.registry) args)
        (Token.ofFamily .named template)
      substituteAll (indexedText? args) (Token.ofFamily .indexed template)
        (decodeEscapes (replaceAll texts template))) s := by
  have hnamed := substituteAll_eq_replaceAll (namedText? env (lookup named s.registry) args)
    (Token.located_scan .named 0 template).inOrder
    (fun token hmem => closed_of_mem_ofFamily (by decide) hmem) []
  rw [List.nil_append] at hnamed
  by_cases htrim : template.trim = []
  · have hmem : ∀ c, isBlank c = false → c ∉ template := fun c hc hmem => by
      simp [isBlank_of_trim_eq_nil htrim hmem] at hc
    have htokens : ∀ family, family ≠ .hex → Token.ofFamily family template = [] :=
      fun _ hfamily => Token.ofFamily_eq_nil hfamily (hmem '{' (by decide))
    rw [htokens .named (by decide), htokens .indexed (by decide), Session.expand,
      Action.expand, if_pos htrim]
    simp only [evaluateAll, pure_bind, replaceAll_nil, substituteAll_nil,
      decodeEscapes_eq_self (hmem '#' (by decide))]
    rfl
  · rw [Session.expand, Action.expand, if_neg htrim]
    change Action.run (do
      let resolved ← substituteAll (namedText? env (lookup named s.registry) args)
        ((Token.ofText template).filter (·.family = .named)) template
      let decoded := decodeEscapes resolved
      if args = [] then pure decoded
      else
        substituteAll (indexedText? args)
          ((Token.ofText template).filter (·.family = .indexed)) decoded) s = _
    rw [Token.filter_family_ofText, Token.filter_family_ofText, Token.ofFamily, hnamed,
      map_eq_pure_bind, bind_assoc]
    simp only [pure_bind, Token.ofFamily]
    by_cases hargs : args = []
    · subst hargs
      simp only [if_true, substituteAll_of_none fun token _ => indexedText?_nil token]
    · simp only [hargs, if_false]

/-- **Every named token is evaluated once.** An expansion evaluates the named tokens of its
template that stand for something, each once and in order, before it does anything else. When a
token is reached, the working text still ends with the template from that token on, so the
token is found. Handlers of the caller's own may write any text and work on their own state as
they like, but they see neither the working text nor the bindings nor the counter, so an
evaluation cannot take another token away. -/
theorem expand_evaluates_named_once (s : Session σ) (env : Environment) (template : Text)
    (named : NamedValues σ) (args : List Value) :
    (s.expand env template named args = Action.run (do
      let texts ← evaluateAll (namedText? env (lookup named s.registry) args)
        (Token.ofFamily .named template)
      substituteAll (indexedText? args) (Token.ofFamily .indexed template)
        (decodeEscapes (replaceAll texts template))) s) ∧
    (∀ texts s', (evaluateAll (namedText? env (lookup named s.registry) args)
        (Token.ofFamily .named template)).run s = (.ok texts, s') →
      texts.map Prod.fst = (Token.ofFamily .named template).filter fun token =>
        (namedText? env (lookup named s.registry) args token).isSome) ∧
    ∀ done token later, Token.ofFamily .named template = done ++ token :: later →
      ∀ working s', (substituteAll (namedText? env (lookup named s.registry) args) done
          template).run s = (.ok working, s') →
        ∃ front back kept, template = front ++ back ∧ front.utf8Size = token.offset ∧
          token.raw <+: back ∧ working = kept ++ back ∧
            cutAround token.raw working ≠ none := by
  refine ⟨expand_eq s env template named args, fun texts s' => evaluateAll_tokens, ?_⟩
  intro done token later htokens working s' hrun
  have hlocated : Token.Located 0 template (done ++ token :: later) :=
    htokens ▸ Token.located_scan .named 0 template
  have hclosed : ∀ other ∈ done, Closed other.raw := fun other hmem =>
    closed_of_mem_ofFamily (by decide) (htokens ▸ List.mem_append_left _ hmem)
  obtain ⟨edits, hedits, rfl⟩ := exists_edits_of_substituteAll hrun
  obtain ⟨front, back, kept, hfront, hback, hworking⟩ := exists_replaceAll_eq_append hlocated
    hclosed (hedits.trans List.filter_sublist) []
  cases hback with
  | @cons _ gap rest _ _ hoffset _ =>
    have hsuffix : replaceAll edits template = (kept ++ gap) ++ (token.raw ++ rest) := by
      rw [List.append_assoc]
      exact hworking
    refine ⟨front ++ gap, token.raw ++ rest, kept ++ gap,
      by rw [hfront, List.append_assoc], ?_, List.prefix_append _ _, hsuffix, ?_⟩
    · rw [hoffset, utf8Size_append]
      omega
    · rw [Ne, cutAround_eq_none_iff, not_not, hsuffix]
      exact List.infix_append' (kept ++ gap) token.raw rest

/-! ### A small session -/

/-- Nothing to read but a clock that stands still. -/
def Environment.still : Environment := ⟨⟨0, 0, by decide⟩, fun _ => .utc, fun _ => none⟩

/-- A new session in which `A` is bound to the text `x`. -/
def Session.small : Session Unit :=
  ⟨Registry.empty.register "A".toList (.value (.str "x".toList)), ⟨0⟩, ()⟩

/-- A template in which the text of a token also ends the text of the token before it. -/
def nestedTemplate : Text := '{' :: "U:{A}{A}".toList

/-- The same with two bound tokens behind it. -/
def twiceTemplate : Text := '{' :: "U:{A}{A}{A}".toList

/-- The token of `A` at a byte. -/
def boundToken (offset : Nat) : Token := ⟨.named "A".toList none .plain, "{A}".toList, offset⟩

/-- Both bound tokens are evaluated, though the text of each of them stands in the unbound
token in front of them, which takes the first value. When the second one is reached, the
template from it on is what the working text ends with. -/
theorem expand_evaluates_named_once_nested :
    (evaluateAll (namedText? .still (lookup ∅ Session.small.registry) [])
        (Token.ofFamily .named twiceTemplate)).run .small =
      (.ok [(boundToken 6, "x".toList), (boundToken 9, "x".toList)], .small) ∧
    ((Token.ofFamily .named twiceTemplate).filter fun token =>
        (namedText? .still (lookup ∅ Session.small.registry) [] token).isSome) =
      [boundToken 6, boundToken 9] ∧
    Session.small.expand .still twiceTemplate ∅ [] = (.ok ('{' :: "U:xx{A}".toList), .small) ∧
    ∃ front back kept, twiceTemplate = front ++ back ∧ front.utf8Size = 9 ∧
      "{A}".toList <+: back ∧ '{' :: "U:x{A}{A}".toList = kept ++ back ∧
      cutAround "{A}".toList ('{' :: "U:x{A}{A}".toList) ≠ none := by
  have hevaluated : (evaluateAll (namedText? .still (lookup ∅ Session.small.registry) [])
        (Token.ofFamily .named twiceTemplate)).run .small =
      (.ok [(boundToken 6, "x".toList), (boundToken 9, "x".toList)], .small) := by
    cbv
  obtain ⟨hexpand, htokens, hsuffix⟩ :=
    expand_evaluates_named_once .small .still twiceTemplate ∅ []
  refine ⟨hevaluated, (htokens _ _ hevaluated).symm, ?_, ?_⟩
  · rw [hexpand, Action.run_bind_of_ok hevaluated]
    cbv
  · exact hsuffix
      [⟨.named "U".toList none ⟨none, none, some ['{', 'A']⟩, '{' :: "U:{A}".toList, 0⟩,
        boundToken 6] (boundToken 9) [] (by decide +kernel) ('{' :: "U:x{A}{A}".toList) .small
      (by cbv)

end Stencil
