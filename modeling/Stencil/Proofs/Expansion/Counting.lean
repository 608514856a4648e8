import Mathlib
import Stencil.Proofs.Expansion.Evaluation

/-!
# How an expansion counts

An expansion evaluates its named tokens from left to right, up to the first failure. Only the
tokens whose key stands for the counter work on the counter. Each of them hands out a number,
the integer that it binds or else the upcoming one, and the number behind it is upcoming then.
This stays so if the token itself fails to write the number, and if anything fails after it.

## Main definitions

* `Stencil.evaluations`: the outcomes of tokens, up to and including the first failure.
* `Stencil.Token.number`: the number that a token hands out.
* `Stencil.countUp`, `Stencil.numbersOf`: the upcoming number after some tokens, and the
  numbers that they hand out.
* `Stencil.Session.counted`: the tokens of an expansion that work on the counter.
* `Stencil.Session.Counting`: how the counter and the outcomes follow from these tokens.

## Main results

* `fst_run_evaluateAll`, `registry_run_evaluateAll`: evaluating tokens collects their outcomes
  and works on the counter alone.
* `Session.counting_expand`: every expansion counts that way.
-/

namespace Stencil

variable {σ : Type} {env : Environment} {lookup : Text → Option (Expander σ)}
  {args : List Value} {token : Token} {tokens : List Token} {replacement : Action σ Text}
  {text? : Token → Option (Action σ Text)}

/-! ### Outcomes -/

/-- The **outcomes** of the tokens that stand for something, evaluated from left to right, up
to and including the first failure. -/
def evaluations (text? : Token → Option (Action σ Text)) :
    List Token → Session σ → List (Token × ExpandResult Text)
  | [], _ => []
  | token :: tokens, s =>
    match text? token with
    | none => evaluations text? tokens s
    | some replacement =>
      match replacement.run s with
      | (.error e, _) => [(token, .error e)]
      | (.ok text, s') => (token, .ok text) :: evaluations text? tokens s'

/-- The texts of all tokens, or the first failure. -/
def collect (outcomes : List (Token × ExpandResult Text)) :
    ExpandResult (List (Token × Text)) :=
  outcomes.mapM fun outcome => (outcome.1, ·) <$> outcome.2

/-- A token that stands for nothing has no outcome. -/
theorem evaluations_cons_of_none (h : text? token = none) (tokens : List Token)
    (s : Session σ) :
    evaluations text? (token :: tokens) s = evaluations text? tokens s := by
  rw [evaluations, h]

/-- A token that fails is the last one with an outcome. -/
theorem evaluations_cons_of_error (h : text? token = some replacement) {s s' : Session σ}
    {e : ExpandError} (hrun : replacement.run s = (.error e, s')) (tokens : List Token) :
    evaluations text? (token :: tokens) s = [(token, .error e)] := by
  rw [evaluations, h]
  simp only [hrun]

/-- Behind a token that succeeds, the others are evaluated in the session that it leaves. -/
theorem evaluations_cons_of_ok (h : text? token = some replacement) {s s' : Session σ}
    {text : Text} (hrun : replacement.run s = (.ok text, s')) (tokens : List Token) :
    evaluations text? (token :: tokens) s =
      (token, .ok text) :: evaluations text? tokens s' := by
  rw [evaluations, h]
  simp only [hrun]

/-- Evaluating tokens collects their outcomes. -/
theorem fst_run_evaluateAll (text? : Token → Option (Action σ Text)) (tokens : List Token)
    (s : Session σ) :
    ((evaluateAll text? tokens).run s).1 = collect (evaluations text? tokens s) := by
  induction tokens generalizing s with
  | nil => rfl
  | cons token tokens ih =>
    cases htext : text? token with
    | none => rw [evaluateAll_cons_of_none htext, evaluations_cons_of_none htext, ih]
    | some replacement =>
      rw [evaluateAll_cons_of_some htext]
      rcases hrun : replacement.run s with ⟨e | text, s'⟩
      · rw [Action.run_bind_of_error hrun, evaluations_cons_of_error htext hrun]
        rfl
      · rw [Action.run_bind_of_ok hrun, evaluations_cons_of_ok htext hrun, collect,
          List.mapM_cons]
        have hrest := ih s'
        rw [collect] at hrest
        rw [← hrest]
        rcases hrest : (evaluateAll text? tokens).run s' with ⟨e | texts, s''⟩
        · rw [Action.run_bind_of_error hrest]
          rfl
        · rw [Action.run_bind_of_ok hrest]
          rfl

/-- The tokens that are not evaluated stand behind a failure, and nothing else fails. -/
theorem exists_evaluations_append (text? : Token → Option (Action σ Text))
    (tokens : List Token) (s : Session σ) :
    ∃ rest, (tokens.filter fun token => (text? token).isSome) =
        (evaluations text? tokens s).map Prod.fst ++ rest ∧
      (∀ outcome ∈ (evaluations text? tokens s).dropLast, ∃ text, outcome.2 = .ok text) ∧
      (rest ≠ [] → ∃ outcome ∈ (evaluations text? tokens s).getLast?, ∃ e,
        outcome.2 = .error e) := by
  induction tokens generalizing s with
  | nil => exact ⟨[], rfl, by simp [evaluations], fun h => absurd rfl h⟩
  | cons token tokens ih =>
    cases htext : text? token with
    | none =>
      rw [evaluations_cons_of_none htext, List.filter_cons_of_neg (by simp [htext])]
      exact ih s
    | some replacement =>
      rw [List.filter_cons_of_pos (by simp [htext])]
      rcases hrun : replacement.run s with ⟨e | text, s'⟩
      · rw [evaluations_cons_of_error htext hrun]
        exact ⟨_, rfl, by simp, fun _ => ⟨_, rfl, e, rfl⟩⟩
      · rw [evaluations_cons_of_ok htext hrun]
        obtain ⟨rest, hfilter, hok, hrest⟩ := ih s'
        refine ⟨rest, by rw [hfilter]; rfl, ?_, fun hne => ?_⟩
        · intro outcome hmem
          cases hlater : evaluations text? tokens s' with
          | nil => simp [hlater] at hmem
          | cons first later =>
            rw [hlater, List.dropLast_cons_cons, List.mem_cons] at hmem
            rcases hmem with rfl | hmem
            · exact ⟨text, rfl⟩
            · exact hok outcome (hlater ▸ hmem)
        · obtain ⟨outcome, hlast, herror⟩ := hrest hne
          refine ⟨outcome, ?_, herror⟩
          rw [List.getLast?_cons, Option.mem_def.mp hlast]
          rfl

/-! ### Tokens that count -/

/-- The name of the counter. -/
def counterName : Text := "COUNTER".toList

/-- Whether a name is bound to the handler that works on the counter. -/
def Expander.isCounter : Expander σ → Bool
  | builtin .counter => true
  | value _ | builtin _ | custom _ => false

/-- A session with another counter. -/
def Session.withCounter (s : Session σ) (c : Counter) : Session σ :=
  { s with registry := { s.registry with counter := c } }

namespace Token

/-- The layout of a named or indexed token. -/
def layout (token : Token) : Layout :=
  match token.placeholder with
  | .named _ _ layout | .indexed _ layout => layout
  | .hex .. => .plain

/-- A token **counts** if its key stands for the counter. -/
def counts (lookup : Text → Option (Expander σ)) (token : Token) : Bool :=
  (token.key?.bind lookup).any Expander.isCounter

/-- The integer that a named token binds. -/
def boundInt? (args : List Value) (token : Token) : Option Int64 :=
  match token.placeholder with
  | .named _ index _ => (index.bind (args[·]?)).bind Value.toInt?
  | .indexed .. | .hex .. => none

/-- The number that a token hands out where another one is upcoming. -/
def number (args : List Value) (token : Token) (upcoming : Int64) : Int64 :=
  (token.boundInt? args).getD upcoming

/-- What a token that counts is replaced by where it hands out a number. -/
def numeral (token : Token) (n : Int64) : ExpandResult Text :=
  token.layout.fit <$> formatInteger n.toInt token.layout.formatText

end Token

/-! ### What a token does to the counter -/

/-- Mapping an outcome leaves the session as it is. -/
theorem Action.run_map {α β : Type} (f : α → β) (act : Action σ α) (s : Session σ) :
    (f <$> act).run s = (f <$> (act.run s).1, (act.run s).2) := by
  rw [map_eq_pure_bind]
  rcases h : act.run s with ⟨e | a, s'⟩
  · rw [run_bind_of_error h]
    rfl
  · rw [run_bind_of_ok h]
    rfl

/-- Drawing a value leaves the registry alone. -/
theorem registry_run_draw {α : Type} (draw : Entropy → α × Entropy)
    (result : α → ExpandResult Text) (s : Session σ) : (Action.run (do
      let a ← Action.draw draw
      .ofResult (result a)) s).2.registry = s.registry := rfl

/-- A handler other than that of the counter leaves the registry alone. -/
theorem registry_run_builtin {b : Builtin} (h : b ≠ .counter) (env : Environment)
    (call : HandlerCall) (s : Session σ) :
    ((b.run env call).run s).2.registry = s.registry := by
  cases b with
  | counter => exact absurd rfl h
  | guid =>
    rw [Builtin.run, Builtin.guidText]
    cases call.value?.bind Value.toGuid? with
    | none => exact registry_run_draw ..
    | some g => rfl
  | random =>
    rw [Builtin.run, Builtin.randomText]
    cases call.value?.bind Value.toInt? with
    | none => exact registry_run_draw ..
    | some n => rfl
  | dateTime | file | text | env | repeated => rfl

/-- The only expander that works on the registry is the counter. -/
theorem registry_run_expander {e : Expander σ} (h : e.isCounter = false) (env : Environment)
    (call : HandlerCall) (s : Session σ) :
    ((e.run env call).run s).2.registry = s.registry := by
  cases e with
  | value v => rfl
  | custom handler => rfl
  | builtin b =>
    refine registry_run_builtin ?_ env call s
    rintro rfl
    exact nomatch h

/-- What a named token that stands for something does. -/
theorem exists_expander_of_namedText?
    (h : namedText? env lookup args token = some replacement) :
    ∃ key index e, token.placeholder = .named key index token.layout ∧ lookup key = some e ∧
      token.counts lookup = e.isCounter ∧ replacement = token.layout.fit <$>
        e.run env ⟨key, token.layout.formatText, index.bind (args[·]?), env.now⟩ := by
  obtain ⟨placeholder, raw, offset⟩ := token
  cases placeholder with
  | indexed => exact nomatch h
  | hex => exact nomatch h
  | named key index layout =>
    obtain ⟨e, he, hreplacement⟩ := Option.map_eq_some_iff.mp h
    refine ⟨key, index, e, rfl, he, ?_, hreplacement.symm⟩
    change (lookup key).any Expander.isCounter = _
    rw [he, Option.any_some]

/-- A token that does not count leaves the registry alone. -/
theorem registry_run_of_not_counts (h : namedText? env lookup args token = some replacement)
    (hcounts : token.counts lookup = false) (s : Session σ) :
    (replacement.run s).2.registry = s.registry := by
  obtain ⟨key, index, e, -, -, he, rfl⟩ := exists_expander_of_namedText? h
  rw [Action.run_map]
  exact registry_run_expander (he.symm.trans hcounts) env _ s

/-- A token that counts writes the number that it hands out. -/
theorem run_of_counts (h : namedText? env lookup args token = some replacement)
    (hcounts : token.counts lookup = true) (s : Session σ) :
    replacement.run s = (token.numeral (token.number args s.registry.counter.upcoming),
      s.withCounter ⟨token.number args s.registry.counter.upcoming + 1⟩) := by
  obtain ⟨key, index, e, hplaceholder, -, he, rfl⟩ := exists_expander_of_namedText? h
  rw [hcounts] at he
  have hbound : token.boundInt? args = (index.bind (args[·]?)).bind Value.toInt? := by
    rw [Token.boundInt?, hplaceholder]
  cases e with
  | value v => exact nomatch he
  | custom handler => exact nomatch he
  | builtin b =>
    obtain rfl : b = .counter := by
      cases b with
      | counter => rfl
      | dateTime | guid | random | file | text | env | repeated => exact nomatch he
    rw [Action.run_map, Token.number, Token.numeral, hbound]
    simp only [Expander.run, Builtin.run, Action.run, Action.onCounter, Builtin.counterText,
      Builtin.count]
    cases (index.bind (args[·]?)).bind Value.toInt? <;> rfl

/-! ### What an evaluation does to the counter -/

/-- The upcoming number after some tokens that count. -/
def countUp (args : List Value) (tokens : List Token) (upcoming : Int64) : Int64 :=
  tokens.foldl (fun n token => token.number args n + 1) upcoming

/-- The first token counts before the others. -/
theorem countUp_cons (args : List Value) (token : Token) (tokens : List Token) (n : Int64) :
    countUp args (token :: tokens) n = countUp args tokens (token.number args n + 1) := rfl

/-- The numbers that some tokens that count hand out. -/
def numbersOf (args : List Value) : List Token → Int64 → List Int64
  | [], _ => []
  | token :: tokens, n =>
    token.number args n :: numbersOf args tokens (token.number args n + 1)

/-- The upcoming number after a token, which may count or not. -/
def Token.upcoming (lookup : Text → Option (Expander σ)) (args : List Value) (token : Token)
    (n : Int64) : Int64 :=
  if token.counts lookup then token.number args n + 1 else n

/-- The outcomes of the tokens that count. -/
def countedOutcomes (lookup : Text → Option (Expander σ))
    (outcomes : List (Token × ExpandResult Text)) : List (Token × ExpandResult Text) :=
  outcomes.filter fun outcome => outcome.1.counts lookup

/-- The tokens of an evaluation that count. -/
def countedTokens (lookup : Text → Option (Expander σ))
    (outcomes : List (Token × ExpandResult Text)) : List Token :=
  (countedOutcomes lookup outcomes).map Prod.fst

/-- The first outcome is kept if its token counts. -/
theorem countedOutcomes_cons (lookup : Text → Option (Expander σ)) (token : Token)
    (r : ExpandResult Text) (outcomes : List (Token × ExpandResult Text)) :
    countedOutcomes lookup ((token, r) :: outcomes) =
      if token.counts lookup then (token, r) :: countedOutcomes lookup outcomes
      else countedOutcomes lookup outcomes :=
  List.filter_cons

/-- Only a token that counts changes the number that is upcoming for the others. -/
theorem countUp_countedTokens_cons (lookup : Text → Option (Expander σ)) (args : List Value)
    (token : Token) (r : ExpandResult Text) (outcomes : List (Token × ExpandResult Text))
    (n : Int64) :
    countUp args (countedTokens lookup ((token, r) :: outcomes)) n =
      countUp args (countedTokens lookup outcomes) (token.upcoming lookup args n) := by
  rw [countedTokens, countedOutcomes_cons, Token.upcoming]
  split <;> rfl

/-- Whether a token counts or not, it changes nothing in the registry but the counter. -/
theorem registry_run (h : namedText? env lookup args token = some replacement)
    (s : Session σ) :
    (replacement.run s).2.registry = { s.registry with
      counter := ⟨token.upcoming lookup args s.registry.counter.upcoming⟩ } := by
  rw [Token.upcoming]
  split
  · next hcounts =>
    rw [run_of_counts h hcounts]
    rfl
  · next hcounts => exact registry_run_of_not_counts h (eq_false_of_ne_true hcounts) s

/-- **Evaluating tokens counts up.** Nothing in the registry changes but the counter, on which
the tokens that are evaluated count up, the failing one included. -/
theorem registry_run_evaluateAll (env : Environment) (lookup : Text → Option (Expander σ))
    (args : List Value) (tokens : List Token) (s : Session σ) :
    ((evaluateAll (namedText? env lookup args) tokens).run s).2.registry = { s.registry with
      counter := ⟨countUp args
        (countedTokens lookup (evaluations (namedText? env lookup args) tokens s))
        s.registry.counter.upcoming⟩ } := by
  induction tokens generalizing s with
  | nil => rfl
  | cons token tokens ih =>
    cases htext : namedText? env lookup args token with
    | none => rw [evaluateAll_cons_of_none htext, evaluations_cons_of_none htext, ih]
    | some replacement =>
      have hregistry := registry_run htext s
      rw [evaluateAll_cons_of_some htext]
      rcases hrun : replacement.run s with ⟨e | text, s'⟩
      · rw [hrun] at hregistry
        -- A token that fails has worked on the counter all the same.
        rw [Action.run_bind_of_error hrun, evaluations_cons_of_error htext hrun,
          countUp_countedTokens_cons]
        exact hregistry
      · rw [hrun] at hregistry
        have hrest := ih s'
        rw [Action.run_bind_of_ok hrun, evaluations_cons_of_ok htext hrun,
          countUp_countedTokens_cons]
        rw [show s'.registry = _ from hregistry] at hrest
        rw [← hrest]
        rcases hlater : (evaluateAll (namedText? env lookup args) tokens).run s' with
          ⟨e | texts, s''⟩
        · rw [Action.run_bind_of_error hlater]
        · rw [Action.run_bind_of_ok hlater]
          rfl

/-- The outcome of a token that counts is the numeral of the number that it hands out. -/
theorem fst_run_of_counts (h : namedText? env lookup args token = some replacement)
    (hcounts : token.counts lookup = true) (s : Session σ) :
    (replacement.run s).1 = token.numeral (token.number args s.registry.counter.upcoming) := by
  rw [run_of_counts h hcounts]

/-- A token that counts writes its own number: the integer that it binds, or else the number
that is upcoming behind the tokens in front of it. -/
theorem outcome_of_counts {front later : List (Token × ExpandResult Text)} {s : Session σ}
    {r : ExpandResult Text}
    (h : evaluations (namedText? env lookup args) tokens s = front ++ (token, r) :: later)
    (hcounts : token.counts lookup = true) :
    r = token.numeral (token.number args
      (countUp args (countedTokens lookup front) s.registry.counter.upcoming)) := by
  induction tokens generalizing s front with
  | nil => simp [evaluations] at h
  | cons first tokens ih =>
    cases htext : namedText? env lookup args first with
    | none =>
      rw [evaluations_cons_of_none htext] at h
      exact ih h
    | some replacement =>
      have hregistry := registry_run htext s
      have hnumeral := fun hcounts => fst_run_of_counts htext hcounts s
      rcases hrun : replacement.run s with ⟨e | text, s'⟩
      · rw [hrun] at hnumeral
        rw [evaluations_cons_of_error htext hrun, List.singleton_eq_append_iff] at h
        rcases h with ⟨rfl, h⟩ | ⟨-, h⟩
        · obtain ⟨⟨rfl, rfl⟩, -⟩ := by simpa using h
          exact hnumeral hcounts
        · exact nomatch h
      · rw [hrun] at hnumeral hregistry
        rw [evaluations_cons_of_ok htext hrun] at h
        rcases front with _ | ⟨outcome, front⟩
        · obtain ⟨⟨rfl, rfl⟩, -⟩ := by simpa using h
          exact hnumeral hcounts
        · obtain ⟨rfl, hlater⟩ := List.cons.inj h
          have hr := ih hlater
          rw [show s'.registry = _ from hregistry] at hr
          rwa [countUp_countedTokens_cons]

/-- Outcomes that count are the numerals of the numbers handed out, if this holds of the first
one and of the later ones. -/
theorem numerals_cons {r : ExpandResult Text} {later : List (Token × ExpandResult Text)}
    {n : Int64} (hr : token.counts lookup = true → r = token.numeral (token.number args n))
    (hlater : (countedOutcomes lookup later).map Prod.snd =
      (countedTokens lookup later).zipWith Token.numeral
        (numbersOf args (countedTokens lookup later) (token.upcoming lookup args n))) :
    (countedOutcomes lookup ((token, r) :: later)).map Prod.snd =
      (countedTokens lookup ((token, r) :: later)).zipWith Token.numeral
        (numbersOf args (countedTokens lookup ((token, r) :: later)) n) := by
  rw [Token.upcoming] at hlater
  rw [countedTokens, countedOutcomes_cons]
  by_cases hcounts : token.counts lookup = true
  · rw [if_pos hcounts] at hlater ⊢
    rw [List.map_cons, List.map_cons, numbersOf, List.zipWith_cons_cons, hr hcounts, hlater]
    rfl
  · rw [if_neg hcounts] at hlater ⊢
    exact hlater

/-- The tokens that count write the numbers that they hand out. -/
theorem outcomes_eq_numerals (env : Environment) (lookup : Text → Option (Expander σ))
    (args : List Value) (tokens : List Token) (s : Session σ) :
    (countedOutcomes lookup (evaluations (namedText? env lookup args) tokens s)).map Prod.snd =
      (countedTokens lookup (evaluations (namedText? env lookup args) tokens s)).zipWith
        Token.numeral
        (numbersOf args
          (countedTokens lookup (evaluations (namedText? env lookup args) tokens s))
          s.registry.counter.upcoming) := by
  induction tokens generalizing s with
  | nil => rfl
  | cons token tokens ih =>
    cases htext : namedText? env lookup args token with
    | none =>
      rw [evaluations_cons_of_none htext]
      exact ih s
    | some replacement =>
      have hregistry := registry_run htext s
      have hnumeral := fun hcounts => fst_run_of_counts htext hcounts s
      rcases hrun : replacement.run s with ⟨e | text, s'⟩
      · rw [hrun] at hnumeral
        rw [evaluations_cons_of_error htext hrun]
        exact numerals_cons hnumeral rfl
      · rw [hrun] at hnumeral hregistry
        have hlater := ih s'
        rw [show s'.registry = _ from hregistry] at hlater
        rw [evaluations_cons_of_ok htext hrun]
        exact numerals_cons hnumeral hlater

/-! ### Expansions -/

/-- Indexed tokens leave the session alone, and do not depend on it. -/
theorem exists_run_substituteAll_indexed (args : List Value) (tokens : List Token)
    (working : Text) : ∃ r, ∀ s : Session σ,
      (substituteAll (indexedText? args) tokens working).run s = (r, s) := by
  induction tokens generalizing working with
  | nil => exact ⟨.ok working, fun s => rfl⟩
  | cons token tokens ih =>
    cases htext : (indexedText? args token : Option (Action σ Text)) with
    | none =>
      rw [substituteAll_cons_of_none htext]
      exact ih working
    | some replacement =>
      obtain ⟨r, hr⟩ : ∃ r, ∀ s, replacement.run s = (r, s) := by
        unfold indexedText? at htext
        split at htext
        · obtain ⟨v, -, rfl⟩ := Option.map_eq_some_iff.mp htext
          exact ⟨_, Action.run_map_ofResult _ _⟩
        · exact nomatch htext
        · exact nomatch htext
      rw [substituteAll_cons_of_some htext]
      obtain ⟨r', hr'⟩ :
          ∃ r', ∀ s, (substitute token.raw replacement working).run s = (r', s) := by
        rw [substitute]
        split
        · exact ⟨.ok working, fun s => rfl⟩
        · next before after _ =>
          exact ⟨(fun text => before ++ (text ++ after)) <$> r,
            fun s => by rw [Action.run_map, hr]⟩
      cases r' with
      | error e => exact ⟨.error e, fun s => Action.run_bind_of_error (hr' s)⟩
      | ok next =>
        obtain ⟨r'', hr''⟩ := ih next
        exact ⟨r'', fun s => (Action.run_bind_of_ok (hr' s)).trans (hr'' s)⟩

namespace Session

/-- The outcomes of the named tokens of an expansion. -/
def outcomes (s : Session σ) (env : Environment) (template : Text) (named : NamedValues σ)
    (args : List Value) : List (Token × ExpandResult Text) :=
  evaluations (namedText? env (Stencil.lookup named s.registry) args)
    (Token.ofFamily .named template) s

/-- The tokens of an expansion that work on the counter. -/
def counted (s : Session σ) (env : Environment) (template : Text) (named : NamedValues σ)
    (args : List Value) : List Token :=
  countedTokens (Stencil.lookup named s.registry) (s.outcomes env template named args)

/-- **How an expansion counts.** -/
structure Counting (s : Session σ) (env : Environment) (template : Text)
    (named : NamedValues σ) (args : List Value) : Prop where
  /-- The named tokens that stand for something are evaluated in order, up to and including the
  first one that fails. -/
  stops : ∃ rest, ((Token.ofFamily .named template).filter fun token =>
      (namedText? env (Stencil.lookup named s.registry) args token).isSome) =
        (s.outcomes env template named args).map Prod.fst ++ rest ∧
    (∀ outcome ∈ (s.outcomes env template named args).dropLast, ∃ text, outcome.2 = .ok text) ∧
    (rest ≠ [] → ∃ outcome ∈ (s.outcomes env template named args).getLast?, ∃ e,
      outcome.2 = .error e)
  /-- The expansion is made of their outcomes, or fails as the failing one does. -/
  result : (s.expand env template named args).1 = (do
    let texts ← collect (s.outcomes env template named args)
    ((substituteAll (indexedText? args) (Token.ofFamily .indexed template)
      (decodeEscapes (replaceAll texts template))).run s).1)
  /-- The counter counts up on the tokens that count, whatever else fails, and nothing else
  changes in the registry. -/
  registry : (s.expand env template named args).2.registry = { s.registry with
    counter := ⟨countUp args (s.counted env template named args) s.registry.counter.upcoming⟩ }
  /-- Each of them writes the integer that it binds, or else the number that is upcoming
  then. -/
  numeral : ∀ front token r later,
    s.outcomes env template named args = front ++ (token, r) :: later →
    token.counts (Stencil.lookup named s.registry) = true →
    r = token.numeral (token.number args (countUp args
      (countedTokens (Stencil.lookup named s.registry) front) s.registry.counter.upcoming))
  /-- They write the numbers that they hand out. -/
  numerals : (countedOutcomes (Stencil.lookup named s.registry)
      (s.outcomes env template named args)).map Prod.snd =
    (s.counted env template named args).zipWith Token.numeral
      (numbersOf args (s.counted env template named args) s.registry.counter.upcoming)

/-- **Every expansion counts that way.** -/
theorem counting_expand (s : Session σ) (env : Environment) (template : Text)
    (named : NamedValues σ) (args : List Value) : s.Counting env template named args := by
  have hindexed : ∀ working, ∃ r, ∀ s : Session σ, (substituteAll (indexedText? args)
      (Token.ofFamily .indexed template) working).run s = (r, s) :=
    exists_run_substituteAll_indexed args _
  have hresult := fst_run_evaluateAll (namedText? env (Stencil.lookup named s.registry) args)
    (Token.ofFamily .named template) s
  have hregistry := registry_run_evaluateAll env (Stencil.lookup named s.registry) args
    (Token.ofFamily .named template) s
  refine ⟨exists_evaluations_append .., ?_, ?_, fun front token r later => outcome_of_counts,
    outcomes_eq_numerals ..⟩
  · rw [expand_eq, outcomes, ← hresult]
    rcases hrun : (evaluateAll (namedText? env (Stencil.lookup named s.registry) args)
      (Token.ofFamily .named template)).run s with ⟨e | texts, s'⟩
    · rw [Action.run_bind_of_error hrun]
      rfl
    · obtain ⟨r, hr⟩ := hindexed (decodeEscapes (replaceAll texts template))
      rw [Action.run_bind_of_ok hrun, hr s']
      exact (congrArg Prod.fst (hr s)).symm
  · rw [expand_eq]
    rcases hrun : (evaluateAll (namedText? env (Stencil.lookup named s.registry) args)
      (Token.ofFamily .named template)).run s with ⟨e | texts, s'⟩
    · rw [hrun] at hregistry
      rw [Action.run_bind_of_error hrun]
      exact hregistry
    · obtain ⟨r, hr⟩ := hindexed (decodeEscapes (replaceAll texts template))
      rw [hrun] at hregistry
      rw [Action.run_bind_of_ok hrun, hr s']
      exact hregistry

end Session

end Stencil
