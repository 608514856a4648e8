import Mathlib
import Stencil.Config
import Stencil.Proofs.Counter
import Stencil.Proofs.Expansion.Counting

/-!
# Sessions and their counter

A session goes on in steps: its counter is used, a configuration is applied, a template is
expanded. Each step works on the counter with a list of operations, and on no other way. The
operations of all steps in order tell which numbers the session hands out. As long as no step
binds the name of the counter to something else, the tokens with this name are the ones that
count.

## Main definitions

* `Stencil.Step`: a step of a session.
* `Stencil.Step.ops`, `Stencil.Session.ops`: what steps do to the counter.
* `Stencil.Step.Spares`: a step does not rebind a name.

## Main results

* `counter_run`, `counter_after`: steps do to the counter what their operations do.
* `resolve?_run`: a name that a step spares keeps its meaning.
* `session_counts`: what every session does to its counter.
-/

namespace Stencil

open Counter

variable {σ : Type}

/-! ### Tokens that count -/

namespace Token

/-- What a token that counts does to the counter. -/
def countOp (args : List Value) (token : Token) : Op :=
  match token.boundInt? args with
  | some n => .restart n
  | none => .next

/-- The operation of a token hands out its number and leaves the next one upcoming. -/
theorem run_countOp (args : List Value) (token : Token) (c : Counter) :
    (token.countOp args).run c =
      (token.number args c.upcoming, ⟨token.number args c.upcoming + 1⟩) := by
  unfold countOp number
  cases token.boundInt? args <;> rfl

/-- The operation of a token hands out its number. -/
theorem number?_countOp (args : List Value) (token : Token) (c : Counter) :
    (token.countOp args).number? c = some (token.number args c.upcoming) := by
  unfold countOp number
  cases token.boundInt? args <;> rfl

end Token

/-- The operations of tokens lead to where counting up on the tokens does. -/
theorem runAll_map_countOp (args : List Value) (tokens : List Token) (c : Counter) :
    c.runAll (tokens.map (Token.countOp args)) = ⟨countUp args tokens c.upcoming⟩ := by
  induction tokens generalizing c with
  | nil => rfl
  | cons token tokens ih =>
    rw [List.map_cons, runAll_cons, Token.run_countOp, ih, countUp_cons]

/-- The operations of tokens hand out the numbers of the tokens. -/
theorem handedOut_map_countOp (args : List Value) (tokens : List Token) (c : Counter) :
    c.handedOut (tokens.map (Token.countOp args)) = numbersOf args tokens c.upcoming := by
  induction tokens generalizing c with
  | nil => rfl
  | cons token tokens ih =>
    rw [List.map_cons, handedOut, Token.number?_countOp, Token.run_countOp, ih, numbersOf]
    rfl

/-! ### Steps -/

/-- A **step** of a session. -/
inductive Step (σ : Type) where
  /-- Takes a number. -/
  | next
  /-- Sets the counter. -/
  | set (n : Int64)
  /-- Restarts the counter and takes its first number. -/
  | restart (n : Int64)
  /-- Applies a configuration. -/
  | apply (config : Config)
  /-- Expands a template, which may fail. -/
  | expand (env : Environment) (template : Text) (named : NamedValues σ) (args : List Value)

namespace Step

/-- The session after a step. -/
def run (step : Step σ) (s : Session σ) : Session σ :=
  match step with
  | next => s.withCounter s.registry.counter.next.2
  | set n => s.withCounter (s.registry.counter.set n).2
  | restart n => s.withCounter (s.registry.counter.restart n).2
  | apply config => { s with registry := config.apply s.registry }
  | expand env template named args => (s.expand env template named args).2

/-- What a step does to the counter. -/
def ops (step : Step σ) (s : Session σ) : List Op :=
  match step with
  | next => [.next]
  | set n => [.set n]
  | restart n => [.restart n]
  | apply config => config.counter.toList.map .set
  | expand env template named args =>
    (s.counted env template named args).map (Token.countOp args)

/-- The numbers that a step hands out: to its caller, or to the tokens of an expansion. -/
def numbers (step : Step σ) (s : Session σ) : List Int64 :=
  match step with
  | next => [s.registry.counter.next.1]
  | restart n => [(s.registry.counter.restart n).1]
  | set _ | apply _ => []
  | expand env template named args =>
    numbersOf args (s.counted env template named args) s.registry.counter.upcoming

/-- A step **spares** a name if it does not bind it to anything. -/
def Spares (name : Text) : Step σ → Prop
  | next | set _ | restart _ => True
  | apply config => name ∉ config.values
  | expand _ _ named _ => name ∉ named

end Step

/-- The session after some steps. -/
def Session.after (s : Session σ) (steps : List (Step σ)) : Session σ :=
  steps.foldl (fun s step => step.run s) s

/-- What some steps do to the counter, in order. -/
def Session.ops (s : Session σ) : List (Step σ) → List Op
  | [] => []
  | step :: steps => step.ops s ++ Session.ops (step.run s) steps

/-- The numbers that some steps hand out, in order. -/
def Session.numbers (s : Session σ) : List (Step σ) → List Int64
  | [] => []
  | step :: steps => step.numbers s ++ Session.numbers (step.run s) steps

variable {s : Session σ} {step : Step σ} {steps : List (Step σ)} {name : Text} {e : Expander σ}
  {config : Config} {r : Registry σ}

/-! ### What a configuration changes -/

/-- To bind names is to leave the counter alone. -/
theorem counter_foldl_register (bindings : List (Text × ConfigValue)) (r : Registry σ) :
    (bindings.foldl (fun r b => r.register b.1 (.value b.2.toValue)) r).counter =
      r.counter := by
  induction bindings generalizing r with
  | nil => rfl
  | cons b bindings ih => rw [List.foldl_cons, ih]; rfl

/-- A name that is bound anew is bound to a value. -/
theorem resolve?_foldl_register (bindings : List (Text × ConfigValue)) (r : Registry σ)
    (name : Text) :
    (name ∉ bindings.map Prod.fst ∧
      (bindings.foldl (fun r b => r.register b.1 (.value b.2.toValue)) r).resolve? name =
        r.resolve? name) ∨
    (name ∈ bindings.map Prod.fst ∧ ∃ v : Value,
      (bindings.foldl (fun r b => r.register b.1 (.value b.2.toValue)) r).resolve? name =
        some (.value v)) := by
  induction bindings generalizing r with
  | nil => exact Or.inl ⟨List.not_mem_nil, rfl⟩
  | cons b bindings ih =>
    rw [List.foldl_cons, List.map_cons]
    rcases ih (r.register b.1 (.value b.2.toValue)) with ⟨hnot, hsame⟩ | ⟨hmem, hvalue⟩
    · rw [hsame, Registry.resolve?_register]
      by_cases hb : b.1 = name
      · exact Or.inr ⟨hb ▸ List.mem_cons_self, _, if_pos hb⟩
      · exact Or.inl ⟨fun hmem => (List.mem_cons.mp hmem).elim (fun h => hb h.symm) hnot,
          if_neg hb⟩
    · exact Or.inr ⟨List.mem_cons_of_mem _ hmem, hvalue⟩

/-- A configuration binds its names one after the other and sets the counter at most once. -/
theorem apply_eq_foldl (config : Config) (r : Registry σ) :
    (config.apply r).entries = (config.values.toList.foldl
      (fun r b => r.register b.1 (.value b.2.toValue)) r).entries ∧
    (config.apply r).counter = r.counter.runAll (config.counter.toList.map .set) := by
  have hcounter := counter_foldl_register config.values.toList r
  rw [Config.apply, Std.ExtTreeMap.foldl_eq_foldl_toList]
  cases config.counter with
  | none => exact ⟨rfl, hcounter⟩
  | some n => exact ⟨rfl, rfl⟩

/-- A configuration binds its names to values and leaves the other names alone. -/
theorem resolve?_apply (config : Config) (r : Registry σ) (name : Text) :
    (name ∉ config.values ∧ (config.apply r).resolve? name = r.resolve? name) ∨
      (name ∈ config.values ∧ ∃ v : Value,
        (config.apply r).resolve? name = some (.value v)) := by
  have hmem : name ∈ config.values.toList.map Prod.fst ↔ name ∈ config.values := by
    rw [Std.ExtTreeMap.map_fst_toList_eq_keys, Std.ExtTreeMap.mem_keys]
  rw [← hmem, Registry.resolve?, (apply_eq_foldl config r).1]
  exact resolve?_foldl_register config.values.toList r name

/-! ### What a step changes -/

/-- A step does to the counter what its operations do. -/
theorem counter_run (step : Step σ) (s : Session σ) :
    (step.run s).registry.counter = s.registry.counter.runAll (step.ops s) := by
  cases step with
  | next | set | restart => rfl
  | apply config => exact (apply_eq_foldl config s.registry).2
  | expand env template named args =>
    rw [Step.run, (s.counting_expand env template named args).registry, Step.ops,
      runAll_map_countOp]

/-- A step hands out the numbers that its operations do. -/
theorem handedOut_ops_step (step : Step σ) (s : Session σ) :
    s.registry.counter.handedOut (step.ops s) = step.numbers s := by
  cases step with
  | next | set | restart => rfl
  | apply config =>
    rw [Step.ops, Step.numbers]
    cases config.counter <;> rfl
  | expand env template named args => exact handedOut_map_countOp args _ _

/-- A name that a step spares keeps its meaning. -/
theorem resolve?_run (h : step.Spares name) (s : Session σ) :
    (step.run s).registry.resolve? name = s.registry.resolve? name := by
  cases step with
  | next | set | restart => rfl
  | apply config =>
    rcases resolve?_apply config s.registry name with ⟨-, hsame⟩ | ⟨hmem, -⟩
    · exact hsame
    · exact absurd hmem h
  | expand env template named args =>
    rw [Step.run, (s.counting_expand env template named args).registry]
    rfl

/-- No step binds a name to the counter. -/
theorem isCounter_of_run (h : (step.run s).registry.resolve? name = some e)
    (he : e.isCounter = true) : s.registry.resolve? name = some e := by
  cases step with
  | next | set | restart => exact h
  | apply config =>
    rcases resolve?_apply config s.registry name with ⟨-, hsame⟩ | ⟨-, v, hv⟩
    · exact hsame ▸ h
    · rw [Step.run, hv, Option.some.injEq] at h
      subst h
      exact nomatch he
  | expand env template named args =>
    rw [Step.run, (s.counting_expand env template named args).registry] at h
    exact h

/-! ### What a session changes -/

/-- A session does to its counter what the operations of its steps do. -/
theorem counter_after (s : Session σ) (steps : List (Step σ)) :
    (s.after steps).registry.counter = s.registry.counter.runAll (s.ops steps) := by
  induction steps generalizing s with
  | nil => rfl
  | cons step steps ih =>
    rw [Session.ops, runAll_append, ← counter_run]
    exact ih (step.run s)

/-- A session hands out the numbers that the operations of its steps do. -/
theorem handedOut_ops (s : Session σ) (steps : List (Step σ)) :
    s.registry.counter.handedOut (s.ops steps) = s.numbers steps := by
  induction steps generalizing s with
  | nil => rfl
  | cons step steps ih =>
    rw [Session.ops, handedOut_append, ← counter_run, handedOut_ops_step, ih, Session.numbers]

/-- A name that all steps spare keeps its meaning. -/
theorem resolve?_after (h : ∀ step ∈ steps, step.Spares name) (s : Session σ) :
    (s.after steps).registry.resolve? name = s.registry.resolve? name := by
  induction steps generalizing s with
  | nil => rfl
  | cons step steps ih =>
    rw [List.forall_mem_cons] at h
    exact (ih h.2 (step.run s)).trans (resolve?_run h.1 s)

/-- No steps bind a name to the counter. -/
theorem isCounter_of_after (h : (s.after steps).registry.resolve? name = some e)
    (he : e.isCounter = true) : s.registry.resolve? name = some e := by
  induction steps generalizing s with
  | nil => exact h
  | cons step steps ih => exact isCounter_of_run (ih h) he

/-! ### Counting in a session -/

/-- A name that the call does not bind means what it does in the registry. -/
theorem lookup_of_not_mem {named : NamedValues σ} (h : name ∉ named) (r : Registry σ) :
    lookup named r name = r.resolve? name := by
  rw [lookup, Std.ExtTreeMap.getElem?_eq_none h, Option.none_or]

/-- A token whose key is bound to the counter counts, and no other. -/
theorem Token.counts_eq_true_iff {lookup : Text → Option (Expander σ)} {token : Token} :
    token.counts lookup = true ↔
      ∃ key e, token.key? = some key ∧ lookup key = some e ∧ e.isCounter = true := by
  rw [Token.counts, Option.any_eq_true]
  constructor
  · rintro ⟨e, he, hcounter⟩
    obtain ⟨key, hkey, hlookup⟩ := Option.bind_eq_some_iff.mp he
    exact ⟨key, e, hkey, hlookup, hcounter⟩
  · rintro ⟨key, e, hkey, hlookup, hcounter⟩
    exact ⟨e, Option.bind_eq_some_iff.mpr ⟨key, hkey, hlookup⟩, hcounter⟩

/-- **The counter of a session.** Let the name of the counter be bound to its handler, and let
no step bind it to anything else. Then in every expansion of the session the tokens with that
name count, and they alone if no other name is bound to the handler: the counter counts up on
them, in order, up to and including the first failing named token, and each writes the integer
that it binds or else the number that is upcoming then. The operations of all steps, one after
the other, lead to the counter of the session and hand out the numbers that the steps do.
Between two operations that reset the counter these are consecutive, and distinct while there
are no more than `2 ^ 64`. -/
theorem session_counts (s : Session σ) (steps : List (Step σ))
    (hname : s.registry.resolve? counterName = some (.builtin .counter))
    (hsteps : ∀ step ∈ steps, step.Spares counterName) :
    (∀ before env template named args later,
      steps = before ++ .expand env template named args :: later →
      (s.after before).Counting env template named args ∧
      (∀ token : Token, token.key? = some counterName →
        token.counts (lookup named (s.after before).registry) = true) ∧
      ((∀ name e, s.registry.resolve? name = some e → e.isCounter = true →
          name = counterName) →
        (∀ name e, named[name]? = some e → e.isCounter = true → name = counterName) →
        ∀ token : Token, token.counts (lookup named (s.after before).registry) = true →
          token.key? = some counterName)) ∧
    (s.after steps).registry.counter = s.registry.counter.runAll (s.ops steps) ∧
    s.numbers steps = s.registry.counter.handedOut (s.ops steps) ∧
    ∀ before op between later, s.ops steps = before ++ op :: (between ++ later) →
      (∀ op ∈ between, op.reset? = none) →
      Consecutive (op.reset?.getD (s.registry.counter.runAll before).upcoming)
        ((s.registry.counter.runAll before).handedOut (op :: between)) ∧
      (between.length < 2 ^ 64 →
        ((s.registry.counter.runAll before).handedOut (op :: between)).Nodup) := by
  refine ⟨?_, counter_after s steps, (handedOut_ops s steps).symm, ?_⟩
  · rintro before env template named args later rfl
    have hbefore : ∀ step ∈ before, step.Spares counterName := fun step hmem =>
      hsteps step (List.mem_append_left _ hmem)
    have hspares : counterName ∉ named :=
      hsteps (.expand env template named args) (List.mem_append_right _ List.mem_cons_self)
    refine ⟨(s.after before).counting_expand env template named args, fun token hkey => ?_,
      fun hregistry hnamed token hcounts => ?_⟩
    · -- No step in front of the expansion has rebound the name.
      refine Token.counts_eq_true_iff.mpr ⟨counterName, .builtin .counter, hkey, ?_, rfl⟩
      rw [lookup_of_not_mem hspares, resolve?_after hbefore, hname]
    · -- No step binds a name to the handler, so a key that stands for it did so at the start.
      obtain ⟨key, e, hkey, hlookup, he⟩ := Token.counts_eq_true_iff.mp hcounts
      rw [lookup, Option.or_eq_some_iff] at hlookup
      rcases hlookup with hlookup | ⟨-, hlookup⟩
      · rw [hkey, hnamed key e hlookup he]
      · rw [hkey, hregistry key e (isCounter_of_after hlookup he) he]
  · intro before op between later _ hbetween
    have hconsecutive := consecutive_handedOut op hbetween (s.registry.counter.runAll before)
    refine ⟨hconsecutive, fun hlength => hconsecutive.nodup ?_⟩
    exact (length_handedOut_le _ _).trans hlength

/-- A new session with the built-in handlers. -/
def Session.standard : Session Unit := ⟨.standard, ⟨0⟩, ()⟩

/-- A session that sets the counter, expands a bound and an unbound token, and takes a
number. -/
def shortSession : List (Step Unit) :=
  [.set 7, .expand .still "{COUNTER-0}{COUNTER}".toList ∅ [.int 3], .next]

/-- A new session binds the name of the counter to its handler. -/
theorem resolve?_standard_counter :
    Session.standard.registry.resolve? counterName = some (.builtin .counter) := by
  cbv

/-- The bound token restarts the counter, and what follows counts on from there. -/
theorem session_counts_short :
    Session.standard.ops shortSession = [.set 7, .restart 3, .next, .next] ∧
      Consecutive 3 (handedOut ⟨7⟩ [.restart 3, .next, .next]) := by
  have hops : Session.standard.ops shortSession = [.set 7, .restart 3, .next, .next] := by
    decide +kernel
  refine ⟨hops, ?_⟩
  exact ((session_counts .standard shortSession resolve?_standard_counter (by
    intro step hmem
    simp only [shortSession, List.mem_cons, List.not_mem_nil, or_false] at hmem
    rcases hmem with rfl | rfl | rfl
    · trivial
    · exact Std.ExtTreeMap.not_mem_empty
    · trivial)).2.2.2 [.set 7] (.restart 3) [.next, .next] [] hops (by decide)).1

/-- The tokens of a template that have the name of the counter. -/
def Token.namedCounter (template : Text) : List Token :=
  (Token.ofFamily .named template).filter (·.key? = some counterName)

/-- A new session in which `X` is bound to the handler of the counter, too. -/
def Session.aliased : Session Unit :=
  ⟨Registry.standard.register "X".toList (.builtin .counter), ⟨0⟩, ()⟩

/-- **The name of a token does not settle whether it counts.** In the first expansion the name
of the counter is bound to its handler and not rebound, and nothing fails. But the token in
front of the one with that name counts too, so the latter writes the number `1` and the counter
ends at `2`, where the tokens with the name of the counter alone would hand out `0` and lead to
`1`. Nor does a number stand in the place of its token in any case: in the second expansion the
text of the token ends the text of an unknown one, and the number is written there. -/
theorem counting_other_names :
    (Session.aliased.registry.resolve? counterName = some (.builtin .counter) ∧
      (Step.expand .still "{X}{COUNTER}".toList ∅ [] : Step Unit).Spares counterName ∧
      Session.aliased.expand .still "{X}{COUNTER}".toList ∅ [] =
        (.ok "01".toList, Session.aliased.withCounter ⟨2⟩) ∧
      countUp [] (Token.namedCounter "{X}{COUNTER}".toList) 0 = 1 ∧
      numbersOf [] (Token.namedCounter "{X}{COUNTER}".toList) 0 = [0]) ∧
    Session.standard.registry.resolve? counterName = some (.builtin .counter) ∧
      Session.standard.expand .still ('{' :: "U:{COUNTER}{COUNTER}".toList) ∅ [] =
        (.ok ('{' :: "U:0{COUNTER}".toList), Session.standard.withCounter ⟨1⟩) := by
  refine ⟨⟨by cbv, Std.ExtTreeMap.not_mem_empty, by cbv, ?_, ?_⟩,
    resolve?_standard_counter, by cbv⟩
  · decide +kernel
  · decide +kernel

end Stencil
