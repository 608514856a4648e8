import Mathlib
import Stencil.Proofs.Session

/-!
# The bindings of a registry

Whatever is done to a registry, it is done to one name after the other: the name is bound to an
expander, or its binding is removed. A configuration binds its names in ascending order, and an
expansion changes no binding at all, whether it fails or not. So the steps of a session leave a
history of changes behind, and the registry holds what the history says: a name stands for what
it was bound to last, unless its binding has been removed since.

## Main definitions

* `Stencil.Change`: a name and what it is bound to from now on, if to anything.
* `Stencil.Standing`: a binding that some changes leave behind.
* `Stencil.RegistryStep`, `Stencil.Session.through`: a step of a session, the session after
  some.
* `Stencil.RegistryStep.changes`: what a step does to the bindings.

## Main results

* `resolve?_changeAll`: the bindings after some changes.
* `entries_run`: a step does its changes to the bindings and nothing else.
* `pairwise_names`: the names of a registry are listed in ascending order.
* `registry_keeps_history`: the bindings after any steps.
-/

namespace Stencil

variable {σ : Type}

/-! ### The order of names -/

/-- Characters are ordered by their scalar values. -/
theorem Text.compare_char_eq_lt_iff (c d : Char) : compare c d = .lt ↔ c.toNat < d.toNat := by
  rw [show compare c d = compareOfLessAndEq c d from rfl, compareOfLessAndEq_eq_lt]
  exact Char.lt_def

/-- Texts are compared by their code points: the first difference decides, and an end comes
before everything. -/
theorem Text.compare_eq_lt_iff (a b : Text) :
    compare a b = .lt ↔ a.map Char.toNat < b.map Char.toNat := by
  induction a generalizing b with
  | nil => cases b <;> simp [compare, List.compareLex]
  | cons c a ih =>
    cases b with
    | nil => simp [compare, List.compareLex]
    | cons d b =>
      have hcompare : compare (c :: a) (d :: b) = (compare c d).then (compare a b) :=
        List.compareLex_cons_cons
      have heq : compare c d = .eq ↔ c.toNat = d.toNat := by
        rw [compare_eq_iff_eq, ← Char.toNat_inj]
      rw [hcompare, Ordering.then_eq_lt, ih, compare_char_eq_lt_iff, heq, List.map_cons,
        List.map_cons, List.cons_lt_cons_iff]

namespace Registry

/-- **The names of a registry** are listed in ascending order, each once. -/
theorem pairwise_names (r : Registry σ) :
    r.names.Pairwise fun a b => a.map Char.toNat < b.map Char.toNat :=
  Std.ExtTreeMap.ordered_keys.imp fun h => (Text.compare_eq_lt_iff _ _).mp h

/-- The names of a registry are the names that are bound. -/
theorem mem_names_iff (r : Registry σ) (name : Text) :
    name ∈ r.names ↔ r.contains name = true := by
  rw [names, Std.ExtTreeMap.mem_keys, contains, Std.ExtTreeMap.contains_iff_mem]

end Registry

/-! ### Changes -/

/-- A **change** of the bindings: a name with the expander to which it is bound from now on, or
without one if its binding is removed. -/
abbrev Change (σ : Type) := Text × Option (Expander σ)

/-- A registry after some changes. -/
def Registry.changeAll (r : Registry σ) (changes : List (Change σ)) : Registry σ :=
  changes.foldl (fun r change => r.set change.1 change.2) r

/-- A binding **stands** after some changes if one of them made it and no later one is about
its name. -/
def Standing (changes : List (Change σ)) (name : Text) (e : Expander σ) : Prop :=
  ∃ before later, changes = before ++ (name, some e) :: later ∧
    ∀ change ∈ later, change.1 ≠ name

variable {history : List (Change σ)} {change : Change σ} {name : Text} {e : Expander σ}

/-- To set a name changes what this name stands for and no other. -/
theorem Registry.resolve?_set (r : Registry σ) (name other : Text) (e? : Option (Expander σ)) :
    (r.set name e?).resolve? other = if name = other then e? else r.resolve? other := by
  cases e? with
  | none => exact resolve?_remove r name other
  | some e => exact resolve?_register r name other e

/-- After no changes nothing stands. -/
theorem not_standing_nil (name : Text) (e : Expander σ) : ¬ Standing [] name e := by
  rintro ⟨before, later, h, -⟩
  exact absurd h.symm (List.append_ne_nil_of_right_ne_nil _ (List.cons_ne_nil _ _))

/-- What stands in the end was bound by the last change, or stood before a last change of
another name. -/
theorem standing_concat_iff : Standing (history ++ [change]) name e ↔
    change = (name, some e) ∨ change.1 ≠ name ∧ Standing history name e := by
  constructor
  · rintro ⟨before, later, h, hlater⟩
    rcases List.eq_nil_or_concat later with rfl | ⟨later, last, rfl⟩
    · exact .inl (List.append_inj_right' h rfl |> List.singleton_inj.mp)
    · rw [List.concat_eq_append, ← List.cons_append, ← List.append_assoc] at h
      obtain ⟨rfl, hlast⟩ := List.append_inj' h rfl
      obtain rfl := List.singleton_inj.mp hlast
      rw [List.concat_eq_append, List.forall_mem_append] at hlater
      exact .inr ⟨hlater.2 change List.mem_cons_self, before, later, rfl, hlater.1⟩
  · rintro (rfl | ⟨hne, before, later, rfl, hlater⟩)
    · exact ⟨history, [], rfl, nofun⟩
    · refine ⟨before, later ++ [change], by simp, ?_⟩
      rw [List.forall_mem_append]
      exact ⟨hlater, by simpa using hne⟩

/-- **The bindings after some changes** are those that stand after them, and in between the old
ones of the names that no change is about. -/
theorem Registry.resolve?_changeAll (r : Registry σ) (changes : List (Change σ)) (name : Text)
    (e : Expander σ) : (r.changeAll changes).resolve? name = some e ↔
      Standing changes name e ∨
        (∀ change ∈ changes, change.1 ≠ name) ∧ r.resolve? name = some e := by
  induction changes using List.reverseRecOn with
  | nil => simp [changeAll, not_standing_nil]
  | append_singleton changes change ih =>
    have hstep : r.changeAll (changes ++ [change]) =
        (r.changeAll changes).set change.1 change.2 := List.foldl_concat ..
    rw [hstep, resolve?_set, standing_concat_iff, List.forall_mem_append]
    obtain ⟨other, e?⟩ := change
    by_cases hother : other = name
    · subst hother
      simp
    · simp [hother, ih]

/-! ### Steps -/

/-- A **step** of a session that may bind names, remove bindings, apply a configuration or
expand a template. -/
inductive RegistryStep (σ : Type) where
  /-- Binds a name. -/
  | register (name : Text) (e : Expander σ)
  /-- Binds a name, or removes its binding. -/
  | set (name : Text) (e? : Option (Expander σ))
  /-- Removes the binding of a name. -/
  | remove (name : Text)
  /-- Applies a configuration. -/
  | apply (config : Config)
  /-- Expands a template, which may fail. -/
  | expand (env : Environment) (template : Text) (named : NamedValues σ) (args : List Value)

namespace RegistryStep

/-- The session after a step. -/
def run (step : RegistryStep σ) (s : Session σ) : Session σ :=
  match step with
  | register name e => { s with registry := s.registry.register name e }
  | set name e? => { s with registry := s.registry.set name e? }
  | remove name => { s with registry := s.registry.remove name }
  | apply config => { s with registry := config.apply s.registry }
  | expand env template named args => (s.expand env template named args).2

/-- What a step does to the bindings, in order. -/
def changes : RegistryStep σ → List (Change σ)
  | register name e => [(name, some e)]
  | set name e? => [(name, e?)]
  | remove name => [(name, none)]
  | apply config => config.values.toList.map fun b => (b.1, some (.value b.2.toValue))
  | expand .. => []

end RegistryStep

/-- The session after some steps. -/
def Session.through (s : Session σ) (steps : List (RegistryStep σ)) : Session σ :=
  steps.foldl (fun s step => step.run s) s

/-- An expansion changes no binding, whether it fails or not. -/
theorem entries_expand (s : Session σ) (env : Environment) (template : Text)
    (named : NamedValues σ) (args : List Value) :
    (s.expand env template named args).2.registry.entries = s.registry.entries :=
  (congrArg Registry.entries (s.counting_expand env template named args).registry :)

/-- **A step** does its changes to the bindings and nothing else. -/
theorem entries_run (step : RegistryStep σ) (s : Session σ) :
    (step.run s).registry.entries = (s.registry.changeAll step.changes).entries := by
  cases step with
  | register | set | remove => rfl
  | apply config =>
    refine (apply_eq_foldl config s.registry).1.trans ?_
    rw [Registry.changeAll, RegistryStep.changes, List.foldl_map]
    rfl
  | expand env template named args => exact entries_expand s env template named args

/-- Changes do the same to the bindings of registries with the same bindings. -/
theorem Registry.entries_changeAll_congr {r r' : Registry σ} (h : r.entries = r'.entries)
    (changes : List (Change σ)) :
    (r.changeAll changes).entries = (r'.changeAll changes).entries := by
  induction changes generalizing r r' with
  | nil => exact h
  | cons change changes ih =>
    refine ih ?_
    obtain ⟨name, e?⟩ := change
    cases e? with
    | none => exact congrArg (·.erase name) h
    | some e => exact congrArg (·.insert name e) h

/-- Steps do their changes to the bindings and nothing else. -/
theorem entries_through (s : Session σ) (steps : List (RegistryStep σ)) :
    (s.through steps).registry.entries =
      (s.registry.changeAll (steps.flatMap RegistryStep.changes)).entries := by
  induction steps generalizing s with
  | nil => rfl
  | cons step steps ih =>
    rw [List.flatMap_cons, Registry.changeAll, List.foldl_append]
    exact (ih (step.run s)).trans (Registry.entries_changeAll_congr (entries_run step s) _)

/-! ### New registries -/

/-- The changes that make the registry with the built-in handlers from the empty one, or
none. -/
def initialChanges (builtins : Bool) : List (Change σ) :=
  if builtins then Registry.builtinNames.map fun b => (b.1, some (.builtin b.2)) else []

/-- A new registry, with the built-in handlers or without. -/
def Registry.initial (builtins : Bool) : Registry σ := if builtins then standard else empty

/-- A new registry is the empty one after changes. -/
theorem Registry.initial_eq_changeAll (builtins : Bool) :
    (initial builtins : Registry σ) = empty.changeAll (initialChanges builtins) := by
  cases builtins with
  | false => rfl
  | true =>
    simp only [initial, if_true, standard, changeAll, initialChanges, List.foldl_map]
    rfl

/-- **A registry keeps its history.** A session starts with a new registry, with the built-in
handlers or without, and goes through any steps: names are bound and their bindings removed,
configurations applied, templates expanded with success or without. The names of the registry
are then listed in strictly ascending order of their code points, and they are the names that
it contains and that stand for something. Each of them stands for the expander to which it was
bound last, in a binding that has not been removed since. No expansion among the steps has
changed a binding. -/
theorem registry_keeps_history (builtins : Bool) (entropy : Entropy) (custom : σ)
    (steps : List (RegistryStep σ)) :
    let start : Session σ := ⟨Registry.initial builtins, entropy, custom⟩
    let r := (start.through steps).registry
    r.names.Pairwise (fun a b => a.map Char.toNat < b.map Char.toNat) ∧
    (∀ name, (name ∈ r.names ↔ r.contains name = true) ∧
      (r.contains name = true ↔ ∃ e, r.resolve? name = some e)) ∧
    (∀ name e, r.resolve? name = some e ↔
      Standing (initialChanges builtins ++ steps.flatMap RegistryStep.changes) name e) ∧
    ∀ before env template named args later,
      steps = before ++ .expand env template named args :: later →
      ((start.through before).expand env template named args).2.registry.entries =
        (start.through before).registry.entries := by
  intro start r
  refine ⟨r.pairwise_names, fun name => ⟨r.mem_names_iff name, ?_⟩, fun name e => ?_, ?_⟩
  · rw [r.contains_eq_isSome_resolve?, Option.isSome_iff_exists]
  · have hentries : r.entries = (Registry.empty.changeAll
        (initialChanges builtins ++ steps.flatMap RegistryStep.changes)).entries := by
      rw [Registry.changeAll, List.foldl_append]
      exact (entries_through start steps).trans
        (Registry.entries_changeAll_congr
          (congrArg _ (Registry.initial_eq_changeAll builtins)) _)
    have hresolve : r.resolve? name = (Registry.empty.changeAll
        (initialChanges builtins ++ steps.flatMap RegistryStep.changes)).resolve? name := by
      rw [Registry.resolve?, hentries, Registry.resolve?]
    have hempty : (Registry.empty : Registry σ).resolve? name = none :=
      Std.ExtTreeMap.getElem?_empty
    rw [hresolve, Registry.resolve?_changeAll, hempty]
    simp
  · rintro before env template named args later -
    exact entries_expand (start.through before) env template named args

end Stencil
