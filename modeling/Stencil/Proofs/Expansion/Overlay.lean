import Mathlib
import Stencil.Proofs.Session

/-!
# Bindings of a call as an overlay

An expansion asks for the meaning of a key in one place only, and nothing that it runs looks at
the bindings of the registry or changes them. So it depends on the bindings through the lookup
of keys alone. The bindings of a call shadow those of the registry in the same way in which
later registrations replace earlier ones: an expansion with bindings of its own is an expansion
without any in a registry where they have been registered on top.

## Main definitions

* `Stencil.Action.IgnoresBindings`: computations that neither see nor change the bindings.
* `Stencil.Registry.registerAll`: names bound one after the other.
* `Stencil.Config.overlay`: the registry of a configuration with the bindings of a call on top.

## Main results

* `ignoresBindings_evaluateAll`: evaluating named tokens ignores the bindings.
* `expand_rebind_of_keys`, `expand_rebind`: an expansion depends on the bindings through the
  lookup of keys alone, and only of those in its template.
* `resolve?_registerAll_toList`: registering the bindings of a call gives the lookup of the
  call.
* `expand_eq_expand_overlay`: bindings of a call and an overlay of the registry do the same.
-/

namespace Stencil

variable {σ α β : Type} {env : Environment} {args : List Value}

/-! ### Computations that ignore the bindings -/

/-- A session with other bindings in its registry. -/
def Session.rebind (s : Session σ) (entries : Bindings σ) : Session σ :=
  { s with registry := { s.registry with entries := entries } }

namespace Action

variable {act : Action σ α} {f : α → Action σ β}

/-- A computation **ignores the bindings** if it does the same whatever they are and leaves
them as they are. -/
def IgnoresBindings (act : Action σ α) : Prop :=
  ∀ s entries, act.run (s.rebind entries) = ((act.run s).1, (act.run s).2.rebind entries)

/-- A result alone ignores the bindings. -/
theorem ignoresBindings_pure (a : α) : IgnoresBindings (pure a : Action σ α) := fun _ _ => rfl

/-- A result that may be an error does so, too. -/
theorem ignoresBindings_ofResult (r : ExpandResult α) :
    IgnoresBindings (ofResult r : Action σ α) := fun _ _ => rfl

/-- A computation on the counter ignores the bindings beside it. -/
theorem ignoresBindings_onCounter (f : Counter → ExpandResult α × Counter) :
    IgnoresBindings (onCounter f : Action σ α) := fun _ _ => rfl

/-- To draw a fresh value is to ignore the bindings. -/
theorem ignoresBindings_draw (f : Entropy → α × Entropy) :
    IgnoresBindings (draw f : Action σ α) := fun _ _ => rfl

/-- So does a handler of the caller's own, which works on its own state alone. -/
theorem ignoresBindings_onCustom (act : ExceptT ExpandError (StateM σ) α) :
    IgnoresBindings (onCustom act) := fun _ _ => rfl

/-- Two computations that ignore the bindings do so one after the other. -/
theorem IgnoresBindings.bind (h : act.IgnoresBindings) (hf : ∀ a, (f a).IgnoresBindings) :
    (act >>= f).IgnoresBindings := by
  intro s entries
  have hact := h s entries
  rcases hrun : act.run s with ⟨e | a, s'⟩
  · rw [hrun] at hact
    rw [run_bind_of_error hact, run_bind_of_error hrun]
  · rw [hrun] at hact
    rw [run_bind_of_ok hact, run_bind_of_ok hrun]
    exact hf a s' entries

/-- Mapping the outcome changes nothing about that. -/
theorem IgnoresBindings.map (h : act.IgnoresBindings) (f : α → β) :
    (f <$> act).IgnoresBindings := by
  rw [map_eq_pure_bind]
  exact h.bind fun a => ignoresBindings_pure (f a)

end Action

open Stencil.Action

/-! ### Expansions ignore the bindings -/

/-- No built-in handler looks at the bindings. -/
theorem ignoresBindings_builtin (b : Builtin) (env : Environment) (call : HandlerCall) :
    (b.run env call : Action σ Text).IgnoresBindings := by
  cases b with
  | counter => exact ignoresBindings_onCounter (Builtin.counterText call)
  | guid =>
    rw [Builtin.run, Builtin.guidText]
    split
    · exact ignoresBindings_ofResult _
    · exact (ignoresBindings_draw _).bind fun g => ignoresBindings_ofResult _
  | random =>
    rw [Builtin.run, Builtin.randomText]
    split
    · exact ignoresBindings_ofResult _
    · exact (ignoresBindings_draw _).bind fun n => ignoresBindings_ofResult _
  | dateTime => exact ignoresBindings_ofResult _
  | file | text | env | repeated => exact ignoresBindings_pure _

/-- Whatever a name is bound to, to evaluate it is to ignore the bindings. -/
theorem ignoresBindings_expander (e : Expander σ) (env : Environment) (call : HandlerCall) :
    (e.run env call).IgnoresBindings := by
  cases e with
  | value v => exact ignoresBindings_ofResult _
  | builtin b => exact ignoresBindings_builtin b env call
  | custom handler => exact ignoresBindings_onCustom _

/-- Evaluating named tokens ignores the bindings once the lookup of keys is given. -/
theorem ignoresBindings_evaluateAll (env : Environment) (lookup : Text → Option (Expander σ))
    (args : List Value) (tokens : List Token) :
    (evaluateAll (namedText? env lookup args) tokens).IgnoresBindings := by
  induction tokens with
  | nil => exact ignoresBindings_pure []
  | cons token tokens ih =>
    cases htext : namedText? env lookup args token with
    | none =>
      rw [evaluateAll_cons_of_none htext]
      exact ih
    | some replacement =>
      obtain ⟨_, _, e, -, -, -, rfl⟩ := exists_expander_of_namedText? htext
      rw [evaluateAll_cons_of_some htext]
      exact ((ignoresBindings_expander e env _).map _).bind fun text =>
        ih.bind fun texts => ignoresBindings_pure _

/-- The indexed pass ignores the bindings, since it does not use the session at all. -/
theorem ignoresBindings_indexed (args : List Value) (tokens : List Token) (working : Text) :
    (substituteAll (indexedText? args) tokens working : Action σ Text).IgnoresBindings := by
  obtain ⟨r, hr⟩ := exists_run_substituteAll_indexed (σ := σ) args tokens working
  intro s entries
  rw [hr, hr]

variable {s : Session σ} {named named' : NamedValues σ} {entries : Bindings σ}

/-- What a named token is replaced by depends on what its own key stands for, and on no
other. -/
theorem namedText?_congr {lookup lookup' : Text → Option (Expander σ)} {token : Token}
    (h : ∀ key, token.key? = some key → lookup key = lookup' key) :
    namedText? env lookup args token = namedText? env lookup' args token := by
  obtain ⟨placeholder, raw, offset⟩ := token
  cases placeholder with
  | named key index layout => simp only [namedText?, h key rfl]
  | indexed | hex => rfl

/-- An evaluation depends on what its own tokens stand for. -/
theorem evaluateAll_congr {text? text?' : Token → Option (Action σ Text)} {tokens : List Token}
    (h : ∀ token ∈ tokens, text? token = text?' token) :
    evaluateAll text? tokens = evaluateAll text?' tokens := by
  induction tokens with
  | nil => rfl
  | cons token tokens ih =>
    rw [List.forall_mem_cons] at h
    rw [evaluateAll, evaluateAll, h.1, ih h.2]

/-- **An expansion depends on the bindings** through the lookup of the keys that stand in its
template, and in no other way. -/
theorem expand_rebind_of_keys {template : Text}
    (h : ∀ token ∈ Token.ofFamily .named template, ∀ key, token.key? = some key →
      lookup named' (s.rebind entries).registry key = lookup named s.registry key)
    (env : Environment) (args : List Value) :
    (s.rebind entries).expand env template named' args =
      ((s.expand env template named args).1,
        (s.expand env template named args).2.rebind entries) := by
  rw [expand_eq, expand_eq,
    evaluateAll_congr fun token hmem => namedText?_congr (h token hmem)]
  exact ((ignoresBindings_evaluateAll env _ args _).bind fun texts =>
    ignoresBindings_indexed args _ _) s entries

/-- **An expansion depends on the bindings through the lookup of keys alone.** -/
theorem expand_rebind
    (h : ∀ key, lookup named' (s.rebind entries).registry key = lookup named s.registry key)
    (env : Environment) (template : Text) (args : List Value) :
    (s.rebind entries).expand env template named' args =
      ((s.expand env template named args).1,
        (s.expand env template named args).2.rebind entries) :=
  expand_rebind_of_keys (fun _ _ key _ => h key) env args

/-! ### Registering bindings -/

/-- A registry with names bound one after the other; the last binding of a name counts. -/
def Registry.registerAll (r : Registry σ) (bindings : List (Text × Expander σ)) : Registry σ :=
  bindings.foldl (fun r b => r.register b.1 b.2) r

variable {r : Registry σ} {bindings : List (Text × Expander σ)} {name : Text} {e : Expander σ}

/-- A name that is not registered keeps its meaning. -/
theorem resolve?_registerAll_of_not_mem (h : name ∉ bindings.map Prod.fst) (r : Registry σ) :
    (r.registerAll bindings).resolve? name = r.resolve? name := by
  induction bindings generalizing r with
  | nil => rfl
  | cons b bindings ih =>
    rw [List.map_cons, List.mem_cons, not_or] at h
    refine (ih h.2 (r.register b.1 b.2)).trans ?_
    rw [Registry.resolve?_register, if_neg (Ne.symm h.1)]

/-- A name that is registered once stands for what it was registered with. -/
theorem resolve?_registerAll_of_mem (hnodup : (bindings.map Prod.fst).Nodup)
    (h : (name, e) ∈ bindings) (r : Registry σ) :
    (r.registerAll bindings).resolve? name = some e := by
  induction bindings generalizing r with
  | nil => exact absurd h List.not_mem_nil
  | cons b bindings ih =>
    rw [List.map_cons, List.nodup_cons] at hnodup
    rcases List.mem_cons.mp h with rfl | h
    · -- No later binding has the same name.
      refine (resolve?_registerAll_of_not_mem hnodup.1 (r.register name e)).trans ?_
      rw [Registry.resolve?_register, if_pos rfl]
    · exact ih hnodup.2 h (r.register b.1 b.2)

/-- **Registering the bindings of a call** on top of a registry gives the lookup of the
call. -/
theorem resolve?_registerAll_toList (named : NamedValues σ) (r : Registry σ) (name : Text) :
    (r.registerAll named.toList).resolve? name = lookup named r name := by
  have hkeys : named.toList.map Prod.fst = named.keys := Std.ExtTreeMap.map_fst_toList_eq_keys
  by_cases hmem : name ∈ named
  · obtain ⟨e, he⟩ :=
      Std.ExtTreeMap.mem_iff_isSome_getElem?.mp hmem |> Option.isSome_iff_exists.mp
    rw [lookup, he, Option.some_or]
    exact resolve?_registerAll_of_mem (hkeys ▸ Std.ExtTreeMap.nodup_keys)
      (Std.ExtTreeMap.mem_toList_iff_getElem?_eq_some.mpr he) r
  · rw [lookup_of_not_mem hmem]
    refine resolve?_registerAll_of_not_mem ?_ r
    rw [hkeys, Std.ExtTreeMap.mem_keys]
    exact hmem

/-- The expanders of a configuration, by name. -/
def Config.expanders (c : Config) : List (Text × Expander σ) :=
  c.values.toList.map fun b => (b.1, .value b.2.toValue)

/-- **The overlay** of the bindings of a call on a configuration: on top of the built-in
handlers the values of the configuration are registered, then the bindings of the call. The
counter starts as the configuration says, or with zero. -/
def Config.overlay (c : Config) (named : NamedValues σ) : Registry σ :=
  { (Registry.standard.registerAll c.expanders).registerAll named.toList with
    counter := ⟨c.counter.getD 0⟩ }

/-- The registry of a configuration is made in the same way. -/
theorem entries_registry (c : Config) :
    (c.registry : Registry σ).entries =
    (Registry.standard.registerAll c.expanders).entries := by
  rw [Config.registry, (apply_eq_foldl c _).1, Registry.registerAll, Config.expanders,
    List.foldl_map]

/-- The counter of a configuration's registry starts as the configuration says, or with zero.
-/
theorem counter_registry (c : Config) :
    (c.registry : Registry σ).counter = ⟨c.counter.getD 0⟩ := by
  rw [Config.registry, (apply_eq_foldl c _).2]
  cases c.counter <;> rfl

/-- The bindings of a call mean the same as the overlay. -/
theorem lookup_overlay (c : Config) (named : NamedValues σ) (key : Text) :
    lookup ∅ (c.overlay named) key = lookup named c.registry key := by
  rw [lookup_of_not_mem Std.ExtTreeMap.not_mem_empty]
  have hlookup :=
    resolve?_registerAll_toList named (Registry.standard.registerAll c.expanders) key
  refine Eq.trans hlookup ?_
  rw [lookup, lookup, Registry.resolve?, Registry.resolve?, entries_registry]

/-- **Bindings of a call are an overlay of the registry.** With the registry of any
configuration, an expansion with bindings of its own has the same result, error or not, as one
without in the registry where they have been registered on top of the values of the
configuration. The counter, the source of fresh values and the state of the caller's own
handlers are the same afterwards; and the bindings of the registry are those that it had
before, whether the expansion fails or not. -/
theorem expand_eq_expand_overlay (c : Config) (env : Environment) (template : Text)
    (named : NamedValues σ) (args : List Value) (entropy : Entropy) (custom : σ) :
    let expanded := Session.expand ⟨c.registry, entropy, custom⟩ env template named args
    let overlaid := Session.expand ⟨c.overlay named, entropy, custom⟩ env template ∅ args
    expanded.1 = overlaid.1 ∧
    expanded.2.registry.counter = overlaid.2.registry.counter ∧
    expanded.2.entropy = overlaid.2.entropy ∧
    expanded.2.custom = overlaid.2.custom ∧
    expanded.2.registry.entries = (c.registry : Registry σ).entries := by
  intro expanded overlaid
  have hoverlay : (⟨c.overlay named, entropy, custom⟩ : Session σ) =
      Session.rebind ⟨c.registry, entropy, custom⟩ (c.overlay named).entries := by
    simp only [Session.rebind, counter_registry]
    rfl
  have hlookup : ∀ key, lookup ∅ (Session.rebind ⟨c.registry, entropy, custom⟩
      (c.overlay named).entries).registry key = lookup named c.registry key :=
    fun key => lookup_overlay c named key
  have hrun : overlaid = (expanded.1, expanded.2.rebind (c.overlay named).entries) :=
    (congrArg (fun s : Session σ => s.expand env template ∅ args) hoverlay).trans
      (expand_rebind hlookup env template args)
  have hregistry := (Session.counting_expand ⟨c.registry, entropy, custom⟩
    env template named args).registry
  rw [hrun]
  exact ⟨rfl, rfl, rfl, rfl, (congrArg Registry.entries hregistry :)⟩

/-- A configuration that lets the counter start with seven and binds `A` to the text `x`. -/
def Config.small : Config :=
  ⟨some 7, Std.ExtTreeMap.empty.insert "A".toList (.string "x".toList)⟩

/-- Bindings of a call in which the name of the counter stands for a value. -/
def NamedValues.fixedCounter : NamedValues Unit :=
  Std.ExtTreeMap.insert ∅ counterName (.value (.int 3))

/-- A new session with the registry of that configuration. -/
def Session.configured : Session Unit := ⟨Config.small.registry, ⟨0⟩, ()⟩

/-- The same with those bindings on top. -/
def Session.overlaid : Session Unit := ⟨Config.small.overlay .fixedCounter, ⟨0⟩, ()⟩

/-- A binding of the call shadows the counter: the token writes its value and takes no number,
while without that binding it takes one. -/
theorem expand_eq_expand_overlay_counter :
    let shadowed :=
      Session.configured.expand .still "{COUNTER}{A}".toList .fixedCounter []
    shadowed.1 = .ok "3x".toList ∧
    Session.overlaid.expand .still "{COUNTER}{A}".toList ∅ [] =
      (.ok "3x".toList, .overlaid) ∧
    shadowed.2.registry.counter = ⟨7⟩ ∧
    shadowed.2.registry.entries = Session.configured.registry.entries ∧
    Session.configured.expand .still "{COUNTER}{A}".toList ∅ [] =
      (.ok "7x".toList, Session.configured.withCounter ⟨8⟩) := by
  intro shadowed
  obtain ⟨hresult, hcounter, -, -, hentries⟩ :=
    expand_eq_expand_overlay Config.small .still "{COUNTER}{A}".toList .fixedCounter [] ⟨0⟩ ()
  have hoverlaid : Session.overlaid.expand .still "{COUNTER}{A}".toList ∅ [] =
      (.ok "3x".toList, .overlaid) := by
    cbv
  refine ⟨hresult.trans (congrArg Prod.fst hoverlaid), hoverlaid, hcounter.trans ?_,
    hentries, ?_⟩
  · exact congrArg (fun outcome => outcome.2.registry.counter) hoverlaid
  · cbv

end Stencil
