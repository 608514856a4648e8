import Std.Data.ExtTreeMap
import Stencil.Counter
import Stencil.Entropy
import Stencil.Value

/-!
# Registries

What placeholder names stand for. A name is bound to a value, to one of the built-in handlers,
or to a handler of the caller's own. Handlers of the caller work on a state of the caller's
choice and on nothing else, so they can neither rebind a name nor touch the counter.

## Main definitions

* `Stencil.HandlerCall`: what a handler is told about the placeholder that it serves.
* `Stencil.Expander`: what a name is bound to.
* `Stencil.NamedValues`: bindings for a single expansion.
* `Stencil.Registry`: the bindings and the counter that outlive an expansion.
* `Stencil.Session`: a registry with all other state that expansions may change.
-/

namespace Stencil

/-! ### Handlers -/

/-- What a handler is told about the placeholder that it serves. -/
structure HandlerCall where
  /-- The key of the placeholder. -/
  name : Text
  /-- The format of the placeholder, empty where none is given. -/
  format : Text
  /-- The positional argument bound by index, if there is one. -/
  value? : Option Value
  /-- The instant at which the expansion started. -/
  now : Instant

/-- The handlers that come with the library. -/
inductive Builtin where
  /-- A bound or the current date-time. -/
  | dateTime
  /-- A bound or a fresh identifier. -/
  | guid
  /-- A bound or a fresh integer. -/
  | random
  /-- The counter. -/
  | counter
  /-- A part of a file path. -/
  | file
  /-- A text in a letter case. -/
  | text
  /-- An environment variable. -/
  | env
  /-- A text several times over. -/
  | repeated
  deriving DecidableEq

/-- A handler of the caller's own, which works on a state of type `σ`. What a failing call did
to the state stays. -/
abbrev CustomHandler (σ : Type) := HandlerCall → ExceptT ExpandError (StateM σ) Text

/-- What a placeholder name is bound to. -/
inductive Expander (σ : Type) where
  /-- A value, written by the format of the placeholder. -/
  | value (v : Value)
  /-- A handler that comes with the library. -/
  | builtin (b : Builtin)
  /-- A handler of the caller's own. -/
  | custom (run : CustomHandler σ)

/-- The value that a name is bound to, if it is bound to one. -/
def Expander.value? {σ : Type} : Expander σ → Option Value
  | value v => some v
  | builtin _ | custom _ => none

/-- Bindings in the order of their names. -/
abbrev Bindings (σ : Type) := Std.ExtTreeMap Text (Expander σ)

/-- Bindings for a single expansion, which take precedence over those of the registry. -/
abbrev NamedValues (σ : Type) := Bindings σ

/-! ### Registries -/

/-- A **registry**: what names are bound to, and the counter. -/
structure Registry (σ : Type) where
  /-- The bindings. -/
  entries : Bindings σ
  /-- The counter. -/
  counter : Counter

namespace Registry

variable {σ : Type}

/-- The registry without any binding. -/
def empty : Registry σ := ⟨∅, Counter.zero⟩

/-- Binds a name, in place of what it was bound to. -/
def register (r : Registry σ) (name : Text) (e : Expander σ) : Registry σ :=
  { r with entries := r.entries.insert name e }

/-- Removes the binding of a name. -/
def remove (r : Registry σ) (name : Text) : Registry σ :=
  { r with entries := r.entries.erase name }

/-- Binds a name, or removes its binding. -/
def set (r : Registry σ) (name : Text) : Option (Expander σ) → Registry σ
  | some e => r.register name e
  | none => r.remove name

/-- What a name is bound to. -/
def resolve? (r : Registry σ) (name : Text) : Option (Expander σ) := r.entries[name]?

/-- Whether a name is bound. -/
def contains (r : Registry σ) (name : Text) : Bool := r.entries.contains name

/-- The bound names in ascending order. -/
def names (r : Registry σ) : List Text := r.entries.keys

/-- The names of the built-in handlers. -/
def builtinNames : List (Text × Builtin) :=
  [("DATE".toList, .dateTime), ("TIME".toList, .dateTime), ("DATETIME".toList, .dateTime),
    ("UDATE".toList, .dateTime), ("UTIME".toList, .dateTime), ("UDATETIME".toList, .dateTime),
    ("GUID".toList, .guid), ("RANDOM".toList, .random), ("COUNTER".toList, .counter),
    ("FILE".toList, .file), ("TEXT".toList, .text), ("ENV".toList, .env),
    ("REPEAT".toList, .repeated)]

/-- The registry that binds the names of the built-in handlers. -/
def standard : Registry σ :=
  builtinNames.foldl (fun r (name, b) => r.register name (.builtin b)) empty

/-! ### Lemmas -/

/-- A name is bound exactly if it stands for something. -/
theorem contains_eq_isSome_resolve? (r : Registry σ) (name : Text) :
    r.contains name = (r.resolve? name).isSome := by
  simp [contains, resolve?]

/-- A name stands for what it was bound to last. -/
theorem resolve?_register (r : Registry σ) (name other : Text) (e : Expander σ) :
    (r.register name e).resolve? other =
      if name = other then some e else r.resolve? other := by
  simp [resolve?, register, Std.ExtTreeMap.getElem?_insert]

/-- A name without a binding stands for nothing. -/
theorem resolve?_remove (r : Registry σ) (name other : Text) :
    (r.remove name).resolve? other = if name = other then none else r.resolve? other := by
  simp [resolve?, remove, Std.ExtTreeMap.getElem?_erase]

end Registry

/-! ### Sessions -/

/-- A **session**: a registry with the entropy for fresh values and the state of the caller's
own handlers. -/
structure Session (σ : Type) where
  /-- The registry. -/
  registry : Registry σ
  /-- The source of fresh values. -/
  entropy : Entropy
  /-- The state of the caller's own handlers. -/
  custom : σ

/-- A computation that works on a session and may fail; what it did to the session stays even
if it fails. -/
abbrev Action (σ α : Type) := ExceptT ExpandError (StateM (Session σ)) α

namespace Action

variable {σ α : Type}

/-- A result that does not depend on the session. -/
def ofResult (r : ExpandResult α) : Action σ α := fun s => (r, s)

/-- A computation on the counter alone. -/
def onCounter (f : Counter → ExpandResult α × Counter) : Action σ α := fun s =>
  let (r, counter) := f s.registry.counter
  (r, { s with registry := { s.registry with counter := counter } })

/-- A value drawn from the entropy. -/
def draw (f : Entropy → α × Entropy) : Action σ α := fun s =>
  let (a, entropy) := f s.entropy
  (.ok a, { s with entropy := entropy })

/-- A computation on the state of the caller's own handlers alone. -/
def onCustom (act : ExceptT ExpandError (StateM σ) α) : Action σ α := fun s =>
  let (r, custom) := act s.custom
  (r, { s with custom := custom })

end Action

end Stencil
