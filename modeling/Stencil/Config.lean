import Stencil.FilePath
import Stencil.Placeholder
import Stencil.Registry
import Stencil.Toml.Document

/-!
# Configurations

A configuration file sets the counter and binds names to values.

## Main definitions

* `Stencil.Config`: the number to count from and the named values.
* `Stencil.Config.parse`: reading a configuration.
* `Stencil.Config.apply`, `Stencil.Config.registry`: putting it into a registry.
* `Stencil.Config.find?`, `Stencil.Config.load`: the configuration of a directory.
-/

namespace Stencil

/-- A value of a configuration. -/
inductive ConfigValue where
  | bool (b : Bool)
  | integer (n : Int64)
  | float (x : Binary64)
  | string (text : Text)
  deriving DecidableEq

/-- The value that a name of a configuration is bound to. -/
def ConfigValue.toValue : ConfigValue → Value
  | bool b => .bool b
  | integer n => .int n
  | float x => .float x
  | string text => .str text

/-- A **configuration**. -/
structure Config where
  /-- The number to count from, if one is given. -/
  counter : Option Int64
  /-- The named values in the order of their names. -/
  values : Std.ExtTreeMap Text ConfigValue

namespace Config

/-- The configuration that sets nothing. -/
def blank : Config := ⟨none, ∅⟩

/-! ### Reading -/

/-- The number to count from. -/
def counter? : Toml.Node → Option Int64
  | .scalar (.integer n) => Numeral.int64? n
  | .scalar _ | .array _ | .table .. | .tables _ => none

/-- A named value: a truth value, an integer, a floating-point number or a string. An integer
that only fits an unsigned word of 64 bits becomes a floating-point number. -/
def value? : Toml.Node → Option ConfigValue
  | .scalar (.boolean b) => some (.bool b)
  | .scalar (.float x) => some (.float x)
  | .scalar (.string text) => some (.string text)
  | .scalar (.integer n) =>
    match Numeral.int64? n with
    | some n => some (.integer n)
    | none =>
      if n < 0 then none
      else (Numeral.word? 64 n.toNat).map fun n => .float (Binary64.ofInt n)
  | .scalar (.moment _) | .array _ | .table .. | .tables _ => none

/-- The name under which a date or time that stands in place of a table is its only entry. -/
def momentName : Text := "$__toml_private_datetime".toList

/-- The entries of the node that holds the named values. -/
def valueEntries? : Toml.Node → Option Toml.Entries
  | .table _ entries => some entries
  | .scalar (.moment text) => some [(momentName, .scalar (.string text))]
  | .scalar _ | .array _ | .tables _ => none

/-- The named values of a document. -/
def values? (entries : Toml.Entries) : Option (Std.ExtTreeMap Text ConfigValue) :=
  entries.foldlM (fun values (name, node) => (value? node).map (values.insert name)) ∅

/-- The configuration of a document; entries that mean nothing to it are ignored. -/
def ofEntries? (entries : Toml.Entries) : Option Config := do
  let counter ← match Toml.Entries.get? entries "counter".toList with
    | none => some none
    | some node => (counter? node).map some
  let values ← match Toml.Entries.get? entries "values".toList with
    | none => some ∅
    | some node => (valueEntries? node).bind values?
  pure ⟨counter, values⟩

/-- The configuration that a text writes. -/
def parse (t : Text) : ExpandResult Config :=
  match Toml.document? t with
  | none => .error (.configParse "not a well-formed document".toList)
  | some entries =>
    match ofEntries? entries with
    | none => .error (.configParse "a value of an unexpected type".toList)
    | some config => .ok config

/-! ### Registries -/

variable {σ : Type}

/-- A registry with the named values of a configuration bound on top, and the counter set if
the configuration says so. -/
def apply (c : Config) (r : Registry σ) : Registry σ :=
  let r := c.values.foldl (fun r name v => r.register name (.value v.toValue)) r
  match c.counter with
  | none => r
  | some n => { r with counter := (r.counter.set n).2 }

/-- The built-in handlers with a configuration on top. -/
def registry (c : Config) : Registry σ := c.apply .standard

/-! ### Directories -/

/-- Where a configuration may stand in a directory, the first choice first. -/
def candidates : List Text :=
  ["strexpand.toml".toList, ".strexpand.toml".toList, ".config/strexpand.toml".toList]

/-- The configuration file of a directory. `file?` gives the bytes of a regular file. -/
def find? (file? : Text → Option (List UInt8)) (directory : Text) : Option Text :=
  (candidates.map (FilePath.join directory)).find? fun path => (file? path).isSome

/-- The configuration of a directory, if it has one. -/
def load (file? : Text → Option (List UInt8)) (directory : Text) :
    ExpandResult (Option Config) :=
  match (find? file? directory).bind file? with
  | none => .ok none
  | some bytes =>
    match Utf8.decode? bytes with
    | none => .error (.io "stream did not contain valid UTF-8".toList)
    | some text => (parse text).map some

end Config

end Stencil
