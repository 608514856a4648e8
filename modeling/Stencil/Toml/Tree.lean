import Stencil.Toml.Scalar

/-!
# TOML tables

The tree of tables that a TOML document builds up, and the rules by which a table may be opened
or extended: no key is given twice, a header opens a table at most once, dotted keys extend
only tables made by dotted keys, and what is written in braces or brackets is complete.

## Main definitions

* `Stencil.Toml.Node`: a value, an array or a table.
* `Stencil.Toml.Entries.descend`: a change to the table at a path.
* `Stencil.Toml.Entries.open?`, `Stencil.Toml.Entries.append?`: what headers do.
* `Stencil.Toml.Entries.assign?`: what a key with a value does.
-/

namespace Stencil.Toml

/-- How a table came about, which decides how it may be extended. -/
inductive Form where
  /-- By a header of its own, or as the document itself. -/
  | header
  /-- By a header of a table below it. -/
  | implicit
  /-- By a dotted key. -/
  | dotted
  /-- In braces. -/
  | inline
  deriving DecidableEq

/-- A node of a document. -/
inductive Node where
  /-- A value that is not made up of others. -/
  | scalar (s : Scalar)
  /-- An array in brackets. -/
  | array (items : List Node)
  /-- A table. -/
  | table (form : Form) (entries : List (Text × Node))
  /-- The tables opened by headers in double brackets, the latest first. -/
  | tables (items : List (List (Text × Node)))

/-- The entries of a table in the order in which they are given. -/
abbrev Entries := List (Text × Node)

namespace Entries

/-- The entries with the node of a key changed or added; the change is given the node so
far. -/
def update (key : Text) (change : Option Node → Option Node) : Entries → Option Entries
  | [] => (change none).map fun node => [(key, node)]
  | (k, node) :: rest =>
    if k = key then (change (some node)).map fun node => (k, node) :: rest
    else (update key change rest).map ((k, node) :: ·)

/-- A change to the entries of the table at a path. Tables that are missing on the way are
made: dotted ones for a dotted key, implicit ones for a header. The last of several tables
stands for all of them. The change is told how the table came about. -/
def descend (dotted : Bool) (change : Form → Entries → Option Entries) :
    (path : List Text) → Form → Entries → Option Entries
  | [], form, entries => change form entries
  | key :: path, _, entries =>
    update key (fun node =>
      match node with
      | none =>
        let form := if dotted then Form.dotted else Form.implicit
        (descend dotted change path form []).map (.table form)
      | some (.table form inner) =>
        if form = .inline ∨ (dotted ∧ form = .header) then none
        else (descend dotted change path form inner).map (.table form)
      | some (.tables (last :: earlier)) =>
        (descend dotted change path .header last).map fun last => .tables (last :: earlier)
      | some (.tables []) | some (.scalar _) | some (.array _) => none) entries

/-- The entries after a header in single brackets: it opens a table that is not there yet or
that only headers of tables below it have made. -/
def open? (path : List Text) (entries : Entries) : Option Entries :=
  match path.getLast? with
  | none => none
  | some key =>
    descend false (fun _ => update key fun node =>
      match node with
      | none => some (.table .header [])
      | some (.table .implicit inner) => some (.table .header inner)
      | some _ => none) path.dropLast .header entries

/-- The entries after a header in double brackets: it adds a table to those of its name. -/
def append? (path : List Text) (entries : Entries) : Option Entries :=
  match path.getLast? with
  | none => none
  | some key =>
    descend false (fun _ => update key fun node =>
      match node with
      | none => some (.tables [[]])
      | some (.tables items) => some (.tables ([] :: items))
      | some _ => none) path.dropLast .header entries

/-- A table after a key with a value. The table of a dotted key has to be made by dotted keys,
and the key must not be there yet. -/
def assign? (path : List Text) (node : Node) (entries : Entries) : Option Entries :=
  match path.getLast? with
  | none => none
  | some key =>
    descend true (fun form inner =>
      if path.length ≠ 1 ∧ form ≠ .dotted then none
      else update key (fun old => if old.isNone then some node else none) inner)
      path.dropLast .header entries

/-- The node of a key. -/
def get? (entries : Entries) (key : Text) : Option Node := List.lookup key entries

end Entries

end Stencil.Toml
