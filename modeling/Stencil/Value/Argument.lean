import Stencil.Calendar.Rfc3339
import Stencil.Placeholder
import Stencil.Value

/-!
# Values from the command line

Arguments are texts; their type is inferred. An integer of 64 bits, a floating-point number, an
identifier or an RFC 3339 date-time keeps its type, and anything else is a text. Named values
are written as `NAME=VALUE`.

## Main definitions

* `Stencil.Value.ofArgument`: the value of an argument.
* `Stencil.Assignment`: a name and its value.
* `Stencil.Assignment.ofText`, `Stencil.Assignment.ofTexts`: reading assignments.
-/

namespace Stencil

/-- A signed integer of 64 bits in decimal, with an optional sign. -/
def int64? (t : Text) : Option Int64 :=
  (Numeral.integer? t).bind Numeral.int64?

/-- The value of an argument. A floating-point number has to hold a digit, so the words for
infinity and NaN are texts. -/
def Value.ofArgument (t : Text) : Value :=
  match int64? t with
  | some n => .int n
  | none =>
    match Binary64.read? t with
    | some x => .float x
    | none =>
      match Guid.read? t with
      | some g => .guid g
      | none =>
        match DateTime.ofRfc3339? t with
        | some d => .dateTime d
        | none => .str t

/-- A name and the value that it stands for. -/
structure Assignment where
  /-- The name, which can be the key of a placeholder. -/
  name : Text
  /-- The value. -/
  value : Value

namespace Assignment

/-- The assignment of a text: a key, blanks around it ignored, the first equals sign, and a
value. -/
def ofText (t : Text) : ExpandResult Assignment :=
  match Text.cutAt '=' t with
  | none => .error (.invalidAssignment t)
  | some (name, value) =>
    if isKey (Text.trim name) then .ok ⟨Text.trim name, .ofArgument value⟩
    else .error (.invalidAssignment t)

/-- The assignments of a sequence of texts, or the error of the first one that is none. -/
def ofTexts (ts : List Text) : ExpandResult (List Assignment) := ts.mapM ofText

end Assignment

end Stencil
