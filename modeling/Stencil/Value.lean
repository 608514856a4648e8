import Stencil.Format.DateTime
import Stencil.Format.Number
import Stencil.Guid

/-!
# Values

What can be given to an expansion, as a positional argument or under a name.

## Main definitions

* `Stencil.Value`: a text, character, truth value, integer, floating-point number, date-time or
  identifier.
* `Stencil.Value.display`: the text of a value.
* `Stencil.Value.format`: a value written by a format text.
* `Stencil.Value.same`: equality of values.
-/

namespace Stencil

/-- A **value** supplied to an expansion. -/
inductive Value where
  | str (text : Text)
  | char (c : Char)
  | bool (b : Bool)
  /-- A signed integer of 64 bits. -/
  | int (n : Int64)
  /-- An unsigned integer of 64 bits. -/
  | uint (n : UInt64)
  | float (x : Binary64)
  | dateTime (d : DateTime)
  | guid (g : Guid)
  deriving DecidableEq

namespace Value

/-- The kind of a value. -/
def kind : Value → Kind
  | str _ => .string
  | char _ => .char
  | bool _ => .bool
  | int _ | uint _ => .integer
  | float _ => .float
  | dateTime _ => .dateTime
  | guid _ => .guid

/-! ### Texts -/

/-- The text of a truth value. -/
def boolText (b : Bool) : Text := if b then "true".toList else "false".toList

/-- The text of a value. -/
def display : Value → Text
  | str text => text
  | char c => [c]
  | bool b => boolText b
  | int n => Numeral.signed n.toInt
  | uint n => Numeral.decimal n.toNat
  | float x => x.display
  | dateTime d => d.display
  | guid g => g.hyphenated

/-- A value written by a format text, which texts, characters and truth values ignore. -/
def format (v : Value) (spec : Text) : ExpandResult Text :=
  match v with
  | str text => .ok text
  | char c => .ok [c]
  | bool b => .ok (boolText b)
  | int n => formatInteger n.toInt spec
  | uint n => formatInteger n.toNat spec
  | float x => formatFloat x spec
  | dateTime d => formatDateTime d (d.offset = .utc) spec
  | guid g => formatGuid g spec

/-! ### Readings -/

/-- The value as a signed integer of 64 bits, if it is one. -/
def toInt? : Value → Option Int64
  | int n => some n
  | uint n => Numeral.int64? n.toNat
  | _ => none

/-- The value as a date-time, if it is one. -/
def toDateTime? : Value → Option DateTime
  | dateTime d => some d
  | _ => none

/-- The value as an identifier: one by itself, or a text that writes one. -/
def toGuid? : Value → Option Guid
  | guid g => some g
  | str text => Guid.read? text
  | _ => none

/-! ### Equality -/

/-- Whether two values are the same: values of one sort with equal contents, floating-point
numbers up to two neighbours, date-times by their instants. -/
def same : Value → Value → Bool
  | str a, str b => a = b
  | char a, char b => a = b
  | bool a, bool b => a = b
  | int a, int b => a = b
  | uint a, uint b => a = b
  | float a, float b => a.near b
  | dateTime a, dateTime b => a.instant = b.instant
  | guid a, guid b => a = b
  | _, _ => false

/-- Every value is the same as itself. -/
@[simp] theorem same_self (v : Value) : v.same v = true := by
  cases v <;> simp [same, Binary64.near_self]

end Value

end Stencil
