import Stencil.Registry
import Stencil.Text.Quoted

/-!
# Inspection

Texts that show how values, expanders and registries are made up.

## Main definitions

* `Stencil.Value.inspect`, `Stencil.Expander.inspect`, `Stencil.Registry.inspect`.
* `Stencil.Registry.inspectEntry`: what a name stands for.
-/

namespace Stencil

/-- A constructor and its argument. -/
private def applied (name : String) (argument : Text) : Text :=
  name.toList ++ '(' :: argument ++ [')']

/-- A floating-point number with at least one place after the point, and in scientific notation
outside of the range from `10 ^ -4` to `10 ^ 16`. -/
def Binary64.inspect (x : Binary64) : Text :=
  let small := (Binary64.ofDecimal false ⟨1, -4⟩).word
  let large := (Binary64.ofDecimal false ⟨1, 16⟩).word
  if !x.isFinite then x.display
  else if x.isZero then x.signText ++ "0.0".toList
  else if small ≤ x.word ∧ x.word < large then
    let (before, after) := x.shortest.split
    x.signText ++ before ++ '.' :: if after = [] then ['0'] else after
  else
    let d := x.shortest
    let digits := Numeral.decimal d.digits
    x.signText ++ Binary64.pointed (digits.take 1, digits.drop 1) ++
      'e' :: Numeral.signed (d.exponent + (digits.length - 1 : Nat))

/-- A value with its constructor. -/
def Value.inspect : Value → Text
  | str text => applied "Str" text.quoted
  | char c => applied "Char" (Text.quotedChar c)
  | bool b => applied "Bool" (boolText b)
  | int n => applied "Int" (Numeral.signed n.toInt)
  | uint n => applied "UInt" (Numeral.decimal n.toNat)
  | float x => applied "Float" x.inspect
  | dateTime d => applied "DateTime" d.inspect
  | guid g => applied "Guid" g.hyphenated

variable {σ : Type}

/-- An expander; nothing is told about a handler. -/
def Expander.inspect : Expander σ → Text
  | value v => applied "Static" v.inspect
  | builtin _ | custom _ => "Handler(..)".toList

/-- What a name stands for. -/
def Registry.inspectEntry (r : Registry σ) (name : Text) : Text :=
  match r.resolve? name with
  | none => "None".toList
  | some e => applied "Some" e.inspect

/-- The names and the counter of a registry. -/
def Registry.inspect (r : Registry σ) : Text :=
  let names := [',', ' '].intercalate (r.names.map Text.quoted)
  "Registry \x7b names: [".toList ++ names ++ "], counter: ".toList ++
    Numeral.signed r.counter.upcoming.toInt ++ " \x7d".toList

end Stencil
