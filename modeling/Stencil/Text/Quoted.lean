import Stencil.Numeral
import Stencil.Text.Case
import Stencil.Text.VisibleTables

/-!
# Quoted texts

Texts in quotes for inspection and for JSON. Inspection shows a character without a visible
form, or one that would attach itself to the quote or character before it, by its number.

## Main definitions

* `Stencil.Text.quoted`, `Stencil.Text.quotedChar`: for inspection.
* `Stencil.Text.json`: a JSON string.
-/

namespace Stencil.Text

/-! ### Inspection -/

/-- Whether a character is shown as it is. -/
def isVisible (c : Char) : Bool :=
  !inRanges invisibleRanges c.toNat && !inRanges extendingRanges c.toNat

/-- A character between quotes of a kind. -/
def escaped (quote c : Char) : Text :=
  if c = '\x00' then ['\\', '0']
  else if c = '\t' then ['\\', 't']
  else if c = '\r' then ['\\', 'r']
  else if c = '\n' then ['\\', 'n']
  else if c = '\\' ∨ c = quote then ['\\', c]
  else if isVisible c then [c]
  else '\\' :: 'u' :: '{' :: Nat.toDigits 16 c.toNat ++ ['}']

/-- A text in double quotes. -/
def quoted (t : Text) : Text := '"' :: t.flatMap (escaped '"') ++ ['"']

/-- A character in single quotes. -/
def quotedChar (c : Char) : Text := '\'' :: escaped '\'' c ++ ['\'']

/-! ### JSON -/

/-- A character in a JSON string. -/
def jsonEscaped (c : Char) : Text :=
  if c = '"' ∨ c = '\\' then ['\\', c]
  else if c = '\x08' then ['\\', 'b']
  else if c = '\t' then ['\\', 't']
  else if c = '\n' then ['\\', 'n']
  else if c = '\x0C' then ['\\', 'f']
  else if c = '\r' then ['\\', 'r']
  else if c.toNat < 0x20 then '\\' :: 'u' :: Numeral.fixed 16 4 c.toNat
  else [c]

/-- A text as a JSON string. -/
def json (t : Text) : Text := '"' :: t.flatMap jsonEscaped ++ ['"']

end Stencil.Text
