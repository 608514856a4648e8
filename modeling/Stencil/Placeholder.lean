import Stencil.Hex
import Stencil.Text.Width

/-!
# Placeholders

What a template asks for. A **named** placeholder such as `{DATE-0,12:yyyy}` names an expander,
an **indexed** one such as `{0,8:x}` a positional argument, and a **hexadecimal** one such as
`#u{4100}` a text by its encoded bytes. A token is a placeholder together with the place where
it stands.

## Main definitions

* `Stencil.Layout`: width, limit and format of a named or indexed placeholder.
* `Stencil.Placeholder`: what a token asks for.
* `Stencil.Token`: a placeholder, its exact text and its byte offset in the template.
-/

namespace Stencil

/-- The three independent families of placeholders. -/
inductive Family where
  /-- `{KEY[-INDEX][,width][,limit][:format]}` -/
  | named
  /-- `{INDEX[,width][,limit][:format]}` -/
  | indexed
  /-- `#hh…`, `#uhhhh…`, `#Uhhhh…` and their braced forms. -/
  | hex
  deriving DecidableEq

/-- The options that named and indexed placeholders share. -/
structure Layout where
  /-- Pad to this many characters; a negative width pads on the right. -/
  width : Option Int
  /-- Keep at most this many characters; zero keeps all. -/
  limit : Option Nat
  /-- The text between `:` and the closing brace. -/
  format : Option Text
  deriving DecidableEq

namespace Layout

/-- The layout of a placeholder that gives no option. -/
def plain : Layout := ⟨none, none, none⟩

/-- The format text, empty where none is given. -/
def formatText (l : Layout) : Text := l.format.getD []

/-- A text fitted to the width and the limit of a layout. -/
def fit (l : Layout) (t : Text) : Text := Text.fit l.width l.limit t

end Layout

/-- What a token of a template asks for. -/
inductive Placeholder where
  /-- The expander of a name, applied to an optional positional argument. -/
  | named (key : Text) (index : Option Nat) (layout : Layout)
  /-- A positional argument. -/
  | indexed (index : Nat) (layout : Layout)
  /-- The text that a whole number of units of digits encodes. -/
  | hex (encoding : Encoding) (digits : Text) (braced : Bool)
  deriving DecidableEq

/-- The family of a placeholder. -/
def Placeholder.family : Placeholder → Family
  | named .. => .named
  | indexed .. => .indexed
  | hex .. => .hex

/-- A **token**: a placeholder where it stands in a template. -/
structure Token where
  /-- What the token asks for. -/
  placeholder : Placeholder
  /-- The exact text of the token. -/
  raw : Text
  /-- Where `raw` starts, in bytes of the template's UTF-8 form. -/
  offset : Nat
  deriving DecidableEq

namespace Token

/-- The family of a token. -/
def family (t : Token) : Family := t.placeholder.family

/-- The first byte after a token. -/
def stop (t : Token) : Nat := t.offset + t.raw.utf8Size

end Token

/-! ### Keys -/

/-- The characters of a key after its first letter. -/
def isKeyChar (c : Char) : Bool := c.isAlphanum || c == '_'

/-- Whether a name can be the key of a named placeholder: an ASCII letter, then ASCII letters,
digits and underscores. -/
def isKey : Text → Bool
  | [] => false
  | c :: rest => c.isAlpha && rest.all isKeyChar

end Stencil
