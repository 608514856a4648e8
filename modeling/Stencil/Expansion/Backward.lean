import Stencil.Expansion
import Stencil.Placeholder.Cursor

/-!
# Splicing escapes from the end

The pass over the escapes in terms of the bytes of the working text. All escapes are found
first, in the text as it is. Then they are replaced by what they decode to, each at the bytes
at which it was found, from the last to the first. A range of bytes that leaves the text or
ends inside a character is a fault, as it is for a slice.

## Main definitions

* `Stencil.Text.replaceSlice`: a text with the part between two bytes replaced.
* `Stencil.replaceBackward`: tokens replaced at their bytes, from the last to the first.
* `Stencil.decodeBackward`: the escapes of a text decoded from the last to the first.
-/

namespace Stencil

/-- A text with the part from one byte to another replaced. Both bytes have to be in range and
in order, and neither of them may stand inside a character. -/
def Text.replaceSlice (start stop : Nat) (t replacement : Text) : Except SliceFault Text :=
  if start ≤ stop then
    match takeBytes? start t, dropBytes? stop t with
    | some before, some after => .ok (before ++ (replacement ++ after))
    | _, _ => .error ⟨start, stop⟩
  else .error ⟨start, stop⟩

/-- A token replaced at its own bytes. A token for which there is no text stays. -/
def Token.replaceIn (text? : Token → Option Text) (working : Text) (token : Token) :
    Except SliceFault Text :=
  match text? token with
  | none => .ok working
  | some text => working.replaceSlice token.offset token.stop text

/-- Tokens replaced in a working text from the last to the first. -/
def replaceBackward (text? : Token → Option Text) (tokens : List Token) (working : Text) :
    Except SliceFault Text :=
  tokens.reverse.foldlM (Token.replaceIn text?) working

/-- The text that an escape decodes to; other tokens are no escapes. -/
def Token.decoded? (token : Token) : Option Text :=
  match token.placeholder with
  | .hex encoding digits _ => some (encoding.decodeHex digits)
  | .named .. | .indexed .. => none

/-- A text with its escapes decoded from the last to the first. -/
def decodeBackward (t : Text) : Except SliceFault Text := do
  let tokens ← Token.walk .hex t
  replaceBackward Token.decoded? tokens t

end Stencil
