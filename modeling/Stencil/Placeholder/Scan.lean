import Stencil.Placeholder.Grammar

/-!
# Scanning a template

The tokens of a template, one family at a time or all together. The scan of a family goes from
left to right and takes the first placeholder it meets; after a match it goes on behind it.
Tokens of different families are found independently of each other and may nest.

## Main definitions

* `Stencil.Token.ofFamily`: the tokens of one family, left to right.
* `Stencil.Token.ofText`: the tokens of all families, ordered by offset.
-/

namespace Stencil.Token

/-- The tokens of a family in a text that starts at byte `offset`, left to right. -/
def scan (family : Family) (offset : Nat) (t : Text) : List Token :=
  match t with
  | [] => []
  | c :: rest =>
    match _h : Placeholder.read? family (c :: rest) with
    | none => scan family (offset + c.utf8Size) rest
    | some (placeholder, after) =>
      let raw : Text := (c :: rest).take ((c :: rest).length - after.length)
      ⟨placeholder, raw, offset⟩ :: scan family (offset + raw.utf8Size) after
termination_by t.length
decreasing_by
  · simp
  · exact Placeholder.length_lt_of_read? _h

/-- The tokens of one family in a text, left to right. -/
def ofFamily (family : Family) (t : Text) : List Token := scan family 0 t

/-- The tokens of all families in a text, ordered by offset. -/
def ofText (t : Text) : List Token :=
  let tokens := ofFamily .named t ++ ofFamily .hex t ++ ofFamily .indexed t
  tokens.mergeSort fun a b => a.offset ≤ b.offset

end Stencil.Token
