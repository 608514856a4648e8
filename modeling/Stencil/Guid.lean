import Stencil.Error
import Stencil.Hex

/-!
# Identifiers

Universally unique identifiers as words of 32 hexadecimal digits, the ways to write them, and
the ways in which they are read.

## Main definitions

* `Stencil.Guid`: 32 hexadecimal digits.
* `Stencil.Guid.hyphenated`, `Stencil.Guid.simple`, `Stencil.Guid.fields`: written forms.
* `Stencil.Guid.read?`: reading the simple, hyphenated, braced and `urn:uuid:` forms.
* `Stencil.formatGuid`: an identifier written by a format text.
-/

namespace Stencil

/-- A **guid**: an identifier of 128 bits, as its 32 hexadecimal digits. -/
structure Guid where
  /-- The digits, the highest first. -/
  digits : List Hex.Digit
  /-- There are 32 digits. -/
  length_digits : digits.length = 32
  deriving DecidableEq

namespace Guid

/-- The guid of a sequence of digits, if there are 32. -/
def ofDigits? (digits : List Hex.Digit) : Option Guid :=
  if h : digits.length = 32 then some ⟨digits, h⟩ else none

/-! ### Written forms -/

/-- The characters of `count` digits after the first `start` ones. -/
def slice (g : Guid) (start count : Nat) : Text :=
  ((g.digits.drop start).take count).map Hex.digitChar

/-- All digits without a separator. -/
def simple (g : Guid) : Text := g.digits.map Hex.digitChar

/-- Groups of 8, 4, 4, 4 and 12 digits with hyphens between them. -/
def hyphenated (g : Guid) : Text :=
  g.slice 0 8 ++ '-' :: g.slice 8 4 ++ '-' :: g.slice 12 4 ++ '-' :: g.slice 16 4 ++
    '-' :: g.slice 20 12

/-- The hyphenated form in braces. -/
def braced (g : Guid) : Text := '{' :: g.hyphenated ++ ['}']

/-- The hyphenated form in parentheses. -/
def parenthesized (g : Guid) : Text := '(' :: g.hyphenated ++ [')']

/-- A hexadecimal number with its mark. -/
private def marked (t : Text) : Text := '0' :: 'x' :: t

/-- One number of 32 bits, two of 16 and, in braces of their own, eight of 8. -/
def fields (g : Guid) : Text :=
  let bytes := (List.range 8).map fun i => marked (g.slice (16 + 2 * i) 2)
  '{' :: marked (g.slice 0 8) ++ ',' :: marked (g.slice 8 4) ++ ',' :: marked (g.slice 12 4) ++
    ',' :: '{' :: [','].intercalate bytes ++ ['}', '}']

/-! ### Reading -/

/-- The guid of 32 digits of either case. -/
def ofSimple? (t : Text) : Option Guid := (t.mapM Hex.digit?).bind ofDigits?

/-- The guid of digits in groups of 8, 4, 4, 4 and 12 with hyphens between them. -/
def ofHyphenated? (t : Text) : Option Guid :=
  if t.length = 36 ∧ t[8]? = some '-' ∧ t[13]? = some '-' ∧ t[18]? = some '-' ∧
      t[23]? = some '-' then
    ofSimple? (t.take 8 ++ (t.drop 9).take 4 ++ (t.drop 14).take 4 ++ (t.drop 19).take 4 ++
      t.drop 24)
  else none

/-- What stands between an opening and a closing text. -/
def between? (opening closing t : Text) : Option Text := do
  let rest ← Text.after? opening t
  let middle ← Text.after? closing.reverse rest.reverse
  pure middle.reverse

/-- What follows the name space `urn:uuid:`, whose letters are of either case. -/
def afterUrn? (t : Text) : Option Text :=
  if (t.take 9).map Char.toLower = "urn:uuid:".toList then some (t.drop 9) else none

/-- The guid of a text in the simple form, or in the hyphenated form by itself, in braces or
after `urn:uuid:`. -/
def read? (t : Text) : Option Guid :=
  (ofSimple? t).or ((ofHyphenated? t).or
    (((between? ['{'] ['}'] t).bind ofHyphenated?).or ((afterUrn? t).bind ofHyphenated?)))

end Guid

/-! ### Format texts -/

/-- The written form that a format text selects. -/
def guidForm? : Text → Option (Guid → Text)
  | [] => some Guid.hyphenated
  | [letter] =>
    match letter with
    | 'D' | 'd' => some Guid.hyphenated
    | 'N' | 'n' => some Guid.simple
    | 'B' | 'b' => some Guid.braced
    | 'P' | 'p' => some Guid.parenthesized
    | 'X' | 'x' => some Guid.fields
    | _ => none
  | _ => none

/-- An identifier written by a format text. -/
def formatGuid (g : Guid) (spec : Text) : ExpandResult Text :=
  match guidForm? spec with
  | some form => .ok (form g)
  | none => .error (.invalidFormat spec .guid)

end Stencil
