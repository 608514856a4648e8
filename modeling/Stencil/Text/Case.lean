import Stencil.Text
import Stencil.Text.CaseTables

/-!
# Letter case

Full case mapping of texts by the Unicode tables. A character may map to several; a capital
sigma becomes a final one where it ends a word.

## Main definitions

* `Stencil.Text.toUpper`, `Stencil.Text.toLower`: a text in capitals and in small letters.
-/

namespace Stencil

/-! ### Properties -/

/-- Whether a code point lies in one of the ranges of a list, their ends included. -/
def inRanges (ranges : List (Nat × Nat)) (n : Nat) : Bool :=
  ranges.any fun (first, last) => first ≤ n && n ≤ last

/-- Whether a character has letter case. -/
def isCased (c : Char) : Bool := inRanges casedRanges c.toNat

/-- Whether a character is passed over when the letters around another one are looked for. -/
def isCaseIgnorable (c : Char) : Bool := inRanges caseIgnorableRanges c.toNat

/-! ### Characters -/

/-- Whether a code point lies in a range of a case table. -/
def CaseRange.contains (r : CaseRange) (n : Nat) : Bool :=
  r.first ≤ n && n ≤ r.last && (n - r.first) % r.step == 0

/-- The partner of a character by a table, or the character itself. -/
def partner (table : List CaseRange) (c : Char) : Char :=
  match table.find? (·.contains c.toNat) with
  | some r => Char.ofNat (c.toNat + r.offset).toNat
  | none => c

/-- The upper-case form of a character. -/
def upperChar (c : Char) : Text :=
  if c.toNat < 0x80 then [c.toUpper]
  else
    match upperSpecials.lookup c.toNat with
    | some codes => codes.map Char.ofNat
    | none => [partner upperRanges c]

/-- The lower-case form of a character, a capital sigma aside. -/
def lowerChar (c : Char) : Text :=
  if c.toNat < 0x80 then [c.toLower]
  else if c = '\u0130' then ['i', '\u0307']
  else [partner lowerRanges c]

namespace Text

/-! ### Texts -/

/-- A text in capitals. -/
def toUpper (t : Text) : Text := t.flatMap upperChar

/-- Whether the first character that is not passed over has letter case. -/
def startsCased (t : Text) : Bool :=
  ((t.dropWhile isCaseIgnorable).head?.map isCased).getD false

/-- A text in small letters, given the text before it in reverse. A capital sigma is final if a
letter stands before it and none after it. -/
def toLowerAfter (before : Text) : Text → Text
  | [] => []
  | c :: rest =>
    let small :=
      if c = 'Σ' then
        if startsCased before && !startsCased rest then ['ς'] else ['σ']
      else lowerChar c
    small ++ toLowerAfter (c :: before) rest

/-- A text in small letters. -/
def toLower (t : Text) : Text := toLowerAfter [] t

end Text

end Stencil
