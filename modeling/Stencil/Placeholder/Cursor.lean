import Stencil.Placeholder.Scan
import Stencil.Text.Utf8

/-!
# Scanning the bytes of a template

The readers of placeholders in terms of the UTF-8 form of a template: a cursor stands at a
byte, looks at one byte at a time and cuts slices out of the template. A slice that leaves the
template or cuts through a character is a fault, and so nothing may be read beyond it. The walk
over a template tries a reader only where a `{` or a `#` stands.

## Main definitions

* `Stencil.Text.slice?`: the part of a text between two bytes.
* `Stencil.Cursor`: a computation at a byte of a template.
* `Stencil.Cursor.read`: the reader of a family at a byte.
* `Stencil.Token.walk`: the tokens of a family, found from anchor to anchor.
-/

namespace Stencil

/-! ### Slices -/

namespace Text

/-- A text without its first `n` bytes, if there are so many and they end with a character. -/
def dropBytes? : Nat → Text → Option Text
  | 0, t => some t
  | _ + 1, [] => none
  | n + 1, c :: rest =>
    if c.utf8Size ≤ n + 1 then dropBytes? (n + 1 - c.utf8Size) rest else none

/-- The first `n` bytes of a text, if there are so many and they end with a character. -/
def takeBytes? : Nat → Text → Option Text
  | 0, _ => some []
  | _ + 1, [] => none
  | n + 1, c :: rest =>
    if c.utf8Size ≤ n + 1 then (takeBytes? (n + 1 - c.utf8Size) rest).map (c :: ·) else none

/-- The part of a text from one byte to another, if both are in range and neither of them
stands inside a character. -/
def slice? (start stop : Nat) (t : Text) : Option Text :=
  if start ≤ stop then (dropBytes? start t).bind (takeBytes? (stop - start)) else none

end Text

/-! ### Cursors -/

/-- A template together with its bytes. -/
structure Source where
  /-- The template. -/
  text : Text
  /-- The bytes of its UTF-8 form. -/
  bytes : List UInt8

/-- The bytes of a template. -/
def Source.ofText (t : Text) : Source := ⟨t, Utf8.encode t⟩

/-- A slice that is out of range or cuts a character. -/
structure SliceFault where
  /-- The first byte of the slice. -/
  start : Nat
  /-- The first byte behind the slice. -/
  stop : Nat

/-- A slice of a source; a bad one is a fault. -/
def Source.slice (source : Source) (start stop : Nat) : Except SliceFault Text :=
  match source.text.slice? start stop with
  | some t => .ok t
  | none => .error ⟨start, stop⟩

/-- The bytes of a source from a place on; a place behind the end is a fault. -/
def Source.bytesFrom (source : Source) (start : Nat) : Except SliceFault (List UInt8) :=
  if start ≤ source.bytes.length then .ok (source.bytes.drop start)
  else .error ⟨start, source.bytes.length⟩

/-- A computation with a **cursor**, which stands at a byte of a source. It may find nothing,
and it may fault. -/
def Cursor (α : Type) := Source → Nat → Except SliceFault (Option (α × Nat))

namespace Cursor

variable {α β : Type}

/-- The cursor stays where it is. -/
protected def pure (a : α) : Cursor α := fun _ pos => .ok (some (a, pos))

/-- One computation after another. -/
protected def bind (m : Cursor α) (f : α → Cursor β) : Cursor β := fun source pos =>
  match m source pos with
  | .error fault => .error fault
  | .ok none => .ok none
  | .ok (some (a, pos)) => f a source pos

instance : Monad Cursor where
  pure := Cursor.pure
  bind := Cursor.bind

/-- Nothing is found. -/
def nothing : Cursor α := fun _ _ => .ok none

/-- A value is found if there is one. -/
def ofOption : Option α → Cursor α
  | some a => pure a
  | none => nothing

/-- The byte at the cursor. -/
def peek : Cursor (Option UInt8) := fun source pos => .ok (some (source.bytes[pos]?, pos))

/-- Where the cursor stands. -/
def position : Cursor Nat := fun _ pos => .ok (some (pos, pos))

/-- Puts the cursor at a byte. -/
def moveTo (pos : Nat) : Cursor Unit := fun _ _ => .ok (some ((), pos))

/-- A slice of the source. -/
def slice (start stop : Nat) : Cursor Text := fun source pos =>
  (source.slice start stop).map fun t => some (t, pos)

/-- How many bytes in front of the first given byte stand behind a place. -/
def distance? (byte : UInt8) (start : Nat) : Cursor (Option Nat) := fun source pos =>
  (source.bytesFrom start).map fun bytes => some (bytes.findIdx? (· == byte), pos)

/-- Steps over a byte if it stands at the cursor. -/
def eat (byte : UInt8) : Cursor Bool := do
  if (← peek) = some byte then
    moveTo ((← position) + 1)
    pure true
  else pure false

/-- Steps over the bytes of a class. -/
def skipWhile (p : UInt8 → Bool) : Cursor Unit := fun source pos =>
  .ok (some ((), pos + ((source.bytes.drop pos).takeWhile p).length))

/-- The text that a computation steps over. -/
def textOf (m : Cursor Unit) : Cursor Text := do
  let start ← position
  m
  slice start (← position)

/-- Steps over the bytes of a class and gives the text they make up. -/
def takeWhile (p : UInt8 → Bool) : Cursor Text := textOf (skipWhile p)

/-! ### Bytes -/

/-- The byte of an ASCII character. -/
def byte (c : Char) : UInt8 := c.toNat.toUInt8

/-- Whether a byte stands for a character of an ASCII class. -/
def isByte (p : Char → Bool) (b : UInt8) : Bool := b < 0x80 && p (Char.ofNat b.toNat)

/-! ### Parts of a brace token -/

/-- The index that a named token binds. -/
def binding : Cursor (Option Nat) := do
  if ← eat (byte '-') then
    let digits ← takeWhile (isByte Char.isDigit)
    if digits = [] then nothing else pure (Placeholder.wordOf? 64 digits)
  else pure none

/-- The first comma group. -/
def width : Cursor (Option Int) := do
  if ← eat (byte ',') then
    let numeral ← textOf do
      let _ ← eat (byte '-')
      let _ ← takeWhile (isByte Char.isDigit)
    pure ((Numeral.integer? numeral).bind (Numeral.signedWord? 32))
  else pure none

/-- The second comma group. -/
def limit : Cursor (Option Nat) := do
  if ← eat (byte ',') then
    let digits ← takeWhile (isByte Char.isDigit)
    pure (Placeholder.wordOf? 32 digits)
  else pure none

/-- The text in front of the next closing brace, which must not be empty. -/
def untilBrace (start : Nat) : Cursor Text := do
  match ← distance? (byte '}') start with
  | none => nothing
  | some close =>
    if close = 0 then nothing
    else
      let text ← slice start (start + close)
      moveTo (start + close)
      pure text

/-- The format, up to the closing brace. -/
def format : Cursor (Option Text) := do
  if (← peek) = some (byte ':') then
    let text ← untilBrace ((← position) + 1)
    pure (some text)
  else pure none

/-- The layout of a brace token, up to and including the closing brace. -/
def layout : Cursor Layout := do
  let width ← width
  let limit ← limit
  let format ← format
  if ← eat (byte '}') then pure ⟨width, limit, format⟩ else nothing

/-! ### Readers -/

/-- `{KEY[-INDEX][,width][,limit][:format]}` -/
def named : Cursor Placeholder := do
  if ← eat (byte '{') then
    if (← peek).any (isByte Char.isAlpha) then
      let key ← takeWhile (isByte isKeyChar)
      let index ← binding
      let layout ← layout
      pure (.named key index layout)
    else nothing
  else nothing

/-- `{INDEX[,width][,limit][:format]}` -/
def indexed : Cursor Placeholder := do
  if ← eat (byte '{') then
    let digits ← takeWhile (isByte Char.isDigit)
    let index ← ofOption (Placeholder.wordOf? 64 digits)
    let layout ← layout
    pure (.indexed index layout)
  else nothing

/-- The encoding that the code letter at the cursor selects. -/
def encoding : Cursor Encoding := do
  match (← peek).bind fun b => Encoding.ofCode? (Char.ofNat b.toNat) with
  | some e =>
    moveTo ((← position) + 1)
    pure e
  | none => pure .utf8

/-- A braced run of digits behind its opening brace: a whole number of units. -/
def bracedUnits (unit : Nat) : Cursor Text := do
  let digits ← takeWhile (isByte Hex.isDigit)
  if digits = [] ∨ digits.utf8Size % unit ≠ 0 then nothing
  else if ← eat (byte '}') then pure digits
  else nothing

/-- The longest whole number of units at the start of a bare run of digits. -/
def bareUnits (unit : Nat) : Cursor Text := do
  let start ← position
  let available := (← takeWhile (isByte Hex.isDigit)).utf8Size
  let taken := available - available % unit
  if taken = 0 then nothing
  else
    moveTo (start + taken)
    slice start (start + taken)

/-- `#[u|U]hh…` or `#[u|U]{hh…}` -/
def hex : Cursor Placeholder := do
  if ← eat (byte '#') then
    let e ← encoding
    if ← eat (byte '{') then
      let digits ← bracedUnits e.unitDigits
      pure (.hex e digits true)
    else
      let digits ← bareUnits e.unitDigits
      pure (.hex e digits false)
  else nothing

/-- The reader of a family. -/
def read : Family → Cursor Placeholder
  | .named => named
  | .indexed => indexed
  | .hex => hex

end Cursor

/-! ### Anchors -/

/-- What a template falls into: the characters at which placeholders can start, and the text
between them. -/
inductive Mark where
  /-- `{` -/
  | brace
  /-- `#` -/
  | hash
  /-- Everything else. -/
  | text
  deriving DecidableEq

namespace Mark

/-- The mark of a character. -/
def ofChar (c : Char) : Mark := if c = '{' then brace else if c = '#' then hash else text

/-- Whether the tokens of a family can start at a mark. -/
def opens : Mark → Family → Bool
  | brace, .named | brace, .indexed | hash, .hex => true
  | _, _ => false

/-- The marks of a text that starts at byte `offset`, each with its first byte. A run of other
characters is one mark. -/
def ofText (offset : Nat) (t : Text) : List (Mark × Nat) :=
  match t with
  | [] => []
  | c :: rest =>
    match ofChar c with
    | brace => (brace, offset) :: ofText (offset + c.utf8Size) rest
    | hash => (hash, offset) :: ofText (offset + c.utf8Size) rest
    | text =>
      (text, offset) :: ofText
        (offset + c.utf8Size + Text.utf8Size (rest.takeWhile (ofChar · == text)))
        (rest.dropWhile (ofChar · == text))
termination_by t.length
decreasing_by
  · simp
  · simp
  · exact Nat.lt_succ_of_le (List.dropWhile_suffix _).length_le

/-- The anchors of a text: its marks other than text. -/
def anchors (t : Text) : List (Mark × Nat) := (ofText 0 t).filter fun mark => mark.1 ≠ text

end Mark

/-! ### The walk -/

namespace Token

/-- The tokens of a family at given anchors, from byte `resume` on. An anchor of another family
or in front of that byte is passed over, and so is one at which the reader finds nothing. -/
def walkFrom (source : Source) (family : Family) :
    List (Mark × Nat) → Nat → Except SliceFault (List Token)
  | [], _ => .ok []
  | (mark, start) :: anchors, resume =>
    if start < resume ∨ mark.opens family = false then walkFrom source family anchors resume
    else do
      match ← Cursor.read family source start with
      | none => walkFrom source family anchors resume
      | some (placeholder, stop) =>
        let raw ← source.slice start stop
        let tokens ← walkFrom source family anchors stop
        pure (⟨placeholder, raw, start⟩ :: tokens)

/-- The tokens of a family in a text, found from anchor to anchor. -/
def walk (family : Family) (t : Text) : Except SliceFault (List Token) :=
  walkFrom (.ofText t) family (Mark.anchors t) 0

end Token

end Stencil
