import Stencil.Text.Blank
import Stencil.Text.Utf16

/-!
# Hexadecimal text

Texts of hexadecimal digits, the bytes they spell, and the text that those bytes encode.

## Main definitions

* `Stencil.Hex.digit?`: the value of a hexadecimal digit of either case.
* `Stencil.Hex.isHex`: digits only, with or without blanks between them.
* `Stencil.Hex.bytes?`: the bytes of a text of digits.
* `Stencil.Encoding`: how the bytes of an escape are read.
* `Stencil.Encoding.decodeHex`: the text that a run of digits encodes.
-/

namespace Stencil

namespace Hex

/-! ### Digits -/

/-- A hexadecimal digit. -/
abbrev Digit := Fin 16

/-- The value of a hexadecimal digit of either case. -/
def digit? (c : Char) : Option Digit :=
  let n := c.toNat
  if h : 48 ≤ n ∧ n ≤ 57 then some ⟨n - 48, by omega⟩
  else if h : 97 ≤ n ∧ n ≤ 102 then some ⟨n - 87, by omega⟩
  else if h : 65 ≤ n ∧ n ≤ 70 then some ⟨n - 55, by omega⟩
  else none

/-- Whether a character is a hexadecimal digit. -/
def isDigit (c : Char) : Bool := (digit? c).isSome

/-- The character of a digit, letters in lower case. -/
def digitChar (d : Digit) : Char := Nat.digitChar d

/-! ### Bytes -/

/-- The bytes of a sequence of digits, two digits a byte; a last digit without a partner is a
byte of its own. -/
def pairs : List Digit → List UInt8
  | high :: low :: rest => UInt8.ofNat (high * 16 + low) :: pairs rest
  | [single] => [UInt8.ofNat single]
  | [] => []

/-- Whether a text holds at least one hexadecimal digit and nothing else, blanks apart if they
are allowed. -/
def isHex (t : Text) (allowBlanks : Bool) : Bool :=
  !t.trim.isEmpty && t.all fun c => isDigit c || (allowBlanks && isBlank c)

/-- The bytes of a text of digits, or `none` where `isHex` refuses the text. -/
def bytes? (t : Text) (allowBlanks : Bool) : Option (List UInt8) :=
  if isHex t allowBlanks then some (pairs (t.filterMap digit?)) else none

/-- The two digits of a byte, the high one first. -/
def digitsOfByte (b : UInt8) : List Digit :=
  [⟨b.toNat / 16, by have := b.toNat_lt; omega⟩, ⟨b.toNat % 16, by omega⟩]

/-- The digits of a byte sequence in lower case. -/
def ofBytes (bytes : List UInt8) : Text := (bytes.flatMap digitsOfByte).map digitChar

/-! ### Lemmas -/

/-- The character of a digit reads back as that digit. -/
@[simp] theorem digit?_digitChar (d : Digit) : digit? (digitChar d) = some d := by
  revert d; decide

/-- The digits of a byte spell that byte. -/
@[simp] theorem pairs_digitsOfByte_append (b : UInt8) (rest : List Digit) :
    pairs (digitsOfByte b ++ rest) = b :: pairs rest := by
  have hb : b.toNat / 16 * 16 + b.toNat % 16 = b.toNat := by omega
  simp [digitsOfByte, pairs, hb]

end Hex

/-! ### Encodings -/

/-- How the bytes of a hexadecimal escape are read. -/
inductive Encoding where
  /-- UTF-8, which has no code letter. -/
  | utf8
  /-- UTF-16 with the low byte first, code letter `u`. -/
  | utf16le
  /-- UTF-16 with the high byte first, code letter `U`. -/
  | utf16be
  deriving DecidableEq

namespace Encoding

/-- The encoding that a code letter selects. -/
def ofCode? : Char → Option Encoding
  | 'u' => some utf16le
  | 'U' => some utf16be
  | _ => none

/-- The code letter of an encoding, as it is written after `#`. -/
def code : Encoding → Text
  | utf8 => []
  | utf16le => ['u']
  | utf16be => ['U']

/-- How many digits make up one unit. -/
def unitDigits : Encoding → Nat
  | utf8 => 2
  | utf16le | utf16be => 4

/-- The text of a byte sequence. -/
def decode : Encoding → List UInt8 → Text
  | utf8, bytes => Utf8.decode bytes
  | utf16le, bytes => Utf16.decode (Utf16.units .little bytes)
  | utf16be, bytes => Utf16.decode (Utf16.units .big bytes)

/-- The bytes of a text. -/
def encode : Encoding → Text → List UInt8
  | utf8, t => Utf8.encode t
  | utf16le, t => (Utf16.encode t).flatMap Utf16.ByteOrder.little.bytes
  | utf16be, t => (Utf16.encode t).flatMap Utf16.ByteOrder.big.bytes

/-- The text that a run of digits encodes; anything but digits encodes nothing. -/
def decodeHex (e : Encoding) (digits : Text) : Text :=
  e.decode ((Hex.bytes? digits false).getD [])

end Encoding

end Stencil
