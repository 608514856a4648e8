import Stencil.Text.Utf8

/-!
# UTF-16

Encoding and forgiving decoding of sequences of 16-bit units, in either byte order. A high
surrogate directly before a low one makes one supplementary character, every other surrogate
becomes one U+FFFD, and every other unit is its own character.
-/

namespace Stencil.Utf16

/-! ### Units -/

/-- A unit that opens a surrogate pair. -/
def isHigh (u : UInt16) : Bool := 0xD800 ≤ u && u ≤ 0xDBFF

/-- A unit that closes a surrogate pair. -/
def isLow (u : UInt16) : Bool := 0xDC00 ≤ u && u ≤ 0xDFFF

/-- The supplementary character of a surrogate pair. -/
def join (high low : UInt16) : Char :=
  Char.ofNat (0x10000 + (high.toNat - 0xD800) * 0x400 + (low.toNat - 0xDC00))

/-- The units of a character: one, or a surrogate pair. -/
def encodeChar (c : Char) : List UInt16 :=
  let n := c.toNat
  if n < 0x10000 then [UInt16.ofNat n]
  else
    [UInt16.ofNat (0xD800 + (n - 0x10000) / 0x400),
      UInt16.ofNat (0xDC00 + (n - 0x10000) % 0x400)]

/-- The units of a text. -/
def encode (t : Text) : List UInt16 := t.flatMap encodeChar

/-- The text of a sequence of units, with one U+FFFD for every unpaired surrogate. -/
def decode : List UInt16 → Text
  | [] => []
  | [u] => if isHigh u || isLow u then [replacement] else [Char.ofNat u.toNat]
  | u :: v :: rest =>
    if isHigh u then
      if isLow v then join u v :: decode rest else replacement :: decode (v :: rest)
    else if isLow u then replacement :: decode (v :: rest)
    else Char.ofNat u.toNat :: decode (v :: rest)

/-! ### Byte order -/

/-- The order in which the two bytes of a unit are written. -/
inductive ByteOrder where
  /-- The low byte comes first. -/
  | little
  /-- The high byte comes first. -/
  | big
  deriving DecidableEq

/-- The unit of two bytes in the order in which they are written. -/
def ByteOrder.unit : ByteOrder → UInt8 → UInt8 → UInt16
  | little, first, second => UInt16.ofNat (second.toNat * 0x100 + first.toNat)
  | big, first, second => UInt16.ofNat (first.toNat * 0x100 + second.toNat)

/-- The two bytes of a unit in the order in which they are written. -/
def ByteOrder.bytes : ByteOrder → UInt16 → List UInt8
  | little, u => [UInt8.ofNat (u.toNat % 0x100), UInt8.ofNat (u.toNat / 0x100)]
  | big, u => [UInt8.ofNat (u.toNat / 0x100), UInt8.ofNat (u.toNat % 0x100)]

/-- The units of a byte sequence; a last byte without a partner is dropped. -/
def units (order : ByteOrder) : List UInt8 → List UInt16
  | first :: second :: rest => order.unit first second :: units order rest
  | _ => []

end Stencil.Utf16
