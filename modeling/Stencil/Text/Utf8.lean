import Stencil.Text

/-!
# UTF-8

Encoding and forgiving decoding of UTF-8. Decoding never fails: every maximal part of an
ill-formed sequence that a well-formed one could start with becomes one U+FFFD, and so does
every byte that can start nothing.

## Main definitions

* `Stencil.Utf8.encode`: the bytes of a text.
* `Stencil.Utf8.decode`: the text of a byte sequence, with U+FFFD for ill-formed parts.
* `Stencil.Utf8.decode?`: the text of a well-formed byte sequence.
-/

namespace Stencil

/-- The replacement character, which stands for what cannot be decoded. -/
def replacement : Char := '\uFFFD'

namespace Utf8

/-- The bytes of a text. -/
def encode (t : Text) : List UInt8 := t.flatMap String.utf8EncodeChar

/-! ### Classes of bytes -/

/-- A byte that continues a sequence. -/
def isTail (b : UInt8) : Bool := 0x80 ≤ b && b ≤ 0xBF

/-- A byte that starts a sequence of two. -/
def isLead2 (a : UInt8) : Bool := 0xC2 ≤ a && a ≤ 0xDF

/-- A byte that starts a sequence of three. -/
def isLead3 (a : UInt8) : Bool := 0xE0 ≤ a && a ≤ 0xEF

/-- A byte that starts a sequence of four. -/
def isLead4 (a : UInt8) : Bool := 0xF0 ≤ a && a ≤ 0xF4

/-- The second bytes that a lead byte of three admits: no overlong form and no surrogate. -/
def isSecond3 (a b : UInt8) : Bool :=
  isTail b && (a != 0xE0 || 0xA0 ≤ b) && (a != 0xED || b ≤ 0x9F)

/-- The second bytes that a lead byte of four admits: no overlong form and nothing above
U+10FFFF. -/
def isSecond4 (a b : UInt8) : Bool :=
  isTail b && (a != 0xF0 || 0x90 ≤ b) && (a != 0xF4 || b ≤ 0x8F)

/-! ### Scalar values -/

/-- The six payload bits of a continuation byte. -/
def payload (b : UInt8) : Nat := b.toNat % 0x40

/-- The scalar value of a sequence of two. -/
def join2 (a b : UInt8) : Char := Char.ofNat (a.toNat % 0x20 * 0x40 + payload b)

/-- The scalar value of a sequence of three. -/
def join3 (a b c : UInt8) : Char :=
  Char.ofNat ((a.toNat % 0x10 * 0x40 + payload b) * 0x40 + payload c)

/-- The scalar value of a sequence of four. -/
def join4 (a b c d : UInt8) : Char :=
  Char.ofNat (((a.toNat % 0x08 * 0x40 + payload b) * 0x40 + payload c) * 0x40 + payload d)

/-! ### Decoding -/

/-- The characters of a byte sequence; `none` stands for an ill-formed part. -/
def parts : List UInt8 → List (Option Char)
  | [] => []
  | a :: bs =>
    if a < 0x80 then some (Char.ofNat a.toNat) :: parts bs
    else match bs with
      | [] => [none]
      | b :: cs =>
        if isLead2 a && isTail b then some (join2 a b) :: parts cs
        else if isLead3 a && isSecond3 a b then
          match cs with
          | [] => [none]
          | c :: ds =>
            if isTail c then some (join3 a b c) :: parts ds else none :: parts (c :: ds)
        else if isLead4 a && isSecond4 a b then
          match cs with
          | [] => [none]
          | c :: ds =>
            if isTail c then
              match ds with
              | [] => [none]
              | d :: es =>
                if isTail d then some (join4 a b c d) :: parts es else none :: parts (d :: es)
            else none :: parts (c :: ds)
        else none :: parts (b :: cs)

/-- The text of a byte sequence, with one U+FFFD for every ill-formed part. -/
def decode (bytes : List UInt8) : Text := (parts bytes).map (·.getD replacement)

/-- The text of a well-formed byte sequence, and `none` for any other. -/
def decode? (bytes : List UInt8) : Option Text := (parts bytes).mapM id

end Utf8

end Stencil
