import Stencil.Text

/-!
# Blank characters

The characters of the Unicode property `White_Space`. They decide which templates are blank,
what is trimmed off a count or a name, and what may stand between hexadecimal digits.
-/

namespace Stencil

/-- A **blank** is a character with the Unicode property `White_Space`. -/
def isBlank (c : Char) : Bool :=
  let n := c.toNat
  (9 ≤ n && n ≤ 13) || n == 0x20 || n == 0x85 || n == 0xA0 || n == 0x1680 ||
    (0x2000 ≤ n && n ≤ 0x200A) || n == 0x2028 || n == 0x2029 || n == 0x202F || n == 0x205F ||
    n == 0x3000

/-- A text without the blanks at its two ends. -/
def Text.trim (t : Text) : Text := t.trimBoth isBlank

end Stencil
