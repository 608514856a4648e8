import Stencil.Hex

/-!
# TOML strings

Strings in quotes. A basic string, in double quotes, has escapes; a literal one, in single
quotes, has none. Three quotes enclose a string of several lines, of which a line break right
after the opening quotes does not count.

## Main definitions

* `Stencil.Toml.basic?`, `Stencil.Toml.literal?`: strings of one line, after the opening quote.
* `Stencil.Toml.multiBasic?`, `Stencil.Toml.multiLiteral?`: strings of several lines.
* `Stencil.Toml.string?`: a string of any of the four forms.
-/

namespace Stencil.Toml

/-! ### Characters -/

/-- Whether a character may stand in a string as it is: no control character but the tab. -/
def isPlain (c : Char) : Bool := c == '\t' || (0x20 ≤ c.toNat && c.toNat ≠ 0x7F)

/-- A text after a line break at its start, or `none` where there is no line break. -/
def lineBreak? : Text → Option Text
  | '\n' :: rest => some rest
  | '\r' :: '\n' :: rest => some rest
  | _ => none

/-! ### Escapes -/

/-- The character that `count` hexadecimal digits number. -/
def numbered? (count : Nat) (t : Text) : Option (Char × Text) := do
  let digits ← (t.take count).mapM Hex.digit?
  let n := digits.foldl (fun n d => n * 16 + d.val) 0
  if digits.length = count ∧ n.isValidChar then pure (Char.ofNat n, t.drop count) else none

/-- The character of an escape, after the backslash. -/
def escape? : Text → Option (Char × Text)
  | [] => none
  | c :: rest =>
    match c with
    | 'b' => some ('\x08', rest)
    | 't' => some ('\t', rest)
    | 'n' => some ('\n', rest)
    | 'f' => some ('\x0C', rest)
    | 'r' => some ('\r', rest)
    | 'e' => some ('\x1B', rest)
    | '"' => some ('"', rest)
    | '\\' => some ('\\', rest)
    | 'x' => numbered? 2 rest
    | 'u' => numbered? 4 rest
    | 'U' => numbered? 8 rest
    | _ => none

/-- An escape consumes something. -/
theorem length_lt_of_escape? {t rest : Text} {c : Char} (h : escape? t = some (c, rest)) :
    rest.length < t.length := by
  have hnumbered : ∀ {count : Nat} {t rest : Text} {c : Char},
      numbered? count t = some (c, rest) → rest.length ≤ t.length := by
    intro count t rest c h
    simp only [numbered?, bind, Option.bind_eq_some_iff, pure] at h
    obtain ⟨digits, -, h⟩ := h
    split at h
    · simp only [Option.some.injEq, Prod.mk.injEq] at h
      rw [← h.2, List.length_drop]
      omega
    · simp at h
  unfold escape? at h
  split at h
  · simp at h
  · split at h <;>
      first
      | (simp only [Option.some.injEq, Prod.mk.injEq] at h; simp [← h.2])
      | exact Nat.lt_succ_of_le (hnumbered h)
      | simp at h

/-- A text after a line end that is escaped: blanks, a line break, and all blanks and line
breaks after it; or `none` where a backslash is no such line end. -/
def continuation? (t : Text) : Option Text :=
  let isSpace (c : Char) : Bool := c == ' ' || c == '\t'
  (lineBreak? (t.dropWhile isSpace)).map fun rest => skip rest
where
  /-- A text after the blanks and line breaks at its start. -/
  skip : Text → Text
    | '\r' :: '\n' :: rest => skip rest
    | c :: rest => if c = ' ' ∨ c = '\t' ∨ c = '\n' then skip rest else c :: rest
    | [] => []

/-! ### Strings of one line -/

/-- A basic string after its opening quote. -/
def basic? (t : Text) : Option (Text × Text) :=
  match t with
  | [] => none
  | c :: rest =>
    if c = '"' then some ([], rest)
    else if c = '\\' then
      match _h : escape? rest with
      | none => none
      | some (e, after) => (basic? after).map fun (text, tail) => (e :: text, tail)
    else if isPlain c then (basic? rest).map fun (text, tail) => (c :: text, tail)
    else none
termination_by t.length
decreasing_by
  · have := length_lt_of_escape? _h
    simp only [List.length_cons]
    omega
  · simp

/-- A literal string after its opening quote. -/
def literal? : Text → Option (Text × Text)
  | [] => none
  | c :: rest =>
    if c = '\'' then some ([], rest)
    else if isPlain c then (literal? rest).map fun (text, tail) => (c :: text, tail)
    else none

/-! ### Strings of several lines -/

/-- The end of a string in three quotes: up to two more quotes before them belong to it. -/
def closing? (quote : Char) (t : Text) : Option (Text × Text) :=
  let run := (t.takeWhile (· == quote)).length
  if run < 3 then none
  else
    let extra := min (run - 3) 2
    some (List.replicate extra quote, t.drop (extra + 3))

/-- A basic string of several lines after its opening quotes. `fuel` bounds the number of
characters. -/
def multiBasicFrom? : (fuel : Nat) → Text → Option (Text × Text)
  | 0, _ => none
  | fuel + 1, t =>
    match closing? '"' t with
    | some closed => some closed
    | none =>
      match t with
      | [] => none
      | '\\' :: rest =>
        match continuation? rest with
        | some after => multiBasicFrom? fuel after
        | none => do
          let (e, after) ← escape? rest
          let (text, tail) ← multiBasicFrom? fuel after
          pure (e :: text, tail)
      | '\r' :: '\n' :: rest =>
        (multiBasicFrom? fuel rest).map fun (text, tail) => ('\r' :: '\n' :: text, tail)
      | c :: rest =>
        if isPlain c || c == '\n' then
          (multiBasicFrom? fuel rest).map fun (text, tail) => (c :: text, tail)
        else none

/-- A literal string of several lines after its opening quotes. -/
def multiLiteralFrom? : Text → Option (Text × Text)
  | [] => none
  | c :: rest =>
    match closing? '\'' (c :: rest) with
    | some closed => some closed
    | none =>
      if isPlain c || c == '\n' || (c == '\r' && rest.head? == some '\n') then
        (multiLiteralFrom? rest).map fun (text, tail) => (c :: text, tail)
      else none

/-- A basic string of several lines after its opening quotes and a line break that does not
count. -/
def multiBasic? (t : Text) : Option (Text × Text) :=
  multiBasicFrom? (t.length + 1) ((lineBreak? t).getD t)

/-- A literal string of several lines after its opening quotes and a line break that does not
count. -/
def multiLiteral? (t : Text) : Option (Text × Text) :=
  multiLiteralFrom? ((lineBreak? t).getD t)

/-! ### All together -/

/-- A string of any form at the start of a text. -/
def string? : Text → Option (Text × Text)
  | '"' :: '"' :: '"' :: rest => multiBasic? rest
  | '"' :: rest => basic? rest
  | '\'' :: '\'' :: '\'' :: rest => multiLiteral? rest
  | '\'' :: rest => literal? rest
  | _ => none

end Stencil.Toml
