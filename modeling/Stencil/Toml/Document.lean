import Stencil.Toml.Quoted
import Stencil.Toml.Tree

/-!
# TOML documents

Reading a whole document: lines with a header, a key and a value, or nothing, and comments
after them.

## Main definitions

* `Stencil.Toml.node?`: a value at the start of a text.
* `Stencil.Toml.document?`: the entries of a document.
-/

namespace Stencil.Toml

/-! ### Blanks and comments -/

/-- A text after the spaces and tabs at its start. -/
def skipSpaces (t : Text) : Text := t.dropWhile fun c => c == ' ' || c == '\t'

/-- A text after the blanks, line breaks and comments at its start, or `none` where a comment
holds a control character. -/
def skipTrivia (inComment : Bool) : Text → Option Text
  | [] => some []
  | '\n' :: rest => skipTrivia false rest
  | '\r' :: '\n' :: rest => skipTrivia false rest
  | c :: rest =>
    if inComment then if isPlain c then skipTrivia true rest else none
    else if c = ' ' ∨ c = '\t' then skipTrivia false rest
    else if c = '#' then skipTrivia true rest
    else some (c :: rest)

/-- A text after the end of a line: blanks, an optional comment, and a line break unless the
text ends. -/
def endOfLine? (t : Text) : Option Text :=
  let t := skipSpaces t
  let t := if t.head? = some '#' then t.tail.dropWhile isPlain else t
  if t = [] then some [] else lineBreak? t

/-! ### Keys -/

/-- The characters of a key without quotes. -/
def isBareKeyChar (c : Char) : Bool := c.isAlphanum || c == '_' || c == '-'

/-- A single key: bare, or a string of one line. -/
def simpleKey? : Text → Option (Text × Text)
  | [] => none
  | c :: rest =>
    if c = '"' then basic? rest
    else if c = '\'' then literal? rest
    else if isBareKeyChar c then
      some (c :: rest.takeWhile isBareKeyChar, rest.dropWhile isBareKeyChar)
    else none

/-- Keys with points between them, and blanks around the points. `fuel` bounds their number. -/
def key? : (fuel : Nat) → Text → Option (List Text × Text)
  | 0, _ => none
  | fuel + 1, t => do
    let (first, after) ← simpleKey? t
    match skipSpaces after with
    | '.' :: rest =>
      let (more, tail) ← key? fuel (skipSpaces rest)
      pure (first :: more, tail)
    | tail => pure ([first], tail)

/-! ### Values -/

/-- The characters of an unquoted scalar. -/
def isScalarChar (c : Char) : Bool :=
  c.isAlphanum || c == '_' || c == '-' || c == '+' || c == '.' || c == ':'

/-- An unquoted scalar. A date and a time may have a space between them. -/
def scalar? (t : Text) : Option (Scalar × Text) :=
  let run := t.takeWhile isScalarChar
  let rest := t.dropWhile isScalarChar
  let joined : Option (Text × Text) :=
    match DateTime.date? run, rest with
    | some (_, []), ' ' :: c :: tail =>
      if c.isDigit then
        some (run ++ ' ' :: (c :: tail).takeWhile isScalarChar,
          (c :: tail).dropWhile isScalarChar)
      else none
    | _, _ => none
  let (written, after) := joined.getD (run, rest)
  (Scalar.ofText? written).map fun s => (s, after)

/-- Items with commas between them and an optional comma after the last one, up to a closing
character. `fuel` bounds their number. -/
def items? {α : Type} (item? : Text → Option (α × Text)) (close : Char) :
    (fuel : Nat) → Text → Option (List α × Text)
  | 0, _ => none
  | fuel + 1, t => do
    match ← skipTrivia false t with
    | [] => none
    | c :: rest =>
      if c = close then pure ([], rest)
      else
        let (first, after) ← item? (c :: rest)
        match ← skipTrivia false after with
        | [] => none
        | d :: rest =>
          if d = close then pure ([first], rest)
          else if d = ',' then
            let (more, tail) ← items? item? close fuel rest
            pure (first :: more, tail)
          else none

/-- A key and a value with an equals sign between them. -/
def pair? (value? : Text → Option (Node × Text)) (t : Text) :
    Option ((List Text × Node) × Text) := do
  let (path, after) ← key? t.length t
  match after with
  | '=' :: rest =>
    let (node, tail) ← value? (skipSpaces rest)
    pure ((path, node), tail)
  | _ => none

/-- A value at the start of a text, in which arrays and tables nest at most `depth` deep. -/
def node? : (depth : Nat) → Text → Option (Node × Text)
  | _, [] => none
  | depth, c :: rest =>
    if c = '"' ∨ c = '\'' then
      (string? (c :: rest)).map fun (text, after) => (.scalar (.string text), after)
    else if c = '[' then
      match depth with
      | 0 => none
      | depth + 1 =>
        (items? (node? depth) ']' (rest.length + 1) rest).map fun (nodes, after) =>
          (.array nodes, after)
    else if c = '{' then
      match depth with
      | 0 => none
      | depth + 1 => do
        let (pairs, after) ← items? (pair? (node? depth)) '}' (rest.length + 1) rest
        let entries ← pairs.foldlM
          (fun entries (path, node) => Entries.assign? path node entries)
          ([] : Entries)
        pure (.table .inline entries, after)
    else (scalar? (c :: rest)).map fun (s, after) => (.scalar s, after)

/-- How deep arrays and tables in braces may nest. -/
def maxDepth : Nat := 80

/-! ### Lines -/

/-- What a line of a document says. -/
inductive Line where
  /-- Nothing. -/
  | blank
  /-- A header in single brackets. -/
  | header (path : List Text)
  /-- A header in double brackets. -/
  | arrayHeader (path : List Text)
  /-- A key and its value. -/
  | assignment (path : List Text) (node : Node)

/-- What the line at the start of a text says, and the text after it. -/
def line? (t : Text) : Option (Line × Text) := do
  match skipSpaces t with
  | '[' :: '[' :: rest =>
    let (path, after) ← key? rest.length (skipSpaces rest)
    match after with
    | ']' :: ']' :: tail => pure (.arrayHeader path, ← endOfLine? tail)
    | _ => none
  | '[' :: rest =>
    let (path, after) ← key? rest.length (skipSpaces rest)
    match after with
    | ']' :: tail => pure (.header path, ← endOfLine? tail)
    | _ => none
  | start =>
    match endOfLine? start with
    | some after => pure (.blank, after)
    | none =>
      let ((path, node), tail) ← pair? (node? maxDepth) start
      pure (.assignment path node, ← endOfLine? tail)

/-- The lines of a text. `fuel` bounds their number. -/
def lines? : (fuel : Nat) → Text → Option (List Line)
  | _, [] => some []
  | 0, _ => none
  | fuel + 1, t => do
    let (line, after) ← line? t
    let more ← lines? fuel after
    pure (line :: more)

/-- The path of the table that is open and the entries of the whole document. -/
abbrev Progress := List Text × Entries

/-- What a line does to a document. -/
def Progress.step? (p : Progress) : Line → Option Progress
  | .blank => some p
  | .header path => (Entries.open? path p.2).map fun entries => (path, entries)
  | .arrayHeader path => (Entries.append? path p.2).map fun entries => (path, entries)
  | .assignment path node =>
    (Entries.descend false (fun _ inner => Entries.assign? path node inner) p.1 .header
      p.2).map fun entries => (p.1, entries)

/-- The entries of a document, a byte order mark at its start ignored. -/
def document? (t : Text) : Option Entries := do
  let t : Text := if t.head? = some '\uFEFF' then t.tail else t
  let lines ← lines? (t.length + 1) t
  let (_, entries) ← lines.foldlM Progress.step? (([], []) : Progress)
  pure entries

end Stencil.Toml
