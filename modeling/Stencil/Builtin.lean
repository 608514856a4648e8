import Stencil.FilePath
import Stencil.Registry
import Stencil.Text.Blank
import Stencil.Text.Case

/-!
# Built-in handlers

What the placeholders `DATE`, `GUID`, `COUNTER`, `FILE` and their like are replaced by.

## Main definitions

* `Stencil.Environment`: what the handlers read but never change.
* `Stencil.Builtin.run`: the text of a built-in handler for a call.
-/

namespace Stencil

/-- What handlers read but never change. -/
structure Environment where
  /-- The current instant. -/
  now : Instant
  /-- The offset of the local clock at an instant. -/
  localOffset : Instant → UtcOffset
  /-- The value of an environment variable that is set. -/
  lookupVariable : Text → Option Text

namespace Builtin

/-! ### Dates -/

/-- The pattern of a date placeholder without a format. -/
def datePattern (name : Text) : Text :=
  if name = "DATE".toList ∨ name = "UDATE".toList then "yyyy-MM-dd".toList
  else if name = "TIME".toList ∨ name = "UTIME".toList then "HH:mm:ss".toList
  else if name = "UDATETIME".toList then "yyyy-MM-ddTHH:mm:ssZ".toList
  else defaultDatePattern

/-- An instant on the UTC clock if the name of the placeholder starts with `U`, and on the
local clock otherwise. -/
def instantText (env : Environment) (call : HandlerCall) (instant : Instant) :
    ExpandResult Text :=
  let utc : Bool := call.name.head? = some 'U'
  let offset := if utc then UtcOffset.utc else env.localOffset instant
  let pattern := if call.format = [] then datePattern call.name else call.format
  formatDateTime (instant.at offset) utc pattern

/-- The bound date-time, or the start of the expansion; for a bound value that is no date-time,
the name of the placeholder. -/
def dateText (env : Environment) (call : HandlerCall) : ExpandResult Text :=
  match call.value? with
  | none => instantText env call call.now
  | some v =>
    match v.toDateTime? with
    | none => .ok call.name
    | some d => instantText env call d.instant

/-! ### Numbers and identifiers -/

/-- The bound identifier, or a fresh one. -/
def guidText {σ : Type} (call : HandlerCall) : Action σ Text :=
  match call.value?.bind Value.toGuid? with
  | some g => .ofResult (formatGuid g call.format)
  | none => do
    let g ← Action.draw Entropy.guid
    .ofResult (formatGuid g call.format)

/-- The bound integer, or a fresh one of 31 bits. -/
def randomText {σ : Type} (call : HandlerCall) : Action σ Text :=
  match call.value?.bind Value.toInt? with
  | some n => .ofResult (formatInteger n.toInt call.format)
  | none => do
    let n ← Action.draw (Entropy.below 2147483647)
    .ofResult (formatInteger n call.format)

/-- The number that a counter hands out: the bound integer, with which it restarts, or the
upcoming one. -/
def count (call : HandlerCall) (c : Counter) : Int64 × Counter :=
  match call.value?.bind Value.toInt? with
  | some n => c.restart n
  | none => c.next

/-- The number handed out, written by the format; it is used up even where the format fails. -/
def counterText (call : HandlerCall) (c : Counter) : ExpandResult Text × Counter :=
  let (n, c) := count call c
  (formatInteger n.toInt call.format, c)

/-! ### Texts -/

/-- The part of the bound path that the format names, or the whole of it. -/
def fileText (call : HandlerCall) : Text :=
  match call.value? with
  | none => []
  | some v =>
    let path := v.display
    if call.format = "BASENAME".toList then (FilePath.stem? path).getD []
    else if call.format = "SHORTNAME".toList then (FilePath.fileName? path).getD []
    else if call.format = "EXTENSION".toList then (FilePath.extension? path).getD []
    else if call.format = "DIRECTORY".toList then FilePath.directory path
    else if call.format = "ROOT".toList then FilePath.root path
    else path

/-- A text in the letter case that a format names. -/
def inCase (format t : Text) : Text :=
  if format = "LCASE".toList then t.toLower
  else if format = "UCASE".toList then t.toUpper
  else t

/-- The bound value in the letter case that the format names; without a value, the format. -/
def caseText (call : HandlerCall) : Text :=
  match call.value? with
  | some v => inCase call.format v.display
  | none => call.format

/-- The value of an environment variable, empty if it is not set or no variable can have the
name. -/
def variableText (env : Environment) (name : Text) : Text :=
  if name = [] ∨ '=' ∈ name ∨ '\x00' ∈ name then [] else (env.lookupVariable name).getD []

/-- The variable that the bound value names, in the letter case that the format names; without
a value, the variable that the format names. -/
def envText (env : Environment) (call : HandlerCall) : Text :=
  match call.value? with
  | some v => inCase call.format (variableText env v.display)
  | none => variableText env call.format

/-- How often a text is repeated: a 32-bit integer with blanks around it, or else once. -/
def repetitions (format : Text) : Int :=
  ((Numeral.integer? format.trim).bind (Numeral.signedWord? 32)).getD 1

/-- A text so many times over. -/
def times (n : Nat) (t : Text) : Text := if t = [] then [] else (List.replicate n t).flatten

/-- The bound value as often as the format says; without a value, the format. -/
def repeatedText (call : HandlerCall) : Text :=
  match call.value? with
  | none => call.format
  | some v => times (repetitions call.format).toNat v.display

/-! ### All together -/

/-- The text of a built-in handler for a call. -/
def run {σ : Type} (env : Environment) (call : HandlerCall) : Builtin → Action σ Text
  | .dateTime => .ofResult (dateText env call)
  | .guid => guidText call
  | .random => randomText call
  | .counter => .onCounter (counterText call)
  | .file => pure (fileText call)
  | .text => pure (caseText call)
  | .env => pure (envText env call)
  | .repeated => pure (repeatedText call)

end Builtin

end Stencil
