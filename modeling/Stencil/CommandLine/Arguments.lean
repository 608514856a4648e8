import Stencil.Hex

/-!
# Command lines

Reading the words of a command line into a command with its options. Words are read from left
to right; the first one that fits nowhere ends the reading, and so does a request for help or
for the version.

## Main definitions

* `Stencil.Command`: a command with its options.
* `Stencil.Invocation`: a command with the options that every command takes.
* `Stencil.Refusal`: why there is no command to run.
* `Stencil.Invocation.ofWords`: reading the words.
-/

namespace Stencil

/-! ### Commands -/

/-- How a result is printed. -/
inductive OutputFormat where
  | text
  | json
  deriving DecidableEq

/-- The output format of a word. -/
def OutputFormat.ofWord? (word : Text) : Option OutputFormat :=
  if word = "text".toList then some text
  else if word = "json".toList then some json
  else none

/-- The encoding of a word. -/
def Encoding.ofWord? (word : Text) : Option Encoding :=
  if word = "utf8".toList then some utf8
  else if word = "utf16le".toList then some utf16le
  else if word = "utf16be".toList then some utf16be
  else none

/-- A command with its options. -/
inductive Command where
  /-- Expands a template with positional arguments and assignments. -/
  | expand (template : Text) (args : List Text) (assignments : List Text)
      (format : OutputFormat)
  /-- Decodes hexadecimal digits. -/
  | hex (digits : Text) (encoding : Encoding) (strict : Bool)
  /-- Lists what names stand for. -/
  | list (format : OutputFormat)
  /-- Creates a configuration file. -/
  | init

/-- A command with the options that every command takes. -/
structure Invocation where
  /-- The command. -/
  command : Command
  /-- The directory of the configuration, if one is given. -/
  directory : Option Text
  /-- Whether more is to be logged. -/
  verbose : Bool
  /-- Whether colours are turned off. -/
  plain : Bool

/-- Why there is no command to run. -/
inductive Refusal where
  /-- Help is asked for. -/
  | help
  /-- The version is asked for. -/
  | version
  /-- No command is given. -/
  | noCommand
  /-- A word fits nowhere, or one is missing. -/
  | usage
  deriving DecidableEq

/-! ### Options -/

/-- The part of the command line that a word belongs to. -/
inductive Section where
  /-- Before the command. -/
  | top
  | expand
  | hex
  | list
  | init
  /-- The command that prints help on others. -/
  | help
  deriving DecidableEq

/-- The section that the name of a command opens. -/
def Section.ofName? (word : Text) : Option Section :=
  if word = "expand".toList then some expand
  else if word = "hex".toList then some hex
  else if word = "list".toList then some list
  else if word = "init".toList then some init
  else if word = "help".toList then some help
  else none

/-- How many words without a hyphen a section takes, where there is a limit. -/
def Section.capacity? : Section → Option Nat
  | expand => none
  | hex | help => some 1
  | top | list | init => some 0

/-- The options. -/
inductive Flag where
  | path
  | verbose
  | noColor
  | help
  | version
  | set
  | format
  | encoding
  | strict
  deriving DecidableEq

namespace Flag

/-- The option of a long name. -/
def ofLong? (name : Text) : Option Flag :=
  if name = "path".toList then some path
  else if name = "verbose".toList then some verbose
  else if name = "no-color".toList then some noColor
  else if name = "help".toList then some help
  else if name = "version".toList then some version
  else if name = "set".toList then some set
  else if name = "format".toList then some format
  else if name = "encoding".toList then some encoding
  else if name = "strict".toList then some strict
  else none

/-- The option of a letter. -/
def ofLetter? : Char → Option Flag
  | 'p' => some path
  | 'v' => some verbose
  | 'h' => some help
  | 'V' => some version
  | 's' => some set
  | _ => none

/-- Whether an option is followed by a value. -/
def takesValue : Flag → Bool
  | path | set | format | encoding => true
  | verbose | noColor | help | version | strict => false

/-- Whether an option may be given in a section. -/
def allowedIn : Flag → Section → Bool
  | _, .help => false
  | path, _ | verbose, _ | noColor, _ | help, _ => true
  | version, s => s = .top
  | set, s => s = .expand
  | format, s => s = .expand || s = .list
  | encoding, s | strict, s => s = .hex

/-- Whether an option admits a value. -/
def admits : Flag → Text → Bool
  | path, value => value ≠ []
  | format, value => (OutputFormat.ofWord? value).isSome
  | encoding, value => (Encoding.ofWord? value).isSome
  | set, _ => true
  | verbose, _ | noColor, _ | help, _ | version, _ | strict, _ => false

end Flag

/-! ### Reading -/

/-- An option that is given: the section, the option, and its value, which is empty for an
option without one. -/
structure Given where
  /-- The section. -/
  part : Section
  /-- The option. -/
  flag : Flag
  /-- The value. -/
  value : Text

/-- What has been read so far. -/
structure Reading where
  /-- The section that is open. -/
  part : Section
  /-- The options that are given, in order. -/
  given : List Given
  /-- The option that waits for its value. -/
  pending : Option Flag
  /-- The words of the section without a hyphen, in order. -/
  words : List Text
  /-- Whether `--` has been read, after which no word is an option. -/
  trailing : Bool

namespace Reading

/-- Before the first word. -/
def start : Reading := ⟨.top, [], none, [], false⟩

/-- Whether a text after a hyphen is a number: digits with at most one point, which is not the
first character, and after that at most one `e`, which is neither the first nor the last. -/
def isNumber (t : Text) : Bool :=
  let isExponent (c : Char) : Bool := c == 'e' || c == 'E'
  let mantissa := t.takeWhile (!isExponent ·)
  let isMantissa := mantissa.head? ≠ some '.' && mantissa.count '.' ≤ 1 &&
    mantissa.all fun c => c.isDigit || c == '.'
  match t.dropWhile (!isExponent ·) with
  | [] => isMantissa
  | _ :: digits => mantissa ≠ [] && isMantissa && digits ≠ [] && digits.all Char.isDigit

/-- Whether a negative number is read as a word here, as the arguments of a template are. -/
def takesNumbers (r : Reading) : Bool := r.part = .expand && r.words ≠ []

/-- An option with its value. Only assignments may be given more than once in a section. -/
def give (r : Reading) (flag : Flag) (value : Text) : Except Refusal Reading :=
  if flag ≠ .set ∧ r.given.any fun g => g.part = r.part && g.flag = flag then .error .usage
  else .ok { r with given := r.given ++ [⟨r.part, flag, value⟩], pending := none }

/-- An option without a value. -/
def raise (r : Reading) (flag : Flag) : Except Refusal Reading :=
  if flag = .help then .error .help
  else if flag = .version then .error .version
  else r.give flag []

/-- An option with a value that it has to admit. -/
def giveValue (r : Reading) (flag : Flag) (value : Text) : Except Refusal Reading :=
  if flag.admits value then r.give flag value else .error .usage

/-- A word that starts with two hyphens, which are left out here. -/
def long (r : Reading) (word : Text) : Except Refusal Reading :=
  let (name, value?) : Text × Option Text :=
    match Text.cutAt '=' word with
    | some (name, value) => (name, some value)
    | none => (word, none)
  match (Flag.ofLong? name).filter (·.allowedIn r.part) with
  | none => .error .usage
  | some flag =>
    match flag.takesValue, value? with
    | true, some value => r.giveValue flag value
    | true, none => .ok { r with pending := some flag }
    | false, some _ => .error .usage
    | false, none => r.raise flag

/-- The letters after a hyphen: options, of which the first one that takes a value has what is
left as its value, an equals sign before it aside. -/
def letters (r : Reading) : Text → Except Refusal Reading
  | [] => .ok r
  | c :: rest =>
    match (Flag.ofLetter? c).filter (·.allowedIn r.part) with
    | none => .error .usage
    | some flag =>
      if flag.takesValue then
        match rest with
        | [] => .ok { r with pending := some flag }
        | '=' :: value => r.giveValue flag value
        | value => r.giveValue flag value
      else do
        let r ← r.raise flag
        letters r rest

/-- A word that is no option: the value that an option waits for, a command, or a word of the
command. -/
def plain (r : Reading) (word : Text) : Except Refusal Reading :=
  match r.pending with
  | some flag => if r.trailing then .error .usage else r.giveValue flag word
  | none =>
    match r.part, r.trailing, Section.ofName? word with
    | .top, false, some part => .ok { r with part := part }
    | .top, _, _ => .error .usage
    | .help, _, none => .error .usage
    | part, _, _ =>
      match part.capacity? with
      | none => .ok { r with words := r.words ++ [word] }
      | some n =>
        if r.words.length < n then .ok { r with words := r.words ++ [word] } else .error .usage

/-- The next word. -/
def step (r : Reading) (word : Text) : Except Refusal Reading :=
  if r.trailing then r.plain word
  else
    match word with
    | ['-', '-'] => if r.part = .help then .error .usage else .ok { r with trailing := true }
    | '-' :: '-' :: name => if r.pending.isSome then .error .usage else r.long name
    | '-' :: c :: rest =>
      if r.takesNumbers && isNumber (c :: rest) then r.plain word
      else if r.pending.isSome then .error .usage
      else r.letters (c :: rest)
    | _ => r.plain word

/-! ### The command -/

/-- The value of an option that was given last. -/
def value? (r : Reading) (flag : Flag) : Option Text :=
  (r.given.reverse.find? (·.flag = flag)).map (·.value)

/-- Whether an option was given. -/
def isGiven (r : Reading) (flag : Flag) : Bool := (r.value? flag).isSome

/-- The output format that was given, or plain text. -/
def format (r : Reading) : OutputFormat :=
  ((r.value? .format).bind OutputFormat.ofWord?).getD .text

/-- The command that the words make up. -/
def command (r : Reading) : Except Refusal Command :=
  match r.part, r.words with
  | .top, _ => .error .noCommand
  | .help, _ => .error .help
  | .expand, template :: args =>
    .ok (.expand template args ((r.given.filter (·.flag = .set)).map (·.value)) r.format)
  | .hex, digits :: _ =>
    .ok (.hex digits (((r.value? .encoding).bind Encoding.ofWord?).getD .utf8)
      (r.isGiven .strict))
  | .list, _ => .ok (.list r.format)
  | .init, _ => .ok .init
  | .expand, [] | .hex, [] => .error .usage

end Reading

/-- The invocation that the words of a command line make up. -/
def Invocation.ofWords (words : List Text) : Except Refusal Invocation := do
  let r ← words.foldlM Reading.step Reading.start
  if r.pending.isSome then throw .usage
  let command ← r.command
  pure ⟨command, r.value? .path, r.isGiven .verbose, r.isGiven .noColor⟩

end Stencil
