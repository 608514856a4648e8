import Stencil.CommandLine.Arguments
import Stencil.Config
import Stencil.Expansion
import Stencil.Text.Quoted
import Stencil.Value.Argument

/-!
# Running commands

What a command prints, given the files, the standard input and the environment. Only the
command that creates a file has an effect beside its output, and that effect is described, not
carried out.

## Main definitions

* `Stencil.Host`: what commands read.
* `Stencil.Reply`: what a command line leads to.
* `Stencil.runExpand`, `Stencil.runHex`, `Stencil.runList`, `Stencil.runInit`: the commands.
* `Stencil.runWords`: a whole command line.
-/

namespace Stencil

/-- What commands read. -/
structure Host where
  /-- The current directory. -/
  directory : Text
  /-- The bytes of the regular file at a path. -/
  file? : Text → Option (List UInt8)
  /-- The standard input. -/
  input : List UInt8
  /-- The clock and the environment variables. -/
  environment : Environment
  /-- The source of fresh values. -/
  entropy : Entropy

/-- How a command line ends. -/
structure Outcome where
  /-- The exit code. -/
  exitCode : Nat
  /-- The standard output. -/
  output : Text
  /-- What is reported on the side, beside an error. -/
  notice : Text
  /-- The error to report, if there is one. -/
  error? : Option ExpandError

/-- What a command line leads to. -/
inductive Reply where
  /-- It is done. -/
  | done (outcome : Outcome)
  /-- Help is to be printed. -/
  | help
  /-- A file is to be created; `report` is the output if that succeeds, and otherwise the exit
  code is 2. -/
  | create (path content report : Text)

namespace Outcome

/-- A successful end with an output. -/
def success (output : Text) : Outcome := ⟨0, output, [], none⟩

/-- An end without output, and the reason for it. -/
def refused (exitCode : Nat) (notice : Text) : Outcome := ⟨exitCode, [], notice, none⟩

/-- The end of a command that gives its output or fails. -/
def ofResult : ExpandResult Text → Outcome
  | .ok output => success output
  | .error e => ⟨2, [], [], some e⟩

end Outcome

/-! ### Parts of the commands -/

/-- A text and a line break. -/
def line (t : Text) : Text := t ++ ['\n']

/-- A text between the codes that turn a way of display on and off, or as it is. -/
def styled (color : Bool) (on off : String) (t : Text) : Text :=
  if color then '\x1B' :: '[' :: on.toList ++ 'm' :: t ++ '\x1B' :: '[' :: off.toList ++ ['m']
  else t

/-- The directory of the configuration. -/
def Host.root (h : Host) (i : Invocation) : Text := i.directory.getD h.directory

/-- The built-in handlers with the configuration of the directory on top. -/
def Host.registry (h : Host) (i : Invocation) : ExpandResult (Registry Unit) :=
  (Config.load h.file? (h.root i)).map fun config => (config.getD .blank).registry

/-- A text without the line break at its end. -/
def dropLineBreak (t : Text) : Text :=
  match t.reverse with
  | '\n' :: '\r' :: rest => rest.reverse
  | '\n' :: rest => rest.reverse
  | _ => t

/-- The template that a word stands for: a hyphen stands for the standard input. -/
def Host.template (h : Host) (word : Text) : ExpandResult Text :=
  if word ≠ ['-'] then .ok word
  else
    match Utf8.decode? h.input with
    | some t => .ok (dropLineBreak t)
    | none => .error (.io "stream did not contain valid UTF-8".toList)

/-- Assignments as bindings for one expansion; of several with one name the last one counts. -/
def Assignment.toNamedValues (assignments : List Assignment) : NamedValues Unit :=
  assignments.foldl (fun named a => named.insert a.name (.value a.value)) ∅

/-! ### Commands -/

/-- A template and what it expands to, as a JSON object. -/
def expandJson (template output : Text) : Text :=
  "\x7b\"template\":".toList ++ template.json ++ ",\"output\":".toList ++ output.json ++ ['}']

/-- The output of the command that expands a template. -/
def runExpand (h : Host) (i : Invocation) (template : Text) (args assignments : List Text)
    (format : OutputFormat) : ExpandResult Text := do
  let registry ← h.registry i
  let template ← h.template template
  let named ← (Assignment.ofTexts assignments).map Assignment.toNamedValues
  let session : Session Unit := ⟨registry, h.entropy, ()⟩
  let output ← (session.expand h.environment template named (args.map Value.ofArgument)).1
  match format with
  | .text => pure (line output)
  | .json => pure (line (expandJson template output))

/-- The output of the command that decodes hexadecimal digits. -/
def runHex (digits : Text) (encoding : Encoding) (strict : Bool) : ExpandResult Text :=
  if Hex.isHex digits (!strict) then
    .ok (line (encoding.decodeHex (digits.filter (!isBlank ·))))
  else .error (.invalidHex digits)

/-- The name of the sort of an expander. -/
def Expander.sort {σ : Type} (e : Expander σ) : Text :=
  if e.value?.isSome then "value".toList else "handler".toList

/-- A text filled with spaces on the right. -/
def column (width : Nat) (t : Text) : Text := t ++ List.replicate (width - t.length) ' '

/-- The line of a name in a list. -/
def listLine {σ : Type} (name : Text) (e : Expander σ) : Text :=
  [' ', ' '] ++ column 12 name ++ ' ' ::
    match e.value? with
    | some v => column 8 e.sort ++ ' ' :: line v.display
    | none => line e.sort

/-- The object of a name in a JSON list. -/
def listJson {σ : Type} (name : Text) (e : Expander σ) : Text :=
  let field (key : String) (value : Text) : Text :=
    "    \"".toList ++ key.toList ++ "\": ".toList ++ value.json
  let fields := [field "name" name, field "kind" e.sort] ++
    (e.value?.map fun v => field "value" v.display).toList
  "  \x7b\n".toList ++ [',', '\n'].intercalate fields ++ "\n  \x7d".toList

/-- The names of a registry with what they are bound to. -/
def listed {σ : Type} (r : Registry σ) : List (Text × Expander σ) :=
  r.names.filterMap fun name => (r.resolve? name).map fun e => (name, e)

/-- The output of the command that lists what names stand for. -/
def runList (h : Host) (i : Invocation) (color : Bool) (format : OutputFormat) :
    ExpandResult Text := do
  let entries := listed (← h.registry i)
  match format with
  | .text =>
    pure (line (styled color "1" "0" "Expanders:".toList) ++
      entries.flatMap (fun (name, e) => listLine name e) ++ line [] ++
      line (Numeral.decimal entries.length ++ " expander(s)".toList))
  | .json =>
    pure (line ("[\n".toList ++
      [',', '\n'].intercalate (entries.map fun (name, e) => listJson name e) ++ "\n]".toList))

/-- The configuration file that the command for new ones writes. -/
def sampleConfig : Text :=
  ("# strexpand configuration\n\n# Initial value of the \x7bCOUNTER\x7d expander.\n" ++
    "# counter = 1\n\n# Static values available as named placeholders, e.g. " ++
    "\x7bAPP\x7d or \x7bBUILD:D5\x7d.\n[values]\nAPP = \"strexpand\"\n# BUILD = 42\n").toList

/-- The advice after a new configuration file. -/
def nextSteps : Text :=
  ("\nNext steps:\n  1. Add values to the [values] table\n" ++
    "  2. Run `strexpand list` to see every expander\n" ++
    "  3. Run `strexpand expand \"\x7bAPP\x7d \x7bDATE\x7d\"`\n").toList

/-- The command for a new configuration file, which leaves one that is there alone. -/
def runInit (h : Host) (i : Invocation) (color : Bool) : Reply :=
  match Config.find? h.file? (h.root i) with
  | some path =>
    .done (.success (line ("Config file already exists: ".toList ++ path)))
  | none =>
    let path := FilePath.join (h.root i) "strexpand.toml".toList
    .create path sampleConfig
      (line (styled color "32" "39" "Created".toList ++ ' ' :: path) ++ nextSteps)

/-! ### Command lines -/

/-- What the version option prints. -/
def versionText : Text := line "strexpand_cli 0.1.0".toList

/-- What the help option prints. -/
def helpText : Text :=
  ("Expand placeholders, hex escapes and positional arguments in strings.\n\n" ++
    "Usage: strexpand [OPTIONS] <COMMAND>\n\nCommands:\n" ++
    "  expand <TEMPLATE> [ARGS]...  Expand a template (- reads it from stdin)\n" ++
    "         [--set NAME=VALUE]... [--format text|json]\n" ++
    "  hex <DIGITS>                 Decode hex digits\n" ++
    "         [--encoding utf8|utf16le|utf16be] [--strict]\n" ++
    "  list                         List the expanders\n" ++
    "         [--format text|json]\n" ++
    "  init                         Create a sample strexpand.toml\n\nOptions:\n" ++
    "  -p, --path <PATH>  Directory searched for strexpand.toml\n" ++
    "  -v, --verbose      Enable verbose output\n" ++
    "      --no-color     Disable colored output\n" ++
    "  -h, --help         Print help\n" ++
    "  -V, --version      Print version\n").toList

/-- What a command leads to. -/
def runInvocation (h : Host) (i : Invocation) : Reply :=
  let color := !i.plain && (h.environment.lookupVariable "NO_COLOR".toList).isNone
  match i.command with
  | .expand template args assignments format =>
    .done (.ofResult (runExpand h i template args assignments format))
  | .hex digits encoding strict => .done (.ofResult (runHex digits encoding strict))
  | .list format => .done (.ofResult (runList h i color format))
  | .init => runInit h i color

/-- What the words of a command line lead to. -/
def runWords (h : Host) (words : List Text) : Reply :=
  match Invocation.ofWords words with
  | .ok invocation => runInvocation h invocation
  | .error .help => .help
  | .error .version => .done (.success versionText)
  | .error .noCommand =>
    .done (.refused 1
      (line "No subcommand specified. Run `strexpand --help` for usage.".toList))
  | .error .usage =>
    .done (.refused 2 (line "error: unexpected or missing argument, see --help".toList))

/-! ### Needs of a command line -/

/-- The names of environment variables that the words of a command line and the standard input
can ask for: those that a format names, those that an argument names, and the one that turns
colours off. -/
def variableNames (words : List Text) (input : List UInt8) : List Text :=
  let templates := words ++ (Utf8.decode? input).toList
  let formats := templates.flatMap fun t => (Token.ofFamily .named t).filterMap fun token =>
    match token.placeholder with
    | .named _ _ layout => layout.format
    | .indexed .. | .hex .. => none
  "NO_COLOR".toList :: formats ++ words.map fun word => (Value.ofArgument word).display

/-- The paths of the files that the words of a command line can ask for in a directory. -/
def filePaths (directory : Text) (words : List Text) : List Text :=
  match Invocation.ofWords words with
  | .ok i => Config.candidates.map (FilePath.join (i.directory.getD directory))
  | .error _ => []

/-- Whether the words of a command line ask for the standard input. -/
def readsInput (words : List Text) : Bool :=
  match Invocation.ofWords words with
  | .ok ⟨.expand ['-'] _ _ _, _, _, _⟩ => true
  | _ => false

end Stencil
