import Stencil.Text

/-!
# Errors

The reasons for which an expansion, or a step around one, fails, with the words in which each
is reported.

## Main definitions

* `Stencil.Kind`: the kinds of values, as messages name them.
* `Stencil.ExpandError`: the reasons.
* `Stencil.ExpandError.message`, `Stencil.ExpandError.code`, `Stencil.ExpandError.help?`: their
  wording.
-/

namespace Stencil

/-- The kinds of values that messages tell apart. -/
inductive Kind where
  | string
  | char
  | bool
  | integer
  | float
  | dateTime
  | guid
  deriving DecidableEq

/-- The name of a kind. -/
def Kind.name : Kind → Text
  | string => "string".toList
  | char => "char".toList
  | bool => "bool".toList
  | integer => "integer".toList
  | float => "float".toList
  | dateTime => "date-time".toList
  | guid => "guid".toList

/-- Why a step failed. -/
inductive ExpandError where
  /-- Reading or writing failed, for the reason given. -/
  | io (reason : Text)
  /-- A format text that values of a kind do not support. -/
  | invalidFormat (format : Text) (kind : Kind)
  /-- A configuration that is not well-formed or has values of a wrong type. -/
  | configParse (reason : Text)
  /-- An assignment that is not a key, an equals sign and a value. -/
  | invalidAssignment (text : Text)
  /-- A text that was to be hexadecimal and is not. -/
  | invalidHex (text : Text)
  /-- The shared session has been set up before. -/
  | globalAlreadyInitialized
  /-- The shared session has not been set up. -/
  | globalNotInitialized
  deriving DecidableEq

namespace ExpandError

/-- A text between the marks that set it off in a message. -/
private def quoted (t : Text) : Text := "`".toList ++ t ++ "`".toList

/-- The message of an error. -/
def message : ExpandError → Text
  | io reason => reason
  | invalidFormat format kind =>
    "invalid format ".toList ++ quoted format ++ " for ".toList ++ kind.name ++ " value".toList
  | configParse reason => "failed to parse config file: ".toList ++ reason
  | invalidAssignment text => "invalid assignment ".toList ++ quoted text
  | invalidHex text => quoted text ++ " is not a hex string".toList
  | globalAlreadyInitialized => "the global registry has already been initialized".toList
  | globalNotInitialized => "the global registry has not been initialized".toList

/-- The last part of the code of an error. -/
def label : ExpandError → Text
  | io _ => "io_error".toList
  | invalidFormat .. => "invalid_format".toList
  | configParse _ => "config_parse".toList
  | invalidAssignment _ => "invalid_assignment".toList
  | invalidHex _ => "invalid_hex".toList
  | globalAlreadyInitialized => "global_already_initialized".toList
  | globalNotInitialized => "global_not_initialized".toList

/-- The code under which an error is reported. -/
def code (e : ExpandError) : Text := "strexpand::".toList ++ e.label

/-- The advice that goes with an error, if there is any. -/
def help? : ExpandError → Option Text
  | invalidFormat .. =>
    some <| String.toList <|
      "standard specifiers are a letter with an optional precision, e.g. `x8`, `N2`, " ++
      "`D4`; dates accept custom patterns such as `yyyy-MM-dd`"
  | configParse _ =>
    some "check that strexpand.toml is valid TOML with an optional [values] table".toList
  | invalidAssignment _ => some "named values are written as `NAME=VALUE`".toList
  | invalidHex _ =>
    some ("use digits 0-9 and a-f; whitespace between digits is allowed unless " ++
      "`--strict` is set").toList
  | globalNotInitialized =>
    some "call `strexpand_core::init_global` once at startup".toList
  | io _ | globalAlreadyInitialized => none

end ExpandError

/-- The outcome of a step that may fail. -/
abbrev ExpandResult (α : Type) := Except ExpandError α

end Stencil
