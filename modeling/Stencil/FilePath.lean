import Stencil.Text

/-!
# File paths

The parts of a path that is written with slashes. Repeated and trailing slashes and the
component `.` are ignored, except for a `.` at the start of a relative path.

## Main definitions

* `Stencil.FilePath.fileName?`: the last component, unless it is a directory reference.
* `Stencil.FilePath.stem?`, `Stencil.FilePath.extension?`: its parts around the last point.
* `Stencil.FilePath.directory`: what stands before the last component.
* `Stencil.FilePath.root`: the root that a path starts with.
* `Stencil.FilePath.components`: the components of a path.
* `Stencil.FilePath.join`: a path below another one.
-/

namespace Stencil.FilePath

/-! ### Components -/

/-- The pieces of a text between slashes; there is always at least one. -/
def pieces : Text → List Text
  | [] => [[]]
  | c :: rest =>
    if c = '/' then [] :: pieces rest
    else
      match pieces rest with
      | [] => [[c]]
      | first :: more => (c :: first) :: more

/-- The text of pieces with slashes between them. -/
def unpieces (ps : List Text) : Text := ['/'].intercalate ps

/-- A piece that is no component: an empty one or a `.`. -/
def isIgnored (piece : Text) : Bool := piece = [] || piece = ['.']

/-- A component of a path. -/
inductive Component where
  /-- The slash at the start of an absolute path. -/
  | root
  /-- The `.` at the start of a relative path. -/
  | current
  /-- The component `..`. -/
  | parent
  /-- Any other name. -/
  | name (name : Text)
  deriving DecidableEq

/-- The component of a piece that is not ignored. -/
def Component.ofPiece (piece : Text) : Component :=
  if piece = ['.', '.'] then parent else name piece

/-- The text of a component. -/
def Component.text : Component → Text
  | root => ['/']
  | current => ['.']
  | parent => ['.', '.']
  | name n => n

/-- Whether a path is absolute. -/
def isAbsolute (p : Text) : Bool := p.head? = some '/'

/-- What a path starts with, a slash or a `.`, and the pieces after it. -/
def opening (p : Text) : Option Component × List Text :=
  match pieces p with
  | [] => (none, [])
  | first :: rest =>
    if isAbsolute p then (some .root, rest)
    else if first = ['.'] then (some .current, rest)
    else (none, first :: rest)

/-- The components of a path. -/
def components (p : Text) : List Component :=
  let (start, body) := opening p
  start.toList ++ (body.filter (!isIgnored ·)).map Component.ofPiece

/-! ### Parts -/

/-- Pieces without the ignored ones at their end. -/
def trimPieces (ps : List Text) : List Text := (ps.reverse.dropWhile isIgnored).reverse

/-- The last component of a path, if it is a name. -/
def fileName? (p : Text) : Option Text :=
  match (trimPieces (opening p).2).getLast? with
  | none => none
  | some piece => if piece = ['.', '.'] then none else some piece

/-- The text of a path up to its last component, without what is ignored at the end. -/
def directory (p : Text) : Text :=
  let (start, body) := opening p
  let kept := trimPieces (trimPieces body).dropLast
  match start with
  | none => unpieces kept
  | some _ =>
    let lead : Text := if isAbsolute p then [] else ['.']
    if trimPieces body = [] then []
    else if kept = [] then (if isAbsolute p then ['/'] else ['.'])
    else unpieces (lead :: kept)

/-- The texts before and after the last point of a name; a point at its start does not
count. -/
def cutExtension (name : Text) : Text × Option Text :=
  match Text.cutAt '.' name.reverse with
  | none => (name, none)
  | some (after, before) =>
    if before = [] then (name, none) else (before.reverse, some after.reverse)

/-- The last component without its extension. -/
def stem? (p : Text) : Option Text := (fileName? p).map fun name => (cutExtension name).1

/-- The extension of the last component. -/
def extension? (p : Text) : Option Text := (fileName? p).bind fun name => (cutExtension name).2

/-- The text of the roots at the start of a path. -/
def root (p : Text) : Text := ((components p).takeWhile (· = .root)).flatMap Component.text

/-- A relative path below a directory. -/
def join (directory path : Text) : Text :=
  if directory = [] ∨ directory.getLast? = some '/' then directory ++ path
  else directory ++ '/' :: path

end Stencil.FilePath
