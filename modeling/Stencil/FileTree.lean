import Stencil.FilePath

/-!
# Trees of files

A tree of directories and files that is held in memory, with the look-up of paths in it.

## Main definitions

* `Stencil.FileTree`: the directories and files by their places.
* `Stencil.FileTree.file?`: the bytes of the file at a path.
* `Stencil.FileTree.write?`: a file created or replaced.
-/

namespace Stencil

/-- The place of a file or directory: the names on the way to it from the root. -/
abbrev Place := List Text

/-- A **tree of files**. -/
structure FileTree where
  /-- The directory that relative paths start from. -/
  current : Place
  /-- The places of the directories other than the root. -/
  directories : List Place
  /-- The places and the bytes of the files. -/
  files : List (Place × List UInt8)

namespace FileTree

/-- The places on the way from the root to a place, the place itself included. -/
def along (place : Place) : List Place :=
  (List.range place.length).map fun n => place.take (n + 1)

/-- The tree that holds only a current directory and those around it. -/
def ofCurrent (current : Place) : FileTree := ⟨current, along current, []⟩

/-- Whether a directory is at a place. -/
def isDirectory (tree : FileTree) (place : Place) : Bool :=
  place = [] || tree.directories.contains place

/-- The bytes of the file at a place. -/
def fileAt? (tree : FileTree) (place : Place) : Option (List UInt8) := tree.files.lookup place

/-- The place that pieces of a path lead to from another place. All but the last have to lead
to directories. -/
def walk? (tree : FileTree) (start : Place) : List Text → Option Place
  | [] => some start
  | piece :: rest =>
    if ¬tree.isDirectory start then none
    else if FilePath.isIgnored piece then walk? tree start rest
    else if piece = ['.', '.'] then walk? tree start.dropLast rest
    else walk? tree (start ++ [piece]) rest

/-- The place of a path. -/
def place? (tree : FileTree) (path : Text) : Option Place :=
  tree.walk? (if FilePath.isAbsolute path then [] else tree.current) (FilePath.pieces path)

/-- The bytes of the file at a path. -/
def file? (tree : FileTree) (path : Text) : Option (List UInt8) :=
  (tree.place? path).bind tree.fileAt?

/-- The tree with a directory and those around it. -/
def addDirectory (tree : FileTree) (place : Place) : FileTree :=
  let missing := (along place).filter (!tree.directories.contains ·)
  { tree with directories := tree.directories ++ missing }

/-- The tree with a file in place of what was there, and the directories around it. -/
def addFile (tree : FileTree) (place : Place) (bytes : List UInt8) : FileTree :=
  let tree := tree.addDirectory place.dropLast
  { tree with files := tree.files.filter (·.1 ≠ place) ++ [(place, bytes)] }

/-- The tree after a file is written at a path. The directory has to be there, and the path
must not lead to a directory. -/
def write? (tree : FileTree) (path : Text) (bytes : List UInt8) : Option FileTree :=
  match tree.place? path with
  | none => none
  | some place =>
    if tree.isDirectory place ∨ ¬tree.isDirectory place.dropLast then none
    else some (tree.addFile place bytes)

end FileTree

end Stencil
