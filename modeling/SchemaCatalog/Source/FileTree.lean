import SchemaCatalog.Catalog.Bisect
import SchemaCatalog.Source.Path

/-!
# File trees

Files and directories as values: what is needed of a file system to find and read the sources of a
catalog. All names are from the root.
-/

namespace SchemaCatalog.Source

structure File where
  parts : List String
  bytes : List UInt8
  deriving Repr

/-- Some files, the directories as far as they hold no file, and the one that paths start from. -/
structure FileTree where
  workingDirectory : List String := []
  files : List File := []
  directories : List (List String) := []
  deriving Repr

namespace FileTree

/-- The names lead to a directory: the working directory or one that is given, one above those, or
one that holds something. -/
def isDirectory (t : FileTree) (parts : List String) : Bool :=
  parts.isPrefixOf t.workingDirectory || t.directories.any parts.isPrefixOf
    || t.files.any fun f => parts.isPrefixOf f.parts && parts.length < f.parts.length

def file? (t : FileTree) (parts : List String) : Option File :=
  t.files.find? (·.parts == parts)

/-- Where a path starts, the last name first. -/
def origin (t : FileTree) (p : Path) : List String :=
  if p.isAbsolute then [] else t.workingDirectory.reverse

def locate? (t : FileTree) (p : Path) : Option (List String) :=
  follow t.isDirectory (t.origin p) p.parts

/-- The names of the files below a directory, from it. -/
def below (t : FileTree) (directory : List String) : List (List String) :=
  t.files.filterMap fun f =>
    if directory.isPrefixOf f.parts && directory.length < f.parts.length then
      some (f.parts.drop directory.length)
    else none

end FileTree

/-- The file names that are passed over below a directory: they undo what the file beside them
does. -/
def skippedNames : List String := ["down.sql"]

def sqlSuffix : String := ".sql"

/-- A file below a directory is read: its name has the ending of SQL files and is not passed over. -/
def isSource (p : Path) : Bool :=
  sqlSuffix.toList.isSuffixOf p.name.toList && !skippedNames.contains p.name

/-- What a path stands for: nothing, the file itself, or the SQL files below the directory, in the
order of their paths. -/
def FileTree.sources? (t : FileTree) (p : Path) : Option (List Path) := do
  let parts ← t.locate? p
  if t.isDirectory parts then
    let found := ((t.below parts).map p.child).filter isSource
    pure (sortBy (·.parts) textsBefore found)
  else
    let _ ← t.file? parts
    pure [p]

end SchemaCatalog.Source
