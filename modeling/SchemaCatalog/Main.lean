import SchemaCatalog.Report.Run

/-!
# The command line program

Reads the files that the paths on the command line stand for, runs the command on them, and prints its
output.
-/

namespace SchemaCatalog

open Source Report

/-- What the names of the variables of the settings start with. -/
def environmentMark : String := "DDLCAT_"

def settingNames : List String := ["DIALECT", "CATALOG_NAME", "LOG_LEVEL"]

/-- The text of a way from the root. -/
def diskPath (parts : List String) : String := ({ slashes := 1, parts : Path }).text

/-- Adds the file of the given names to a tree. -/
def readInto (t : FileTree) (parts : List String) : IO FileTree := do
  let bytes ← IO.FS.readBinFile (diskPath parts)
  pure { t with files := { parts, bytes := bytes.toList } :: t.files }

/-- Adds the source files below a directory to a tree, going down at most so many levels. -/
def scanInto (depth : Nat) (t : FileTree) (directory : List String) : IO FileTree := do
  match depth with
  | 0 => pure t
  | n + 1 =>
    let mut tree := { t with directories := directory :: t.directories }
    let place ← IO.FS.realPath (diskPath directory)
    for entry in ← place.readDir do
      let parts := directory ++ [entry.fileName]
      if ← entry.path.isDir then tree ← scanInto n tree parts
      else if isSource { parts } then tree ← readInto tree parts
    pure tree

/-- Adds what a path stands for to a tree; one that stands for nothing adds nothing. -/
def addPath (t : FileTree) (p : Path) : IO FileTree := do
  match follow (fun _ => true) (t.origin p) p.parts with
  | none => pure t
  | some parts =>
    match ← (IO.FS.realPath (diskPath parts)).toBaseIO with
    | .ok place => if ← place.isDir then scanInto 64 t parts else readInto t parts
    | .error _ => pure t

def filesFor (words : List String) : IO FileTree := do
  let here := Path.ofString (← IO.currentDir).toString
  let empty : FileTree := { workingDirectory := here.parts }
  match Request.ofWords words with
  | .run i => (i.paths.map Path.ofString).foldlM addPath empty
  | _ => pure empty

def environment : IO (List (String × String)) :=
  settingNames.filterMapM fun name => do
    pure ((← IO.getEnv (environmentMark ++ name)).map fun value => (name, value))

end SchemaCatalog

open SchemaCatalog in
def main (words : List String) : IO UInt32 := do
  let values ← environment
  let settings := Settings.ofEnvironment fun name => (values.find? (·.1 == name)).map (·.2)
  let result := Report.runWords settings (← filesFor words) words
  for printed in result.printed do
    for line in printed.lines do
      match printed with
      | .status _ => IO.eprintln line
      | _ => IO.println line
  pure result.exitCode.toUInt32
