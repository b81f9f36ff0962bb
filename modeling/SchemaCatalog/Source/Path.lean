/-!
# Paths

A path is a list of names, from the working directory or from the root. Empty names and names of the
directory itself are left out, so that two spellings that differ in them are one path; the name of
the directory above is kept, and so are two slashes in front if there are no more than two.
-/

namespace SchemaCatalog.Source

/-- A path, written `a/b`, `/a/b` or `//a/b`: the number of slashes in front, and the names. -/
structure Path where
  slashes : Nat := 0
  parts : List String
  deriving DecidableEq, Repr

/-- The characters between the slashes; `run` is the name being read, last character first. -/
def splitSlashes (run : List Char) : List Char → List (List Char)
  | [] => [run.reverse]
  | c :: cs => if c == '/' then run.reverse :: splitSlashes [] cs else splitSlashes (c :: run) cs

namespace Path

/-- The name of a directory within itself. -/
def here : String := "."

def above : String := ".."

def ofString (s : String) : Path where
  slashes :=
    let count := (s.toList.takeWhile (· == '/')).length
    if count ≤ 2 then count else 1
  parts := ((splitSlashes [] s.toList).map String.ofList).filter fun n => !n.isEmpty && n != here

def isAbsolute (p : Path) : Bool := p.slashes != 0

def text (p : Path) : String :=
  let names := "/".intercalate p.parts
  if p.isAbsolute then String.ofList (List.replicate p.slashes '/') ++ names
  else if p.parts.isEmpty then here
  else names

def child (p : Path) (names : List String) : Path := { p with parts := p.parts ++ names }

def name (p : Path) : String := p.parts.getLastD ""

end Path

/-- Where names lead from a directory, `reached` being the way to it, last name first. The directory
above the root is the root. -/
def follow (isDirectory : List String → Bool) (reached : List String) :
    List String → Option (List String)
  | [] => some reached.reverse
  | n :: ns =>
    if n == Path.above then
      if isDirectory reached.reverse then follow isDirectory (reached.drop 1) ns else none
    else follow isDirectory (n :: reached) ns

end SchemaCatalog.Source
