import SchemaCatalog.Catalog.Assembly
import SchemaCatalog.Source.FileTree
import SchemaCatalog.Text.Utf8

/-!
# Loading a catalog from files

The paths given are expanded to files, which are read one by one, so that an error names its file.
The statements of all files together make the catalog.
-/

namespace SchemaCatalog.Source

def collectFiles (t : FileTree) : List Path → Except CatalogError (List Path)
  | [] => .ok []
  | p :: ps =>
    match t.sources? p with
    | some found => (collectFiles t ps).map (found ++ ·)
    | none => .error (.load p.text "no such file or directory")

def readFile (t : FileTree) (p : Path) : Except CatalogError String :=
  match (t.locate? p).bind t.file? with
  | none => .error (.load p.text "no such file or directory")
  | some f =>
    match Text.decodeUtf8 f.bytes with
    | .ok cs => .ok (String.ofList (Text.unifyLines cs))
    | .error e => .error (.load p.text e.text)

def statementsOf (t : FileTree) (p : Path) : Except CatalogError (List Statement) := do
  let sql ← readFile t p
  match Script.parse sql with
  | .ok statements => pure statements
  | .error e => throw (.syntaxError e (some p.text))

/-- The catalog of the files that paths stand for. -/
def loadCatalog (t : FileTree) (name : String) (paths : List Path) : Except CatalogError Catalog := do
  let files ← collectFiles t paths
  let statements ← files.mapM (statementsOf t)
  Catalog.ofStatements name statements.flatten

end SchemaCatalog.Source
