import SchemaCatalog.Name
import SchemaCatalog.Sql.SyntaxError

/-!
# Errors

Every failure to build or to query a catalog, by its cause, and the one function that words them.
-/

namespace SchemaCatalog

inductive CatalogError where
  /-- A statement names something that does not exist. -/
  | unresolved (kind name referencedBy : String)
  /-- An expression or constraint refers to a column that its table does not have. -/
  | unknownColumn (column table : String)
  /-- A `CREATE` collides with something of the same kind. -/
  | alreadyExists (kind name : String)
  /-- A target does not exist, and nothing says that it need not. -/
  | notFound (kind name : String)
  /-- A target is still referred to. -/
  | dropConflict (kind name : String) (dependents : List String)
  /-- A `REVOKE` matches no grant. -/
  | revokeMismatch (description : String)
  /-- An SQL text, or that of the file at `path`, was refused. -/
  | syntaxError (error : Sql.SyntaxError) (path : Option String)
  /-- A source file cannot be read. -/
  | load (path reason : String)
  /-- A statement is of a kind that is neither known nor passed over. -/
  | unsupported (kind sql : String)
  /-- A foreign key points at a table that the catalog does not have. -/
  | danglingReference (table referenced : String)
  /-- The foreign keys of some tables lead back to them. -/
  | referenceCycle (tables : List String)
  /-- A table that was asked about is not in the catalog. -/
  | absentTable (table : String)
  /-- An entity belongs to a table that is not in the catalog. -/
  | absentOwner (what table : String)
  /-- Something that was looked up before is gone. -/
  | vanished (kind name : String)
  deriving DecidableEq, Repr

namespace CatalogError

def message : CatalogError → String
  | unresolved kind name referencedBy =>
    "Unknown " ++ kind ++ " `" ++ name ++ "` referenced by " ++ referencedBy ++ "."
  | unknownColumn column table =>
    "Unknown column `" ++ column ++ "` referenced by table `" ++ table ++ "`."
  | alreadyExists kind name => Text.capitalize kind ++ " `" ++ name ++ "` already exists."
  | notFound kind name => Text.capitalize kind ++ " `" ++ name ++ "` does not exist."
  | dropConflict kind name dependents =>
    "Cannot drop " ++ kind ++ " `" ++ name ++ "`: still referenced by "
      ++ ", ".intercalate dependents ++ "."
  | revokeMismatch description => "REVOKE matched no existing grant: " ++ description ++ "."
  | syntaxError error path =>
    let location :=
      match path with
      | some p => " in " ++ p
      | none => ""
    "SQL parse error" ++ location ++ ": " ++ error.text
  | load path reason => "Cannot load `" ++ path ++ "`: " ++ reason
  | unsupported kind _ => "Unsupported statement: " ++ kind
  | danglingReference table referenced =>
    "Table `" ++ table ++ "` references `" ++ referenced ++ "`, which is not in the catalog."
  | referenceCycle tables =>
    "Foreign keys form a cycle between: " ++ ", ".intercalate tables ++ "."
  | absentTable table => "Table `" ++ table ++ "` is not in this catalog."
  | absentOwner what table =>
    what ++ " belongs to table `" ++ table ++ "`, which is not in this catalog."
  | vanished kind name => Text.capitalize kind ++ " `" ++ name ++ "` is gone."

end CatalogError

end SchemaCatalog
