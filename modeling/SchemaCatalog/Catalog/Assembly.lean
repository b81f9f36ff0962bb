import SchemaCatalog.Catalog.Apply
import SchemaCatalog.Catalog.Documentation
import SchemaCatalog.Statement.Grammar

/-!
# From SQL to a catalog

The catalog of some statements: they are applied in order, the result is sorted, and the comments
among them are attached to its tables.
-/

namespace SchemaCatalog

namespace Catalog

/-- The catalog of some statements, with their comments. -/
def ofStatements (name : String) (statements : List Statement) : Except CatalogError Catalog :=
  let outcome := (Builder.initial name).applyAll statements
  match outcome.failure with
  | none => .ok (outcome.builder.freeze.document (Documentation.ofStatements statements))
  | some e => .error e

def ofSql (name sql : String) : Except CatalogError Catalog :=
  match Script.parse sql with
  | .ok statements => ofStatements name statements
  | .error e => .error (.syntaxError e none)

end Catalog

end SchemaCatalog
