import SchemaCatalog.Catalog.Contents

/-!
# Owners

What belongs to a table can be asked for its table in any catalog. The question fails, naming the
entity, in a catalog that has no such table.
-/

namespace SchemaCatalog

def nameText (name : Option String) : String := name.getD "None"

/-- An entity in words: its kind and its name. -/
def titleOf (kind name : String) : String := kind ++ " `" ++ name ++ "`"

namespace CatalogView

variable (v : CatalogView)

def tableOfColumn (c : Column) : Except CatalogError Table :=
  v.owner (titleOf "Column" c.name) c.table

def tableOfIndex (i : Index) : Except CatalogError Table :=
  v.owner (titleOf "Index" (nameText i.name)) i.table

def tableOfUniqueIndex (i : UniqueIndex) : Except CatalogError Table :=
  v.owner (titleOf "Unique index" (nameText i.name)) i.table

def hostTable (k : ForeignKey) : Except CatalogError Table :=
  v.owner (titleOf "Foreign key" (nameText k.name)) k.host

def tableOfCheck (k : CheckConstraint) : Except CatalogError Table :=
  v.owner (titleOf "Check constraint" k.expression.sql) k.table

def tableOfTrigger (t : Trigger) : Except CatalogError Table :=
  v.owner (titleOf "Trigger" t.name) t.table

def tableOfPolicy (p : Policy) : Except CatalogError Table :=
  v.owner (titleOf "Policy" p.name) p.table

end CatalogView

end SchemaCatalog
