import SchemaCatalog.Catalog.Frozen

/-!
# Documentation

The comments on tables and columns are collected from the statements, the last one on an object
counting, and attached to the tables of a catalog. Attaching overrides: a table or column without a
new comment keeps the one it has.
-/

namespace SchemaCatalog

structure TableDocumentation where
  table : Option String := none
  columns : List (String × String) := []
  deriving DecidableEq, Repr

/-- The comments on the tables of an SQL text, by the names under which they were written. -/
abbrev Documentation := List (ObjectName × TableDocumentation)

/-- Files a value under a key: in the place of the value already there, else at the end. -/
def fileUnder {κ α : Type} [BEq κ] (key : κ) (value : α) : List (κ × α) → List (κ × α)
  | [] => [(key, value)]
  | p :: ps => if p.1 == key then (p.1, value) :: ps else p :: fileUnder key value ps

def filed? {κ α : Type} [BEq κ] (key : κ) (pairs : List (κ × α)) : Option α :=
  (pairs.find? fun p => p.1 == key).map (·.2)

/-- Pairs overridden by further ones, one after the other. -/
def mergePairs {κ α : Type} [BEq κ] (old new : List (κ × α)) : List (κ × α) :=
  (old ++ new).foldl (fun merged p => fileUnder p.1 p.2 merged) []

/-! ## 1. Collecting -/

/-- The comments of statements so far: on tables, and on the columns of tables. A comment that was
removed is kept as such. -/
structure Comments where
  tables : List (ObjectName × Option String) := []
  columns : List (ObjectName × List (String × Option String)) := []
  deriving Repr

namespace Comments

/-- The comments after a further one; one that is neither on a table nor on a column is passed
over. -/
def add (c : Comments) (s : CommentOn) : Comments :=
  if s.objectKind == "TABLE" then { c with tables := fileUnder s.target s.text c.tables }
  else
    match s.objectKind == "COLUMN", s.column with
    | true, some column =>
      let others := (filed? s.target c.columns).getD []
      { c with columns := fileUnder s.target (fileUnder column s.text others) c.columns }
    | _, _ => c

def ofStatements (statements : List Statement) : Comments :=
  statements.foldl
    (fun c s =>
      match s with
      | .commentOn s => c.add s
      | _ => c)
    {}

/-- The comments on the table of a name and on its columns, without those that were removed. -/
def ofTable (c : Comments) (key : ObjectName) : TableDocumentation :=
  { table := (filed? key c.tables).join
    columns := ((filed? key c.columns).getD []).filterMap fun (name, text) =>
      text.map fun text => (name, text) }

/-- The tables that are commented on, themselves or by a column. -/
def keys (c : Comments) : List ObjectName :=
  let tables := c.tables.map (·.1)
  tables ++ (c.columns.map (·.1)).filter fun key => !tables.contains key

end Comments

def Documentation.ofStatements (statements : List Statement) : Documentation :=
  let comments := Comments.ofStatements statements
  comments.keys.map fun key => (key, comments.ofTable key)

/-! ## 2. Attaching -/

/-- The comments on the table of a key, which may be filed under its alias in the default schema. -/
def Documentation.ofTable? (docs : Documentation) (key : TableKey) : Option TableDocumentation :=
  match filed? key docs with
  | some doc => some doc
  | none => key.alias?.bind fun other => filed? other docs

/-- Metadata with comments added; a comment that is missing leaves the one there. -/
def TableMetadata.document (m : TableMetadata) (doc : TableDocumentation) : TableMetadata :=
  { m with
    documentation := doc.table.orElse fun _ => m.documentation
    columnDocumentation := mergePairs m.columnDocumentation doc.columns }

/-- The catalog with comments attached to its tables; comments on other tables are passed over. -/
def Catalog.document (c : Catalog) (docs : Documentation) : Catalog :=
  { c with
    entries := c.entries.map fun e =>
      match docs.ofTable? e.key with
      | some doc => { e with metadata := e.metadata.document doc }
      | none => e }

end SchemaCatalog
