import SchemaCatalog.Catalog.Builder

/-!
# Outcomes and references

What becomes of a builder when a statement is applied, and how a statement finds what it refers to.
Most statements are checked as a whole and then take effect; those with several targets take effect
one target after the other, and what was done before a failure stays.
-/

namespace SchemaCatalog

/-- A builder after a statement, with the failure that ended the statement if there was one. -/
structure Outcome where
  builder : Builder
  failure : Option CatalogError := none
  deriving Repr

namespace Outcome

/-- The outcome of a statement that takes effect as a whole or not at all. -/
def whole (b : Builder) : Except CatalogError Builder → Outcome
  | .ok b' => { builder := b' }
  | .error e => { builder := b, failure := some e }

/-- The outcome of doing something for each of several targets in turn, up to the first failure. -/
def each {α : Type} (step : Builder → α → Outcome) : Builder → List α → Outcome
  | b, [] => { builder := b }
  | b, a :: as =>
    match step b a with
    | { builder := b', failure := none } => each step b' as
    | stopped => stopped

end Outcome

namespace Builder

def resolve? (b : Builder) (n : ObjectName) : Option Table := b.view.resolve? n

/-- The table that a name denotes, which must exist. -/
def requireTable (b : Builder) (n : ObjectName) (referencedBy : String) :
    Except CatalogError Table :=
  match b.resolve? n with
  | some t => .ok t
  | none => .error (.unresolved "table" n.qualified referencedBy)

/-- A role must exist, unless the name stands for none of the catalog. -/
def requireRole (b : Builder) (name referencedBy : String) : Except CatalogError Unit :=
  if isPseudoRole name || (b.role? name).isSome then .ok ()
  else .error (.unresolved "role" name referencedBy)

/-- The functions of the catalog that an expression calls: of the names that a call may have, the
first one that the catalog knows. -/
def knownFunctions (b : Builder) (e : Expression) : List String :=
  distinct (e.tree.functionReferences.filterMap fun names =>
    names.find? fun name => !(b.functionsNamed name).isEmpty)

end Builder

def requireColumns (columns : List Column) (table : String) (names : List String) :
    Except CatalogError Unit :=
  match names.find? fun name => !columns.any (·.name == name) with
  | some name => .error (.unknownColumn name table)
  | none => .ok ()

/-- The columns that an expression refers to. A name without a column must be that of a function
written without parentheses. -/
def resolveColumns (columns : List Column) (table : String) (e : Expression) :
    Except CatalogError (List Column) :=
  let names := e.tree.columnReferences
  match names.find? fun name => !columns.any (·.name == name) && !isNiladic name with
  | some name => .error (.unknownColumn name table)
  | none => .ok (names.filterMap fun name => columns.find? (·.name == name))

end SchemaCatalog
