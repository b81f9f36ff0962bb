import SchemaCatalog.Catalog.Bisect
import SchemaCatalog.Catalog.Entity
import SchemaCatalog.Error

/-!
# The contents of a catalog, and views of it

A catalog in the making and a finished one hold the same lists of entities; they differ in the order
of the lists and in the way an entity is looked up. A `CatalogView` gives the lists together with the
lookups, and is all that a query needs.
-/

namespace SchemaCatalog

structure Contents where
  name : String
  timezone : Option String := none
  entries : List TableEntry := []
  functions : List Function := []
  triggers : List Trigger := []
  policies : List Policy := []
  roles : List Role := []
  grants : List Grant := []
  schemas : List Schema := []
  deriving Repr

/-- Read access to a catalog: its contents and its lookups. -/
structure CatalogView where
  contents : Contents
  entry? : TableKey → Option TableEntry
  function? : String → Option Function
  trigger? : String → Option Trigger
  policy? : String → Option Policy
  role? : String → Option Role
  schema? : String → Option Schema

namespace CatalogView

variable (v : CatalogView)

def tables : List Table := v.contents.entries.map (·.table)

def table? (key : TableKey) : Option Table := (v.entry? key).map (·.table)

/-- The metadata filed under a key, empty if there is none. -/
def metadataOf (key : TableKey) : TableMetadata :=
  match v.entry? key with
  | some e => e.metadata
  | none => {}

/-- The metadata of a table, which must be of this catalog. -/
def metadata (t : Table) : Except CatalogError TableMetadata :=
  match v.entry? t.key with
  | some e => .ok e.metadata
  | none => .error (.absentTable t.qualifiedName)

/-- The table that a name denotes: the one filed under it, or under its alias in the default
schema. -/
def resolve? (n : ObjectName) : Option Table :=
  match v.table? n with
  | some t => some t
  | none => n.alias?.bind v.table?

/-- The table that an entity belongs to, which must be of this catalog. -/
def owner (what : String) (key : TableKey) : Except CatalogError Table :=
  match v.table? key with
  | some t => .ok t
  | none => .error (.absentOwner what key.qualified)

/-! ## Tables and their parts -/

def columns : List Column := v.tables.flatMap fun t => (v.metadataOf t.key).columns

def indices : List Index := v.tables.flatMap fun t => (v.metadataOf t.key).indices

def uniqueIndices : List UniqueIndex :=
  v.tables.flatMap fun t => (v.metadataOf t.key).uniqueIndices

def foreignKeys : List ForeignKey := v.tables.flatMap fun t => (v.metadataOf t.key).foreignKeys

def checks : List CheckConstraint := v.tables.flatMap fun t => (v.metadataOf t.key).checks

/-- The foreign keys of a table into other tables. -/
def outgoingKeys (t : Table) : List ForeignKey :=
  (v.metadataOf t.key).foreignKeys.filter fun k => !k.isSelfReferential

/-- The other tables that a table refers to and that are in the catalog, each once. -/
def referencedTables (t : Table) : List Table :=
  distinct ((v.outgoingKeys t).filterMap fun k => v.table? k.referenced)

/-- A table without a foreign key into another one. -/
def isRoot (t : Table) : Bool := (v.outgoingKeys t).isEmpty

def rootTables : List Table := v.tables.filter v.isRoot

def maxColumns : Nat :=
  v.tables.foldl (fun n t => max n (v.metadataOf t.key).columns.length) 0

def triggersOf (t : Table) : List Trigger := v.contents.triggers.filter (·.table == t.key)

def policiesOf (t : Table) : List Policy := v.contents.policies.filter (·.table == t.key)

/-- The checks of its table that refer to a column. -/
def checksOf (c : Column) : List CheckConstraint :=
  (v.metadataOf c.table).checks.filter (·.involvesColumn c)

def columnsOf (i : Index) : List Column := i.columnNames.filterMap (v.metadataOf i.table).column?

def hostColumns (k : ForeignKey) : List Column :=
  k.hostColumns.filterMap (v.metadataOf k.host).column?

def referencedColumns (k : ForeignKey) : List Column :=
  k.referencedColumns.filterMap (v.metadataOf k.referenced).column?

/-! ## Functions, triggers, policies, roles -/

def functionsNamed (names : List String) : List Function := names.filterMap v.function?

/-- The functions that are not built in. -/
def declaredFunctions : List Function := v.contents.functions.filter fun f => !f.builtin

def triggerFunction? (t : Trigger) : Option Function := t.functionName.bind v.function?

def rolesNamed (names : List String) : List Role := names.filterMap v.role?

def policiesFor (r : Role) : List Policy := v.contents.policies.filter (·.appliesTo r)

def grantsTo (r : Role) : List Grant := v.contents.grants.filter (·.appliesToRole r)

/-! ## Grants and schemas -/

def tablesIn (schema : String) : List Table := v.tables.filter fun t => inSchema t.schema schema

/-- The tables that a grant is about. -/
def grantTables (g : Grant) : List Table :=
  match g.objects.kind with
  | .tables => g.objects.names.filterMap v.resolve?
  | .allTablesInSchema =>
    v.tables.filter fun t => g.objects.names.any fun n => inSchema t.schema n.name
  | _ => []

/-- The schemas that a grant names. -/
def grantSchemas (g : Grant) : List Schema :=
  match g.objects.kind with
  | .schemas | .allTablesInSchema | .allFunctionsInSchema =>
    g.objects.names.filterMap fun n => v.schema? n.name
  | _ => []

def grantFunctions (g : Grant) : List Function :=
  match g.objects.kind with
  | .functions => g.objects.names.filterMap fun n => v.function? n.name
  | .allFunctionsInSchema =>
    v.declaredFunctions.filter fun f => g.objects.names.any fun n => inSchema f.schema n.name
  | _ => []

/-- The columns that the privileges of a grant are limited to, with the privilege. -/
def privilegeColumns (g : Grant) : List (String × Column) :=
  g.privileges.flatMap fun p =>
    (v.grantTables g).flatMap fun t =>
      p.columns.filterMap fun name =>
        ((v.metadataOf t.key).column? name).map fun c => (p.kind, c)

def appliesToTable (g : Grant) (t : Table) : Bool := (v.grantTables g).any fun u => u.key == t.key

/-- The role that granted, if it is in the catalog. -/
def grantor? (g : Grant) : Option Role := g.grantedBy.bind v.role?

def tableGrants : List Grant := v.contents.grants.filter Grant.isTableGrant

/-- The grants about tables that are limited to columns. -/
def columnGrants : List Grant := v.tableGrants.filter Grant.isColumnGrant

def rlsTables : List Table := v.tables.filter (·.rlsEnabled)

def forcedRlsTables : List Table := v.tables.filter (·.rlsForced)

end CatalogView

end SchemaCatalog
