import SchemaCatalog.DataType
import SchemaCatalog.Expr.Reference
import SchemaCatalog.Statement

/-!
# Entities

What a catalog holds: tables with their metadata, functions, triggers, policies, roles, grants and
schemas. An entity refers to another one by its key or name, never by the value itself, so that it
can be resolved against any catalog.
-/

namespace SchemaCatalog

structure Table where
  name : String
  schema : Option String := none
  rlsEnabled : Bool := false
  rlsForced : Bool := false
  deriving DecidableEq, Repr

def Table.key (t : Table) : TableKey := ⟨t.name, t.schema⟩

def Table.qualifiedName (t : Table) : String := t.key.qualified

structure Column where
  table : TableKey
  name : String
  dataType : String
  notNull : Bool := false
  default : Option String := none
  generated : Bool := false
  identity : Bool := false
  ordinal : Nat := 0
  deriving DecidableEq, Repr

namespace Column

/-- The values of the column are made by the database. -/
def isGenerated (c : Column) : Bool :=
  c.generated || c.identity || DataType.isGenerated c.dataType

def isTextual (c : Column) : Bool := DataType.isTextual c.dataType

def hasDefault (c : Column) : Bool := c.default.isSome

end Column

structure Index where
  table : TableKey
  expressions : List Expression
  name : Option String := none
  deriving Repr

/-- A unique index; that of the primary key is marked. -/
structure UniqueIndex extends Index where
  nullsDistinct : Bool := true
  primaryKey : Bool := false
  deriving Repr

namespace Index

def expressionSql (i : Index) : String := ", ".intercalate (i.expressions.map (·.sql))

/-- Every indexed expression is a plain column. -/
def isSimple (i : Index) : Bool := i.expressions.all fun e => e.tree.columnName?.isSome

def columnNames (i : Index) : List String :=
  distinct (i.expressions.flatMap fun e => e.tree.columnReferences)

end Index

/-- A foreign key, from columns of its host to columns of the table it references. -/
structure ForeignKey where
  host : TableKey
  hostColumns : List String
  referenced : TableKey
  referencedColumns : List String
  name : Option String := none
  onDelete : Option String := none
  onUpdate : Option String := none
  deriving DecidableEq, Repr

def ForeignKey.isSelfReferential (k : ForeignKey) : Bool := k.host == k.referenced

structure CheckConstraint where
  table : TableKey
  expression : Expression
  columnNames : List String := []
  functionNames : List String := []
  name : Option String := none
  deriving Repr

namespace CheckConstraint

def involvesColumn (k : CheckConstraint) (c : Column) : Bool :=
  c.table == k.table && k.columnNames.contains c.name

/-- The check calls a function, named in any letter case. -/
def involvesFunction (k : CheckConstraint) (name : String) : Bool :=
  k.functionNames.contains (Text.lower name)

end CheckConstraint

/-- What is known of a table besides its key. -/
structure TableMetadata where
  columns : List Column := []
  primaryKey : List String := []
  indices : List Index := []
  uniqueIndices : List UniqueIndex := []
  foreignKeys : List ForeignKey := []
  checks : List CheckConstraint := []
  documentation : Option String := none
  columnDocumentation : List (String × String) := []
  deriving Repr

namespace TableMetadata

def column? (m : TableMetadata) (name : String) : Option Column :=
  m.columns.find? (·.name == name)

/-- The columns of the primary key, in key order. -/
def primaryKeyColumns (m : TableMetadata) : List Column := m.primaryKey.filterMap m.column?

def inPrimaryKey (m : TableMetadata) (c : Column) : Bool := m.primaryKey.contains c.name

def isNullable (m : TableMetadata) (c : Column) : Bool := !(c.notNull || m.inPrimaryKey c)

/-- The text that documents a column: the last one filed under its name. -/
def documentationOf? (m : TableMetadata) (column : String) : Option String :=
  (m.columnDocumentation.reverse.find? (·.1 == column)).map (·.2)

end TableMetadata

structure TableEntry where
  table : Table
  metadata : TableMetadata
  deriving Repr

def TableEntry.key (e : TableEntry) : TableKey := e.table.key

/-- A function; one of several of its name if their input types differ. -/
structure Function where
  name : String
  arguments : List FunctionArgument := []
  returnType : Option String := none
  body : Option String := none
  language : Option String := none
  schema : Option String := none
  builtin : Bool := false
  deriving DecidableEq, Repr

namespace Function

def argumentTypes (f : Function) : List String :=
  (f.arguments.filter (·.mode != some "OUT")).map (·.dataType)

def normalizedArgumentTypes (f : Function) : List String :=
  f.argumentTypes.map DataType.normalize

def normalizedReturnType (f : Function) : Option String := f.returnType.map DataType.normalize

def signature (f : Function) : String :=
  f.name ++ "(" ++ ", ".intercalate f.argumentTypes ++ ")"

/-- The name that overloads share. -/
def lowerName (f : Function) : String := Text.lower f.name

end Function

structure Trigger where
  name : String
  table : TableKey
  events : List TriggerEvent
  timing : TriggerTiming
  orientation : TriggerOrientation := .statement
  functionName : Option String := none
  updateColumns : List String := []
  condition : Option Expression := none
  deriving Repr

structure Policy where
  name : String
  table : TableKey
  command : PolicyCommand := .all
  permissive : Bool := true
  roleNames : List String := []
  usingRows : Option Expression := none
  withCheck : Option Expression := none
  usingFunctionNames : List String := []
  checkFunctionNames : List String := []
  deriving Repr

/-- A policy calls a function, named in any letter case. -/
def Policy.referencesFunction (p : Policy) (name : String) : Bool :=
  let lowered := Text.lower name
  p.usingFunctionNames.contains lowered || p.checkFunctionNames.contains lowered

structure Role where
  name : String
  options : RoleOptions := {}
  memberships : List String := []
  deriving DecidableEq, Repr

/-- The grantee that stands for every role. -/
def publicRole : String := "PUBLIC"

/-- The grantees that are no roles of the catalog. -/
def pseudoRoles : List String := [publicRole, "CURRENT_USER", "SESSION_USER", "CURRENT_ROLE"]

/-- A name, in any letter case, stands for no role of the catalog. -/
def isPseudoRole (name : String) : Bool := pseudoRoles.contains (Text.upper name)

/-- A policy applies to a role; one without roles, or for the public, applies to all. -/
def Policy.appliesTo (p : Policy) (r : Role) : Bool :=
  p.roleNames.isEmpty || p.roleNames.any fun n => n == r.name || Text.upper n == publicRole

structure Grant where
  privileges : List Privilege
  objects : GrantObjects
  grantees : List String
  allPrivileges : Bool := false
  withGrantOption : Bool := false
  grantedBy : Option String := none
  deriving DecidableEq, Repr

/-- The written privileges, all of them being `ALL` unless some are named. -/
def describePrivileges (privileges : List Privilege) : String :=
  ", ".intercalate (privileges.map Privilege.describe)

namespace Grant

def describe (g : Grant) : String :=
  let privileges :=
    if g.allPrivileges && g.privileges.isEmpty then "ALL" else describePrivileges g.privileges
  privileges ++ " ON " ++ g.objects.describe ++ " TO " ++ ", ".intercalate g.grantees

/-- Some privilege is limited to columns. -/
def isColumnGrant (g : Grant) : Bool := g.privileges.any fun p => !p.columns.isEmpty

def appliesToRole (g : Grant) (r : Role) : Bool := g.grantees.contains r.name

def isPublic (g : Grant) : Bool := g.grantees.any fun n => Text.upper n == publicRole

def isTableGrant (g : Grant) : Bool :=
  g.objects.kind == .tables || g.objects.kind == .allTablesInSchema

end Grant

structure Schema where
  name : String
  authorization : Option String := none
  deriving DecidableEq, Repr

end SchemaCatalog
