import SchemaCatalog.Expr.Basic
import SchemaCatalog.Name
import SchemaCatalog.Text.Blank

/-!
# Statements

The statements of the data definition language that change a catalog, as plain records: names as
written, expressions as trees with their text, and enumerations for the small closed vocabularies.
A statement that is known only by its leading keywords is an `other`.
-/

namespace SchemaCatalog

/-! ## 1. Vocabularies -/

inductive TriggerEvent where
  | insert | update | delete | truncate
  deriving DecidableEq, Repr

inductive TriggerTiming where
  | before | after | insteadOf
  deriving DecidableEq, Repr

inductive TriggerOrientation where
  | row | statement
  deriving DecidableEq, Repr

inductive PolicyCommand where
  | all | select | insert | update | delete
  deriving DecidableEq, Repr

inductive RowSecurityAction where
  | enable | disable | force | noForce
  deriving DecidableEq, Repr

inductive GrantObjectKind where
  | tables | allTablesInSchema | schemas | functions | allFunctionsInSchema | sequences | other
  deriving DecidableEq, Repr

def TriggerEvent.keyword : TriggerEvent → String
  | insert => "INSERT"
  | update => "UPDATE"
  | delete => "DELETE"
  | truncate => "TRUNCATE"

def TriggerEvent.ofKeyword? (word : String) : Option TriggerEvent :=
  [insert, update, delete, truncate].find? (·.keyword == word)

def TriggerTiming.keyword : TriggerTiming → String
  | before => "BEFORE"
  | after => "AFTER"
  | insteadOf => "INSTEAD OF"

def TriggerOrientation.keyword : TriggerOrientation → String
  | row => "ROW"
  | statement => "STATEMENT"

def TriggerOrientation.ofKeyword? (word : String) : Option TriggerOrientation :=
  [row, statement].find? (·.keyword == word)

def PolicyCommand.keyword : PolicyCommand → String
  | all => "ALL"
  | select => "SELECT"
  | insert => "INSERT"
  | update => "UPDATE"
  | delete => "DELETE"

def PolicyCommand.ofKeyword? (word : String) : Option PolicyCommand :=
  [all, select, insert, update, delete].find? (·.keyword == word)

def RowSecurityAction.keyword : RowSecurityAction → String
  | enable => "ENABLE"
  | disable => "DISABLE"
  | force => "FORCE"
  | noForce => "NO FORCE"

def GrantObjectKind.keyword : GrantObjectKind → String
  | tables => "TABLES"
  | allTablesInSchema => "ALL TABLES IN SCHEMA"
  | schemas => "SCHEMAS"
  | functions => "FUNCTIONS"
  | allFunctionsInSchema => "ALL FUNCTIONS IN SCHEMA"
  | sequences => "SEQUENCES"
  | other => "OTHER"

/-! ## 2. Tables -/

/-- A foreign key as declared; without referenced columns it means the primary key. -/
structure ForeignKeyDefinition where
  columns : List String
  referencedTable : ObjectName
  referencedColumns : List String := []
  name : Option String := none
  onDelete : Option String := none
  onUpdate : Option String := none
  deriving Repr, DecidableEq

/-- A constraint, declared for a table or within a column. -/
inductive ConstraintDefinition where
  | primaryKey (columns : List String) (name : Option String)
  | unique (columns : List String) (name : Option String) (nullsDistinct : Bool)
  | foreignKey (definition : ForeignKeyDefinition)
  | check (expression : Expression) (name : Option String)
  deriving Repr

/-- A column as declared. The constraints declared within it have it as their only column. -/
structure ColumnDefinition where
  name : String
  dataType : String
  notNull : Bool := false
  default : Option String := none
  generated : Bool := false
  identity : Bool := false
  constraints : List ConstraintDefinition := []
  deriving Repr

structure CreateTable where
  name : ObjectName
  columns : List ColumnDefinition
  constraints : List ConstraintDefinition := []
  ifNotExists : Bool := false
  deriving Repr

structure DropTable where
  names : List ObjectName
  ifExists : Bool := false
  cascade : Bool := false
  deriving Repr, DecidableEq

/-- A change of a table, reduced to its row security actions. -/
structure AlterTable where
  name : ObjectName
  actions : List RowSecurityAction := []
  ifExists : Bool := false
  deriving Repr, DecidableEq

/-! ## 3. Indexes, functions, triggers, policies -/

structure CreateIndex where
  table : ObjectName
  items : List Expression
  name : Option String := none
  unique : Bool := false
  ifNotExists : Bool := false
  deriving Repr

structure DropIndex where
  names : List ObjectName
  ifExists : Bool := false
  deriving Repr, DecidableEq

/-- An argument of a function: its type, and as far as given its name, mode and default. -/
structure FunctionArgument where
  dataType : String
  name : Option String := none
  mode : Option String := none
  default : Option String := none
  deriving Repr, DecidableEq

structure CreateFunction where
  name : ObjectName
  arguments : List FunctionArgument := []
  returnType : Option String := none
  body : Option String := none
  language : Option String := none
  orReplace : Bool := false
  deriving Repr, DecidableEq

/-- A function to drop, all overloads of it if no argument types are given. -/
structure FunctionSignature where
  name : ObjectName
  argumentTypes : Option (List String) := none
  deriving Repr, DecidableEq

structure DropFunction where
  targets : List FunctionSignature
  ifExists : Bool := false
  cascade : Bool := false
  deriving Repr, DecidableEq

structure CreateTrigger where
  name : String
  table : ObjectName
  events : List TriggerEvent
  timing : TriggerTiming
  orientation : TriggerOrientation := .statement
  function : ObjectName
  updateColumns : List String := []
  condition : Option Expression := none
  orReplace : Bool := false
  deriving Repr

structure DropTrigger where
  name : String
  table : Option ObjectName := none
  ifExists : Bool := false
  deriving Repr, DecidableEq

structure CreatePolicy where
  name : String
  table : ObjectName
  command : PolicyCommand := .all
  permissive : Bool := true
  roles : List String := []
  usingRows : Option Expression := none
  withCheck : Option Expression := none
  deriving Repr

structure DropPolicy where
  name : String
  table : ObjectName
  ifExists : Bool := false
  deriving Repr, DecidableEq

/-! ## 4. Roles, grants, schemas -/

structure RoleOptions where
  superuser : Bool := false
  createDb : Bool := false
  createRole : Bool := false
  inherit : Bool := true
  login : Bool := false
  bypassRls : Bool := false
  replication : Bool := false
  connectionLimit : Option Int := none
  deriving Repr, DecidableEq

structure CreateRole where
  name : String
  options : RoleOptions := {}
  memberOf : List String := []
  deriving Repr, DecidableEq

structure DropRole where
  names : List String
  ifExists : Bool := false
  deriving Repr, DecidableEq

/-- A privilege with the columns it is limited to, none meaning no limit. -/
structure Privilege where
  kind : String
  columns : List String := []
  deriving Repr, DecidableEq

def Privilege.describe (p : Privilege) : String :=
  if p.columns.isEmpty then p.kind else p.kind ++ " (" ++ ", ".intercalate p.columns ++ ")"

structure GrantObjects where
  kind : GrantObjectKind
  names : List ObjectName := []
  deriving Repr, DecidableEq

structure GrantPrivileges where
  privileges : List Privilege
  objects : GrantObjects
  grantees : List String
  allPrivileges : Bool := false
  withGrantOption : Bool := false
  grantedBy : Option String := none
  deriving Repr, DecidableEq

structure RevokePrivileges where
  privileges : List Privilege
  objects : GrantObjects
  grantees : List String
  allPrivileges : Bool := false
  grantOptionFor : Bool := false
  cascade : Bool := false
  deriving Repr, DecidableEq

structure GrantRole where
  roles : List String
  grantees : List String
  withAdminOption : Bool := false
  deriving Repr, DecidableEq

structure RevokeRole where
  roles : List String
  grantees : List String
  deriving Repr, DecidableEq

structure CreateSchema where
  name : String
  authorization : Option String := none
  ifNotExists : Bool := false
  deriving Repr, DecidableEq

structure DropSchema where
  names : List String
  ifExists : Bool := false
  cascade : Bool := false
  deriving Repr, DecidableEq

/-- What is changed of a schema: its name or its owner. -/
inductive SchemaChange where
  | rename (newName : String)
  | owner (newOwner : String)
  deriving Repr, DecidableEq

structure AlterSchema where
  name : String
  change : SchemaChange
  ifExists : Bool := false
  deriving Repr, DecidableEq

/-! ## 5. Comments and the whole -/

/-- A comment on an object, or its removal. A comment on a column has the column's table as its
target. -/
structure CommentOn where
  objectKind : String
  target : ObjectName
  column : Option String := none
  text : Option String := none
  deriving Repr, DecidableEq

inductive Statement where
  | createTable (s : CreateTable)
  | dropTable (s : DropTable)
  | alterTable (s : AlterTable)
  | createIndex (s : CreateIndex)
  | dropIndex (s : DropIndex)
  | createFunction (s : CreateFunction)
  | dropFunction (s : DropFunction)
  | createTrigger (s : CreateTrigger)
  | dropTrigger (s : DropTrigger)
  | createPolicy (s : CreatePolicy)
  | dropPolicy (s : DropPolicy)
  | createRole (s : CreateRole)
  | dropRole (s : DropRole)
  | grantPrivileges (s : GrantPrivileges)
  | revokePrivileges (s : RevokePrivileges)
  | grantRole (s : GrantRole)
  | revokeRole (s : RevokeRole)
  | createSchema (s : CreateSchema)
  | dropSchema (s : DropSchema)
  | alterSchema (s : AlterSchema)
  | setTimeZone (value : String)
  | commentOn (s : CommentOn)
  /-- A statement known only by its leading keywords, with its text. -/
  | other (kind : String) (sql : String)
  deriving Repr

def GrantObjects.describe (objects : GrantObjects) : String :=
  let names := ", ".intercalate (objects.names.map ObjectName.qualified)
  Text.strip (objects.kind.keyword ++ " " ++ names)

end SchemaCatalog
