import SchemaCatalog.Statement.Grammar.Name

/-!
# Reading table definitions

`CREATE TABLE` with its columns and constraints, and the row security actions of `ALTER TABLE`.
Inheritance, partitioning and storage clauses after the column list are passed over.
-/

namespace SchemaCatalog

open Sql Reader

/-- The words that open a constraint instead of a column. -/
def tableConstraintWords : List String :=
  ["CONSTRAINT", "PRIMARY", "UNIQUE", "FOREIGN", "CHECK", "EXCLUDE", "LIKE"]

def columnOptionWords : List String :=
  ["CONSTRAINT", "NOT", "NULL", "DEFAULT", "PRIMARY", "UNIQUE", "CHECK", "REFERENCES", "GENERATED",
    "COLLATE", "DEFERRABLE", "INITIALLY", "COMPRESSION", "STORAGE"]

/-- Reads whether null values are distinct, as they are by default. -/
def readNullsDistinct : Reader Bool := do
  if ← accept ["NULLS", "NOT", "DISTINCT"] then pure false
  else
    let _ ← accept ["NULLS", "DISTINCT"]
    pure true

/-- Passes a list of columns in parentheses if one comes next. -/
def skipColumns : Reader Unit := do
  if ← atSymbol "(" then
    let _ ← parenthesized

/-- Reads what happens to a row whose referenced row goes. -/
def readReferentialAction : Reader String := do
  if ← accept ["NO", "ACTION"] then pure "NO ACTION"
  else if ← accept ["SET", "NULL"] then
    skipColumns
    pure "SET NULL"
  else if ← accept ["SET", "DEFAULT"] then
    skipColumns
    pure "SET DEFAULT"
  else if ← accept ["CASCADE"] then pure "CASCADE"
  else if ← accept ["RESTRICT"] then pure "RESTRICT"
  else expected "a referential action"

def ForeignKeyDefinition.readClause (d : ForeignKeyDefinition) :
    Reader (Option ForeignKeyDefinition) := do
  if ← accept ["MATCH"] then
    let _ ← advance
    pure (some d)
  else if ← accept ["ON", "DELETE"] then
    pure (some { d with onDelete := some (← readReferentialAction) })
  else if ← accept ["ON", "UPDATE"] then
    pure (some { d with onUpdate := some (← readReferentialAction) })
  else pure none

/-- Reads what follows `REFERENCES` in a foreign key of the given columns. -/
def ForeignKeyDefinition.read (columns : List String) (name : Option String) :
    Reader ForeignKeyDefinition := do
  let table ← ObjectName.read
  let referenced ← if ← atSymbol "(" then readColumnList else pure []
  iterate ForeignKeyDefinition.readClause
    { columns, referencedTable := table, referencedColumns := referenced, name }

def readConstraintName : Reader (Option String) := do
  if ← accept ["CONSTRAINT"] then pure (some (← identifier)) else pure none

/-- Reads a constraint of a table; an exclusion or a table that is copied from is none. -/
def ConstraintDefinition.read : Reader (Option ConstraintDefinition) := do
  let name ← readConstraintName
  if ← accept ["PRIMARY", "KEY"] then pure (some (.primaryKey (← readColumnList) name))
  else if ← accept ["UNIQUE"] then
    let nullsDistinct ← readNullsDistinct
    pure (some (.unique (← readColumnList) name nullsDistinct))
  else if ← accept ["FOREIGN", "KEY"] then
    let columns ← readColumnList
    expect ["REFERENCES"]
    pure (some (.foreignKey (← ForeignKeyDefinition.read columns name)))
  else if ← accept ["CHECK"] then pure (some (.check (← Expression.readParenthesized) name))
  else if ← accept ["EXCLUDE"] then pure none
  else if ← accept ["LIKE"] then pure none
  else unexpected "table constraint"

namespace ColumnDefinition

def withConstraint (d : ColumnDefinition) (c : ConstraintDefinition) : ColumnDefinition :=
  { d with constraints := d.constraints ++ [c] }

def readDefault (d : ColumnDefinition) : Reader ColumnDefinition := do
  let tokens ← untilWord columnOptionWords
  let tokens ←
    if ← (pure tokens.isEmpty <&&> atWords ["NULL"]) then do pure [← advance] else pure tokens
  if tokens.isEmpty then expected ("a default value for column `" ++ d.name ++ "`")
  else pure { d with default := some (← text tokens) }

def readGenerated (d : ColumnDefinition) : Reader ColumnDefinition := do
  unless ← accept ["ALWAYS"] do expect ["BY", "DEFAULT"]
  expect ["AS"]
  if ← accept ["IDENTITY"] then
    skipColumns
    pure { d with generated := true, identity := true }
  else
    let _ ← parenthesized
    unless ← accept ["STORED"] do
      let _ ← accept ["VIRTUAL"]
    pure { d with generated := true }

def readOption (d : ColumnDefinition) : Reader ColumnDefinition := do
  let name ← readConstraintName
  if ← accept ["NOT", "NULL"] then pure { d with notNull := true }
  else if ← accept ["NULL"] then pure d
  else if ← accept ["DEFAULT"] then d.readDefault
  else if ← accept ["PRIMARY", "KEY"] then pure (d.withConstraint (.primaryKey [d.name] name))
  else if ← accept ["UNIQUE"] then
    let nullsDistinct ← readNullsDistinct
    pure (d.withConstraint (.unique [d.name] name nullsDistinct))
  else if ← accept ["CHECK"] then
    let e ← Expression.readParenthesized
    let _ ← accept ["NO", "INHERIT"]
    pure (d.withConstraint (.check e name))
  else if ← accept ["REFERENCES"] then
    pure (d.withConstraint (.foreignKey (← ForeignKeyDefinition.read [d.name] name)))
  else if ← accept ["GENERATED"] then d.readGenerated
  else if ← accept ["COLLATE"] then
    let _ ← qualifiedName
    pure d
  else if ← acceptAny [["COMPRESSION"], ["STORAGE"]] then
    let _ ← advance
    pure d
  else if ← acceptAny [["NOT", "DEFERRABLE"], ["DEFERRABLE"]] then pure d
  else if ← accept ["INITIALLY"] then
    let _ ← advance
    pure d
  else unexpected ("option for column `" ++ d.name ++ "`")

def read : Reader ColumnDefinition := do
  let name ← identifier
  let tokens ← untilWord columnOptionWords
  if tokens.isEmpty then expected ("a data type for column `" ++ name ++ "`")
  else
    let dataType ← readTypeText tokens
    untilEnd readOption { name, dataType }

end ColumnDefinition

/-- Reads one element of a table definition into the table: a column or a constraint. -/
def CreateTable.readElement (table : CreateTable) (element : List Token) : Reader CreateTable :=
  within element do
    let word ← word?
    if tableConstraintWords.contains (word.getD "") then
      match ← ConstraintDefinition.read with
      | some c => pure { table with constraints := table.constraints ++ [c] }
      | none => pure table
    else
      let column ← ColumnDefinition.read
      pure { table with columns := table.columns ++ [column] }

def CreateTable.readElements (table : CreateTable) : List (List Token) → Reader CreateTable
  | [] => pure table
  | element :: elements => do
    let table ← table.readElement element
    table.readElements elements

def CreateTable.read : Reader Statement := do
  let ifNotExists ← accept ["IF", "NOT", "EXISTS"]
  let name ← ObjectName.read
  if ← atWords ["AS"] then Statement.readOtherOf "CREATE TABLE AS"
  else if ← atWords ["PARTITION", "OF"] then Statement.readOtherOf "CREATE TABLE PARTITION OF"
  else if ← atWords ["OF"] then Statement.readOtherOf "CREATE TABLE OF"
  else
    let elements := splitCommas (← parenthesized)
    let table : CreateTable := { name, columns := [], ifNotExists }
    pure (.createTable (← table.readElements elements))

/-- The row security action that a part of `ALTER TABLE` begins with, if it does. -/
def RowSecurityAction.read? : Reader (Option RowSecurityAction) := do
  let security := ["ROW", "LEVEL", "SECURITY"]
  if ← atWords ("ENABLE" :: security) then pure (some .enable)
  else if ← atWords ("DISABLE" :: security) then pure (some .disable)
  else if ← atWords ("FORCE" :: security) then pure (some .force)
  else if ← atWords ("NO" :: "FORCE" :: security) then pure (some .noForce)
  else pure none

def AlterTable.read : Reader Statement := do
  let ifExists ← accept ["IF", "EXISTS"]
  let _ ← accept ["ONLY"]
  let name ← ObjectName.read
  let _ ← acceptSymbol "*"
  let actions ← each (fun part => within part RowSecurityAction.read?) (splitCommas (← remaining))
  pure (.alterTable { name, actions := actions.filterMap id, ifExists })

end SchemaCatalog
