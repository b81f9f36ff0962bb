import SchemaCatalog.Catalog.Apply.Outcome

/-!
# Creating, dropping and altering tables

A table is created with all its constraints resolved: the columns they name exist, there is at most
one primary key, and a foreign key points at as many columns as it has, of a table that exists or of
the new table itself.
-/

namespace SchemaCatalog

/-! ## 1. Creating -/

/-- The columns of a new table; `seen` holds the names so far. -/
def declareColumns (table : ObjectName) (ordinal : Nat) (seen : List String) :
    List ColumnDefinition → Except CatalogError (List Column)
  | [] => .ok []
  | d :: ds =>
    if seen.contains d.name then
      .error (.alreadyExists "column" (table.qualified ++ "." ++ d.name))
    else
      let column : Column :=
        { table
          name := d.name
          dataType := d.dataType
          notNull := d.notNull
          default := d.default
          generated := d.generated || DataType.isGenerated d.dataType
          identity := d.identity
          ordinal }
      (declareColumns table (ordinal + 1) (d.name :: seen) ds).map (column :: ·)

def UniqueIndex.ofColumns (table : TableKey) (columns : List String) (name : Option String)
    (nullsDistinct primaryKey : Bool) : UniqueIndex :=
  { table, expressions := columns.map Expression.ofColumn, name, nullsDistinct, primaryKey }

/-- Adds a constraint other than a foreign key to the metadata of a new table. -/
def declareConstraint (b : Builder) (table : ObjectName) (m : TableMetadata) :
    ConstraintDefinition → Except CatalogError TableMetadata
  | .primaryKey columns name => do
    unless m.primaryKey.isEmpty do throw (.alreadyExists "primary key" table.qualified)
    requireColumns m.columns table.qualified columns
    let index := UniqueIndex.ofColumns table columns name true true
    pure { m with primaryKey := columns, uniqueIndices := m.uniqueIndices ++ [index] }
  | .unique columns name nullsDistinct => do
    requireColumns m.columns table.qualified columns
    let index := UniqueIndex.ofColumns table columns name nullsDistinct false
    pure { m with uniqueIndices := m.uniqueIndices ++ [index] }
  | .check expression name => do
    let columns ← resolveColumns m.columns table.qualified expression
    let check : CheckConstraint :=
      { table
        expression
        columnNames := columns.map (·.name)
        functionNames := b.knownFunctions expression
        name }
    pure { m with checks := m.checks ++ [check] }
  | .foreignKey _ => pure m

/-- Two names denote the same table, a missing or empty schema being the default one. -/
def ObjectName.denotesSame (m n : ObjectName) : Bool :=
  let schemaOf := fun (o : ObjectName) =>
    match o.schema with
    | some s => if s.isEmpty then defaultSchema else s
    | none => defaultSchema
  m.name == n.name && schemaOf m == schemaOf n

def referencedTable (b : Builder) (table : ObjectName) (m : TableMetadata) (target : ObjectName)
    (referencedBy : String) : Except CatalogError (TableKey × TableMetadata) :=
  if target.denotesSame table then .ok (table, m)
  else do
    let t ← b.requireTable target referencedBy
    let e ← b.requireEntry t.key
    pure (t.key, e.metadata)

/-- A foreign key of a new table with the given columns and primary key. -/
def declareForeignKey (b : Builder) (table : ObjectName) (m : TableMetadata)
    (d : ForeignKeyDefinition) : Except CatalogError ForeignKey := do
  let referencedBy := "foreign key on table `" ++ table.qualified ++ "`"
  requireColumns m.columns table.qualified d.columns
  let target := d.referencedTable
  let (key, metadata) ← referencedTable b table m target referencedBy
  let columns := if d.referencedColumns.isEmpty then metadata.primaryKey else d.referencedColumns
  if columns.isEmpty then throw (.unresolved "primary key" target.qualified referencedBy)
  requireColumns metadata.columns target.qualified columns
  if columns.length != d.columns.length then
    throw (.unresolved "column list"
      (target.qualified ++ "(" ++ ", ".intercalate columns ++ ")")
      (referencedBy ++ " with " ++ toString d.columns.length ++ " column(s)"))
  pure
    { host := table
      hostColumns := d.columns
      referenced := key
      referencedColumns := columns
      name := d.name
      onDelete := d.onDelete
      onUpdate := d.onUpdate }

/-- The constraints of a table: those within columns, then those of their own. -/
def CreateTable.allConstraints (s : CreateTable) : List ConstraintDefinition :=
  s.columns.flatMap (·.constraints) ++ s.constraints

def foreignKeyDefinitions (ds : List ConstraintDefinition) : List ForeignKeyDefinition :=
  ds.filterMap fun
    | .foreignKey d => some d
    | _ => none

/-- The metadata of a new table. Foreign keys come last, since one into the new table itself may
target a key declared after it. -/
def CreateTable.metadata (s : CreateTable) (b : Builder) : Except CatalogError TableMetadata := do
  let columns ← declareColumns s.name 1 [] s.columns
  let m ← s.allConstraints.foldlM (declareConstraint b s.name) { columns }
  let keys ← (foreignKeyDefinitions s.allConstraints).mapM (declareForeignKey b s.name m)
  pure { m with foreignKeys := keys }

def CreateTable.apply (s : CreateTable) (b : Builder) : Except CatalogError Builder :=
  match b.resolve? s.name with
  | some _ =>
    if s.ifNotExists then .ok b else .error (.alreadyExists "table" s.name.qualified)
  | none => do
    let metadata ← s.metadata b
    pure (b.addTable { table := { name := s.name.name, schema := s.name.schema }, metadata })

/-! ## 2. Dropping -/

/-- The tables that names denote, each once; `found` holds those so far. -/
def tablesToDrop (b : Builder) (ifExists : Bool) (found : List Table) :
    List ObjectName → Except CatalogError (List Table)
  | [] => .ok found
  | n :: ns =>
    match b.resolve? n with
    | none =>
      if ifExists then tablesToDrop b ifExists found ns
      else .error (.notFound "table" n.qualified)
    | some t =>
      tablesToDrop b ifExists (if found.any (·.key == t.key) then found else found ++ [t]) ns

/-- No table that stays has a foreign key into one that is dropped. -/
def requireUnreferenced (b : Builder) (dropped : List Table) : Except CatalogError Unit :=
  dropped.forM fun t =>
    let dependents :=
      (b.tableDependents t.key).filter fun u => !dropped.any (·.key == u.key)
    if dependents.isEmpty then .ok ()
    else .error (.dropConflict "table" t.qualifiedName (dependents.map (·.qualifiedName)))

/-- Drops tables, all of them or none. -/
def DropTable.apply (s : DropTable) (b : Builder) : Except CatalogError Builder := do
  let dropped ← tablesToDrop b s.ifExists [] s.names
  unless s.cascade do requireUnreferenced b dropped
  dropped.foldlM (fun b t => b.removeTable t.key) b

/-! ## 3. Row security -/

def RowSecurityAction.act (t : Table) : RowSecurityAction → Table
  | enable => { t with rlsEnabled := true }
  | disable => { t with rlsEnabled := false }
  | force => { t with rlsForced := true }
  | noForce => { t with rlsForced := false }

def AlterTable.apply (s : AlterTable) (b : Builder) : Except CatalogError Builder :=
  match b.resolve? s.name with
  | none => if s.ifExists then .ok b else .error (.notFound "table" s.name.qualified)
  | some t => b.replaceTable (s.actions.foldl RowSecurityAction.act t)

end SchemaCatalog
