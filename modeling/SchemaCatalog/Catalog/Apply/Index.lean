import SchemaCatalog.Catalog.Apply.Outcome

/-!
# Creating and dropping indexes

The name of an index is unique in its schema. A name without a schema finds the indexes of that name
in every schema, and dropping it drops them all.
-/

namespace SchemaCatalog

/-- Where an index is: its table, which of the two lists it is in, and whether it is the index of the
primary key. -/
structure IndexPlace where
  table : TableKey
  unique : Bool
  primaryKey : Bool
  deriving DecidableEq, Repr

def TableMetadata.indexPlaces (m : TableMetadata) (name : String) : List IndexPlace :=
  (m.indices.filter (·.name == some name)).map (fun i => ⟨i.table, false, false⟩)
    ++ (m.uniqueIndices.filter (·.name == some name)).map fun i => ⟨i.table, true, i.primaryKey⟩

/-- A table is in the schema of a name, any table being so if the name has none. -/
def ObjectName.admitsSchemaOf (n : ObjectName) (t : Table) : Bool :=
  match n.schema with
  | some schema => inSchema t.schema schema
  | none => true

def Builder.indexPlaces (b : Builder) (n : ObjectName) : Except CatalogError (List IndexPlace) := do
  let found ← (b.tables.filter n.admitsSchemaOf).mapM b.view.metadata
  pure (found.flatMap (·.indexPlaces n.name))

def CreateIndex.addTo (s : CreateIndex) (table : TableKey) (m : TableMetadata) : TableMetadata :=
  if s.unique then
    { m with
      uniqueIndices := m.uniqueIndices ++ [{ table, expressions := s.items, name := s.name }] }
  else
    { m with indices := m.indices ++ [{ table, expressions := s.items, name := s.name }] }

/-- What an index is called when it refers to something unknown. -/
def CreateIndex.title (s : CreateIndex) : String :=
  match s.name with
  | some name => if name.isEmpty then "index" else "index `" ++ name ++ "`"
  | none => "index"

/-- The name of a new index on a table, if the name is taken. -/
def CreateIndex.takenName? (s : CreateIndex) (b : Builder) (t : Table) :
    Except CatalogError (Option String) :=
  match s.name with
  | some name => do
    let places ← b.indexPlaces ⟨name, t.schema⟩
    pure (if places.isEmpty then none else some name)
  | none => .ok none

def CreateIndex.apply (s : CreateIndex) (b : Builder) : Except CatalogError Builder := do
  let t ← b.requireTable s.table s.title
  match ← s.takenName? b t with
  | some name => if s.ifNotExists then pure b else throw (.alreadyExists "index" name)
  | none =>
    let e ← b.requireEntry t.key
    s.items.forM fun item => do
      let _ ← resolveColumns e.metadata.columns t.qualifiedName item
    b.updateMetadata t.key (s.addTo t.key)

/-- The metadata of a table without the first index of a name in one of the two lists. -/
def TableMetadata.eraseIndex (m : TableMetadata) (name : String) (unique : Bool) : TableMetadata :=
  if unique then { m with uniqueIndices := m.uniqueIndices.eraseP (·.name == some name) }
  else { m with indices := m.indices.eraseP (·.name == some name) }

/-- Drops one index; that of a primary key stays. -/
def Builder.dropIndex (b : Builder) (n : ObjectName) (p : IndexPlace) :
    Except CatalogError Builder :=
  if p.primaryKey then
    .error (.dropConflict "index" n.qualified
      ["primary key of table `" ++ p.table.qualified ++ "`"])
  else b.updateMetadata p.table (·.eraseIndex n.name p.unique)

def Builder.dropIndices (b : Builder) (ifExists : Bool) (n : ObjectName) : Outcome :=
  match b.indexPlaces n with
  | .error e => { builder := b, failure := some e }
  | .ok [] =>
    if ifExists then { builder := b }
    else { builder := b, failure := some (.notFound "index" n.qualified) }
  | .ok places => Outcome.each (fun b p => .whole b (b.dropIndex n p)) b places

def DropIndex.apply (s : DropIndex) (b : Builder) : Outcome :=
  Outcome.each (fun b n => b.dropIndices s.ifExists n) b s.names

end SchemaCatalog
