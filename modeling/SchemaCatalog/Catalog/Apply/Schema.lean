import SchemaCatalog.Catalog.Apply.Outcome

/-!
# Schemas

A schema takes the tables in it and the grants that name it along, both when it is dropped and when
it is renamed.
-/

namespace SchemaCatalog

/-- The objects are schemas, or all that is in them, and one of them has the name. -/
def GrantObjects.nameSchema (objects : GrantObjects) (name : String) : Bool :=
  match objects.kind with
  | .schemas | .allTablesInSchema | .allFunctionsInSchema => objects.names.any (·.name == name)
  | _ => false

def CreateSchema.apply (s : CreateSchema) (b : Builder) : Except CatalogError Builder :=
  if (b.schema? s.name).isSome then
    if s.ifNotExists then .ok b else .error (.alreadyExists "schema" s.name)
  else .ok (b.addSchema { name := s.name, authorization := s.authorization })

/-- Drops a schema; it must hold no tables unless they are dropped too. -/
def Builder.dropSchema (b : Builder) (ifExists cascade : Bool) (name : String) :
    Except CatalogError Builder :=
  match b.schema? name with
  | none => if ifExists then .ok b else .error (.notFound "schema" name)
  | some _ => do
    let tables := b.view.tablesIn name
    if !tables.isEmpty && !cascade then
      throw (.dropConflict "schema" name (tables.map fun t => "table `" ++ t.qualifiedName ++ "`"))
    let b ← tables.foldlM (fun b t => b.removeTable t.key) b
    pure ((b.replaceGrants (·.objects.nameSchema name) fun _ => none).removeSchema name)

def DropSchema.apply (s : DropSchema) (b : Builder) : Outcome :=
  Outcome.each (fun b name => .whole b (b.dropSchema s.ifExists s.cascade name)) b s.names

def Grant.renameSchema (g : Grant) (old new : String) : Grant :=
  { g with
    objects :=
      { g.objects with
        names := g.objects.names.map fun n => if n.name == old then { name := new } else n } }

/-- Renames a schema, with the tables in it and the grants that name it. -/
def Builder.renameSchema (b : Builder) (schema : Schema) (new : String) :
    Except CatalogError Builder := do
  if (b.schema? new).isSome then throw (.alreadyExists "schema" new)
  let moved := b.tables.filter (·.schema == some schema.name)
  let b ← moved.foldlM (fun b t => b.renameTable t.key ⟨t.name, some new⟩) b
  let b := b.replaceGrants (·.objects.nameSchema schema.name) fun g =>
    some (g.renameSchema schema.name new)
  b.replaceSchema schema.name { schema with name := new }

def AlterSchema.apply (s : AlterSchema) (b : Builder) : Except CatalogError Builder :=
  match b.schema? s.name with
  | none => if s.ifExists then .ok b else .error (.notFound "schema" s.name)
  | some schema =>
    match s.change with
    | .owner owner => b.replaceSchema schema.name { schema with authorization := some owner }
    | .rename new => b.renameSchema schema new

end SchemaCatalog
