import SchemaCatalog.Catalog.Contents

/-!
# The catalog in the making

A builder keeps its entities in the order in which they were added and looks them up by going through
its lists. Its operations keep the entities in step with each other: a table that goes takes its
triggers, policies and grants along, a table that is renamed is renamed wherever it is referred to.
-/

namespace SchemaCatalog

structure Builder extends Contents where
  deriving Repr

/-- The list with its first element that satisfies `p` replaced. -/
def replaceFirst {α : Type} (p : α → Bool) (f : α → α) : List α → List α
  | [] => []
  | a :: as => if p a then f a :: as else a :: replaceFirst p f as

def leastBy {α κ : Type} (key : α → κ) (before : κ → κ → Bool) : List α → Option α
  | [] => none
  | a :: as => some (as.foldl (fun best b => if before (key b) (key best) then b else best) a)

namespace Builder

def empty (name : String) : Builder := { name }

/-! ## 1. Lookups -/

def entry? (b : Builder) (key : TableKey) : Option TableEntry :=
  b.entries.find? (·.key == key)

/-- The functions of a name in any letter case. -/
def functionsNamed (b : Builder) (name : String) : List Function :=
  let lowered := Text.lower name
  b.functions.filter (·.lowerName == lowered)

/-- The function of a name in any letter case: of several the one with the least input types. -/
def function? (b : Builder) (name : String) : Option Function :=
  leastBy Function.argumentTypes textsBefore (b.functionsNamed name)

def trigger? (b : Builder) (name : String) : Option Trigger := b.triggers.find? (·.name == name)

def policy? (b : Builder) (name : String) : Option Policy := b.policies.find? (·.name == name)

def role? (b : Builder) (name : String) : Option Role := b.roles.find? (·.name == name)

def schema? (b : Builder) (name : String) : Option Schema := b.schemas.find? (·.name == name)

def view (b : Builder) : CatalogView where
  contents := b.toContents
  entry? := b.entry?
  function? := b.function?
  trigger? := b.trigger?
  policy? := b.policy?
  role? := b.role?
  schema? := b.schema?

def tables (b : Builder) : List Table := b.entries.map (·.table)

def requireEntry (b : Builder) (key : TableKey) : Except CatalogError TableEntry :=
  match b.entry? key with
  | some e => .ok e
  | none => .error (.absentTable key.qualified)

/-! ## 2. Cross references -/

/-- The other tables with a foreign key into the table of a key. -/
def tableDependents (b : Builder) (key : TableKey) : List Table :=
  (b.entries.filter fun e =>
    e.key != key && e.metadata.foreignKeys.any (·.referenced == key)).map (·.table)

/-- Descriptions of the checks, policies and triggers that call a function. -/
def functionDependents (b : Builder) (name : String) : List String :=
  let lowered := Text.lower name
  let checks := b.entries.flatMap fun e =>
    (e.metadata.checks.filter (·.involvesFunction lowered)).map fun k =>
      "check constraint `" ++ k.expression.sql ++ "` on table `" ++ e.table.qualifiedName ++ "`"
  let policies := (b.policies.filter (·.referencesFunction lowered)).map fun p =>
    "policy `" ++ p.name ++ "`"
  let triggers := (b.triggers.filter fun t => t.functionName.map Text.lower == some lowered).map
    fun t => "trigger `" ++ t.name ++ "`"
  checks ++ policies ++ triggers

def roleDependents (b : Builder) (name : String) : List Grant :=
  b.grants.filter (·.grantees.contains name)

/-! ## 3. Tables -/

def addTable (b : Builder) (e : TableEntry) : Builder := { b with entries := b.entries ++ [e] }

def updateEntry (b : Builder) (key : TableKey) (f : TableEntry → TableEntry) :
    Except CatalogError Builder :=
  match b.entry? key with
  | some _ => .ok { b with entries := replaceFirst (·.key == key) f b.entries }
  | none => .error (.absentTable key.qualified)

/-- Replaces a table, its metadata staying. -/
def replaceTable (b : Builder) (t : Table) : Except CatalogError Builder :=
  b.updateEntry t.key fun e => { e with table := t }

def updateMetadata (b : Builder) (key : TableKey) (f : TableMetadata → TableMetadata) :
    Except CatalogError Builder :=
  b.updateEntry key fun e => { e with metadata := f e.metadata }

end Builder

def Grant.withoutTable (g : Grant) (key : TableKey) : Grant :=
  if g.objects.kind == .tables then
    { g with objects := { g.objects with names := g.objects.names.filter (· != key) } }
  else g

/-- A grant about tables that names none. -/
def Grant.isVoid (g : Grant) : Bool := g.objects.kind == .tables && g.objects.names.isEmpty

/-- The name, or the new one if it is the old one. -/
def ObjectName.renamed (old new n : ObjectName) : ObjectName := if n == old then new else n

def Grant.renameTable (g : Grant) (old new : TableKey) : Grant :=
  if g.objects.kind == .tables then
    { g with objects := { g.objects with names := g.objects.names.map (.renamed old new) } }
  else g

/-- A foreign key with its host moved to a new key, and its target too if it is the host. -/
def ForeignKey.rekey (k : ForeignKey) (key : TableKey) : ForeignKey :=
  { k with host := key, referenced := if k.isSelfReferential then key else k.referenced }

def TableMetadata.rekey (m : TableMetadata) (key : TableKey) : TableMetadata :=
  { m with
    columns := m.columns.map fun c => { c with table := key }
    indices := m.indices.map fun i => { i with table := key }
    uniqueIndices := m.uniqueIndices.map fun i => { i with table := key }
    foreignKeys := m.foreignKeys.map (·.rekey key)
    checks := m.checks.map fun k => { k with table := key } }

def TableEntry.rekey (e : TableEntry) (key : TableKey) : TableEntry :=
  { table := { e.table with name := key.name, schema := key.schema }
    metadata := e.metadata.rekey key }

/-- An entry with the targets of its foreign keys renamed. -/
def TableEntry.retarget (e : TableEntry) (old new : TableKey) : TableEntry :=
  { e with
    metadata :=
      { e.metadata with
        foreignKeys := e.metadata.foreignKeys.map fun k =>
          { k with referenced := .renamed old new k.referenced } } }

namespace Builder

/-- Removes a table with its triggers, its policies and its place in grants. The foreign keys of other
tables into it stay. -/
def removeTable (b : Builder) (key : TableKey) : Except CatalogError Builder :=
  match b.entry? key with
  | none => .error (.absentTable key.qualified)
  | some _ =>
    .ok { b with
      entries := b.entries.eraseP (·.key == key)
      triggers := b.triggers.filter (·.table != key)
      policies := b.policies.filter (·.table != key)
      grants := (b.grants.map (·.withoutTable key)).filter fun g => !g.isVoid }

/-- Moves a table to a new key, with all that refers to it. -/
def renameTable (b : Builder) (old new : TableKey) : Except CatalogError Builder :=
  match b.entry? old with
  | none => .error (.absentTable old.qualified)
  | some _ =>
    let moved := replaceFirst (·.key == old) (·.rekey new) b.entries
    .ok { b with
      entries := moved.map (·.retarget old new)
      triggers := b.triggers.map fun t => { t with table := .renamed old new t.table }
      policies := b.policies.map fun p => { p with table := .renamed old new p.table }
      grants := b.grants.map (·.renameTable old new) }

/-! ## 4. Functions, triggers, policies -/

def addFunction (b : Builder) (f : Function) : Builder := { b with functions := b.functions ++ [f] }

def replaceFunction (b : Builder) (old new : Function) : Except CatalogError Builder :=
  if b.functions.contains old then
    .ok { b with functions := replaceFirst (· == old) (fun _ => new) b.functions }
  else .error (.vanished "function" old.name)

def removeFunctions (b : Builder) (fs : List Function) : Builder :=
  { b with functions := b.functions.filter fun f => !fs.contains f }

def addTrigger (b : Builder) (t : Trigger) : Builder := { b with triggers := b.triggers ++ [t] }

def isTrigger (name : String) (table : TableKey) (t : Trigger) : Bool :=
  t.name == name && t.table == table

/-- Replaces the first trigger of a name on a table, which must be there. -/
def replaceTrigger (b : Builder) (t : Trigger) : Except CatalogError Builder :=
  if b.triggers.any (isTrigger t.name t.table) then
    .ok { b with triggers := replaceFirst (isTrigger t.name t.table) (fun _ => t) b.triggers }
  else .error (.vanished "trigger" t.name)

def removeTrigger (b : Builder) (name : String) (table : TableKey) : Except CatalogError Builder :=
  if b.triggers.any (isTrigger name table) then
    .ok { b with triggers := b.triggers.eraseP (isTrigger name table) }
  else .error (.vanished "trigger" name)

def addPolicy (b : Builder) (p : Policy) : Builder := { b with policies := b.policies ++ [p] }

def isPolicy (name : String) (table : TableKey) (p : Policy) : Bool :=
  p.name == name && p.table == table

def removePolicy (b : Builder) (name : String) (table : TableKey) : Except CatalogError Builder :=
  if b.policies.any (isPolicy name table) then
    .ok { b with policies := b.policies.eraseP (isPolicy name table) }
  else .error (.vanished "policy" name)

/-! ## 5. Roles, grants, schemas -/

def addRole (b : Builder) (r : Role) : Builder := { b with roles := b.roles ++ [r] }

def replaceRole (b : Builder) (r : Role) : Except CatalogError Builder :=
  if b.roles.any (·.name == r.name) then
    .ok { b with roles := replaceFirst (·.name == r.name) (fun _ => r) b.roles }
  else .error (.vanished "role" r.name)

/-- Removes a role and the memberships in it. -/
def removeRole (b : Builder) (name : String) : Builder :=
  { b with
    roles := (b.roles.filter (·.name != name)).map fun r =>
      { r with memberships := r.memberships.filter (· != name) } }

def addGrant (b : Builder) (g : Grant) : Builder := { b with grants := b.grants ++ [g] }

/-- Replaces each grant that satisfies `p`, or removes it if it has no replacement. -/
def replaceGrants (b : Builder) (p : Grant → Bool) (f : Grant → Option Grant) : Builder :=
  { b with grants := b.grants.filterMap fun g => if p g then f g else some g }

def addSchema (b : Builder) (s : Schema) : Builder := { b with schemas := b.schemas ++ [s] }

def replaceSchema (b : Builder) (name : String) (s : Schema) : Except CatalogError Builder :=
  if b.schemas.any (·.name == name) then
    .ok { b with schemas := replaceFirst (·.name == name) (fun _ => s) b.schemas }
  else .error (.vanished "schema" name)

def removeSchema (b : Builder) (name : String) : Builder :=
  { b with schemas := b.schemas.filter (·.name != name) }

end Builder

end SchemaCatalog
