/-!
# Object names

Tables, functions and other objects are named by a name with an optional schema. The same pair is
the key under which a catalog files a table.
-/

namespace SchemaCatalog

/-- The schema an unqualified name is looked for in. -/
def defaultSchema : String := "public"

structure ObjectName where
  name : String
  schema : Option String := none
  deriving DecidableEq, Repr

/-- The key of a table: its name and schema as declared. -/
abbrev TableKey := ObjectName

namespace ObjectName

/-- The written form: `schema.name`, or the name alone without a schema or with an empty one. -/
def qualified (n : ObjectName) : String :=
  match n.schema with
  | none => n.name
  | some s => if s.isEmpty then n.name else s ++ "." ++ n.name

instance : ToString ObjectName := ⟨qualified⟩

/-- The name with the missing schema made explicit, or the other way round: the two spellings of a
name in the default schema are each other's alias. -/
def alias? (n : ObjectName) : Option ObjectName :=
  match n.schema with
  | none => some { n with schema := some defaultSchema }
  | some s => if s = defaultSchema then some { n with schema := none } else none

end ObjectName

/-- A schema, written or left out, is the one called `name`. -/
def inSchema (schema : Option String) (name : String) : Bool :=
  schema == some name || (schema.isNone && name == defaultSchema)

end SchemaCatalog
