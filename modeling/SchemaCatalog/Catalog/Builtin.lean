import SchemaCatalog.Catalog.Entity

/-!
# Built-in functions

The functions that every catalog starts with. They are ordinary functions but for their mark, so that
a call of one in an expression resolves like a call of a declared function.
-/

namespace SchemaCatalog

/-- The names, input types and return types of the built-in functions. -/
def builtinSignatures : List (String × List String × String) :=
  [
    ("length", ["text"], "integer"),
    ("len", ["text"], "integer"),
    ("char_length", ["text"], "integer"),
    ("character_length", ["text"], "integer"),
    ("octet_length", ["text"], "integer"),
    ("lower", ["text"], "text"),
    ("upper", ["text"], "text"),
    ("trim", ["text"], "text"),
    ("btrim", ["text"], "text"),
    ("ltrim", ["text"], "text"),
    ("rtrim", ["text"], "text"),
    ("substring", ["text", "integer", "integer"], "text"),
    ("substr", ["text", "integer", "integer"], "text"),
    ("position", ["text", "text"], "integer"),
    ("strpos", ["text", "text"], "integer"),
    ("replace", ["text", "text", "text"], "text"),
    ("concat", ["any"], "text"),
    ("left", ["text", "integer"], "text"),
    ("right", ["text", "integer"], "text"),
    ("regexp_replace", ["text", "text", "text"], "text"),
    ("count", ["any"], "bigint"),
    ("sum", ["any"], "numeric"),
    ("avg", ["any"], "numeric"),
    ("min", ["any"], "any"),
    ("max", ["any"], "any"),
    ("abs", ["numeric"], "numeric"),
    ("round", ["numeric"], "numeric"),
    ("floor", ["numeric"], "numeric"),
    ("ceil", ["numeric"], "numeric"),
    ("greatest", ["any"], "any"),
    ("least", ["any"], "any"),
    ("coalesce", ["any"], "any"),
    ("nullif", ["any", "any"], "any"),
    ("now", [], "timestamp with time zone"),
    ("current_timestamp", [], "timestamp with time zone"),
    ("current_date", [], "date"),
    ("current_time", [], "time with time zone"),
    ("localtimestamp", [], "timestamp without time zone"),
    ("date_trunc", ["text", "timestamp"], "timestamp"),
    ("extract", ["text", "timestamp"], "numeric"),
    ("current_user", [], "name"),
    ("session_user", [], "name"),
    ("current_role", [], "name"),
    ("current_setting", ["text"], "text"),
    ("gen_random_uuid", [], "uuid"),
    ("uuidv4", [], "uuid"),
    ("uuidv7", [], "uuid"),
    ("array_length", ["anyarray", "integer"], "integer"),
    ("cardinality", ["anyarray"], "integer"),
    ("jsonb_typeof", ["jsonb"], "text"),
    ("json_typeof", ["json"], "text")
  ]

def builtinFunctions : List Function :=
  builtinSignatures.map fun (name, types, result) =>
    { name
      arguments := types.map fun dataType => { dataType }
      returnType := some result
      builtin := true }

end SchemaCatalog
