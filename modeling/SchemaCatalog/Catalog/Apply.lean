import SchemaCatalog.Catalog.Apply.Index
import SchemaCatalog.Catalog.Apply.Role
import SchemaCatalog.Catalog.Apply.Routine
import SchemaCatalog.Catalog.Apply.Schema
import SchemaCatalog.Catalog.Apply.Table
import SchemaCatalog.Catalog.Builtin

/-!
# Applying statements

Statements are applied in order to a builder that starts with the built-in functions. The first
failure ends the building. Statements that do not change what a catalog holds are passed over.
-/

namespace SchemaCatalog

/-- The leading keywords of the statements that do not change a catalog. -/
def ignoredKinds : List String :=
  [
    "SELECT", "WITH", "VALUES", "TABLE", "INSERT", "UPDATE", "DELETE", "MERGE", "COPY",
    "TRUNCATE", "CALL", "DO", "BEGIN", "START", "COMMIT", "END", "ROLLBACK", "ABORT", "SAVEPOINT",
    "RELEASE", "PREPARE", "EXECUTE", "DEALLOCATE", "DECLARE", "FETCH", "MOVE", "CLOSE", "SET",
    "RESET", "SHOW", "DISCARD", "LISTEN", "NOTIFY", "UNLISTEN", "LOAD", "SECURITY", "VACUUM",
    "ANALYZE", "ANALYSE", "CLUSTER", "REINDEX", "CHECKPOINT", "EXPLAIN", "LOCK", "REFRESH",
    "COMMENT", "CREATE VIEW", "ALTER VIEW", "DROP VIEW", "CREATE MATERIALIZED VIEW",
    "ALTER MATERIALIZED VIEW", "DROP MATERIALIZED VIEW", "CREATE SEQUENCE", "ALTER SEQUENCE",
    "DROP SEQUENCE", "CREATE EXTENSION", "ALTER EXTENSION", "DROP EXTENSION", "CREATE TYPE",
    "ALTER TYPE", "DROP TYPE", "CREATE DOMAIN", "ALTER DOMAIN", "DROP DOMAIN", "CREATE OPERATOR",
    "ALTER OPERATOR", "DROP OPERATOR", "CREATE COLLATION", "ALTER COLLATION", "DROP COLLATION",
    "CREATE AGGREGATE", "ALTER AGGREGATE", "DROP AGGREGATE", "CREATE CAST", "DROP CAST",
    "CREATE RULE", "ALTER RULE", "DROP RULE", "CREATE PROCEDURE", "ALTER PROCEDURE",
    "DROP PROCEDURE", "CREATE PUBLICATION", "ALTER PUBLICATION", "DROP PUBLICATION",
    "CREATE SUBSCRIPTION", "ALTER SUBSCRIPTION", "DROP SUBSCRIPTION", "CREATE EVENT TRIGGER",
    "ALTER EVENT TRIGGER", "DROP EVENT TRIGGER", "CREATE TEXT SEARCH", "ALTER TEXT SEARCH",
    "DROP TEXT SEARCH", "CREATE CONVERSION", "ALTER CONVERSION", "DROP CONVERSION",
    "CREATE LANGUAGE", "ALTER LANGUAGE", "DROP LANGUAGE", "CREATE TRANSFORM", "DROP TRANSFORM",
    "CREATE STATISTICS", "ALTER STATISTICS", "DROP STATISTICS", "CREATE ACCESS METHOD",
    "DROP ACCESS METHOD", "CREATE FOREIGN", "ALTER FOREIGN", "DROP FOREIGN", "CREATE SERVER",
    "ALTER SERVER", "DROP SERVER", "CREATE USER MAPPING", "ALTER USER MAPPING",
    "DROP USER MAPPING", "ALTER FUNCTION", "ALTER ROLE", "ALTER USER", "ALTER GROUP",
    "ALTER INDEX", "ALTER TRIGGER", "ALTER POLICY", "ALTER DEFAULT PRIVILEGES", "REASSIGN",
    "DROP OWNED"
  ]

/-- A statement of the given leading keywords is passed over: they are ignored ones, or start with
ignored ones and a space. -/
def isIgnored (kind : String) : Bool :=
  ignoredKinds.any fun p => kind == p || (p ++ " ").toList.isPrefixOf kind.toList

def Statement.apply (b : Builder) : Statement → Outcome
  | createTable s => .whole b (s.apply b)
  | dropTable s => .whole b (s.apply b)
  | alterTable s => .whole b (s.apply b)
  | createIndex s => .whole b (s.apply b)
  | dropIndex s => s.apply b
  | createFunction s => .whole b (s.apply b)
  | dropFunction s => s.apply b
  | createTrigger s => .whole b (s.apply b)
  | dropTrigger s => .whole b (s.apply b)
  | createPolicy s => .whole b (s.apply b)
  | dropPolicy s => .whole b (s.apply b)
  | createRole s => .whole b (s.apply b)
  | dropRole s => s.apply b
  | grantPrivileges s => .whole b (s.apply b)
  | revokePrivileges s => .whole b (s.apply b)
  | grantRole s => s.apply b
  | revokeRole s => s.apply b
  | createSchema s => .whole b (s.apply b)
  | dropSchema s => s.apply b
  | alterSchema s => .whole b (s.apply b)
  | setTimeZone value => { builder := { b with timezone := some value } }
  | commentOn _ => { builder := b }
  | other kind sql =>
    if isIgnored kind then { builder := b }
    else { builder := b, failure := some (.unsupported kind sql) }

/-- Applies statements in order, up to the first failure. -/
def Builder.applyAll (b : Builder) (statements : List Statement) : Outcome :=
  Outcome.each Statement.apply b statements

/-- A builder that holds the built-in functions only. -/
def Builder.initial (name : String) : Builder := { name, functions := builtinFunctions }

end SchemaCatalog
