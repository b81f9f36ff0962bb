import SchemaCatalog.Statement.Grammar.Role

/-!
# Reading drops

Every `DROP` of an object that a catalog knows is read to its end: the words of its kind, an optional
`IF EXISTS`, the targets separated by commas, and at most one `CASCADE` or `RESTRICT`.
-/

namespace SchemaCatalog

open Sql Reader

def readIfExists : Reader Bool := accept ["IF", "EXISTS"]

def readObjectNames : Reader (List ObjectName) := commaSeparated ObjectName.read

def DropTable.read : Reader Statement := do
  let ifExists ← readIfExists
  let names ← readObjectNames
  let cascade ← readCascade
  pure (.dropTable { names, ifExists, cascade })

def DropIndex.read : Reader Statement := do
  let _ ← accept ["CONCURRENTLY"]
  let ifExists ← readIfExists
  let names ← readObjectNames
  let _ ← readCascade
  pure (.dropIndex { names, ifExists })

def DropFunction.read : Reader Statement := do
  let ifExists ← readIfExists
  let targets ← commaSeparated FunctionSignature.read
  let cascade ← readCascade
  pure (.dropFunction { targets, ifExists, cascade })

def DropTrigger.read : Reader Statement := do
  let ifExists ← readIfExists
  let name ← identifier
  let table ← if ← accept ["ON"] then some <$> ObjectName.read else pure none
  let _ ← readCascade
  pure (.dropTrigger { name, table, ifExists })

def DropPolicy.read : Reader Statement := do
  let ifExists ← readIfExists
  let name ← identifier
  expect ["ON"]
  let table ← ObjectName.read
  let _ ← readCascade
  pure (.dropPolicy { name, table, ifExists })

/-- Reads what follows `DROP ROLE`, `DROP USER` or `DROP GROUP`. -/
def DropRole.read : Reader Statement := do
  let ifExists ← readIfExists
  let names ← readRoleNames
  pure (.dropRole { names, ifExists })

def DropSchema.read : Reader Statement := do
  let ifExists ← readIfExists
  let names ← commaSeparated identifier
  let cascade ← readCascade
  pure (.dropSchema { names, ifExists, cascade })

def readDrop : Reader Statement := do
  if ← accept ["TABLE"] then DropTable.read
  else if ← accept ["INDEX"] then DropIndex.read
  else if ← accept ["FUNCTION"] then DropFunction.read
  else if ← accept ["TRIGGER"] then DropTrigger.read
  else if ← accept ["POLICY"] then DropPolicy.read
  else if ← atWords ["USER", "MAPPING"] then Statement.readOther
  else if ← acceptAny [["ROLE"], ["USER"], ["GROUP"]] then DropRole.read
  else if ← accept ["SCHEMA"] then DropSchema.read
  else Statement.readOther

end SchemaCatalog
