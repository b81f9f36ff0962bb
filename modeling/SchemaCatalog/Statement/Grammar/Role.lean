import SchemaCatalog.Statement.Grammar.Routine

/-!
# Reading roles, grants and schemas

`CREATE ROLE` with its options, `GRANT` and `REVOKE` of privileges and of roles, `CREATE` and
`ALTER SCHEMA`.
-/

namespace SchemaCatalog

open Sql Reader

/-! ## 1. Roles -/

/-- The options set by the keyword of a role attribute. -/
def RoleOptions.withFlag? (options : RoleOptions) (word : String) : Option RoleOptions :=
  match word with
  | "SUPERUSER" => some { options with superuser := true }
  | "NOSUPERUSER" => some { options with superuser := false }
  | "CREATEDB" => some { options with createDb := true }
  | "NOCREATEDB" => some { options with createDb := false }
  | "CREATEROLE" => some { options with createRole := true }
  | "NOCREATEROLE" => some { options with createRole := false }
  | "INHERIT" => some { options with inherit := true }
  | "NOINHERIT" => some { options with inherit := false }
  | "LOGIN" => some { options with login := true }
  | "NOLOGIN" => some { options with login := false }
  | "REPLICATION" => some { options with replication := true }
  | "NOREPLICATION" => some { options with replication := false }
  | "BYPASSRLS" => some { options with bypassRls := true }
  | "NOBYPASSRLS" => some { options with bypassRls := false }
  | _ => none

def CreateRole.readOption (r : CreateRole) : Reader CreateRole := do
  let word ← word?
  match word.bind r.options.withFlag? with
  | some options =>
    let _ ← advance
    pure { r with options }
  | none =>
    if ← accept ["CONNECTION", "LIMIT"] then
      let negative ← acceptSymbol "-"
      let limit ← integer
      let limit := if negative then -limit else limit
      pure { r with options := { r.options with connectionLimit := some limit } }
    else if ← acceptAny [["ENCRYPTED"], ["UNENCRYPTED"], ["PASSWORD"]] then
      let _ ← accept ["PASSWORD"]
      let _ ← advance
      pure r
    else if ← accept ["VALID", "UNTIL"] then
      let _ ← string
      pure r
    else if ← acceptAny [["IN", "ROLE"], ["IN", "GROUP"]] then
      pure { r with memberOf := r.memberOf ++ (← readRoleNames) }
    else if ← acceptAny [["ROLE"], ["ADMIN"], ["USER"]] then
      let _ ← readRoleNames
      pure r
    else if ← accept ["SYSID"] then
      let _ ← integer
      pure r
    else unexpected "role option"

/-- Reads what follows `CREATE ROLE` or `CREATE USER`; a user may log in. -/
def CreateRole.read (login : Bool) : Reader Statement := do
  let name ← identifier
  let _ ← accept ["WITH"]
  pure (.createRole (← untilEnd CreateRole.readOption { name, options := { login } }))

/-! ## 2. Privileges -/

/-- Passes the bare words that come next and answers them in upper case. -/
def readWords : Reader (List String) := do
  let words ← iterate
    (fun words => do
      match ← word? with
      | none => pure none
      | some word =>
        let _ ← advance
        pure (some (word :: words)))
    []
  pure words.reverse

def readPrivilegeParts : Reader (List String × List String) := do
  let words ← readWords
  let columns ← if ← atSymbol "(" then readColumnList else pure []
  pure (words, columns)

/-- Reads the privileges before `ON`: whether all are meant, and those that are named. All privileges
on some columns are a privilege of their own. -/
def readPrivileges (head : List Token) : Reader (Bool × List Privilege) := do
  if head.isEmpty then expected "privileges"
  else
    let parts ← each
      (fun part => do
        let (words, columns) ← within part readPrivilegeParts
        if words.isEmpty then expected "a privilege" else pure (words, columns))
      (splitCommas head)
    let isAll := fun (words : List String) => words.head? == some "ALL"
    let privileges := parts.filterMap fun (words, columns) =>
      if isAll words then if columns.isEmpty then none else some ⟨"ALL", columns⟩
      else some ⟨" ".intercalate words, columns⟩
    pure (parts.any fun part => isAll part.1, privileges)

/-- The kinds of objects that are granted on but not looked into. -/
def otherObjectWords : List String :=
  ["DATABASE", "DOMAIN", "FOREIGN", "LANGUAGE", "LARGE", "TABLESPACE", "TYPE", "PARAMETER"]

def readPlainNames : Reader (List ObjectName) := do
  pure ((← readRoleNames).map fun name => { name })

def readAllInSchema : Reader GrantObjects := do
  let t ← advance
  expect ["IN", "SCHEMA"]
  let names ← readPlainNames
  let kind :=
    match Text.upper t.text with
    | "TABLES" => .allTablesInSchema
    | "FUNCTIONS" | "ROUTINES" | "PROCEDURES" => .allFunctionsInSchema
    | "SEQUENCES" => .sequences
    | _ => .other
  pure { kind, names }

def GrantObjects.read : Reader GrantObjects := do
  if ← accept ["ALL"] then readAllInSchema
  else if ← accept ["SCHEMA"] then pure { kind := .schemas, names := ← readPlainNames }
  else if ← acceptAny [["FUNCTION"], ["ROUTINE"], ["PROCEDURE"]] then
    let signatures ← commaSeparated FunctionSignature.read
    pure { kind := .functions, names := signatures.map (·.name) }
  else if ← accept ["SEQUENCE"] then
    pure { kind := .sequences, names := ← commaSeparated ObjectName.read }
  else
    let word ← word?
    if otherObjectWords.contains (word.getD "") then pure { kind := .other }
    else
      let _ ← accept ["TABLE"]
      pure { kind := .tables, names := ← commaSeparated ObjectName.read }

def readGrant : Reader Statement := do
  let head ← untilWord ["ON", "TO"]
  if ← accept ["ON"] then
    let (allPrivileges, privileges) ← readPrivileges head
    let objectTokens ← untilWord ["TO"]
    let objects ← within objectTokens GrantObjects.read
    expect ["TO"]
    let grantees ← readRoleNames
    let withGrantOption ← accept ["WITH", "GRANT", "OPTION"]
    let grantedBy ← if ← accept ["GRANTED", "BY"] then some <$> readRoleName else pure none
    pure (.grantPrivileges
      { privileges, objects, grantees, allPrivileges, withGrantOption, grantedBy })
  else
    expect ["TO"]
    let roles ← within head readRoleNames
    let grantees ← readRoleNames
    let withAdminOption ←
      if ← accept ["WITH"] then do
        let admin ← if ← accept ["ADMIN"] then do pure (!(← accept ["FALSE"])) else pure false
        let _ ← remaining
        pure admin
      else pure false
    pure (.grantRole { roles, grantees, withAdminOption })

/-- Reads `CASCADE` or `RESTRICT` at the end of a statement, where nothing may follow. -/
def readCascade : Reader Bool := do
  let cascade ← accept ["CASCADE"]
  unless cascade do
    let _ ← accept ["RESTRICT"]
  if ← atEnd then pure cascade else unexpected "trailing tokens"

def readRevoke : Reader Statement := do
  let grantOptionFor ← accept ["GRANT", "OPTION", "FOR"]
  let _ ← accept ["ADMIN", "OPTION", "FOR"]
  let head ← untilWord ["ON", "FROM"]
  if ← accept ["ON"] then
    let (allPrivileges, privileges) ← readPrivileges head
    let objectTokens ← untilWord ["FROM"]
    let objects ← within objectTokens GrantObjects.read
    expect ["FROM"]
    let grantees ← readRoleNames
    if ← accept ["GRANTED", "BY"] then
      let _ ← readRoleName
    let cascade ← readCascade
    pure (.revokePrivileges
      { privileges, objects, grantees, allPrivileges, grantOptionFor, cascade })
  else
    expect ["FROM"]
    let roles ← within head readRoleNames
    let grantees ← readRoleNames
    pure (.revokeRole { roles, grantees })

/-! ## 3. Schemas -/

/-- Reads what follows `CREATE SCHEMA`. The objects created with the schema are passed over. -/
def CreateSchema.read : Reader Statement := do
  let ifNotExists ← accept ["IF", "NOT", "EXISTS"]
  if ← accept ["AUTHORIZATION"] then
    let owner ← identifier
    pure (.createSchema { name := owner, authorization := some owner, ifNotExists })
  else
    let name ← identifier
    let authorization ← if ← accept ["AUTHORIZATION"] then some <$> identifier else pure none
    pure (.createSchema { name, authorization, ifNotExists })

def AlterSchema.read : Reader Statement := do
  let ifExists ← accept ["IF", "EXISTS"]
  let name ← identifier
  if ← accept ["RENAME", "TO"] then
    pure (.alterSchema { name, change := .rename (← identifier), ifExists })
  else
    expect ["OWNER", "TO"]
    pure (.alterSchema { name, change := .owner (← identifier), ifExists })

end SchemaCatalog
