import SchemaCatalog.Expr.Grammar.Query
import SchemaCatalog.Expr.Grammar.TypeName

/-!
# Statements

A text read as an expression may be a whole statement: some keywords open one wherever a statement may
stand. Most statements that define things are taken as a whole, without operands; those that change
rows have their tables, conditions and values for operands.
-/

namespace SchemaCatalog

open Sql

namespace Grammar

/-! ## 1. Statements without operands -/

def wholeRest : Parse (Option Expr) := do
  set ([] : List Token)
  pure (some (.compound []))

def transactionEnd (r : Readers) : Parse (Option Expr) := do
  let _ ← acceptAnyText ["TRANSACTION", "WORK"]
  if ← acceptTexts ["TO"] then
    let _ ← acceptTexts ["SAVEPOINT"]
    let _ ← name r true
  if ← acceptWord "AND" then
    let _ ← acceptTexts ["NO"]
    let _ ← acceptTexts ["CHAIN"]
  pure (some (.compound []))

def transactionMode : Parse (Option Expr) := do
  let words ← many (acceptToken fun t => Vocabulary.isPlain t || isNot t)
  pure (if words.isEmpty then none else some (.compound []))

def transactionStart : Parse (Option Expr) := do
  let _ ← acceptAnyText ["DEFERRED", "IMMEDIATE", "EXCLUSIVE"]
  let _ ← acceptAnyText ["TRANSACTION", "WORK"]
  let _ ← commaItems transactionMode
  pure (some (.compound []))

/-- A command with the text after it. -/
def command (r : Readers) : Parse (Option Expr) := do
  pure (some (.compound (← text r).toList))

/-! ## 2. Statements about tables -/

/-- A statement about one table, named in the given form. -/
def tableStatement (r : Readers) (form : TableForm) : Parse (Option Expr) := do
  pure (some (.compound [← required (r.table form)]))

def useStatement (r : Readers) : Parse (Option Expr) := do
  let _ ← acceptAnyText ["ROLE", "WAREHOUSE", "DATABASE", "SCHEMA", "CATALOG"]
  tableStatement r {}

/-- The gathering of statistics, of all tables or of one. -/
def analyzeStatement (r : Readers) : Parse (Option Expr) := do
  if (← peek).isNone then pure (some (.compound []))
  else
    let _ ← acceptAnyWord ["TABLE", "INDEX"]
    pure (some (.compound [← tableParts r false]))

/-- Rows copied to or from a table; what follows the table is passed. -/
def copyStatement (r : Readers) : Parse (Option Expr) := do
  let _ ← acceptWord "INTO"
  if ← atSymbol "(" then
    let _ ← r.query .nested
  else
    let _ ← r.table { named := true }
  wholeRest

/-- The removal of all rows of tables, or a call of the function of that name. -/
def truncateStatement (r : Readers) : Parse (Option Expr) := fun ts =>
  if ts.tail.head?.any Token.isOpen then r.call {} ts
  else
    (do
      advance
      let _ ← acceptWord "DATABASE"
      let _ ← acceptWord "TABLE"
      let _ ← acceptTexts ["IF", "EXISTS"]
      let tables ← commaItems (r.table { named := true })
      if (← peek).isNone then pure (some (Expr.compound tables)) else wholeRest) ts

/-! ## 3. Statements that change rows -/

def returning (r : Readers) : Parse (Option (List Expr)) := do
  if ← acceptWord "RETURNING" then
    match ← commaItems r.expression with
    | [] => failure
    | items =>
      if ← acceptWord "INTO" then
        let _ ← tablePart r false
      pure (some items)
  else pure none

def updateClause (r : Readers) : Parse (Option (List Expr)) := do
  if ← acceptWord "SET" then pure (some (← commaItems r.equality))
  else
    match ← returning r with
    | some items => pure (some items)
    | none =>
      firstOf [source r true, condition r "WHERE", order r,
        do if ← atWord "LIMIT" then limit r else pure none]

def updateStatement (r : Readers) : Parse (Option Expr) := do
  let names := fun t => Vocabulary.isTableName t && !isWord "SET" t
  let table ← required (r.table { joins := true, names })
  let clauses ← many (updateClause r)
  pure (some (.compound (table :: clauses.flatten)))

def deleteStatement (r : Readers) : Parse (Option Expr) := do
  let tables ← if ← atWord "FROM" then pure [] else commaItems (r.table {})
  let early ← returning r
  let table ← source r true
  let used ← if ← acceptWord "USING" then commaItems (r.table { joins := true }) else pure []
  let condition ← condition r "WHERE"
  let late ← if early.isSome then pure early else returning r
  let keys ← order r
  let count ← if ← atToken (isAnyWord ["LIMIT", "FETCH"]) then limit r else pure none
  pure (some (.compound (tables ++ table.getD [] ++ used ++ condition.getD [] ++ late.getD []
    ++ keys.getD [] ++ count.getD [])))

def insertedColumns (r : Readers) : Parse Unit := fun ts =>
  if beginsWith [(·.isSymbol "("), fun t => !isAnyWord ["SELECT", "WITH"] t && !t.isOpen] ts then
    (do
      expectSymbol "("
      let _ ← commaItems (name r true)
      expectSymbol ")") ts
  else some ((), ts)

def insertStatement (r : Readers) : Parse (Option Expr) := do
  let _ ← acceptWord "OVERWRITE"
  let _ ← acceptWord "INTO"
  let _ ← acceptWord "TABLE"
  let table ← required (r.table { named := true })
  insertedColumns r
  if ← acceptWord "AS" then
    let _ ← name r true
  let early ← returning r
  let rows ←
    if ← acceptTexts ["DEFAULT", "VALUES"] then pure none
    else
      match ← valueRows r with
      | some q => pure (some q)
      | none => r.query .nested
  let rows ←
    match rows with
    | some q => pure [(← united r (.query q)).expr]
    | none => pure []
  let late ← if early.isSome then pure early else returning r
  pure (some (.compound (table :: rows ++ late.getD [])))

/-! ## 4. Settings and comments -/

/-- The value of a setting, where a bare column is a word. -/
def settingValue (r : Readers) : Parse (List Expr) := do
  match ← r.statement with
  | some (.column _ _) => pure []
  | some e => pure [e]
  | none => pure ((← required (name r true)).operands)

/-- One setting with its value; none without a sign or value. -/
def setting (r : Readers) : Parse (Option Expr) := fun ts =>
  let read : Parse (Option Expr) := do
    let _ ← acceptAnyText ["GLOBAL", "LOCAL", "SESSION"]
    match ← firstOf [r.primary, r.column] with
    | none => pure none
    | some left =>
      if (← acceptAnyText ["=", ":=", "TO"]).isSome then
        pure (some (.compound (left :: (← settingValue r))))
      else pure none
  match read ts with
  | some (none, _) => some (none, ts)
  | result => result

/-- Settings. If more follows them the statement is taken as a whole. -/
def setStatement (r : Readers) : Parse (Option Expr) := do
  let settings ← commaItems (setting r)
  if (← peek).isNone then pure (some (.compound settings)) else wholeRest

def commentSubject (r : Readers) (kind : String) : Parse Expr := do
  if kind == "FUNCTION" || kind == "PROCEDURE" then
    let e ← tableParts r true
    if ← acceptSymbol "(" then
      let _ ← commaItems (columnName r)
      expectSymbol ")"
    pure e
  else if kind == "TABLE" then
    let names := fun t => Vocabulary.isTableName t && !isWord "IS" t
    required (r.table { names })
  else if kind == "COLUMN" then required r.column
  else pure (.compound (← required (name r true)).operands)

/-- A comment on a thing of a known kind; any other is taken as a whole. -/
def commentStatement (r : Readers) : Parse (Option Expr) := do
  let _ ← acceptTexts ["IF", "EXISTS"]
  let _ ← acceptWord "ON"
  let _ ← acceptTexts ["MATERIALIZED"]
  match ← acceptAnyWord Vocabulary.objectWords with
  | none => wholeRest
  | some kind =>
    let subject ← commentSubject r kind
    let _ ← acceptWord "IS"
    pure (some (.compound [subject, ← required (text r)]))

/-! ## 5. All of them -/

def statementReader? (r : Readers) (word : String) : Option (Parse (Option Expr)) :=
  match word with
  | "ALTER" | "CREATE" | "DROP" | "GRANT" | "REVOKE" | "LOAD" => some wholeRest
  | "BEGIN" => some transactionStart
  | "COMMIT" | "END" | "ROLLBACK" => some (transactionEnd r)
  | "USE" => some (useStatement r)
  | "PIVOT" | "UNPIVOT" => some (tableStatement r {})
  | "CACHE" => some do
    let _ ← acceptTexts ["LAZY"]
    let _ ← acceptWord "TABLE"
    tableStatement r { named := true }
  | "UNCACHE" => some do
    unless ← acceptWord "TABLE" do failure
    let _ ← acceptTexts ["IF", "EXISTS"]
    tableStatement r { named := true }
  | "DESC" | "DESCRIBE" => some do pure (some (← description r).expr)
  | "ANALYZE" => some (analyzeStatement r)
  | "COPY" => some (copyStatement r)
  | "KILL" => some do
    let _ ← acceptAnyText ["CONNECTION", "QUERY"]
    pure (some (.compound [← required r.primary]))
  | "PRAGMA" => some do pure (some (.compound [← required r.expression]))
  | "SET" => some (setStatement r)
  | "COMMENT" => some (commentStatement r)
  | "UPDATE" => some (updateStatement r)
  | "DELETE" => some (deleteStatement r)
  | "INSERT" => some (insertStatement r)
  | "MERGE" => some failure
  | _ => none

def statement (r : Readers) : Parse (Option Expr) := fun ts =>
  let plain := (fun form => form.map OperandForm.expr) <$> plainStatement r
  match ts with
  | [] => some (none, ts)
  | t :: rest =>
    match Vocabulary.word? t with
    | none => plain ts
    | some word =>
      if word == "TRUNCATE" then truncateStatement r ts
      else
        match statementReader? r word with
        | some read => read rest
        | none => if commandWords.contains word then command r rest else plain ts

end Grammar

end SchemaCatalog
