import SchemaCatalog.Statement.Grammar.Drop
import SchemaCatalog.Statement.Grammar.Table

/-!
# Reading statements

`Statement.ofTokens` reads one statement by its leading words; `Script.parse` reads all statements of
an SQL text, in order.
-/

namespace SchemaCatalog

open Sql Reader

/-- The words between `CREATE` and its object that change nothing. -/
def creationModifiers : List String :=
  ["TEMP", "TEMPORARY", "UNLOGGED", "GLOBAL", "LOCAL", "CONSTRAINT"]

def skipCreationModifier : Reader (Option Unit) := do
  let word ← word?
  if creationModifiers.contains (word.getD "") then
    let _ ← advance
    pure (some ())
  else pure none

def readCreate : Reader Statement := do
  let orReplace ← accept ["OR", "REPLACE"]
  if ← atWords ["USER", "MAPPING"] then Statement.readOther
  else
    iterate (fun _ => skipCreationModifier) ()
    if ← accept ["TABLE"] then CreateTable.read
    else
      let unique ← accept ["UNIQUE"]
      if ← accept ["INDEX"] then CreateIndex.read unique
      else if unique then expected "INDEX after UNIQUE"
      else if ← accept ["FUNCTION"] then CreateFunction.read orReplace
      else if ← accept ["TRIGGER"] then CreateTrigger.read orReplace
      else if ← accept ["POLICY"] then CreatePolicy.read
      else if ← acceptAny [["ROLE"], ["GROUP"]] then CreateRole.read false
      else if ← accept ["USER"] then CreateRole.read true
      else if ← accept ["SCHEMA"] then CreateSchema.read
      else Statement.readOther

def readAlter : Reader Statement := do
  if ← accept ["TABLE"] then AlterTable.read
  else if ← accept ["SCHEMA"] then AlterSchema.read
  else Statement.readOther

/-- Reads the value of a time zone: a string, a keyword, or the text to the end. -/
def readTimeZone : Reader String := do
  let c ← cursor
  match c.peek? with
  | some t =>
    if t.isString then string
    else if c.word? == some "LOCAL" || c.word? == some "DEFAULT" then
      let t ← advance
      pure (Text.upper t.text)
    else
      let value ← text (← remaining)
      if value.isEmpty then expected "a time zone" else pure value
  | none => expected "a time zone"

def readSet : Reader Statement := do
  let word ← word?
  if word == some "SESSION" || word == some "LOCAL" then
    let _ ← advance
  if ← accept ["TIME", "ZONE"] then pure (.setTimeZone (← readTimeZone))
  else if ← accept ["TIMEZONE"] then
    unless ← accept ["TO"] do expectSymbol "="
    pure (.setTimeZone (← readTimeZone))
  else Statement.readOtherOf "SET"

/-- The target of a comment on a column: the parts of its name after the first are given. -/
def columnTarget? (first : String) (others : List String) : Option (ObjectName × String) :=
  match (first :: others).reverse with
  | column :: table :: schema :: _ => some (⟨table, some schema⟩, column)
  | [column, table] => some (⟨table, none⟩, column)
  | _ => none

def readCommentTarget : Reader CommentOn := do
  if ← accept ["TABLE"] then
    pure { objectKind := "TABLE", target := ← ObjectName.read }
  else if ← accept ["COLUMN"] then
    let (first, others) ← qualifiedName
    match columnTarget? first others with
    | some (target, column) => pure { objectKind := "COLUMN", target, column := some column }
    | none => expected "table.column"
  else
    let kind ← advance
    let name ← text (← untilWord ["IS"])
    pure { objectKind := Text.upper kind.text, target := { name } }

def CommentOn.read : Reader Statement := do
  let comment ← readCommentTarget
  expect ["IS"]
  let value ← if ← accept ["NULL"] then pure none else some <$> string
  pure (.commentOn { comment with text := value })

def Statement.read : Reader Statement := do
  if ← accept ["CREATE"] then readCreate
  else if ← accept ["DROP"] then readDrop
  else if ← accept ["ALTER"] then readAlter
  else if ← accept ["GRANT"] then readGrant
  else if ← accept ["REVOKE"] then readRevoke
  else if ← accept ["SET"] then readSet
  else if ← accept ["COMMENT", "ON"] then CommentOn.read
  else Statement.readOther

def Statement.ofTokens (sql : List Char) (tokens : List Token) : Except SyntaxError Statement :=
  Statement.read.run sql tokens

/-- The statements that several runs of tokens are, up to the first error. -/
def Statement.ofRuns (sql : List Char) : List (List Token) → Except SyntaxError (List Statement)
  | [] => .ok []
  | run :: runs =>
    match Statement.ofTokens sql run with
    | .error e => .error e
    | .ok statement => (Statement.ofRuns sql runs).map (statement :: ·)

def Script.parse (sql : String) : Except SyntaxError (List Statement) :=
  let chars := sql.toList
  match tokenize chars with
  | .error e => .error (.lexical e)
  | .ok tokens => Statement.ofRuns chars (splitStatements tokens)

end SchemaCatalog
