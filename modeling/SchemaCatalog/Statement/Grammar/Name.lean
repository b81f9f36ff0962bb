import SchemaCatalog.Expr.Grammar
import SchemaCatalog.Sql.Cursor
import SchemaCatalog.Statement

/-!
# Reading names, types and expressions

The parts that most statements share: object names and lists of them, role names, column lists, the
spelling of a type, and expressions in parentheses.
-/

namespace SchemaCatalog

open Sql Reader

/-- The object named by the parts of a dotted name: its last two parts. -/
def ObjectName.ofParts (first : String) (others : List String) : ObjectName :=
  match (first :: others).reverse with
  | name :: schema :: _ => ⟨name, some schema⟩
  | _ => ⟨first, none⟩

def ObjectName.read : Reader ObjectName := do
  let (first, others) ← qualifiedName
  pure (.ofParts first others)

/-- Reads a role name, which the word `GROUP` may precede. -/
def readRoleName : Reader String := do
  let _ ← accept ["GROUP"]
  identifier

def readRoleNames : Reader (List String) := commaSeparated readRoleName

def readColumnList : Reader (List String) := do
  let inside ← parenthesized
  each (fun part => within part identifier) (splitCommas inside)

/-- The spelling of a type, its words parted by single blanks. -/
def readTypeText (tokens : List Token) : Reader String := do
  pure (Text.foldBlanks (← text tokens))

def Expression.read (tokens : List Token) : Reader Expression := do
  if tokens.isEmpty then expected "an expression"
  else
    match Expression.parse (← text tokens) with
    | .ok e => pure e
    | .error e => failWith e

def Expression.readParenthesized : Reader Expression := do
  Expression.read (← parenthesized)

/-! ## Statements known by their leading words -/

/-- The verbs whose object belongs to the kind of a statement. -/
def ddlVerbs : List String := ["CREATE", "ALTER", "DROP"]

/-- The words passed over between a verb and its object. -/
def kindModifiers : List String :=
  ["OR", "REPLACE", "TEMP", "TEMPORARY", "UNLOGGED", "GLOBAL", "LOCAL", "UNIQUE", "TRUSTED",
    "PROCEDURAL", "RECURSIVE", "CONSTRAINT"]

/-- The words that continue the object of a verb. -/
def kindContinuations : List String :=
  ["VIEW", "TABLE", "TRIGGER", "SEARCH", "CONFIGURATION", "DICTIONARY", "PARSER", "TEMPLATE", "DATA",
    "WRAPPER", "METHOD", "CLASS", "FAMILY", "MAPPING", "PRIVILEGES", "BY", "OBJECT", "SYSTEM"]

def continuationWords : List Token → List String
  | [] => []
  | t :: ts =>
    let word := Text.upper t.text
    if t.isWord && kindContinuations.contains word then word :: continuationWords ts else []

def objectWords : List Token → List String
  | [] => []
  | t :: ts =>
    let word := Text.upper t.text
    if !t.isWord then []
    else if kindModifiers.contains word then objectWords ts
    else word :: continuationWords ts

/-- The kind of a statement, by its leading words: its verb and, for the verbs of the data definition
language, the kind of object. A statement that begins with no word is of the kind of its first
token. -/
def statementKind : List Token → String
  | [] => ""
  | t :: ts =>
    if t.isWord then
      let verb := Text.upper t.text
      if ddlVerbs.contains verb then " ".intercalate (verb :: objectWords ts) else verb
    else t.text

/-- The statement as one known by its leading words only. -/
def Statement.readOther : Reader Statement := do
  let c ← cursor
  pure (.other (statementKind c.statement) c.statementText)

/-- The statement as one of the given kind that is not looked into. -/
def Statement.readOtherOf (kind : String) : Reader Statement := do
  pure (.other kind (← statementText))

end SchemaCatalog
