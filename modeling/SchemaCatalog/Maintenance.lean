import SchemaCatalog.Catalog.Contents
import SchemaCatalog.Expr.Grammar
import SchemaCatalog.Sql.Cursor

/-!
# Maintenance triggers

A maintenance trigger only sets columns of the row being written. The body of its function reads

    [BEGIN [;]] NEW.column := expression; ... RETURN NEW; [END [;]]

with at least one assignment, each to a column of the trigger's table, and nothing else. An assignment
may be written `:=`, `: =` or `=`.
-/

namespace SchemaCatalog

open Sql

/-- The reasons why a function body is not that of a maintenance trigger. -/
inductive MaintenanceError where
  | missingReturn
  | returnsOther
  | missingSemicolon
  | unexpectedStatement (start : String)
  | absentColumn (name : String)
  | unterminatedAssignment
  | unbalancedParentheses
  | missingExpression
  | trailing (token : String)
  | noAssignments
  | syntaxError (error : SyntaxError)
  deriving DecidableEq, Repr

namespace MaintenanceError

def reason : MaintenanceError → String
  | missingReturn => "missing RETURN NEW;"
  | returnsOther => "only RETURN NEW is allowed"
  | missingSemicolon => "expected `;` after RETURN NEW"
  | unexpectedStatement start => "unexpected statement starting with `" ++ start ++ "`"
  | absentColumn name => "column `" ++ name ++ "` is not a column of the table"
  | unterminatedAssignment => "assignment is not terminated by `;`"
  | unbalancedParentheses => "unbalanced parentheses in assignment"
  | missingExpression => "assignment without an expression"
  | trailing token => "unexpected `" ++ token ++ "` after RETURN NEW"
  | noAssignments => "no assignments"
  | syntaxError error => error.text

def message (e : MaintenanceError) : String := "Not a maintenance trigger body: " ++ e.reason

end MaintenanceError

structure Assignment (α : Type) where
  column : α
  expression : Expression
  deriving Repr

namespace Maintenance

abbrev BodyReader := StateT Cursor (Except MaintenanceError)

instance : MonadLift Reader BodyReader where
  monadLift r := fun c => (r c).mapError .syntaxError

/-- The tokens of an expression up to its semicolon, and those after it. `read` holds the tokens
passed so far, last first. -/
def expressionTokens (depth : Nat) (read : List Token) :
    List Token → Except MaintenanceError (List Token × List Token)
  | [] => .error .unterminatedAssignment
  | t :: ts =>
    if t.isSemicolon then
      if depth != 0 then .error .unbalancedParentheses
      else if read.isEmpty then .error .missingExpression
      else .ok (read.reverse, ts)
    else if t.isOpen then expressionTokens (depth + 1) (t :: read) ts
    else if t.isClose then
      if depth == 0 then .error .unbalancedParentheses
      else expressionTokens (depth - 1) (t :: read) ts
    else expressionTokens depth (t :: read) ts

def expression : BodyReader Expression := fun c => do
  let (tokens, rest) ← expressionTokens 0 [] c.rest
  let parsed ← (Expression.parse (sourceText c.sql tokens)).mapError .syntaxError
  pure (parsed, { c with rest })

def assignmentSign : BodyReader Unit := do
  unless ← liftM (Reader.acceptSymbol ":=") do
    let _ ← liftM (Reader.acceptSymbol ":")
    liftM (Reader.expectSymbol "=")

/-- Passes the given word and a semicolon after it, if they come next. -/
def acceptBracket (word : String) : BodyReader Unit := do
  if ← liftM (Reader.accept [word]) then
    let _ ← liftM (Reader.acceptSymbol ";")

section Columns

variable {α : Type} (nameOf : α → String) (columns : List α)

/-- Reads an assignment to the first column of some name, after its `NEW`. -/
def assignment : BodyReader (Assignment α) := do
  liftM (Reader.expectSymbol ".")
  let name ← liftM Reader.identifier
  match columns.find? (nameOf · == name) with
  | none => throw (.absentColumn name)
  | some column =>
    assignmentSign
    pure { column, expression := ← expression }

/-- Reads assignments and the `RETURN NEW;` after them, at most so many; `read` holds the
assignments so far, last first. -/
def assignments : Nat → List (Assignment α) → BodyReader (List (Assignment α))
  | 0, _ => throw .missingReturn
  | n + 1, read => do
    match (← get).peek? with
    | none => throw .missingReturn
    | some t =>
      if ← liftM (Reader.accept ["RETURN"]) then
        unless ← liftM (Reader.accept ["NEW"]) do throw .returnsOther
        unless ← liftM (Reader.acceptSymbol ";") do throw .missingSemicolon
        pure read.reverse
      else if ← liftM (Reader.accept ["NEW"]) then
        let next ← assignment nameOf columns
        assignments n (next :: read)
      else throw (.unexpectedStatement t.text)

/-- Reads a body of at most so many assignments. -/
def body (limit : Nat) : BodyReader (List (Assignment α)) := do
  acceptBracket "BEGIN"
  let found ← assignments nameOf columns limit []
  acceptBracket "END"
  match (← get).peek? with
  | some t => throw (.trailing t.text)
  | none => if found.isEmpty then throw .noAssignments else pure found

/-- The assignments of a function body, given by its text and its tokens. -/
def parseTokens (sql : List Char) (tokens : List Token) :
    Except MaintenanceError (List (Assignment α)) :=
  ((body nameOf columns (tokens.length + 1)).run (Cursor.start sql tokens)).map (·.1)

/-- The assignments of a function body to the columns given. -/
def parse (text : String) : Except MaintenanceError (List (Assignment α)) :=
  let chars := text.toList
  match tokenize chars with
  | .error e => .error (.syntaxError (.lexical e))
  | .ok tokens => parseTokens nameOf columns chars tokens

end Columns

end Maintenance

/-- The assignments of a trigger to columns of its table, if it is a maintenance trigger. -/
def CatalogView.maintenance? (v : CatalogView) (t : Trigger) :
    Option (List (Assignment Column)) := do
  let f ← v.triggerFunction? t
  let body ← f.body
  if body.isEmpty then none
  else (Maintenance.parse Column.name (v.metadataOf t.table).columns body).toOption

end SchemaCatalog
