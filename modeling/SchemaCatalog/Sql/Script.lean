import SchemaCatalog.Sql.Token

/-!
# Scripts

A script is a run of statements separated by semicolons. A semicolon inside parentheses belongs to
its statement; a closing parenthesis without an opening one is passed over. Statements without
tokens are dropped.
-/

namespace SchemaCatalog.Sql

/-- The parenthesis depth after a token, a stray closing parenthesis not counting. -/
def depthAfter (depth : Nat) (t : Token) : Nat :=
  if t.isOpen then depth + 1 else if t.isClose then depth - 1 else depth

/-- The statements of a token list at the given depth; `current` holds the tokens of the statement
being read, last first. -/
def statementsFrom (depth : Nat) (current : List Token) : List Token → List (List Token)
  | [] => if current.isEmpty then [] else [current.reverse]
  | t :: ts =>
    if t.isSemicolon && depth == 0 then
      if current.isEmpty then statementsFrom 0 [] ts
      else current.reverse :: statementsFrom 0 [] ts
    else statementsFrom (depthAfter depth t) (t :: current) ts

/-- The statements of a script as token runs, none empty. -/
def splitStatements (tokens : List Token) : List (List Token) := statementsFrom 0 [] tokens

/-- The parts of a token list at the given depth between commas at depth zero; `current` holds the
tokens of the part being read, last first. -/
def commaPartsFrom (depth : Int) (current : List Token) : List Token → List (List Token)
  | [] => if current.isEmpty then [] else [current.reverse]
  | t :: ts =>
    if t.isComma && depth == 0 then
      if current.isEmpty then commaPartsFrom 0 [] ts
      else current.reverse :: commaPartsFrom 0 [] ts
    else commaPartsFrom (depth + t.nesting) (t :: current) ts

/-- The parts of a token run between its commas outside parentheses, empty parts dropped. -/
def splitCommas (tokens : List Token) : List (List Token) := commaPartsFrom 0 [] tokens

end SchemaCatalog.Sql
