import SchemaCatalog.Expr.Grammar.Level
import SchemaCatalog.Expr.Grammar.Primary
import SchemaCatalog.Expr.Grammar.Statement
import SchemaCatalog.Sql.SyntaxError

/-!
# Reading expressions

`Expression.parse` reads an SQL expression from its text. The readers of the grammar are made level by
level, `Grammar.readers`, with a bound on their nesting set well above what the number of tokens
allows; `Grammar.whole` reads one run of tokens, and `Grammar.ofTokens` divides the tokens at semicolons
first.
-/

namespace SchemaCatalog

open Sql

namespace Grammar

/-- The readers that read so many levels deep. -/
def readers : Nat → Readers
  | 0 => .none
  | n + 1 => {
    statement := fun ts => statement (readers n) ts
    query := fun place ts => query (readers n) place ts
    table := fun form ts => table (readers n) form ts
    join := fun ts => join (readers n) ts
    expression := fun ts => expression (readers n) ts
    assignment := fun ts => assignment (readers n) ts
    disjunction := fun ts => disjunction (readers n) ts
    equality := fun ts => equality (readers n) ts
    bitwise := fun ts => bitwise (readers n) ts
    term := fun ts => term (readers n) ts
    factor := fun ts => factor (readers n) ts
    unary := fun ts => unary (readers n) ts
    typed := fun ts => typed (readers n) ts
    column := fun ts => column (readers n) ts
    primary := fun ts => primary (readers n) ts
    call := fun form ts => call (readers n) form ts
    argument := fun names ts => argument (readers n) names ts
    type := fun other ts => type (readers n) other ts
    members := fun e ts => members (readers n) e ts }

/-- A bound on the nesting of the readers over so many tokens: from one token to the next they lead
into each other a few times only. -/
def depth (count : Nat) : Nat := 16 * (count + 2)

/-- A condition without parentheses opens the run of tokens, which is then a command. -/
def isCondition : List Token → Bool
  | t :: rest => t.kind == .word && Text.upper t.text == "IF" && !rest.head?.any Token.isOpen
  | [] => false

def whole (tokens : List Token) : Option Expr :=
  if isCondition tokens then some (.compound [])
  else
    match (readers (depth tokens.length)).statement tokens with
    | some (some e, []) => some e
    | _ => none

/-- The runs of tokens between semicolons; `current` holds the run being read, last first. An empty run
at the end is none. -/
def semicolonRunsFrom (current : List Token) : List Token → List (List Token)
  | [] => if current.isEmpty then [] else [current.reverse]
  | t :: ts =>
    if t.isSemicolon then current.reverse :: semicolonRunsFrom [] ts
    else semicolonRunsFrom (t :: current) ts

/-- The statements of several runs, an empty run being none. -/
def wholeRuns : List (List Token) → Option (List Expr)
  | [] => some []
  | run :: runs =>
    if run.isEmpty then wholeRuns runs
    else
      match whole run, wholeRuns runs with
      | some e, some es => some (e :: es)
      | _, _ => none

/-- The expression of a token list. Several runs between semicolons are a construct of all of them; the
first one may not be empty. -/
def ofTokens (tokens : List Token) : Option Expr :=
  match semicolonRunsFrom [] tokens with
  | [] => none
  | [run] => if run.isEmpty then none else whole run
  | first :: others =>
    if first.isEmpty then none else Expr.compound <$> wholeRuns (first :: others)

end Grammar

/-- Reads an expression from its text, blanks around it aside. -/
def Expression.parse (text : String) : Except SyntaxError Expression :=
  let stripped := Text.strip text
  if stripped.isEmpty then .error .emptyExpression
  else
    match lex stripped.toList with
    | .error e => .error (.lexical e)
    | .ok tokens =>
      match Grammar.ofTokens tokens with
      | some tree => .ok ⟨stripped, tree⟩
      | none => .error (.notExpression stripped)

end SchemaCatalog
