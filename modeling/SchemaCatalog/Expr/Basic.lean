/-!
# Expressions

The syntax tree of an SQL expression, as far as a catalog looks into it. Connectives, comparisons,
`IS`, calls, columns, queries and literals are kept apart; every other construct is a `compound` of
its operands, in the order in which they are visited.
-/

namespace SchemaCatalog

inductive Comparison where
  | eq | ne | lt | le | gt | ge
  deriving DecidableEq, Repr

/-- A literal as written; a number keeps its text. -/
inductive RawLiteral where
  | boolean (value : Bool)
  | null
  | string (value : String)
  | number (text : String)
  deriving DecidableEq, Repr

inductive Expr where
  /-- A column: the names in front of it, the outermost first, and its own. -/
  | column (qualifiers : List String) (name : String)
  | literal (value : RawLiteral)
  | paren (inner : Expr)
  | negate (inner : Expr)
  | not (inner : Expr)
  | and (left right : Expr)
  | or (left right : Expr)
  | compare (op : Comparison) (left right : Expr)
  /-- `left IS right` -/
  | is (left right : Expr)
  /-- A call, with the names the function may have, the preferred one first; a call that is looked
  upon as a whole, such as one over a window, has none. -/
  | call (names : List String) (arguments : List Expr)
  /-- Any other construct, with its operands. -/
  | compound (operands : List Expr)
  /-- A query, whose columns are not those of the table the expression is about. -/
  | query (operands : List Expr)
  /-- What is reached through names but has none itself, such as `a.*`; it is no column, and hides
  those in its operands. -/
  | nameless (qualifiers : List String) (operands : List Expr)
  deriving Repr, Inhabited

/-- An expression with its source text. Two expressions are told apart by the text alone. -/
structure Expression where
  sql : String
  tree : Expr
  deriving Repr, Inhabited

def Expression.ofColumn (name : String) : Expression := ⟨name, .column [] name⟩

namespace Expr

/-- An expression without the parentheses around it. -/
def unwrap : Expr → Expr
  | paren inner => inner.unwrap
  | e => e

/-- The name of the column that the expression is, parentheses aside. -/
def columnName? (e : Expr) : Option String :=
  match e.unwrap with
  | column _ name => some name
  | _ => none

end Expr

end SchemaCatalog
