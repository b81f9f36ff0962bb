import SchemaCatalog.Expr.Grammar.Test

/-!
# The looser levels of precedence

From the tightest on: order comparisons, equalities, `AND`, `OR`, assignments, and expressions with
another name. Every operator needs both of its operands.
-/

namespace SchemaCatalog

open Sql

namespace Grammar

def orderSign : String → Comparison
  | "<" => .lt
  | "<=" => .le
  | ">" => .gt
  | _ => .ge

/-- The operator written by a sign of equality. One that takes nulls as equal is no comparison. -/
def equalitySign : String → Joiner
  | "=" | "==" => both (.compare .eq)
  | "<=>" => compounded
  | _ => both (.compare .ne)

def comparison (r : Readers) : Parse (Option Expr) :=
  joined (symbolOperator ["<", "<=", ">", ">="] fun sign => both (.compare (orderSign sign))) (range r)

def equality (r : Readers) : Parse (Option Expr) :=
  joined (symbolOperator ["=", "==", "<>", "!=", "<=>"] equalitySign) (comparison r)

def conjunction (r : Readers) : Parse (Option Expr) :=
  joined (wordOperator "AND" .and) (equality r)

def disjunction (r : Readers) : Parse (Option Expr) :=
  joined (wordOperator "OR" .or) (conjunction r)

def assignedToken : Parse (Option Expr) := fun ts =>
  match ts with
  | t :: u :: rest =>
    if u.isSymbol ":=" then some (some (.column [] t.text), u :: rest) else some (none, ts)
  | _ => some (none, ts)

/-- A value, possibly assigned to something. What is assigned to is no column if it is a bare name. -/
def assignment (r : Readers) : Parse (Option Expr) := do
  let first ← firstOf [disjunction r, assignedToken]
  if ← acceptSymbol ":=" then
    match first, ← r.assignment with
    | some (.column [] _), some value => pure (some (.compound [value]))
    | some e, some value => pure (some (.compound [e, value]))
    | _, _ => failure
  else pure first

/-- An expression with the other name it may have. -/
def expression (r : Readers) : Parse (Option Expr) := aliased r false (assignment r)

end Grammar

end SchemaCatalog
