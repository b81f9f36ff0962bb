import SchemaCatalog.Expr.Grammar.Member

/-!
# Operators on values

The tighter levels of precedence: signs, powers, products with time zones, sums with collations, and
operators on bits. `joined` reads operands joined by left-associative operators.
-/

namespace SchemaCatalog

open Sql

namespace Grammar

/-! ## 1. Joined operands -/

/-- How an operator joins its operands, the second of which may be absent; none if it needs it. -/
abbrev Joiner := Expr → Option Expr → Option Expr

def both (build : Expr → Expr → Expr) : Joiner := fun left right => right.map (build left)

def compounded : Joiner := both fun left right => .compound [left, right]

/-- Operands joined by left-associative operators. -/
def joined (operator : Parse (Option Joiner)) (operand : Parse (Option Expr)) :
    Parse (Option Expr) := do
  let further (left : Option Expr) : Parse (Option (Option Expr)) := do
    match ← operator with
    | none => pure none
    | some join =>
      let right ← operand
      match left.bind fun left => join left right with
      | some e => pure (some (some e))
      | none => failure
  repeated further (← operand)

def symbolOperator (symbols : List String) (join : String → Joiner) : Parse (Option Joiner) := do
  pure ((← acceptAnySymbol symbols).map join)

def wordOperator (word : String) (build : Expr → Expr → Expr) : Parse (Option Joiner) := do
  pure (if ← acceptWord word then some (both build) else none)

/-! ## 2. Signs -/

/-- An operand with the signs before it. A plus sign leaves no trace. -/
def unary (r : Readers) : Parse (Option Expr) := do
  if (← acceptToken isNot).isSome then some <$> Expr.not <$> required r.equality
  else if (← acceptAnyWord ["RLIKE", "REGEXP"]).isSome then
    pure (some (.compound [← required r.unary]))
  else
    match ← acceptAnySymbol ["+", "-", "~", "|/", "||/"] with
    | some "+" => r.unary
    | some "-" => some <$> Expr.negate <$> required r.unary
    | some "|/" => pure (some (.call ["sqrt"] [← required r.unary]))
    | some "||/" => pure (some (.call ["cbrt"] [← required r.unary]))
    | some _ => pure (some (.compound [← required r.unary]))
    | none => typed r

/-! ## 3. Arithmetic -/

def powers (r : Readers) : Parse (Option Expr) :=
  joined (symbolOperator ["^"] fun _ => both fun left right => .call ["power", "pow"] [left, right])
    (unary r)

/-- Products. The first operand may be taken at a time zone. -/
def factor (r : Readers) : Parse (Option Expr) := do
  let first ←
    match ← powers r with
    | some e => some <$> atTimeZone r e
    | none => pure none
  let further (left : Option Expr) : Parse (Option (Option Expr)) := do
    if (← acceptAnySymbol ["*", "/", "%", "<->", "<<->>"]).isSome then
      match left, ← powers r with
      | some left, some right => pure (some (some (.compound [left, right])))
      | _, _ => failure
    else pure none
  repeated further first

/-- A value with a collation. One that is named by a bare name is no column. -/
def collated (left right : Expr) : Expr :=
  match right with
  | .column [] _ => .call ["collate"] [left]
  | right => .call ["collate"] [left, right]

def sumOperator : Parse (Option Joiner) := do
  match ← wordOperator "COLLATE" collated with
  | some join => pure (some join)
  | none => symbolOperator ["+", "-"] fun _ => compounded

def term (r : Readers) : Parse (Option Expr) := joined sumOperator (factor r)

/-! ## 4. Bits -/

/-- A doubled order sign, which shifts bits. -/
def acceptShift : Parse Bool := do
  if ← acceptAll [(·.isSymbol "<"), (·.isSymbol "<")] then pure true
  else acceptAll [(·.isSymbol ">"), (·.isSymbol ">")]

/-- An operator on bits, or one that joins texts. Falling back from a missing value is a call. -/
def bitOperator : Parse (Option Joiner) := do
  match ← acceptAnySymbol ["&", "|", "#", "^", "||", "??"] with
  | some "??" =>
    pure (some fun left right => some (.call ["coalesce", "ifnull", "nvl"] (left :: right.toList)))
  | some _ => pure (some compounded)
  | none => pure (if ← acceptShift then some compounded else none)

def bitwise (r : Readers) : Parse (Option Expr) := joined bitOperator (term r)

end Grammar

end SchemaCatalog
