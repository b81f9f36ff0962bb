import SchemaCatalog.Expr.Grammar.Query
import SchemaCatalog.Expr.Reference

/-!
# Arguments of calls

An argument is an expression or a query, possibly with another name, an order and a limit; or distinct
values; or a function of some names, which are then no columns; or a value for a named parameter.
-/

namespace SchemaCatalog

open Sql

namespace Grammar

/-- The names before an arrow, in parentheses or not. -/
def arrowNames (r : Readers) : Parse (Option (List NameForm)) := do
  if ← acceptSymbol "(" then
    let names ← commaItems (name r true)
    pure (if ← acceptSymbol ")" then some names else none)
  else pure (some (← name r true).toList)

/-- A function of names, or a value for a named parameter. -/
def arrow (r : Readers) : Parse (Option Expr) := fun ts =>
  let read : Parse (Option Expr) := do
    match ← arrowNames r with
    | none => pure none
    | some names =>
      match ← acceptAnySymbol ["->", "=>"] with
      | none => pure none
      | some sign =>
        if names.isEmpty then failure
        let body ← required r.disjunction
        if sign == "->" then
          pure (some (.compound [body.withoutParameters (names.filterMap NameForm.text?)]))
        else pure (some (.compound [body]))
  match read ts with
  | some (none, _) => some (none, ts)
  | result => result

/-- A construct of an argument, which may be absent, and of further operands. -/
def around (e : Option Expr) (operands : List Expr) : Option Expr :=
  some (.compound (e.toList ++ operands))

def nullsOf (e : Option Expr) : Parse (Option Expr) := do
  if ← acceptAnyTexts [["IGNORE", "NULLS"], ["RESPECT", "NULLS"]] then
    match e with
    | some e => pure (some (.compound [e]))
    | none => failure
  else pure e

/-- An argument taken where another value is greatest or least. -/
def extremeOf (r : Readers) (e : Option Expr) : Parse (Option Expr) := do
  if ← acceptWord "HAVING" then
    let _ ← acceptAnyText ["MAX", "MIN"]
    match e, ← r.column with
    | some e, some key => pure (some (.compound [e, key]))
    | _, _ => failure
  else pure e

def orderedOf (r : Readers) (e : Option Expr) : Parse (Option Expr) := do
  let e := match ← order r with
    | some keys => around e keys
    | none => e
  pure (match ← limit r with
    | some operands => around e operands
    | none => e)

/-- An argument of a call. Another name for it is read if `names` holds. -/
def argument (r : Readers) (names : Bool) : Parse (Option Expr) := do
  match ← arrow r with
  | some e => pure (some e)
  | none =>
    let e ←
      if ← acceptWord "DISTINCT" then pure (some (.compound (← commaItems r.disjunction)))
      else do
        let _ ← acceptWord "ALL"
        let plain := if names then aliased r true r.assignment else r.assignment
        pure ((← operandOrQuery r plain).map OperandForm.expr)
    orderedOf r (← nullsOf (← extremeOf r (← nullsOf e)))

end Grammar

end SchemaCatalog
