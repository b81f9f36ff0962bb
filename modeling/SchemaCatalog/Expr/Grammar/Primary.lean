import SchemaCatalog.Expr.Function
import SchemaCatalog.Expr.Grammar.Query

/-!
# Operands of one piece

Literals, the star with the columns it leaves out, and what stands between parentheses: a query, one
expression, or a row of them. An aggregate in parentheses may be taken over a window.
-/

namespace SchemaCatalog

open Sql

namespace Grammar

/-- The string that comes next with the strings after it: several adjacent ones are concatenated. -/
def stringLiteral (first : String) : Parse Expr := do
  let further ← many do
    pure ((← acceptToken (·.kind == .literal)).map fun t => Expr.literal (.string t.text))
  let first := Expr.literal (.string first)
  pure (if further.isEmpty then first else .call ["concat"] (first :: further))

/-- The columns that a star leaves out, replaces or renames after the given words. -/
def starColumns (r : Readers) (words : List String) : Parse (List Expr) := do
  match ← acceptAnyText words with
  | none => pure []
  | some _ =>
    if ← atSymbol "(" then parenthesized (commaItems r.expression)
    else pure (← aliased r true r.assignment).toList

def star (r : Readers) : Parse Expr := do
  let omitted ← starColumns r ["EXCEPT", "EXCLUDE"]
  let replaced ← starColumns r ["REPLACE"]
  let renamed ← starColumns r ["RENAME"]
  pure (.compound (omitted ++ replaced ++ renamed))

/-- What stands between parentheses, and the closing one. Of a row that begins with a query only the
query counts. -/
def parenthesis (r : Readers) : Parse Expr := do
  match ← r.query .bare with
  | some q =>
    let q ← modified r q
    expectSymbol ")"
    pure (.query [q.expr])
  | none =>
    let (items, trailing) ← commaRow r.expression
    match items with
    | [] =>
      expectSymbol ")"
      pure (.compound [])
    | .query operands :: _ =>
      let form ← united r (.plain (.query operands))
      let e ←
        match form.query? with
        | some q => pure (← modified r q).expr
        | none => pure form.expr
      expectSymbol ")"
      pure (.query [e])
    | e :: others =>
      expectSymbol ")"
      if trailing || !others.isEmpty then pure (.compound items)
      else if e.isAggregate then windowed r (.paren e)
      else pure (.paren e)

def symbolPrimary (r : Readers) : Parse (Option Expr) := do
  if ← acceptSymbol "*" then some <$> star r
  else if ← acceptSymbol "(" then some <$> parenthesis r
  else
    match ← get with
    | dot :: digits :: rest =>
      if dot.isSymbol "." && digits.kind == .number then
        set rest
        pure (some (.literal (.number ("0." ++ digits.text))))
      else pure none
    | _ => pure none

def wordLiteral? (word : String) : Option RawLiteral :=
  match word with
  | "NULL" => some .null
  | "TRUE" => some (.boolean true)
  | "FALSE" => some (.boolean false)
  | _ => none

def primary (r : Readers) : Parse (Option Expr) := do
  match ← peek with
  | none => pure none
  | some t =>
    match t.kind with
    | .number =>
      advance
      pure (some (.literal (.number t.text)))
    | .literal =>
      advance
      some <$> stringLiteral t.text
    | .verbatim | .encoded =>
      advance
      pure (some (.compound []))
    | .unicode =>
      advance
      some <$> Expr.compound <$> escapeSign r
    | .word =>
      match wordLiteral? (Text.upper t.text) with
      | some value =>
        advance
        pure (some (.literal value))
      | none => pure none
    | .symbol => symbolPrimary r
    | _ => pure none

end Grammar

end SchemaCatalog
