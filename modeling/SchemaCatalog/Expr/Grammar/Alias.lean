import SchemaCatalog.Expr.Grammar.Clause

/-!
# Other names

The name given to an expression or to a table by `AS`, or by a word that follows it. `LIMIT` and
`OFFSET` are such words only where they do not begin a clause.
-/

namespace SchemaCatalog

open Sql

namespace Grammar

/-- The names in parentheses after an expression; there must be one. -/
def nameRow (r : Readers) (any : Bool) : Parse (List Expr) := do
  match ← commaItems (name r any) with
  | [] => failure
  | names =>
    expectSymbol ")"
    pure (names.flatMap NameForm.operands)

/-- The operands of the other name of an expression, if there is one. It needs `AS` if `explicit`
holds. -/
def otherName (r : Readers) (explicit : Bool) : Parse (Option (List Expr)) := do
  if ← atLimit r then pure none
  else
    let marked ← acceptWord "AS"
    if explicit && !marked then pure none
    else if ← acceptSymbol "(" then some <$> nameRow r marked
    else pure ((← name r marked).map NameForm.operands)

/-- An expression with the other name that may follow it. A name alone names nothing. -/
def aliased (r : Readers) (explicit : Bool) (read : Parse (Option Expr)) : Parse (Option Expr) := do
  let e ← read
  match ← otherName r explicit with
  | none => pure e
  | some operands =>
    match e with
    | some e => pure (some (.compound (e :: operands)))
    | none => failure

def columnName (r : Readers) : Parse (Option (List Expr)) := do
  match ← name r true with
  | none => pure none
  | some name =>
    match ← r.type true with
    | some (.named _ operands _) => pure (some (name.operands ++ operands))
    | some (.filled value) => pure (some (name.operands ++ [value]))
    | none => pure (some name.operands)

def columnRow (r : Readers) : Parse (Option (List Expr)) := fun ts =>
  match (acceptSymbol "(" <&&> pure true) ts with
  | some (true, rest) =>
    match commaItems (columnName r) rest with
    | none => none
    | some ([], _) => some (none, ts)
    | some (operands, rest) => ((fun _ => some operands.flatten) <$> expectSymbol ")") rest
  | _ => some (none, ts)

def quotedText : Parse (Option NameForm) := do
  pure ((← acceptToken (·.kind == .literal)).map fun t => .text t.text)

/-- The operands of the other name of a table, with those of its columns, if there is one. -/
def tableName (r : Readers) (names : Token → Bool := Vocabulary.isTableName) :
    Parse (Option (List Expr)) := do
  if ← atLimit r then pure none
  else
    let marked ← acceptWord "AS"
    let name ← firstOf [name r marked names, quotedText]
    let columns ← columnRow r
    match name, columns with
    | none, none => pure none
    | name, columns => pure (some ((name.map NameForm.operands).getD [] ++ columns.getD []))

end Grammar

end SchemaCatalog
