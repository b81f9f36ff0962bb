import SchemaCatalog.Expr.Grammar.Alias

/-!
# Windows

What may follow a call: the order of a group, a filter, the treatment of nulls, and the windows it is
taken over. A window has the rows it is parted by, an order and a frame.
-/

namespace SchemaCatalog

open Sql

namespace Grammar

/-- A call with the order of the group it is taken of. -/
def withinGroup (r : Readers) (e : Expr) : Parse Expr := do
  if ← acceptTexts ["WITHIN", "GROUP"] then
    let keys ← parenthesized (order r)
    pure (.compound (e :: keys.getD []))
  else pure e

/-- A call with the condition on the rows it is taken of. -/
def filtered (r : Readers) (e : Expr) : Parse Expr := do
  if ← acceptAll [isWord "FILTER", (·.isSymbol "(")] then
    let _ ← acceptWord "WHERE"
    let condition ← required r.disjunction
    expectSymbol ")"
    pure (.compound [e, condition])
  else pure e

def nullsTreated (e : Expr) : Parse Expr := do
  if ← acceptTexts ["IGNORE", "NULLS"] then pure (.compound [e])
  else if ← acceptTexts ["RESPECT", "NULLS"] then pure (.compound [e])
  else pure e

def frameEnd (r : Readers) : Parse (List Expr) := do
  let _ ← acceptWord "BETWEEN"
  let value ←
    if ← acceptTexts ["UNBOUNDED"] then pure none
    else if ← acceptTexts ["CURRENT", "ROW"] then pure none
    else r.bitwise
  let _ ← acceptAnyText ["FOLLOWING", "PRECEDING"]
  pure value.toList

/-- The rows that a frame leaves out. -/
def excluded : Parse Unit := do
  if ← acceptTexts ["EXCLUDE"] then
    unless (← peek).isNone do
      unless ← acceptTexts ["NO", "OTHERS"] do
        unless ← acceptTexts ["CURRENT", "ROW"] do
          if (← acceptAnyText ["GROUP", "TIES"]).isNone then failure

def frame (r : Readers) : Parse (List Expr) := do
  let kind ← acceptAnyWord ["ROWS", "RANGE"]
  if ← (do pure (kind.isSome || (← acceptTexts ["GROUPS"]))) then
    let _ ← acceptWord "BETWEEN"
    let first ← frameEnd r
    let last ← if ← acceptWord "AND" then frameEnd r else pure []
    excluded
    pure (first ++ last)
  else pure []

def isWindowName (t : Token) : Bool := Vocabulary.isNominal t && !isAnyWord ["RANGE", "ROWS"] t

/-- What stands between the parentheses of a window, and the closing one. -/
def windowBody (r : Readers) : Parse (List Expr) := do
  let name ← name r false isWindowName
  let _ ← acceptWord "FIRST"
  let _ ← acceptTexts ["LAST"]
  let parts ← if ← acceptWord "PARTITION BY" then commaItems r.disjunction else pure []
  let keys ← order r
  let ends ← frame r
  expectSymbol ")"
  pure (parts ++ keys.getD [] ++ ends ++ (name.map NameForm.operands).getD [])

/-- One window that an expression is taken over. One that is only named comes last. -/
def overWindow (r : Readers) : Expr × Bool → Parse (Option (Expr × Bool))
  | (_, true) => pure none
  | (e, false) => do
    if ← acceptWord "OVER" then
      if ← acceptSymbol "(" then pure (some (.call [] (e :: (← windowBody r)), false))
      else
        let name ← name r false
        pure (some (.call [] (e :: (name.map NameForm.operands).getD []), true))
    else pure none

def windowed (r : Readers) (e : Expr) : Parse Expr := do
  let e ← nullsTreated (← filtered r (← withinGroup r e))
  pure (← repeated (overWindow r) (e, false)).1

def namedWindow (r : Readers) : Parse (Option Expr) := do
  match ← name r true with
  | none => failure
  | some _ =>
    let _ ← acceptWord "AS"
    if ← acceptSymbol "(" then pure (some (.compound (← windowBody r)))
    else
      let _ ← name r false
      pure (some (.compound []))

end Grammar

end SchemaCatalog
