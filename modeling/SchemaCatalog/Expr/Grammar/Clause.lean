import SchemaCatalog.Expr.Grammar.Name

/-!
# Order and limits

The clauses that a query, a table and the arguments of a call may end in: `ORDER BY` with its keys,
`LIMIT`, `FETCH` and `OFFSET`. `atLimit` says that one of the latter begins here, so that the word is
no name for what is before it.
-/

namespace SchemaCatalog

open Sql

namespace Grammar

/-- What fills the gaps of an ordered row. -/
def filling (r : Readers) : Parse (List Expr) := do
  if ← acceptTexts ["WITH", "FILL"] then
    let first ← if ← acceptWord "FROM" then r.bitwise else pure none
    let last ← if ← acceptTexts ["TO"] then r.bitwise else pure none
    let step ← if ← acceptTexts ["STEP"] then r.bitwise else pure none
    pure (first.toList ++ last.toList ++ step.toList)
  else pure []

def orderKey (r : Readers) : Parse (Option Expr) := do
  match ← r.assignment with
  | none => pure none
  | some key =>
    let _ ← acceptWord "ASC"
    let _ ← acceptWord "DESC"
    let _ ← acceptTexts ["NULLS", "FIRST"]
    let _ ← acceptTexts ["NULLS", "LAST"]
    pure (some (.compound (key :: (← filling r))))

/-- The keys after a phrase such as `ORDER BY`, if it comes next; there must be one. -/
def keysAfter (r : Readers) (phrase : String) : Parse (Option (List Expr)) := do
  if ← acceptWord phrase then
    match ← commaItems (orderKey r) with
    | [] => failure
    | keys => pure (some keys)
  else pure none

def order (r : Readers) : Parse (Option (List Expr)) := keysAfter r "ORDER BY"

/-- What a limit may say besides its number: a share, rows, and whether ties count. -/
def limitOptions : Parse Unit := do
  unless (← acceptWord "PERCENT") do
    let _ ← acceptSymbol "%"
  let _ ← acceptAnyWord ["ROW", "ROWS"]
  let _ ← acceptTexts ["ONLY"]
  let _ ← acceptTexts ["WITH", "TIES"]

def limitKeys (r : Readers) : Parse (List Expr) := do
  if ← acceptTexts ["BY"] then commaItems r.bitwise else pure []

def fetchedName (r : Readers) : Parse (Option Expr) := do
  let accepts := fun t => Vocabulary.isNominal t && !isAnyWord ["ROW", "ROWS", "PERCENT"] t
  pure ((← name r false accepts).map fun name => .compound name.operands)

/-- The number of rows after `LIMIT`, or the offset and the number. -/
def limit (r : Readers) : Parse (Option (List Expr)) := do
  if ← acceptWord "LIMIT" then
    if ← acceptWord "ALL" then pure (some [])
    else
      let count ← required (firstOf [attempt r.term, r.factor])
      limitOptions
      let counts ←
        if ← acceptSymbol "," then do
          let second ← required r.term
          pure [second, count]
        else pure [count]
      pure (some (counts ++ (← limitKeys r)))
  else if ← acceptWord "FETCH" then
    let _ ← acceptAnyWord ["FIRST", "NEXT"]
    let count ← firstOf [r.primary, r.call {}, fetchedName r]
    limitOptions
    pure (some count.toList)
  else pure none

def offset (r : Readers) : Parse (Option (List Expr)) := do
  if ← acceptWord "OFFSET" then
    let count ← required r.term
    let _ ← acceptAnyWord ["ROW", "ROWS"]
    pure (some (count :: (← limitKeys r)))
  else pure none

/-- A word that begins a limit comes next, and what follows it makes it one. -/
def atLimit (r : Readers) : Parse Bool := fun ts =>
  let found := fun (read : Parse (Option (List Expr))) =>
    match read ts with
    | some (some _, _) => true
    | _ => false
  some (ts.head?.any (isAnyWord ["LIMIT", "OFFSET"]) && (found (limit r) || found (offset r)), ts)

end Grammar

end SchemaCatalog
