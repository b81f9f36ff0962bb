import SchemaCatalog.Expr.Grammar.Alias

/-!
# Tables

What a query or a statement reads from: a table by its name, a function, a query, rows written out, or
the elements of an array; with other names, a sample, and the tables joined to it.
-/

namespace SchemaCatalog

open Sql

namespace Grammar

def acceptAnyTexts : List (List String) → Parse Bool
  | [] => pure false
  | texts :: others => do
    if ← acceptTexts texts then pure true else acceptAnyTexts others

/-! ## 1. Parts of tables -/

/-- The number of a sample, or the number that makes it repeatable. -/
def sampleNumber : Parse Unit := do
  let _ ← acceptToken (·.kind == .number)

/-- The sample taken of a table. Another phrase may begin it after the clauses of a query. -/
def tableSample (r : Readers) (clause : Bool) : Parse (Option (List Expr)) := do
  let marked ←
    if ← acceptWord "TABLESAMPLE" then pure true
    else if clause then acceptTexts ["USING", "SAMPLE"]
    else pure false
  if !marked then pure none
  else
    unless ← acceptWord "ROW" do
      let _ ← unitName r false
    let opened ← acceptSymbol "("
    let count ← if ← atToken (·.kind == .number) then r.factor else firstOf [r.primary, placeholder r]
    unless ← acceptWord "PERCENT" do
      unless ← acceptSymbol "%" do
        let _ ← acceptWord "ROWS"
    if opened then expectSymbol ")"
    if ← acceptSymbol "(" then
      let _ ← unitName r false
      if ← acceptSymbol "," then sampleNumber
      expectSymbol ")"
    else if (← acceptAnyText ["SEED", "REPEATABLE"]).isSome then parenthesized sampleNumber
    pure (some count.toList)

def acceptOrdinality : Parse Bool := acceptAll [isWord "WITH", isWord "ORDINALITY"]

def unnest (r : Readers) (named : Bool) : Parse (Option Expr) := do
  if ← acceptAll [isWord "UNNEST", (·.isSymbol "(")] then
    let operands ← commaItems r.equality
    if operands.isEmpty then failure
    expectSymbol ")"
    let numbered ← acceptOrdinality
    if named then
      let _ ← tableName r
    if ← (pure !numbered <&&> acceptAll [isWord "WITH", isWord "OFFSET"]) then
      let _ ← acceptWord "AS"
      let _ ← name r false
    pure (some (.call ["unnest"] operands))
  else pure none

/-- A row of values; a value may be left to the default of its column. -/
def valueRow (r : Readers) : Parse (Option Expr) := do
  if ← acceptSymbol "(" then
    let value : Parse (Option Expr) := do
      if ← acceptWord "DEFAULT" then pure (some (.compound [])) else r.expression
    let values ← commaItems value
    expectSymbol ")"
    pure (some (.compound values))
  else pure ((← r.expression).map fun e => .compound [e])

/-- Rows written out, in parentheses or not, with the name they may have. -/
def valueRows (r : Readers) : Parse (Option QueryForm) := do
  let enclosed ← acceptAll [(·.isSymbol "("), isWord "VALUES"]
  if ← (pure enclosed <||> acceptAnyTexts [["VALUES"], ["FORMAT", "VALUES"]]) then
    let rows ← commaItems (valueRow r)
    if rows.isEmpty then failure
    let name ← tableName r
    if enclosed then expectSymbol ")"
    let name ← if name.isSome then pure name else tableName r
    pure (some ⟨.values, rows ++ name.getD [], [], []⟩)
  else pure none

/-- What a lateral table is read from, and whether it may be given a name after it. -/
def lateralSource (r : Readers) : Parse (Expr × Bool) := do
  match ← unnest r true with
  | some e => pure (e, false)
  | none =>
    let first ←
      match ← r.call {} with
      | some e => pure e
      | none =>
        match ← name r false with
        | some name => pure (.compound name.operands)
        | none => failure
    let further (e : Expr) : Parse (Option Expr) := do
      if ← acceptSymbol "." then
        match ← r.call { bare := false } with
        | some e' => pure (some (.compound [e, e']))
        | none =>
          match ← name r false with
          | some name => pure (some (.compound (e :: name.operands)))
          | none => failure
      else pure none
    pure (← repeated further first, true)

/-- A table that may use those before it. -/
def lateral (r : Readers) : Parse (Option Expr) := do
  let applied ←
    if ← acceptAll [isWord "CROSS", isWord "APPLY"] then pure true
    else acceptAll [isWord "OUTER", isWord "APPLY"]
  let marked ← if applied then pure true else acceptWord "LATERAL"
  if !marked then pure none
  else
    let query ← r.query .table
    let view ← if applied then pure false else acceptWord "VIEW"
    unless applied do
      let _ ← acceptWord "OUTER"
    let (source, nameable) ←
      match query with
      | some q => pure (q.expr, false)
      | none => lateralSource r
    if view then
      let _ ← name r false
      if ← acceptWord "AS" then
        let _ ← commaItems (name r true)
    else if nameable then
      let _ ← acceptOrdinality
      let _ ← tableName r
    pure (some (.compound [source]))

/-! ## 2. A table by its name -/

/-- A part of the name of a table, or a function in its place. -/
def tablePart (r : Readers) (named : Bool) : Parse (Option Expr) := do
  let call ← if named then pure none else r.call ⟨false, false, false⟩
  match call with
  | some e => pure (some e)
  | none =>
    match ← firstOf [name r false, quotedText] with
    | some name => pure (some (.compound name.operands))
    | none => pure none

/-- The parts of the name of a table. The last one must be there. -/
def tableParts (r : Readers) (named : Bool) : Parse Expr := do
  let further : Option Expr × List Expr → Parse (Option (Option Expr × List Expr))
    | (last, before) => do
      if ← acceptSymbol "." then pure (some (← tablePart r named, before ++ last.toList))
      else pure none
  let (last, before) ← repeated further (← tablePart r named, [])
  match last with
  | some e => pure (.compound (e :: before))
  | none => failure

def plainTable (r : Readers) (form : TableForm) : Parse Expr := do
  let e ←
    if ← acceptTexts ["ROWS", "FROM"] then do
      pure (.compound (← parenthesized (commaItems (r.table {}))))
    else
      let _ ← acceptWord "ONLY"
      tableParts r form.named
  let _ ← acceptSymbol "*"
  if form.named then pure e
  else
    let _ ← tableName r form.names
    let sample ← tableSample r false
    let joins ← if form.joins then many r.join else pure []
    if ← acceptOrdinality then
      let _ ← tableName r
    pure (.compound (e :: sample.getD [] ++ joins))

/-! ## 3. Joined tables -/

/-- The words before `JOIN`: whether a method is given, and the kind. -/
def joinWords : Parse (Bool × Option String) := do
  let method ← acceptAnyWord ["ASOF", "NATURAL"]
  let _ ← acceptAnyWord ["LEFT", "RIGHT", "FULL"]
  let kind ← acceptAnyWord ["ANTI", "CROSS", "INNER", "OUTER", "SEMI", "STRAIGHT_JOIN"]
  pure (method.isSome, kind)

/-- A table that is applied to each row of another comes next. -/
def atApplied : Parse Bool := fun ts =>
  some (beginsWith [isAnyWord ["CROSS", "OUTER"], isWord "APPLY"] ts, ts)

def joinCondition (r : Readers) : Parse (Option (List Expr)) := do
  if ← acceptWord "ON" then pure (some (← r.disjunction).toList)
  else if ← acceptWord "USING" then
    let opened ← acceptSymbol "("
    let operands ← commaItems r.column
    if opened then expectSymbol ")"
    pure (some (operands.filter fun e => e.columnName?.isNone))
  else pure none

/-- The condition of a join that comes after the joins of its own table. -/
def lateCondition (r : Readers) : Parse (List Expr) := fun ts =>
  let read : Parse (Option (List Expr)) := do
    match ← many r.join with
    | [] => pure none
    | joins => pure ((← joinCondition r).map (joins ++ ·))
  match read ts with
  | some (some operands, rest) => some (operands, rest)
  | some (none, _) => some ([], ts)
  | none => none

def joinedTable (r : Readers) (plain : Bool) : Parse Expr := do
  let e ← required (r.table {})
  match ← joinCondition r with
  | some operands => pure (.compound (e :: operands))
  | none =>
    match e, plain with
    | .call _ _, _ => pure e
    | _, false => pure e
    | _, true => pure (.compound (e :: (← lateCondition r)))

/-- A table joined to those before it, by a comma or a word. A comma may stand alone. -/
def join (r : Readers) : Parse (Option Expr) := do
  if ← acceptSymbol "," then attempt (r.table {})
  else
    let start ← get
    let (method, kind) ← joinWords
    let _ ← acceptTexts ["DIRECTED"]
    if ← (acceptWord "JOIN" <||> pure (kind == some "STRAIGHT_JOIN")) then
      some <$> joinedTable r (!method && kind != some "CROSS")
    else
      set start
      if ← atApplied then some <$> joinedTable r false else pure none

def table (r : Readers) (form : TableForm) : Parse (Option Expr) := do
  match ← firstOf [lateral r, unnest r true] with
  | some e => pure (some e)
  | none =>
    match ← valueRows r with
    | some rows => pure (some rows.expr)
    | none =>
      match ← r.query .table with
      | some q =>
        let joins ← if form.joins then many r.join else pure []
        pure (some { q with body := q.body ++ joins }.expr)
      | none => some <$> plainTable r form

end Grammar

end SchemaCatalog
