import SchemaCatalog.Expr.Grammar.Table
import SchemaCatalog.Expr.Grammar.Window

/-!
# Queries

A query is a selection, rows written out, or several of these joined by `UNION` and its kin; named
queries may come before it, and clauses after it. The columns of a selection are hidden, those of its
clauses too; but an order or limit at the end of a union is that of the union, which hides none.
-/

namespace SchemaCatalog

open Sql

namespace Grammar

/-! ## 1. Clauses -/

/-- Groups of rows that are summed up together; absent where another element comes next. -/
def cube (r : Readers) (marked : Bool) : Parse (Option (List Expr)) := do
  if (← acceptAnyWord ["CUBE", "ROLLUP"]).isSome then
    if marked then pure (some []) else some <$> parenthesized (commaItems r.bitwise)
  else pure none

def groupingSet (r : Readers) : Parse (Option Expr) := do
  match ← cube r false with
  | some operands => pure (some (.compound operands))
  | none => r.bitwise

/-- The elements of a grouping up to the next `CUBE` or the like, and whether they are the last ones. -/
def groupElements (r : Readers) : List Expr × Bool → Parse (Option (List Expr × Bool))
  | (_, true) => pure none
  | (read, false) => do
    let key : Parse (Option Expr) := do
      if ← atToken (isAnyWord ["CUBE", "ROLLUP"]) then pure none else r.disjunction
    let keys ← commaItems key
    let before ← get
    let marked ← acceptWord "WITH"
    let further ←
      match ← cube r marked with
      | some operands => pure operands
      | none =>
        if ← acceptWord "GROUPING SETS" then parenthesized (commaItems (groupingSet r))
        else
          let _ ← acceptTexts ["TOTALS"]
          pure []
    let now ← get
    if before.length ≤ now.length + 1 then
      set before
      pure (some (read ++ keys, true))
    else pure (some (read ++ keys ++ further, false))

def clauseWords : List String :=
  ["WHERE", "GROUP BY", "HAVING", "QUALIFY", "WINDOW", "ORDER BY", "LIMIT", "FETCH", "OFFSET", "FOR",
    "LOCK", "TABLESAMPLE", "USING", "CLUSTER BY", "DISTRIBUTE BY", "SORT BY", "CONNECT BY",
    "START WITH"]

def groups (r : Readers) : Parse (List Expr) := do
  unless ← acceptWord "ALL" do
    let _ ← acceptWord "DISTINCT"
  if ← atToken (isAnyWord clauseWords) then pure []
  else pure (← repeated (groupElements r) ([], false)).1

def lock (r : Readers) : Parse (Option (List Expr)) := do
  let found ← acceptAnyTexts
    [["FOR", "UPDATE"], ["FOR", "SHARE"], ["LOCK", "IN", "SHARE", "MODE"], ["FOR", "KEY", "SHARE"],
      ["FOR", "NO", "KEY", "UPDATE"]]
  if !found then pure none
  else
    let tables ←
      if ← acceptTexts ["OF"] then commaItems (r.table { named := true }) else pure []
    let patience ←
      if ← acceptTexts ["NOWAIT"] then pure none
      else if ← acceptTexts ["WAIT"] then r.primary
      else
        let _ ← acceptTexts ["SKIP", "LOCKED"]
        pure none
    pure (some (tables ++ patience.toList))

def locks (r : Readers) : Parse (Option (List Expr)) := do
  match ← many (lock r) with
  | [] => pure none
  | found => pure (some found.flatten)

def connection (r : Readers) : Parse (Option (List Expr)) := do
  let first ← if ← acceptWord "START WITH" then r.disjunction else pure none
  let _ ← acceptWord "CONNECT BY"
  let _ ← acceptTexts ["NOCYCLE"]
  let condition ← required r.disjunction
  let late ←
    if ← (pure first.isNone <&&> acceptWord "START WITH") then r.disjunction else pure none
  pure (some (first.toList ++ late.toList ++ [condition]))

def condition (r : Readers) (word : String) : Parse (Option (List Expr)) := do
  if ← acceptWord word then pure (some [← required r.disjunction]) else pure none

/-- The reader of the clause that a word begins. -/
def clauseReader? (r : Readers) (word : String) : Option (ClauseKind × Parse (Option (List Expr))) :=
  match word with
  | "WHERE" => some (.condition, condition r word)
  | "HAVING" => some (.having, condition r word)
  | "QUALIFY" => some (.qualification, condition r word)
  | "GROUP BY" => some (.groups, do advance; some <$> groups r)
  | "WINDOW" => some (.windows, do advance; some <$> commaItems (namedWindow r))
  | "ORDER BY" => some (.order, order r)
  | "LIMIT" | "FETCH" => some (.limit, limit r)
  | "OFFSET" => some (.offset, offset r)
  | "FOR" | "LOCK" => some (.locks, locks r)
  | "TABLESAMPLE" | "USING" => some (.sample, tableSample r true)
  | "CLUSTER BY" => some (.clusters, keysAfter r word)
  | "DISTRIBUTE BY" => some (.distribution, keysAfter r word)
  | "SORT BY" => some (.sorting, keysAfter r word)
  | "CONNECT BY" | "START WITH" => some (.connection, connection r)
  | _ => none

/-- A query with one more clause, if it comes next. No clause may come twice. -/
def withClause (r : Readers) (q : QueryForm) : Parse (Option QueryForm) := do
  match ((← peek).bind Vocabulary.word?).bind (clauseReader? r) with
  | none => pure none
  | some (kind, read) =>
    match ← read with
    | none => pure none
    | some operands => if q.has kind then failure else pure (some (q.put kind operands))

def modified (r : Readers) (q : QueryForm) : Parse QueryForm := do
  let joins ← many r.join
  let q := if joins.isEmpty then q else q.put .joins joins
  let laterals ← many (lateral r)
  let q := if laterals.isEmpty then q else q.put .laterals laterals
  repeated (withClause r) q

/-! ## 2. Unions -/

def unionOf (left right : QueryForm) : QueryForm := ⟨.union, [left.expr, right.expr], [], []⟩

/-- The clauses at the end of a union that are its own. -/
def unionClauses : List ClauseKind := [.order, .limit, .offset]

/-- A union that takes the last clauses over from its right side. -/
def finalUnion (left right : QueryForm) : QueryForm :=
  let rest := unionClauses.foldl QueryForm.without right
  unionClauses.foldl
    (fun q kind =>
      match right.clause? kind with
      | some operands => q.put kind operands
      | none => q)
    (unionOf left rest)

/-- How the columns of united queries are matched by name. -/
def matching (r : Readers) : Parse (List Expr) := do
  let named ← acceptAnyTexts [["BY", "NAME"], ["STRICT", "CORRESPONDING"]]
  let corresponding ← acceptTexts ["CORRESPONDING"]
  if named || corresponding then
    if (← acceptAnyText ["ON", "BY"]).isSome then parenthesized (commaItems r.column) else pure []
  else pure []

def unionRight (r : Readers) : Parse (Option QueryForm) := do
  let start ← get
  let _ ← joinWords
  if (← acceptAnyWord ["UNION", "EXCEPT", "INTERSECT"]).isSome then
    unless ← acceptWord "DISTINCT" do
      let _ ← acceptWord "ALL"
    let columns ← matching r
    let q ← required (r.query .nested)
    pure (some { q with common := q.common ++ columns })
  else
    set start
    pure none

def united (r : Readers) (form : OperandForm) : Parse OperandForm := do
  let first :=
    match form with
    | .plain e => ⟨.other, [e], [], []⟩
    | .query q => q
  let further : QueryForm × Option QueryForm → Parse (Option (QueryForm × Option QueryForm))
    | (left, right) => do
      let left := (right.map (unionOf left)).getD left
      pure ((← unionRight r).map fun next => (left, some next))
  match ← repeated further (first, none) with
  | (_, none) => pure form
  | (left, some right) => pure (.query (finalUnion left right))

def operandOrQuery (r : Readers) (read : Parse (Option Expr)) : Parse (Option OperandForm) := do
  match ← read with
  | some e => some <$> united r (.plain e)
  | none => pure ((← r.query .bare).map .query)

/-- An expression or a query as a statement of its own, with the clauses of a query. -/
def plainStatement (r : Readers) : Parse (Option OperandForm) := do
  match ← operandOrQuery r r.expression with
  | none => pure none
  | some form =>
    match form.query? with
    | some q => pure (some (.query (← modified r q)))
    | none => pure (some form)

/-! ## 3. One query -/

/-- The words of statements that may follow named queries. -/
def changeWords : List String := ["INSERT", "UPDATE", "DELETE", "MERGE"]

def commonQuery (r : Readers) : Parse (Option Expr) := do
  let name ← required (name r false)
  let _ ← columnRow r
  unless ← acceptWord "AS" do failure
  unless ← acceptTexts ["NOT", "MATERIALIZED"] do
    let _ ← acceptTexts ["MATERIALIZED"]
  let body ← parenthesized (required r.statement)
  pure (some (.compound (body :: name.operands)))

def commonQueries (r : Readers) : Parse (List Expr) := do
  let _ ← acceptWord "RECURSIVE"
  let first ← commonQuery r
  let further (queries : List Expr) : Parse (Option (List Expr)) := do
    if ← (acceptSymbol "," <||> acceptWord "WITH") then
      let _ ← acceptWord "WITH"
      pure (some (queries ++ (← commonQuery r).toList))
    else pure none
  repeated further first.toList

def queryAfter (r : Readers) (common : List Expr) : Parse QueryForm := do
  if ← atToken (isAnyWord changeWords) then
    pure ⟨.other, [← required r.statement], [], common⟩
  else
    match ← plainStatement r with
    | some (.query q) => pure { q with common := q.common ++ common }
    | _ => failure

/-- What tells the rows of a selection apart: the rows counted once, by some keys or as a whole. -/
def distinction (r : Readers) : Parse (List Expr) := fun ts =>
  if ts.tail.head?.any fun t => !t.isSymbol "." then
    (do
      let _ ← acceptWord "ALL"
      if ← (acceptWord "DISTINCT" <&&> acceptWord "ON") then pure (← valueRow r).toList
      else pure []) ts
  else some ([], ts)

def target (r : Readers) : Parse (Option (List Expr)) := do
  if ← acceptWord "INTO" then
    let _ ← acceptAnyWord ["TEMP", "TEMPORARY"]
    let _ ← acceptTexts ["UNLOGGED"]
    let _ ← acceptWord "TABLE"
    pure (some (← r.table { named := true }).toList)
  else pure none

def source (r : Readers) (joins : Bool) : Parse (Option (List Expr)) := do
  if ← acceptWord "FROM" then pure (some [← required (r.table { joins })]) else pure none

/-- A selection after its first word, where the table may have come before. -/
def selection (r : Readers) (table : Option (List Expr)) : Parse QueryForm := do
  let keys ← distinction r
  if ← acceptWord "AS" then
    let _ ← acceptAnyText ["STRUCT", "VALUE"]
  let top ← if ← atWord "FETCH" then limit r else pure none
  let items ← commaItems r.expression
  let into ← target r
  let table ← if table.isSome then pure table else source r false
  modified r
    ⟨.selection, keys ++ items, [(.limit, top), (.target, into), (.source, table)], []⟩

/-- The query or table after an opening parenthesis, up to the closing one. -/
def enclosedQuery (r : Readers) (table : Bool) : Parse (Option QueryForm) := do
  let inner ←
    if ← atWord "FROM" then r.query .bare
    else if table then pure ((← r.table {}).map fun e => ⟨.other, [e], [], []⟩)
    else r.query .nested
  match inner with
  | none =>
    expectSymbol ")"
    pure none
  | some q =>
    let q ←
      match ← united r (.query q) with
      | .query q => modified r q
      | .plain e => modified r ⟨.other, [e], [], []⟩
    expectSymbol ")"
    let name ← tableName r
    let sample ← tableSample r false
    pure (some (q.enclosed (name.getD [] ++ sample.getD [])))

/-- The description of a table, which may stand where a query may. -/
def description (r : Readers) : Parse QueryForm := do
  let _ ← acceptAnyWord Vocabulary.objectWords
  let _ ← acceptAnyText ["ANALYZE", "EXTENDED", "FORMATTED", "HISTORY"]
  pure ⟨.other, [← required (r.table { named := true })], [], []⟩

def simpleQuery (r : Readers) (place : QueryPlace) : Parse (Option QueryForm) := do
  let table ← source r true
  if ← acceptWord "SELECT" then some <$> selection r table
  else if ← (pure (place != .bare) <&&> acceptSymbol "(") then enclosedQuery r (place = .table)
  else if ← atWord "VALUES" then valueRows r
  else if table.isSome then
    some <$> modified r ⟨.selection, [], [(.limit, none), (.source, table)], []⟩
  else if ← acceptWord "DESCRIBE" then some <$> description r
  else pure none

def query (r : Readers) (place : QueryPlace) : Parse (Option QueryForm) := do
  if ← acceptWord "WITH" then some <$> queryAfter r (← commonQueries r)
  else
    let enclosed ← (pure (place != .bare) <&&> atSymbol "(")
    match ← simpleQuery r place with
    | none => pure none
    | some q =>
      if enclosed || place = .nested then pure (some q)
      else
        match ← united r (.query q) with
        | .query q => pure (some q)
        | .plain e => pure (some ⟨.other, [e], [], []⟩)

end Grammar

end SchemaCatalog
