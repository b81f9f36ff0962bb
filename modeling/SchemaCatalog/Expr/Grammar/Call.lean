import SchemaCatalog.Expr.Grammar.OwnCall

/-!
# Calls

A call has its arguments in parentheses, in a form of its own or separated by commas; a few functions
are called without any, and some constructs such as `CASE` begin like one. What follows a call, such as
a window, belongs to it.
-/

namespace SchemaCatalog

open Sql

namespace Grammar

/-! ## 1. Constructs without parentheses -/

/-- The functions that are called without parentheses. -/
def niladicWords : List String :=
  ["CURRENT_TIMESTAMP", "CURRENT_DATE", "CURRENT_TIME", "LOCALTIMESTAMP", "LOCALTIME",
    "CURRENT_USER", "SESSION_USER", "CURRENT_SCHEMA", "CURRENT_CATALOG"]

def branch (r : Readers) : Parse (Option Expr) := do
  if ← acceptWord "WHEN" then
    let condition ← required r.disjunction
    let _ ← acceptWord "THEN"
    let result ← required r.disjunction
    pure (some (.call ["if", "iif"] [condition, result]))
  else pure none

/-- The tokens and the result read from them are an interval whose value is the word `END`. -/
def isEndInterval (ts : List Token) : Option Expr → Bool
  | some (.compound (.column [] name :: _)) =>
    beginsWith [isWord "INTERVAL", isWord "END"] ts && Text.upper name == "END"
  | _ => false

/-- The last result of `CASE`, and its end. An interval that takes the end for its value is the column
`interval`. -/
def fallback (r : Readers) : Parse (List Expr) := do
  if ← acceptWord "ELSE" then
    let before ← get
    let result ← r.disjunction
    if ← acceptWord "END" then pure result.toList
    else if isEndInterval before result then pure [.column [] "interval"]
    else failure
  else
    unless ← acceptWord "END" do failure
    pure []

/-- `CASE` with its branches, none where a point follows the word, which is then a name. -/
def cases (r : Readers) : Parse (Option Expr) := do
  if ← atSymbol "." then pure none
  else
    let subject ← r.disjunction
    match ← many (branch r) with
    | [] => failure
    | branches => pure (some (.call ["case"] (subject.toList ++ branches ++ (← fallback r))))

/-- `IF` with its condition and results, none where no condition follows the word. -/
def conditional (r : Readers) : Parse (Option Expr) := do
  if ← acceptSymbol "(" then
    let arguments ← commaItems (aliased r true r.assignment)
    expectSymbol ")"
    if arguments.length < 2 || 3 < arguments.length then failure
    pure (some (.call ["if", "iif"] arguments))
  else
    match ← r.disjunction with
    | none => pure none
    | some condition =>
      let _ ← acceptWord "THEN"
      let result ← required r.disjunction
      let other ← if ← acceptWord "ELSE" then r.disjunction else pure none
      let _ ← acceptWord "END"
      pure (some (.call ["if", "iif"] (condition :: result :: other.toList)))

/-- The next value of a sequence, none if only the first word is there. -/
def nextValue (r : Readers) : Parse (Option Expr) := do
  if ← acceptTexts ["VALUE", "FOR"] then
    let sequence ← required r.column
    let keys ← if ← acceptWord "OVER" then parenthesized (order r) else pure none
    pure (some (.call ["next_value_for"] (sequence :: keys.getD [])))
  else pure none

/-- The reader of what follows a word that begins a construct without parentheses. -/
def bareCall? (r : Readers) (word : String) : Option (Parse (Option Expr)) :=
  match word with
  | "ANY" | "VARIADIC" => some do pure (some (.compound [← required r.bitwise]))
  | "CASE" => some (cases r)
  | "CONNECT_BY_ROOT" => some do pure (some (.compound [← required r.column]))
  | "IF" => some (conditional r)
  | "NEXT" => some (nextValue r)
  | _ => none

/-! ## 2. Calls with parentheses -/

/-- The words of tests on a query in parentheses. -/
def queryTestWords : List String := ["ALL", "EXISTS", "SOME"]

def atQuery : Parse Bool := atToken (isAnyWord ["SELECT", "WITH"])

/-- The arguments of a call, where the values of a record are no columns by their names. -/
def callArguments (r : Readers) (name : String) : Parse (List Expr) := do
  let record := name == "struct"
  let arguments ← commaItems (r.argument (record || !Function.isKnown name))
  if record then
    pure (arguments.map fun e =>
      match e with
      | .compare .eq _ value => value
      | e => e)
  else pure arguments

def openedCall (r : Readers) (plain : Bool) (t : Token) : Parse Expr := do
  let name := Text.lower t.text
  if plain then
    let arguments ← commaItems (r.argument true)
    expectSymbol ")"
    windowed r (.call [name] arguments)
  else
    match ownCall? r (Text.upper t.text) with
    | some read =>
      let e ← read
      expectSymbol ")"
      windowed r e
    | none =>
      if ← (pure (isAnyWord queryTestWords t) <&&> atQuery) then
        let q ← required (r.query .bare)
        expectSymbol ")"
        pure (if isWord "EXISTS" t then .call ["exists"] [q.expr] else .compound [q.expr])
      else
        match Function.call? name (← callArguments r name) with
        | some e =>
          expectSymbol ")"
          windowed r e
        | none => failure

/-- A call with parentheses, or without if the function needs none. -/
def wordCall (r : Readers) (form : CallForm) (t : Token) (rest : List Token) :
    Parse (Option Expr) := do
  if rest.head?.any Token.isOpen then
    let callable := if form.anyName then !Vocabulary.isReserved t else Vocabulary.isCallable t
    if callable then
      set (rest.drop 1)
      some <$> openedCall r form.plain t
    else pure none
  else if form.bare && isAnyWord niladicWords t then
    set rest
    pure (some (.call [Text.lower t.text] []))
  else pure none

/-- A call, or a construct that begins like one. -/
def innerCall (r : Readers) (form : CallForm) : Parse (Option Expr) := fun ts =>
  match ts with
  | [] => some (none, ts)
  | t :: rest =>
    let bare? := if form.bare && t.kind == .word then bareCall? r (Text.upper t.text) else none
    match bare? with
    | none => wordCall r form t rest ts
    | some read =>
      match read rest with
      | some (some e, rest) => (some <$> windowed r e) rest
      | some (none, _) => some (none, ts)
      | none => none

/-- A call, possibly in braces. -/
def call (r : Readers) (form : CallForm) : Parse (Option Expr) := do
  if ← acceptAll [(·.isSymbol "\x7b"), hasText "FN"] then
    let e ← innerCall r form
    let _ ← acceptSymbol "\x7d"
    pure e
  else innerCall r form

end Grammar

end SchemaCatalog
