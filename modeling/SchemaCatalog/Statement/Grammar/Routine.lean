import SchemaCatalog.DataType
import SchemaCatalog.Statement.Grammar.Name

/-!
# Reading indexes, functions, triggers and policies

Of an index item only its expression is kept, of a function its arguments, return type, language and
body.
-/

namespace SchemaCatalog

open Sql Reader

/-! ## 1. Indexes -/

/-- Passes the expression of an index item: one in parentheses, a name, or a call. -/
def skipIndexExpression : Reader Unit := do
  if ← atSymbol "(" then
    let _ ← parenthesized
  else
    let _ ← qualifiedName
    if ← atSymbol "(" then
      let _ ← parenthesized

/-- Reads an index item; its collation, operator class and order are dropped. -/
def readIndexItem (part : List Token) : Reader Expression := do
  let left ← within part do
    skipIndexExpression
    remaining
  Expression.read (part.take (part.length - left.length))

def CreateIndex.read (unique : Bool) : Reader Statement := do
  let _ ← accept ["CONCURRENTLY"]
  let ifNotExists ← accept ["IF", "NOT", "EXISTS"]
  let name ←
    if ← atWords ["ON"] then pure none
    else do
      let (first, others) ← qualifiedName
      pure (some (others.getLastD first))
  expect ["ON"]
  let _ ← accept ["ONLY"]
  let table ← ObjectName.read
  if ← accept ["USING"] then
    let _ ← advance
  let items ← each readIndexItem (splitCommas (← parenthesized))
  pure (.createIndex { table, items, name, unique, ifNotExists })

/-! ## 2. Functions -/

def functionOptionWords : List String :=
  ["LANGUAGE", "AS", "IMMUTABLE", "STABLE", "VOLATILE", "NOT", "LEAKPROOF", "CALLED", "RETURNS",
    "STRICT", "SECURITY", "EXTERNAL", "PARALLEL", "COST", "ROWS", "SUPPORT", "SET", "WINDOW",
    "RETURN", "BEGIN", "TRANSFORM"]

def argumentModes : List String := ["IN", "OUT", "INOUT", "VARIADIC"]

/-- Reads the mode, the tokens of name and type, and the default of an argument. -/
def readArgumentParts : Reader (Option String × List Token × Option String) := do
  let word ← word?
  let mode ←
    if argumentModes.contains (word.getD "") then do
      let t ← advance
      pure (some (Text.upper t.text))
    else pure none
  let tokens ← untilWordOrSymbol ["DEFAULT"] ["="]
  let default ←
    if ← (accept ["DEFAULT"] <||> acceptSymbol "=") then do
      pure (some (← text (← remaining)))
    else pure none
  pure (mode, tokens, default)

/-- Reads an argument of a function. Of two words that make no type together the first is its
name. -/
def FunctionArgument.read (part : List Token) : Reader FunctionArgument := do
  let (mode, tokens, default) ← within part readArgumentParts
  match tokens with
  | [] => expected "an argument type"
  | first :: others =>
    let whole ← readTypeText tokens
    let named := (others.head?.map Token.isName).getD false && !DataType.isMultiword whole
    if named then
      pure { dataType := ← readTypeText others, name := some first.text, mode, default }
    else pure { dataType := whole, name := none, mode, default }

def readArguments : Reader (List FunctionArgument) := do
  let inside ← parenthesized
  each FunctionArgument.read (splitCommas inside)

def readReturnType : Reader String := do
  if ← accept ["TABLE"] then
    let columns ← text (← parenthesized)
    pure ("TABLE (" ++ columns ++ ")")
  else readTypeText (← untilWord functionOptionWords)

def CreateFunction.readOption (f : CreateFunction) : Reader CreateFunction := do
  if ← accept ["LANGUAGE"] then
    let t ← advance
    pure { f with language := some (Text.lower t.text) }
  else if ← accept ["AS"] then
    let body ← string
    if ← acceptSymbol "," then
      let _ ← string
    pure { f with body := some body }
  else if ← accept ["RETURN"] then
    pure { f with body := some ("RETURN " ++ (← text (← remaining))) }
  else if ← accept ["BEGIN"] then
    pure { f with body := some ("BEGIN " ++ (← text (← remaining))) }
  else if ← accept ["SET"] then
    let _ ← untilWord (functionOptionWords.filter (· != "SET"))
    pure f
  else if ← accept ["SUPPORT"] then
    let _ ← qualifiedName
    pure f
  else
    let _ ← advance
    pure f

def CreateFunction.read (orReplace : Bool) : Reader Statement := do
  let name ← ObjectName.read
  let arguments ← readArguments
  let returnType ← if ← accept ["RETURNS"] then some <$> readReturnType else pure none
  let f : CreateFunction := { name, arguments, returnType, orReplace }
  pure (.createFunction (← untilEnd CreateFunction.readOption f))

/-- Reads a function to drop or to grant on: its name and, if given, its argument types. -/
def FunctionSignature.read : Reader FunctionSignature := do
  let name ← ObjectName.read
  if ← atSymbol "(" then
    let arguments ← readArguments
    let inputs := arguments.filter (·.mode != some "OUT")
    pure { name, argumentTypes := some (inputs.map (·.dataType)) }
  else pure { name }

/-! ## 3. Triggers -/

def TriggerTiming.read : Reader TriggerTiming := do
  if ← accept ["BEFORE"] then pure .before
  else if ← accept ["AFTER"] then pure .after
  else
    expect ["INSTEAD", "OF"]
    pure .insteadOf

/-- Reads an event of a trigger with the columns an update is limited to. -/
def TriggerEvent.read : Reader (TriggerEvent × List String) := do
  let word ← word?
  match word.bind TriggerEvent.ofKeyword? with
  | none => expected "a trigger event"
  | some event =>
    let _ ← advance
    if ← (pure (event == .update) <&&> accept ["OF"]) then pure (event, ← commaSeparated identifier)
    else pure (event, [])

def readTriggerEvents : Reader (List (TriggerEvent × List String)) := do
  let first ← TriggerEvent.read
  let events ← iterate
    (fun events => do
      if ← accept ["OR"] then
        let next ← TriggerEvent.read
        pure (some (next :: events))
      else pure none)
    [first]
  pure events.reverse

/-- Passes one transition table after `REFERENCING`, if there is one. -/
def skipTransition : Reader (Option Unit) := do
  let word ← word?
  if word == some "OLD" || word == some "NEW" then
    let _ ← advance
    expect ["TABLE"]
    let _ ← accept ["AS"]
    let _ ← identifier
    pure (some ())
  else pure none

structure TriggerClauses where
  orientation : TriggerOrientation := .statement
  condition : Option Expression := none
  function : Option ObjectName := none

def TriggerClauses.readNext (clauses : TriggerClauses) : Reader TriggerClauses := do
  if ← accept ["FROM"] then
    let _ ← ObjectName.read
    pure clauses
  else if ← acceptAny [["NOT", "DEFERRABLE"], ["DEFERRABLE"]] then pure clauses
  else if ← accept ["INITIALLY"] then
    let _ ← advance
    pure clauses
  else if ← accept ["REFERENCING"] then
    iterate (fun _ => skipTransition) ()
    pure clauses
  else if ← accept ["FOR"] then
    let _ ← accept ["EACH"]
    let word ← word?
    match word.bind TriggerOrientation.ofKeyword? with
    | none => expected "ROW or STATEMENT"
    | some orientation =>
      let _ ← advance
      pure { clauses with orientation }
  else if ← accept ["WHEN"] then
    pure { clauses with condition := some (← Expression.readParenthesized) }
  else if ← accept ["EXECUTE"] then
    unless ← accept ["FUNCTION"] do expect ["PROCEDURE"]
    let function ← ObjectName.read
    let _ ← parenthesized
    pure { clauses with function := some function }
  else unexpected "trigger clause"

def CreateTrigger.read (orReplace : Bool) : Reader Statement := do
  let name ← identifier
  let timing ← TriggerTiming.read
  let events ← readTriggerEvents
  expect ["ON"]
  let table ← ObjectName.read
  let clauses ← untilEnd TriggerClauses.readNext {}
  match clauses.function with
  | none => expected "EXECUTE FUNCTION"
  | some function =>
    pure (.createTrigger
      { name, table, timing, function, orReplace
        events := events.map (·.1)
        updateColumns := events.flatMap (·.2)
        orientation := clauses.orientation
        condition := clauses.condition })

/-! ## 4. Policies -/

def CreatePolicy.readClause (p : CreatePolicy) : Reader CreatePolicy := do
  if ← accept ["AS"] then
    let t ← advance
    pure { p with permissive := Text.upper t.text != "RESTRICTIVE" }
  else if ← accept ["FOR"] then
    let word ← word?
    match word.bind PolicyCommand.ofKeyword? with
    | none => expected "a policy command"
    | some command =>
      let _ ← advance
      pure { p with command }
  else if ← accept ["TO"] then pure { p with roles := ← readRoleNames }
  else if ← accept ["USING"] then
    pure { p with usingRows := some (← Expression.readParenthesized) }
  else if ← accept ["WITH", "CHECK"] then
    pure { p with withCheck := some (← Expression.readParenthesized) }
  else unexpected "policy clause"

def CreatePolicy.read : Reader Statement := do
  let name ← identifier
  expect ["ON"]
  let table ← ObjectName.read
  pure (.createPolicy (← untilEnd CreatePolicy.readClause { name, table }))

end SchemaCatalog
