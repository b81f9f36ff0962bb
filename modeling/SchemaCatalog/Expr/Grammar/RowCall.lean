import SchemaCatalog.Expr.Grammar.Argument
import SchemaCatalog.Expr.Grammar.TypeName

/-!
# Calls that answer rows

The functions that make a table of a document or fill the gaps of one. Their columns are defined in the
call: the names and paths of these are no columns, but their defaults and what is passed are operands.
-/

namespace SchemaCatalog

open Sql

namespace Grammar

/-! ## 1. Columns of rows -/

def definedType (type : Option TypeForm) : List Expr := (type.map TypeForm.operands).getD []

/-- A phrase that makes a column the number of its row. -/
def acceptRowNumber : Parse Bool := acceptAll [isWord "FOR", isWord "ORDINALITY"]

def columnPath (r : Readers) : Parse (List Expr) := do
  if ← acceptTexts ["PATH"] then pure (← text r).toList else pure []

/-- The columns that a document is read into, with others nested below them at most so deep. -/
def documentColumnsAtMost (r : Readers) : Nat → Parse (List Expr)
  | 0 => failure
  | n + 1 => do
    let _ ← acceptTexts ["COLUMNS"]
    let column : Parse (Option Expr) := do
      if ← acceptTexts ["NESTED"] then
        let path ← columnPath r
        pure (some (.compound (path ++ (← documentColumnsAtMost r n))))
      else
        let name ← name r false
        let _ ← acceptRowNumber
        let type ← if ← atToken Vocabulary.isType then r.type true else pure none
        let path ← columnPath r
        pure (some (.compound ((name.map NameForm.operands).getD [] ++ definedType type ++ path)))
    if ← atSymbol "(" then parenthesized (commaItems column) else commaItems column

def documentColumns (r : Readers) : Parse (List Expr) := fun ts =>
  documentColumnsAtMost r (ts.length + 1) ts

def memberColumn (r : Readers) : Parse (Option Expr) := do
  let field ← firstOf [r.primary, r.call {}, do pure ((← name r true).map NameForm.column)]
  match field, ← r.type true with
  | some _, some type =>
    let path ← text r
    let _ ← acceptAll [isWord "AS", isWord "JSON"]
    pure (some (.compound (type.operands ++ path.toList)))
  | _, _ => failure

def columnRule (r : Readers) : Parse (Option Expr) := do
  if ← acceptTexts ["PATH"] then pure (some (.compound (← text r).toList))
  else if ← acceptWord "DEFAULT" then pure (some (.compound (← r.bitwise).toList))
  else if ← (acceptAll [isWord "NOT", isWord "NULL"] <||> acceptWord "NULL") then
    pure (some (.compound []))
  else pure none

def elementColumn (r : Readers) : Parse (Option Expr) := do
  match ← name r true with
  | none => pure none
  | some name =>
    let type ← r.type true
    if ← acceptRowNumber then pure (some (.compound name.operands))
    else pure (some (.compound (name.operands ++ definedType type ++ (← many (columnRule r)))))

/-! ## 2. The calls -/

/-- What stands for a document that is wrong or empty, after the word for that event. -/
def fallbackOn (r : Readers) (event : String) : Parse (List Expr) := do
  if ← acceptAnyTexts [["ERROR", "ON", event], ["NULL", "ON", event]] then pure []
  else
    let value ← attempt do
      if ← acceptWord "DEFAULT" then
        let value ← r.bitwise
        pure (if ← acceptTexts ["ON", event] then value else none)
      else pure none
    pure value.toList

/-- The path in a document after a comma, if it is given. -/
def documentPath (r : Readers) : Parse (List Expr) := do
  if ← acceptSymbol "," then pure (← text r).toList else pure []

def documentRows (r : Readers) : Parse Expr := do
  let value ← required r.bitwise
  let _ ← acceptTexts ["FORMAT", "JSON"]
  let path ← documentPath r
  let wrong ← fallbackOn r "ERROR"
  let empty ← fallbackOn r "EMPTY"
  let columns ← documentColumns r
  pure (.call ["j_s_o_n_table"] (value :: columns ++ path ++ wrong ++ empty))

/-- A document and a path; the columns that it is read into are given in parentheses of their own. -/
def memberRows (r : Readers) : Parse Expr := do
  let value ← required r.bitwise
  let path ← documentPath r
  let columns ←
    if ← acceptAll [(·.isSymbol ")"), isWord "WITH"] then do
      expectSymbol "("
      commaItems (memberColumn r)
    else pure []
  pure (.call ["open_j_s_o_n"] (value :: path ++ columns))

/-- The name of a space of element names, which may be the space of names without one. -/
def nameSpace (r : Readers) : Parse (Option Expr) := do
  if ← acceptWord "DEFAULT" then some <$> required (text r)
  else some <$> required (aliased r false (text r))

/-- A path, what it is taken of, and the columns that the elements are read into. -/
def elementRows (r : Readers) : Parse Expr := do
  let spaces ←
    if ← acceptTexts ["XMLNAMESPACES", "("] then do
      let spaces ← commaItems (nameSpace r)
      let _ ← acceptTexts [")", ","]
      pure spaces
    else pure []
  let path ← required (text r)
  let passed ←
    if ← acceptTexts ["PASSING"] then do
      let _ ← acceptTexts ["BY", "VALUE"]
      commaItems r.column
    else pure []
  let _ ← acceptTexts ["RETURNING", "SEQUENCE", "BY", "REF"]
  let columns ← if ← acceptTexts ["COLUMNS"] then commaItems (elementColumn r) else pure []
  pure (.call ["x_m_l_table"] (path :: spaces ++ passed ++ columns))

/-- A table whose gaps in a time are filled, with two to six further arguments. -/
def filledRows (r : Readers) : Parse Expr := do
  let _ ← acceptWord "TABLE"
  let table ← required (r.table {})
  let _ ← acceptSymbol ","
  let arguments ← commaItems (r.argument false)
  if arguments.length < 2 || 6 < arguments.length then failure
  pure (.call ["gap_fill"] (table :: arguments))

end Grammar

end SchemaCatalog
