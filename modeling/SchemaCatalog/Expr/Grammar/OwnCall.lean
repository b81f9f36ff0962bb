import SchemaCatalog.Expr.Function
import SchemaCatalog.Expr.Grammar.RowCall

/-!
# Calls with a form of their own

The functions whose arguments are not merely separated by commas, such as `CAST`, `EXTRACT` and `TRIM`.
`ownCall?` gives the reader of what stands between the parentheses of such a call.
-/

namespace SchemaCatalog

open Sql

namespace Grammar

/-! ## 1. Types and characters -/

def characterSet (r : Readers) : Parse Bool := do
  if ← acceptWord "USING" then
    let _ ← acceptToken Vocabulary.isNominal
    let _ ← placeholder r
    pure true
  else pure false

def atTimeZone (r : Readers) (e : Expr) : Parse Expr :=
  repeated
    (fun e => do
      if ← acceptTexts ["AT", "TIME", "ZONE"] then
        pure (some (.compound [e, ← required r.unary]))
      else pure none)
    e

def castForm (r : Readers) : Parse (Option (List Expr)) := do
  if ← (acceptWord "FORMAT" <||> acceptSymbol ",") then
    match ← text r with
    | some e => pure (some [← atTimeZone r e])
    | none => pure (some [])
  else pure none

def castAs (r : Readers) (names : List String) (value : Expr) : Parse Expr := do
  let type ← r.type true
  let fallback ← if ← acceptWord "DEFAULT" then r.bitwise else pure none
  if fallback.isSome then
    let _ ← acceptTexts ["ON", "CONVERSION", "ERROR"]
  let form ← castForm r
  if form.isNone && type.isNone then failure
  if ← acceptWord "CHARACTER SET" then
    let _ ← acceptToken fun t => isText t || Vocabulary.isNominal t
  let _ ← acceptAnyTexts [["RENAME", "FIELDS"], ["ADD", "FIELDS"]]
  let operands :=
    match type with
    | some (.named _ operands _) => operands
    | some (.filled e) => [e]
    | none => []
  pure (.call names (value :: operands ++ form.getD [] ++ fallback.toList))

/-- `value AS type`, or a value and the text of a type. -/
def castCall (r : Readers) (names : List String) : Parse Expr := do
  let value ← required r.disjunction
  if ← acceptWord "AS" then castAs r names value
  else
    expectSymbol ","
    let type ← required (text r)
    pure (.call ["cast_to_str_type"] [value, type])

/-- A value and a type, or a set of characters. -/
def convertCall (r : Readers) (names : List String) : Parse Expr := do
  let value ← required r.bitwise
  if ← characterSet r then pure (.call names [value])
  else
    expectSymbol ","
    match ← r.type true with
    | some (.named _ operands _) => pure (.call names (value :: operands))
    | some (.filled e) => pure (.call names [value, e])
    | none => failure

def characterCall (r : Readers) : Parse Expr := do
  let codes ← commaItems r.disjunction
  if codes.isEmpty then failure
  let _ ← characterSet r
  pure (.call ["chr", "char"] codes)

/-- A text and its form, or a value with cases. -/
def decodeCall (r : Readers) : Parse Expr := do
  match ← commaItems r.disjunction with
  | [] | [_] => failure
  | [text, form] => pure (.call ["decode"] [text, form])
  | cases => pure (.call ["decode_case"] cases)

/-! ## 2. Numbers and times -/

/-- A number with the places it is rounded to, which may be a unit; nothing has to be there. -/
def roundingCall (r : Readers) (names : List String) : Parse Expr := do
  let arguments ← commaItems (r.argument false)
  if ← acceptTexts ["TO"] then
    let _ ← unitName r false
  pure (.call names (arguments.take 2))

/-- The part of a time to extract: a call, a text or any word. -/
def extractedPart (r : Readers) : Parse (List Expr) := do
  match ← firstOf [r.call {}, text r] with
  | some e => pure [e]
  | none => required (unitName r true)

def extractCall (r : Readers) : Parse Expr := do
  let part ← extractedPart r
  unless ← acceptWord "FROM" do expectSymbol ","
  pure (.call ["extract"] (part ++ [← required r.bitwise]))

/-- A part, which is no column, and a time. -/
def partCall (r : Readers) : Parse Expr := do
  let part ← required r.typed
  let _ ← acceptSymbol ","
  let value ← required r.bitwise
  match part with
  | .column _ _ => pure (.call ["extract"] [value])
  | .nameless _ _ => pure (.call ["extract"] [value])
  | part => pure (.call ["extract"] [part, value])

/-! ## 3. Texts -/

/-- A text with the characters that part its words; further arguments are dropped. -/
def capitalCall (r : Readers) : Parse Expr := do
  pure (.call ["initcap"] ((← commaItems (r.argument false)).take 2))

def normalizeCall (r : Readers) : Parse Expr := do
  let value ← required r.bitwise
  if ← acceptSymbol "," then
    let _ ← unitName r false
  pure (.call ["normalize"] [value])

/-- An argument after a comma or a word, if one of them comes next. -/
def markedArgument (r : Readers) (word : String) : Parse (Option Expr) := do
  if ← (acceptSymbol "," <||> acceptTexts [word]) then r.bitwise else pure none

/-- `text PLACING text FROM start FOR length` -/
def overlayCall (r : Readers) : Parse Expr := do
  let value ← required r.bitwise
  let placed ← required (markedArgument r "PLACING")
  let start ← required (markedArgument r "FROM")
  let length ← markedArgument r "FOR"
  pure (.call ["overlay"] (value :: placed :: start :: length.toList))

/-- `part IN whole` or `part, whole, start`; the whole is visited first. -/
def positionCall (r : Readers) : Parse Expr := do
  let arguments ← commaItems r.bitwise
  if ← acceptWord "IN" then
    match ← r.bitwise, arguments with
    | some whole, part :: _ => pure (.call ["str_position"] [whole, part])
    | _, _ => failure
  else
    match arguments with
    | part :: whole :: start => pure (.call ["str_position"] (whole :: part :: start.take 1))
    | _ => failure

def substringPart (r : Readers) : Option Expr × Option Expr →
    Parse (Option (Option Expr × Option Expr))
  | (start, length) => do
    if ← acceptWord "FROM" then pure (some (← r.bitwise, length))
    else if ← acceptWord "FOR" then
      pure (some (start.orElse fun _ => some (.literal (.number "1")), ← r.bitwise))
    else pure none

/-- `text FROM start FOR length`, or the same parted by commas. -/
def substringCall (r : Readers) : Parse Expr := do
  let arguments ← commaItems r.bitwise
  let (start, length) ← repeated (substringPart r) (none, none)
  match Function.call? "substring" (arguments ++ start.toList ++ length.toList) with
  | some e => pure e
  | none => failure

/-- `LEADING characters FROM text` and its shorter forms; the text is visited first. -/
def trimCall (r : Readers) : Parse Expr := do
  let _ ← acceptAnyText ["BOTH", "LEADING", "TRAILING"]
  let first ← r.bitwise
  let (value, characters) ←
    if ← acceptWord "FROM" then pure (← r.bitwise, first)
    else if ← acceptSymbol "," then pure (first, ← r.bitwise)
    else pure (first, none)
  let collation ← if ← acceptWord "COLLATE" then r.bitwise else pure none
  match value with
  | some value => pure (.call ["trim"] (value :: characters.toList ++ collation.toList))
  | none => failure

/-- `columns) AGAINST (text`, with the way they are matched. -/
def matchCall (r : Readers) : Parse Expr := do
  let columns ←
    if ← acceptTexts ["TABLE"] then pure (← r.table {}).toList else commaItems r.column
  let _ ← acceptTexts [")", "AGAINST", "("]
  let value ← required (text r)
  if columns.isEmpty then failure
  if ← acceptTexts ["IN", "NATURAL", "LANGUAGE", "MODE"] then
    let _ ← acceptTexts ["WITH", "QUERY", "EXPANSION"]
  else
    let _ ← acceptAnyTexts [["IN", "BOOLEAN", "MODE"], ["WITH", "QUERY", "EXPANSION"]]
  pure (.call ["match_against"] (value :: columns))

/-! ## 4. Many rows and documents -/

def overflow (r : Readers) : Parse (List Expr) := do
  if ← acceptTexts ["ON", "OVERFLOW"] then
    if ← acceptTexts ["ERROR"] then pure []
    else
      let _ ← acceptTexts ["TRUNCATE"]
      let filler ← text r
      let _ ← acceptAnyTexts [["WITH", "COUNT"], ["WITHOUT", "COUNT"]]
      pure filler.toList
  else pure []

/-- Texts of many rows with what parts them. An order may come before the closing parenthesis, or after
it, in a group. -/
def joinedTextCall (r : Readers) : Parse Expr := do
  let arguments ←
    if ← acceptWord "DISTINCT" then
      let first ← r.disjunction
      let further ← if ← acceptSymbol "," then commaItems r.disjunction else pure []
      pure (.compound first.toList :: further)
    else commaItems r.disjunction
  let _ ← overflow r
  if ← acceptAll [(·.isSymbol ")"), hasText "WITHIN", hasText "GROUP", (·.isSymbol "(")] then
    match arguments with
    | [] => failure
    | first :: further =>
      pure (.call ["group_concat"] (first :: ((← order r).getD []) ++ further.take 1))
  else if ← atSymbol ")" then
    if arguments.isEmpty || 3 < arguments.length then failure
    pure (.call ["group_concat"] arguments)
  else
    match arguments with
    | [] => failure
    | first :: further =>
      let first ← required (orderedOf r (some first))
      pure (.call ["group_concat"] (first :: further.take 1))

/-- The value that is greatest or least by another one, and how many of them. -/
def extremeCall (r : Readers) (names : List String) : Parse Expr := do
  let first ←
    if ← acceptWord "DISTINCT" then
      let e ← r.argument false
      let _ ← acceptSymbol ","
      pure [.compound e.toList]
    else pure []
  match first ++ (← commaItems (r.argument false)) with
  | value :: key :: further => pure (.call names (value :: key :: further.take 1))
  | _ => failure

def documentMark : Parse Unit := do
  let _ ← acceptTexts ["FORMAT", "JSON"]

def documentEntry (r : Readers) : Parse (Option Expr) := do
  let _ ← acceptTexts ["KEY"]
  let key ← r.column
  unless ← (acceptSymbol ":" <||> acceptSymbol ",") do
    let _ ← acceptWord "IS"
  let _ ← acceptTexts ["VALUE"]
  match key, ← r.bitwise with
  | some key, some value =>
    documentMark
    pure (some (.compound [key, value]))
  | none, none => pure none
  | _, _ => failure

/-- The entries of a document, with what is said of nulls, keys and the result. -/
def documentCall (r : Readers) (names : List String) : Parse Expr := do
  let entries ←
    if ← acceptSymbol "*" then pure [Expr.compound []] else commaItems (documentEntry r)
  let _ ← acceptAnyTexts [["NULL", "ON", "NULL"], ["ABSENT", "ON", "NULL"]]
  let _ ← acceptAnyTexts [["WITH", "UNIQUE"], ["WITHOUT", "UNIQUE"]]
  let _ ← acceptTexts ["KEYS"]
  let type ← if ← acceptTexts ["RETURNING"] then r.typed else pure none
  if type.isSome then documentMark
  if ← acceptTexts ["ENCODING"] then
    let _ ← unitName r false
  pure (.call names (entries ++ type.toList))

def documentRowsCall (r : Readers) : Parse Expr := do
  let value ← required (r.argument false)
  pure (.call ["j_s_o_n_array_agg"] (value :: (← order r).getD []))

/-- A document and the path of what it is asked for. -/
def documentTestCall (r : Readers) : Parse Expr := do
  let value ← required r.bitwise
  expectSymbol ","
  pure (.call ["jsonb_exists"] [value, ← required r.bitwise])

/-- `NAME name` with the content of the element. -/
def elementCall (r : Readers) : Parse Expr := do
  unless ← acceptTexts ["NAME"] do failure
  let name ← required (name r true)
  let content ← if ← acceptSymbol "," then commaItems r.expression else pure []
  pure (.call ["xmlelement"] (name.operands ++ content))

/-! ## 5. All of them -/

/-- The reader of what stands between the parentheses of a call that has a form of its own. -/
def ownCall? (r : Readers) (name : String) : Option (Parse Expr) :=
  match name with
  | "CAST" => some (castCall r ["cast"])
  | "TRY_CAST" | "SAFE_CAST" => some (castCall r ["try_cast"])
  | "CONVERT" => some (convertCall r ["cast"])
  | "TRY_CONVERT" => some (convertCall r ["try_cast"])
  | "CHAR" | "CHR" => some (characterCall r)
  | "DECODE" => some (decodeCall r)
  | "CEIL" => some (roundingCall r ["ceil", "ceiling"])
  | "FLOOR" => some (roundingCall r ["floor"])
  | "EXTRACT" => some (extractCall r)
  | "DATE_PART" => some (partCall r)
  | "INITCAP" => some (capitalCall r)
  | "NORMALIZE" => some (normalizeCall r)
  | "OVERLAY" => some (overlayCall r)
  | "POSITION" => some (positionCall r)
  | "SUBSTRING" => some (substringCall r)
  | "TRIM" => some (trimCall r)
  | "MATCH" => some (matchCall r)
  | "STRING_AGG" => some (joinedTextCall r)
  | "ARG_MAX" | "ARGMAX" | "MAX_BY" => some (extremeCall r ["arg_max", "argmax", "max_by"])
  | "ARG_MIN" | "ARGMIN" | "MIN_BY" => some (extremeCall r ["arg_min", "argmin", "min_by"])
  | "JSON_OBJECT" => some (documentCall r ["j_s_o_n_object"])
  | "JSON_OBJECTAGG" => some (documentCall r ["j_s_o_n_object_agg"])
  | "JSON_AGG" => some (documentRowsCall r)
  | "JSONB_EXISTS" => some (documentTestCall r)
  | "JSON_TABLE" => some (documentRows r)
  | "OPENJSON" => some (memberRows r)
  | "XMLTABLE" => some (elementRows r)
  | "GAP_FILL" => some (filledRows r)
  | "XMLELEMENT" => some (elementCall r)
  | _ => none

end Grammar

end SchemaCatalog
