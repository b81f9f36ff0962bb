import SchemaCatalog.Expr.Grammar.Operator

/-!
# Tests

The level of `IS`, `IN`, `BETWEEN`, `LIKE` and the operators on ranges, arrays and documents. A test
that finds no right operand may leave its left operand as it is. `NOT` may stand before a test, but not
alone after an operand.
-/

namespace SchemaCatalog

open Sql

namespace Grammar

/-! ## 1. Patterns and operators -/

def operatorCall? : String → Option (List String)
  | "~" => some ["regexp_like"]
  | "~*" => some ["regexp_i_like"]
  | "@>" | "<@" => some ["array_contains_all", "array_has_all"]
  | "&&" => some ["array_overlaps"]
  | "?&" => some ["jsonb_contains_all_top_keys"]
  | "?|" => some ["jsonb_contains_any_top_keys"]
  | "#-" => some ["jsonb_delete_at_path"]
  | "~~" | "~~*" | "~~~" | "-|-" | "&<" | "&>" | "@?" => some []
  | _ => none

/-- A test of two operands with the sign that takes the special meaning from a character. -/
def escaped (r : Readers) (e : Expr) : Parse Expr := do
  if ← acceptWord "ESCAPE" then
    pure (.compound [e, ← required (firstOf [text r, nothing r])])
  else pure e

def pattern (r : Readers) (names : List String) (left : Option Expr) : Parse (Option Expr) := do
  match left, ← r.bitwise with
  | some left, some right =>
    let operands := [left, right]
    some <$> escaped r (if names.isEmpty then .compound operands else .call names operands)
  | _, _ => failure

/-- A search of words in a text; what is searched for is visited first. -/
def search (r : Readers) (left : Option Expr) : Parse (Option Expr) := do
  match left, ← r.bitwise with
  | some left, some right => pure (some (.call ["match_against"] [right, left]))
  | _, _ => failure

/-- Passes the tokens up to a closing parenthesis. -/
def passGroup : Parse Unit := modify fun ts => (ts.dropWhile fun t => !t.isClose).drop 1

/-- Operators written `OPERATOR(name)`, with their right operands. Without a name there is none. -/
def namedOperators (r : Readers) (left : Option Expr) : Parse (Option Expr) := do
  let further : Option Expr × Bool → Parse (Option (Option Expr × Bool))
    | (_, false) => pure none
    | (left, true) => do
      if ← acceptSymbol "(" then
        passGroup
        match left, ← r.bitwise with
        | some left, some right =>
          pure (some (some (.compound [left, right]), ← acceptWord "OPERATOR"))
        | _, _ => failure
      else pure none
  pure (← repeated further (left, true)).1

/-! ## 2. Ranges and sets -/

def between (r : Readers) (left : Option Expr) : Parse (Option Expr) := do
  let _ ← acceptAnyText ["SYMMETRIC", "ASYMMETRIC"]
  let low ← required r.bitwise
  let _ ← acceptWord "AND"
  let high ← required r.bitwise
  match left with
  | some left => pure (some (.compound [left, low, high]))
  | none => failure

/-- The elements of a set in parentheses or brackets. A single query hides its columns. -/
def elements (r : Readers) : Parse (List Expr) := do
  match ← commaItems (operandOrQuery r r.assignment) with
  | [form] =>
    match form.query? with
    | some q =>
      if q.isQuery then pure [.query [(← modified r q).expr]] else pure [form.expr]
    | none => pure [form.expr]
  | forms => pure (forms.map OperandForm.expr)

def membership (r : Readers) (left : Option Expr) : Parse (Option Expr) := do
  let operands ←
    match ← unnest r false with
    | some e => pure [e]
    | none =>
      if ← acceptSymbol "(" then
        let operands ← elements r
        expectSymbol ")"
        pure operands
      else if ← acceptSymbol "[" then
        let operands ← elements r
        expectSymbol "]"
        pure operands
      else pure (← r.column).toList
  match left with
  | some left => pure (some (.compound (left :: operands)))
  | none => failure

/-- The values of an expression for the elements of a set, none where no set is named. -/
def comprehension (r : Readers) (left : Option Expr) : Parse (Option Expr) := do
  let element ← r.column
  let position ← if ← acceptSymbol "," then r.column else pure none
  if ← acceptWord "IN" then
    let set ← r.column
    let condition ← if ← acceptTexts ["IF"] then r.disjunction else pure none
    match left, element, set with
    | some left, some element, some set =>
      pure (some (.call ["comprehension"]
        ([left, element] ++ position.toList ++ [set] ++ condition.toList)))
    | _, _, _ => failure
  else pure none

/-! ## 3. `IS` -/

/-- What `IS JSON` may say further, which is no operand. -/
def documentKind : Parse Expr := do
  let _ ← acceptAnyText ["VALUE", "SCALAR", "ARRAY", "OBJECT"]
  let _ ← acceptAnyTexts [["WITH"], ["WITHOUT"]]
  let _ ← acceptWord "UNIQUE"
  let _ ← acceptTexts ["KEYS"]
  pure (.call ["j_s_o_n"] [])

def isOperand (r : Readers) : Parse (Option Expr) := do
  if ← acceptWord "JSON" then some <$> documentKind else firstOf [nothing r, r.bitwise]

/-- A test by `IS`, none if its right side is absent. -/
def isTest (r : Readers) (left : Option Expr) : Parse (Option Expr) := do
  let negated := (← acceptToken isNot).isSome
  if ← acceptTexts ["DISTINCT", "FROM"] then
    match left, ← r.bitwise with
    | some left, some right => pure (some (.compound [left, right]))
    | _, _ => failure
  else
    match ← isOperand r, left with
    | none, _ => pure none
    | some _, none => failure
    | some right, some left =>
      let tested := Expr.is left right
      some <$> members r (if negated then .not tested else tested)

/-! ## 4. The level -/

def testReader? (r : Readers) (left : Option Expr) (t : Token) : Option (Parse (Option Expr)) :=
  match Vocabulary.word? t with
  | some "BETWEEN" => some (between r left)
  | some "IN" => some (membership r left)
  | some "IS" => some (isTest r left)
  | some "FOR" => some (comprehension r left)
  | some "OPERATOR" => some (namedOperators r left)
  | some "RLIKE" | some "REGEXP" => some (pattern r ["regexp_like"] left)
  | some "LIKE" | some "ILIKE" | some "GLOB" | some "OVERLAPS" | some "SIMILAR TO" =>
    some (pattern r [] left)
  | some _ => none
  | none =>
    if t.kind != .symbol then none
    else if t.text == "@@" then some (search r left)
    else (operatorCall? t.text).map fun names => pattern r names left

inductive TestForm where
  /-- There is none. -/
  | absent
  /-- It finds no right side, and leaves its left one as it is. -/
  | empty
  | tested (e : Expr)

def test (r : Readers) (negated : Bool) (left : Option Expr) : Parse TestForm := fun ts =>
  match ts with
  | [] => some (.absent, ts)
  | t :: rest =>
    match testReader? r left t with
    | some read =>
      match read rest with
      | some (some e, rest) => some (.tested e, rest)
      | some (none, rest) => some (.empty, if isAnyWord ["IS", "FOR"] t then ts else rest)
      | none => none
    | none =>
      if isWord "ISNULL" t || (negated && isWord "NULL" t) then
        left.map fun left => (.tested (.is left (.literal .null)), rest)
      else some (.absent, ts)

/-- A test that the value is not null, after the operand it is about. -/
def presence (e : Option Expr) : Parse (Option Expr) := do
  if ← acceptWord "NOTNULL" then
    match e with
    | some e => pure (some (.not (.is e (.literal .null))))
    | none => failure
  else pure e

def furtherTest (r : Readers) (e : Option Expr) : Parse (Option Expr) := fun ts =>
  match ts with
  | t :: rest =>
    if isWord "IS" t then
      match isTest r e rest with
      | some (none, _) => some (none, ts)
      | result => result
    else some (e, ts)
  | [] => some (e, ts)

def range (r : Readers) : Parse (Option Expr) := do
  let left ← bitwise r
  let before ← get
  let negated := (← acceptToken isNot).isSome
  match ← test r negated left with
  | .empty => pure left
  | .absent =>
    set before
    furtherTest r (← presence left)
  | .tested e =>
    let e ← presence (some e)
    furtherTest r (if negated then e.map .not else e)

end Grammar

end SchemaCatalog
