import SchemaCatalog.Expr.Grammar.Call
import SchemaCatalog.Expr.Grammar.Interval
import SchemaCatalog.Expr.Grammar.TypeName

/-!
# Operands and their members

An operand is a literal, a call, a column or a type with a literal. It may go on as a chain: members
after points, casts, members of documents, and subscripts. A call reached through names makes these
mere names, which refer to no columns.
-/

namespace SchemaCatalog

open Sql

namespace Grammar

/-! ## 1. Brackets -/

/-- The value of a step in a range, where a minus sign may stand alone for the end. -/
def rangeEnd (r : Readers) : Parse (Option Expr) := fun ts =>
  if beginsWith [(·.isSymbol "-"), (·.isSymbol ":")] ts then some (none, ts.drop 1)
  else r.assignment ts

/-- The value of an entry of a record; its key is a name, no column. -/
def entryValue : Expr → Expr
  | .compare .eq _ value => value
  | e => e

def bracketItem (r : Readers) (entry : Bool) : Parse (Option Expr) := do
  let first ← aliased r true r.assignment
  if ← acceptSymbol ":" then
    if entry && first.isNone then failure
    let last ← rangeEnd r
    let step ← if ← acceptSymbol ":" then r.unary else pure none
    let start := if entry then [] else first.toList
    pure (some (.compound (start ++ last.toList ++ step.toList)))
  else pure (if entry then first.map entryValue else first)

/-- The literal of a date or time in braces, after the letters that mark it. -/
def bracedTime (r : Readers) (mark : String) : Parse Expr := do
  let value ← text r
  expectSymbol "\x7d"
  pure (.call [mark] value.toList)

def bracedTimeName? (t : Token) : Option String :=
  if t.kind == .word then
    match Text.lower t.text with
    | "d" => some "date"
    | "t" => some "time"
    | "ts" => some "timestamp"
    | _ => none
  else none

/-- A record, or the literal of a date or time, after its opening brace. -/
def braced (r : Readers) : Parse Expr := do
  match (← peek).bind bracedTimeName? with
  | some mark =>
    advance
    bracedTime r mark
  | none =>
    let items ← commaItems (bracketItem r true)
    expectSymbol "\x7d"
    pure (.call ["struct"] items)

def collection? : Expr → Option String
  | .column _ name => if ["array", "list"].contains (Text.lower name) then some (Text.lower name) else none
  | .literal (.string name) =>
    if ["array", "list"].contains (Text.lower name) then some (Text.lower name) else none
  | _ => none

/-- One pair of brackets after an operand, and whether no other pair may follow. -/
def bracketStep (r : Readers) : Option Expr × Bool → Parse (Option (Option Expr × Bool))
  | (_, true) => pure none
  | (e, false) => do
    if ← acceptSymbol "[" then
      let items ← commaItems (bracketItem r false)
      expectSymbol "]"
      match e with
      | none => pure (some (some (.call ["array"] items), false))
      | some e =>
        match collection? e with
        | some name => pure (some (some (.call [name] items), true))
        | none => if items.isEmpty then failure else pure (some (some (.compound (e :: items)), false))
    else if ← acceptSymbol "\x7b" then pure (some (some (← braced r), false))
    else pure none

/-- An operand with the brackets after it; brackets may also stand alone. -/
def brackets (r : Readers) (e : Option Expr) : Parse (Option Expr) := do
  pure (← repeated (bracketStep r) (e, false)).1

def bracketed (r : Readers) (e : Expr) : Parse Expr := do
  pure ((← brackets r (some e)).getD e)

/-! ## 2. Members -/

def documentOperator? : String → Option (List String)
  | "->" => some ["json_extract"]
  | "->>" => some ["json_extract_scalar"]
  | "#>" => some ["jsonb_extract"]
  | "#>>" => some ["jsonb_extract_scalar"]
  | "?" => some ["jsonb_contains"]
  | _ => none

/-- An expression reached through another: a call makes the columns before it mere names. -/
def beforeMember (left field : Expr) : Expr :=
  match field with
  | .call _ _ => left.withoutColumns
  | _ => left

/-- A column or what its name stands for, without its members. -/
def columnReference (r : Readers) : Parse (Option Expr) := do
  match ← firstOf [r.primary, r.call {}] with
  | some e => pure (some e)
  | none =>
    match ← name r false with
    | some name => pure (some name.column)
    | none =>
      let before ← get
      if beginsWith [isWord "VALUES"] before && !beginsWith [isWord "VALUES", Token.isOpen] before then
        pure ((← name r true).map NameForm.column)
      else pure none

/-- The member of a document that an operator on it asks for. A column goes on as a chain after a
point only. -/
def documentMember (r : Readers) : Parse Expr := do
  match ← columnReference r with
  | none => required r.bitwise
  | some e =>
    match e, ← atSymbol "." with
    | .column _ _, true => r.members e
    | _, _ => pure e

def typeOperands (r : Readers) : Parse (List Expr) := do
  match ← r.type true with
  | some type => pure type.operands
  | none => failure

/-- What is reached by a point: a call, a literal, or a name. -/
inductive PointMember where
  | operand (e : Expr)
  | name (name : NameForm)

/-- What follows a point; any word may be a name there, and no construct begins without a parenthesis. -/
def pointMember (r : Readers) : Parse PointMember := do
  match ← firstOf [r.call ⟨true, true, false⟩, r.primary] with
  | some e => pure (.operand e)
  | none => PointMember.name <$> required (name r true)

def maxColumnNames : Nat := 4

/-- The names in front of what is reached through an operand, if they can be those of a column. -/
def qualifiers? : Expr → Option (List String × List Expr)
  | .column qualifiers name =>
    if qualifiers.length + 1 < maxColumnNames then some (qualifiers ++ [name], []) else none
  | .nameless qualifiers operands =>
    if qualifiers.length + 1 < maxColumnNames then some (qualifiers ++ [""], operands) else none
  | _ => none

/-- An operand that is no name, reached through names or another operand. -/
def reached (left field : Expr) : Expr :=
  match beforeMember left field, field with
  | left, .call _ _ => .compound [left, field]
  | left, _ =>
    match qualifiers? left with
    | some (qualifiers, operands) => .nameless qualifiers (operands ++ [field])
    | none => .compound [left, field]

def named (left : Expr) (name : String) : Expr :=
  match qualifiers? left with
  | some (qualifiers, _) => .column qualifiers name
  | none => .compound [left]

def memberStep (r : Readers) (left : Expr) : Parse (Option Expr) := do
  match ← peek with
  | none => pure none
  | some t =>
    if t.kind != .symbol then pure none
    else if t.text == "::" then
      advance
      some <$> (do bracketed r (.call ["cast"] (left :: (← typeOperands r))))
    else if t.text == "?::" then
      advance
      some <$> (do bracketed r (.call ["try_cast"] (left :: (← typeOperands r))))
    else if t.text == "." then
      advance
      match ← pointMember r with
      | .operand e => some <$> bracketed r (reached left e)
      | .name (.text name) => some <$> bracketed r (named left name)
      | .name (.placeholder e) => some <$> bracketed r (reached left e)
    else
      match documentOperator? t.text with
      | none => pure none
      | some names =>
        advance
        let right ← documentMember r
        some <$> bracketed r (.call names [beforeMember left right, right])

def members (r : Readers) (e : Expr) : Parse Expr := do
  repeated (memberStep r) (← bracketed r e)

/-- A column, a call or a literal with its members, or what stands in brackets. -/
def column (r : Readers) : Parse (Option Expr) := do
  match ← columnReference r with
  | some e => some <$> members r e
  | none => brackets r none

/-! ## 3. Operands with types -/

/-- The signs after which a literal goes on as a chain. -/
def chainSymbols : List String :=
  ["::", "?::", ".", "->", "->>", "#>", "#>>", "?", "(", "[", "\x7b", ":"]

/-- The literal `NULL` with nothing after it that goes on as a chain. -/
def plainNull : Parse (Option Expr) := fun ts =>
  match ts with
  | t :: rest =>
    if isWord "NULL" t && !rest.head?.any (isAnySymbol chainSymbols) then
      some (some (.literal .null), rest)
    else some (none, ts)
  | [] => some (none, ts)

def literalOf (word : String) (operands : List Expr) (e : Expr) : Expr :=
  if word == "JSON" then .call ["parse_json", "json_parse"] [e] else .call ["cast"] (e :: operands)

/-- A number or a string, if one comes next; adjacent strings are none. -/
def plainLiteral (r : Readers) : Parse (Option Expr) := do
  match ← r.primary with
  | some (.literal (.string text)) => pure (some (.literal (.string text)))
  | some (.literal (.number text)) => pure (some (.literal (.number text)))
  | _ => pure none

/-- A type followed by a literal of it, or a type that stands alone since it has a size. -/
def typedLiteral (r : Readers) : Parse (Option Expr) := fun ts =>
  match r.type false ts with
  | none => none
  | some (none, _) => some (none, ts)
  | some (some (.filled e), rest) => (some <$> members r e) rest
  | some (some (.named word operands sized), rest) =>
    match plainLiteral r rest with
    | none => none
    | some (some e, rest) => (some <$> literalOf word operands <$> members r e) rest
    | some (none, _) =>
      if sized && rest.length + 1 < ts.length then (some <$> members r (.compound operands)) rest
      else some (none, ts)

def typed (r : Readers) : Parse (Option Expr) := do
  match ← plainNull with
  | some e => pure (some e)
  | none =>
    match ← interval r with
    | some e => some <$> members r e
    | none =>
      match ← typedLiteral r with
      | some e => pure (some e)
      | none =>
        match ← column r with
        | some e => some <$> members r e
        | none => pure none

end Grammar

end SchemaCatalog
