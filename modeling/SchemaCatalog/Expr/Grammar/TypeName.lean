import SchemaCatalog.Expr.Grammar.Name
import SchemaCatalog.Sql.Lexer

/-!
# Types inside expressions

The name of a type with what belongs to it: a size in parentheses, the types inside a nested one, the
time zone of a time, the units of an interval, and the marks of an array. Sizes are expressions, so a
type may have operands; a bare column in a size is a word, no operand.
-/

namespace SchemaCatalog

open Sql

namespace Grammar

/-! ## 1. The name -/

def nameParts : Parse Unit := do
  let _ ← repeated
    (fun (_ : Unit) => do
      if ← acceptSymbol "." then
        let _ ← acceptToken fun t => !Vocabulary.isReserved t
        pure (some ())
      else pure none)
    ()

def keywordOf (t : Token) : Option String :=
  if Vocabulary.isType t then Vocabulary.word? t else none

/-- A type by a name that is no keyword: that of a known type in quotes, or any other. The name must be
one token. -/
def otherTypeName (r : Readers) : Parse (Option (Option String)) := do
  match ← name r false Vocabulary.isPlain with
  | some (.text name) =>
    match lex name.toList with
    | .ok [t] =>
      match keywordOf t with
      | some word => pure (some (some word))
      | none =>
        nameParts
        pure (some none)
    | _ => failure
  | _ => pure none

def typeKeyword (r : Readers) (other : Bool) : Parse (Option (Option String)) := do
  match ← acceptToken Vocabulary.isType with
  | some t => pure (some (keywordOf t))
  | none => if other then otherTypeName r else pure none

/-! ## 2. What belongs to it -/

/-- A size of a type, with the unit after it. -/
def typeSize (r : Readers) : Parse (Option Expr) := do
  match ← r.typed with
  | none => pure none
  | some size =>
    let unit ← unitName r true
    let size :=
      match size with
      | .column [] _ => []
      | e => [e]
    pure (some (.compound (size ++ unit.getD [])))

def TypeForm.operands : TypeForm → List Expr
  | named _ operands _ => operands
  | filled value => [value]

def innerType (r : Readers) (other : Bool) : Parse (Option Expr) := do
  pure ((← r.type other).map fun t => .compound t.operands)

def recordPart (r : Readers) : Parse (Option Expr) := fun ts =>
  let part : Parse (Option Expr) := do
    let name ← name r true
    let _ ← acceptSymbol ":"
    match name, ← r.type true with
    | some name, some type => pure (some (.compound (name.operands ++ type.operands)))
    | _, _ => pure none
  match part ts with
  | some (some e, rest) => some (some e, rest)
  | _ => innerType r true ts

/-- What stands between the parentheses or angle brackets of a type. -/
def innerTypes (r : Readers) (word : Option String) (other : Bool) : Parse (List Expr) :=
  if word.any Vocabulary.recordTypes.contains then commaItems (recordPart r)
  else if word.any Vocabulary.nestedTypes.contains then commaItems (innerType r other)
  else if word == some "ENUM" then commaItems r.equality
  else commaItems (typeSize r)

/-- A group in parentheses after a type; none if the type does not go on so. -/
def typeGroup (r : Readers) (word : Option String) (other : Bool) :
    Parse (Option (Option (List Expr))) := do
  if ← acceptSymbol "(" then
    let operands ← innerTypes r word other
    pure (if ← acceptSymbol ")" then some (some operands) else none)
  else pure (some none)

/-- The values that a nested type is filled with, in brackets or parentheses after it. -/
def typeValues (r : Readers) (word : Option String) : Parse (Option (List Expr)) := fun ts =>
  let values : Parse (Option (List Expr)) := do
    if (← acceptAnySymbol ["[", "("]).isSome then
      match ← commaItems r.disjunction with
      | [] => if word.any Vocabulary.recordTypes.contains then pure none else
          let _ ← acceptAnySymbol ["]", ")"]
          pure (some [])
      | values =>
        let _ ← acceptAnySymbol ["]", ")"]
        pure (some values)
    else pure none
  match values ts with
  | some (none, _) => some (none, ts)
  | result => result

/-- The types in angle brackets after a nested one, and the values after those. -/
def angleTypes (r : Readers) (word : Option String) (other : Bool) :
    Parse (Option (List Expr × Option (List Expr))) := do
  if ← (pure (word.any Vocabulary.nestedTypes.contains) <&&> acceptSymbol "<") then
    let operands ← innerTypes r word other
    expectSymbol ">"
    pure (some (operands, ← typeValues r word))
  else pure none

/-- The time zone of a time. It says whether there is one. -/
def timeZoneMark : Parse Bool := do
  if ← acceptTexts ["WITH", "TIME", "ZONE"] then pure true
  else if ← acceptTexts ["WITH", "LOCAL", "TIME", "ZONE"] then pure true
  else acceptTexts ["WITHOUT", "TIME", "ZONE"]

def intervalUnits (r : Readers) : Parse Unit := do
  if (← unitName r false).isSome then
    if ← acceptTexts ["TO"] then
      let _ ← unitName r false

/-- The marks of an array. If one holds values they are all given back from `start` on, since a subscript
is no part of the type. `afterArray` says that no mark but the word `ARRAY` came before, and `matched`
that this word has just been passed. -/
def arrayMarks (r : Readers) (start : List Token) (afterArray : Bool) (matched : Bool) :
    Nat → Parse Unit
  | 0 => pure ()
  | n + 1 => do
    if (← peek).isNone then pure ()
    else
      let opened ← acceptSymbol "["
      if !opened && !matched then pure ()
      else if ← (pure afterArray <&&> acceptSymbol "]") then pure ()
      else
        match ← commaItems r.disjunction with
        | [] =>
          let closed ← acceptSymbol "]"
          arrayMarks r start (afterArray && !opened && !closed) false n
        | _ => set start

/-- The word and the marks of an array after a type, whose keyword is `ARRAY` itself if `isArray`. -/
def arraySuffix (r : Readers) (isArray : Bool) : Parse Unit := do
  let _ ← repeated (fun (_ : Unit) => do pure (if ← acceptWord "LIST" then some () else none)) ()
  let start ← get
  let matched ← acceptWord "ARRAY"
  arrayMarks r start (isArray || matched) matched (start.length + 1)

/-! ## 3. The whole type -/

/-- A string or a placeholder comes next. -/
def atText (r : Readers) : Parse Bool := fun ts =>
  match text r ts with
  | some (some _, _) => some (true, ts)
  | some (none, _) => some (false, ts)
  | none => none

/-- A type that goes on after its keyword and the group in parentheses. -/
def typeAfterGroup (r : Readers) (other : Bool) (word : Option String)
    (group : Option (List Expr)) : Parse (Option TypeForm) := do
  let inner ← angleTypes r word other
  let zoned ←
    if word.any Vocabulary.timeTypes.contains then timeZoneMark
    else do
      if word == some "INTERVAL" then intervalUnits r
      pure false
  if ← (pure (group.isSome && !zoned && !other) <&&> (do pure !(← atText r))) then pure none
  else
    if ← acceptTexts ["UNSIGNED"] then
      unless word.any Vocabulary.signedTypes.contains do failure
    let operands := ((inner.map (·.1)).orElse fun _ => group).getD []
    if word == some "NULLABLE" && operands.isEmpty then pure none
    else
      let closed := group.isNone && inner.isNone
      let form :=
        match inner.bind (·.2) with
        | some values =>
          let kind := if word.any Vocabulary.recordTypes.contains then "struct" else "array"
          TypeForm.filled (.call ["cast"] (.call [kind] values :: operands))
        | none => .named (word.getD "") operands (!operands.isEmpty)
      arraySuffix r (word == some "ARRAY" && closed)
      pure (some form)

/-- A type. It may have a name that is no keyword if `other` holds; otherwise one that has a group in
parentheses is a type only before a string. -/
def type (r : Readers) (other : Bool) : Parse (Option TypeForm) := fun ts =>
  let read : Parse (Option TypeForm) := do
    match ← typeKeyword r other with
    | none => pure none
    | some word =>
      if word.any Vocabulary.plainTypes.contains then pure (some (.named (word.getD "") [] false))
      else
        match ← typeGroup r word other with
        | none => pure none
        | some group => typeAfterGroup r other word group
  match read ts with
  | some (none, _) => some (none, ts)
  | result => result

end Grammar

end SchemaCatalog
