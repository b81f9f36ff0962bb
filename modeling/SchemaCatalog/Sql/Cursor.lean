import SchemaCatalog.Sql.Script
import SchemaCatalog.Sql.SyntaxError

/-!
# Reading a statement

A cursor stands in a statement before the tokens still to be read. A `Reader` moves it forward and
answers a value, or fails with a syntax error that names the token it stands before. Parentheses are
told by the kind of their token; other marks by its value, so that a quoted name consisting of a mark
reads as that mark.
-/

namespace SchemaCatalog.Sql

/-- A place in a statement: the text it is from, all its tokens, and those still to be read. -/
structure Cursor where
  sql : List Char
  statement : List Token
  rest : List Token
  deriving Repr

namespace Cursor

def start (sql : List Char) (tokens : List Token) : Cursor := ⟨sql, tokens, tokens⟩

def statementText (c : Cursor) : String := sourceText c.sql c.statement

def peek? (c : Cursor) : Option Token := c.rest.head?

def atEnd (c : Cursor) : Bool := c.rest.isEmpty

/-- The token so many places ahead as a bare word in upper case. -/
def word? (c : Cursor) (ahead : Nat := 0) : Option String :=
  match c.rest[ahead]? with
  | some t => if t.isWord then some (Text.upper t.text) else none
  | none => none

def error (c : Cursor) (complaint : Complaint) : SyntaxError :=
  .misplaced complaint (c.peek?.map (·.text)) c.statementText

end Cursor

/-- The next tokens are the given bare words, in any letter case. -/
def startsWithWords : List String → List Token → Bool
  | [], _ => true
  | _ :: _, [] => false
  | w :: ws, t :: ts => t.isWord && Text.upper t.text == w && startsWithWords ws ts

/-- The tokens before the closing parenthesis that matches one already passed, and those after it.
`read` holds the tokens passed so far, last first. -/
def closeGroup (depth : Nat) (read : List Token) : List Token → Option (List Token × List Token)
  | [] => none
  | t :: ts =>
    if t.isClose then
      if depth == 0 then some (read.reverse, ts) else closeGroup (depth - 1) (t :: read) ts
    else if t.isOpen then closeGroup (depth + 1) (t :: read) ts
    else closeGroup depth (t :: read) ts

/-- The tokens before the first one outside parentheses at which `stops` holds, and the others.
`read` holds the tokens passed so far, last first. -/
def spanTop (stops : Token → Bool) (depth : Int) (read : List Token) :
    List Token → List Token × List Token
  | [] => (read.reverse, [])
  | t :: ts =>
    if depth == 0 && stops t then (read.reverse, t :: ts)
    else spanTop stops (depth + t.nesting) (t :: read) ts

/-! ## Readers -/

def Reader (α : Type) := Cursor → Except SyntaxError (α × Cursor)

namespace Reader

instance : Monad Reader where
  pure a := fun c => .ok (a, c)
  bind r f := fun c =>
    match r c with
    | .error e => .error e
    | .ok (a, c') => f a c'

def cursor : Reader Cursor := fun c => .ok (c, c)

def complain {α : Type} (complaint : Complaint) : Reader α := fun c => .error (c.error complaint)

def expected {α : Type} (what : String) : Reader α := complain (.expected what)

def unexpected {α : Type} (what : String) : Reader α := complain (.unexpected what)

/-- Fails with an error that is not about a token. -/
def failWith {α : Type} (e : SyntaxError) : Reader α := fun _ => .error e

def atEnd : Reader Bool := fun c => .ok (c.atEnd, c)

def word? : Reader (Option String) := fun c => .ok (c.word?, c)

def atWords (words : List String) : Reader Bool := fun c =>
  .ok (startsWithWords words c.rest, c)

def atSymbol (symbol : String) : Reader Bool := fun c =>
  .ok (match c.rest with | t :: _ => t.reads symbol | [] => false, c)

def advance : Reader Token := fun c =>
  match c.rest with
  | t :: ts => .ok (t, { c with rest := ts })
  | [] => .error (c.error (.unexpected "end of statement"))

/-- Passes the given words if they come next. -/
def accept (words : List String) : Reader Bool := fun c =>
  if startsWithWords words c.rest then
    .ok (true, { c with rest := c.rest.drop words.length })
  else .ok (false, c)

/-- Passes the first of several phrases that comes next. -/
def acceptAny : List (List String) → Reader Bool
  | [] => pure false
  | words :: others => accept words <||> acceptAny others

def expect (words : List String) : Reader Unit := do
  unless ← accept words do expected (" ".intercalate words)

def acceptSymbol (symbol : String) : Reader Bool := fun c =>
  match c.rest with
  | t :: ts => if t.reads symbol then .ok (true, { c with rest := ts }) else .ok (false, c)
  | [] => .ok (false, c)

def expectSymbol (symbol : String) : Reader Unit := do
  unless ← acceptSymbol symbol do expected ("`" ++ symbol ++ "`")

def identifier : Reader String := fun c =>
  match c.rest with
  | t :: ts =>
    if t.isName then .ok (t.text, { c with rest := ts })
    else .error (c.error (.expected "an identifier"))
  | [] => .error (c.error (.expected "an identifier"))

/-- The further parts of a dotted name, and the tokens after them. -/
def dottedParts : List Token → List String × List Token
  | point :: t :: ts =>
    if point.reads "." && t.isName then
      let (parts, rest) := dottedParts ts
      (t.text :: parts, rest)
    else ([], point :: t :: ts)
  | ts => ([], ts)

/-- Passes a dotted name: its first part and the others. -/
def qualifiedName : Reader (String × List String) := do
  let first ← identifier
  fun c =>
    let (parts, rest) := dottedParts c.rest
    .ok ((first, parts), { c with rest := rest })

def string : Reader String := fun c =>
  match c.rest with
  | t :: ts =>
    if t.isString then .ok (t.text, { c with rest := ts })
    else .error (c.error (.expected "a string literal"))
  | [] => .error (c.error (.expected "a string literal"))

def integer : Reader Int := do
  let t ← advance
  match Text.readDecimal? t.text with
  | some value => pure value
  | none => expected ("an integer, found `" ++ t.text ++ "`")

/-- Passes a group in parentheses and answers the tokens inside. -/
def parenthesized : Reader (List Token) := do
  expectSymbol "("
  fun c =>
    match closeGroup 0 [] c.rest with
    | some (inside, rest) => .ok (inside, { c with rest := rest })
    | none =>
      .error (Cursor.error { c with rest := [] } (.unexpected "end of statement"))

/-- Passes the tokens before the first one outside parentheses at which `stops` holds. -/
def before (stops : Token → Bool) : Reader (List Token) := fun c =>
  let (read, rest) := spanTop stops 0 [] c.rest
  .ok (read, { c with rest := rest })

/-- Passes the tokens before the first of the given words outside parentheses. -/
def untilWord (words : List String) : Reader (List Token) :=
  before fun t => t.isWord && words.contains (Text.upper t.text)

def untilWordOrSymbol (words symbols : List String) : Reader (List Token) :=
  before fun t =>
    (t.isWord && words.contains (Text.upper t.text)) || symbols.any t.reads

def remaining : Reader (List Token) := fun c => .ok (c.rest, { c with rest := [] })

def text (tokens : List Token) : Reader String := fun c => .ok (sourceText c.sql tokens, c)

def statementText : Reader String := fun c => .ok (c.statementText, c)

/-- Reads a run of tokens as a statement of its own; what it leaves is dropped. -/
def within {α : Type} (tokens : List Token) (r : Reader α) : Reader α := fun c =>
  match r (Cursor.start c.sql tokens) with
  | .error e => .error e
  | .ok (a, _) => .ok (a, c)

/-- Repeats a reader from one state to the next until it answers no further one, at most so many
times. -/
def iterateAtMost {σ : Type} (body : σ → Reader (Option σ)) : Nat → σ → Reader σ
  | 0, s => pure s
  | n + 1, s => do
    match ← body s with
    | some s' => iterateAtMost body n s'
    | none => pure s

/-- Repeats a reader that passes at least one token whenever it answers a further state. -/
def iterate {σ : Type} (body : σ → Reader (Option σ)) (s : σ) : Reader σ := fun c =>
  iterateAtMost body (c.rest.length + 1) s c

def untilEnd {σ : Type} (body : σ → Reader σ) (s : σ) : Reader σ :=
  iterate (fun s => do if ← atEnd then pure none else pure (some (← body s))) s

/-- Reads at least one item, the others after commas. -/
def commaSeparated {α : Type} (item : Reader α) : Reader (List α) := do
  let first ← item
  let items ← iterate
    (fun items => do
      if ← acceptSymbol "," then
        let next ← item
        pure (some (next :: items))
      else pure none)
    [first]
  pure items.reverse

def each {α β : Type} (r : α → Reader β) : List α → Reader (List β)
  | [] => pure []
  | a :: as => do
    let b ← r a
    let bs ← each r as
    pure (b :: bs)

def run {α : Type} (r : Reader α) (sql : List Char) (tokens : List Token) :
    Except SyntaxError α :=
  (r (Cursor.start sql tokens)).map (·.1)

end Reader

end SchemaCatalog.Sql
