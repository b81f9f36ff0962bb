import SchemaCatalog.Expr.Grammar.Readers

/-!
# Names and placeholders

A name is a quoted name, a word, or a placeholder, which stands for a name or a value given later:
`?`, `:name`, `%s`, or a parameter such as `$1` and `@x`. Where any token may name something, only
marks of one character and a few words may not.
-/

namespace SchemaCatalog

open Sql

namespace Grammar

/-- Something that names: a text, or a placeholder. -/
inductive NameForm where
  | text (name : String)
  | placeholder (e : Expr)
  deriving Repr

def NameForm.text? : NameForm → Option String
  | text name => some name
  | placeholder _ => none

def NameForm.operands : NameForm → List Expr
  | text _ => []
  | placeholder e => [e]

/-- The column that a name is; a placeholder stands for itself. -/
def NameForm.column : NameForm → Expr
  | text name => .column [] name
  | placeholder e => e

def quotedName : Parse (Option NameForm) := do
  pure ((← acceptToken (·.kind == .quoted)).map fun t => .text t.text)

def opensParameter (t : Token) : Bool :=
  t.kind == .symbol && (t.text == "@" || t.text.startsWith "$")

/-- A word or number that names a placeholder after a colon. -/
def namesPlaceholder (t : Token) : Bool := t.kind == .number || Vocabulary.isNominal t

/-- The name of a placeholder after a percent sign, in parentheses, and the letter after it. -/
def formattedPlaceholder (name : Parse (Option NameForm)) : Parse Expr := do
  let operands ←
    if ← atSymbol "(" then do
      let name ← parenthesized name
      pure ((name.map NameForm.operands).getD [])
    else pure []
  let _ ← acceptTexts ["S"]
  pure (.compound operands)

/-- A placeholder, where `parameter` reads what follows the sign of a parameter and `name` a name. -/
def placeholderWith (parameter : Parse Expr) (name : Parse (Option NameForm)) :
    Parse (Option Expr) := do
  match ← peek with
  | none => pure none
  | some t =>
    if t.isSymbol "?" then
      advance
      pure (some (.compound []))
    else if opensParameter t then
      advance
      some <$> parameter
    else if t.isSymbol ":" then
      pure (if ← acceptAll [(·.isSymbol ":"), namesPlaceholder] then some (.compound []) else none)
    else if t.isSymbol "%" then
      advance
      some <$> formattedPlaceholder name
    else pure none

/-- A name that reads placeholders by the given reader: any token that is not reserved if `any`
holds, or else one that `accepts` takes. -/
def nameWith (placeholder : Parse (Option Expr)) (any : Bool) (accepts : Token → Bool) :
    Parse (Option NameForm) := do
  match ← quotedName with
  | some name => pure (some name)
  | none =>
    match ← placeholder with
    | some e => pure (some (.placeholder e))
    | none =>
      let token ← acceptToken fun t => (any && !Vocabulary.isReserved t) || accepts t
      pure (token.map fun t => .text t.text)

mutual

/-- A placeholder, with so many others inside it at most. -/
def placeholderAtMost (r : Readers) : Nat → Parse (Option Expr)
  | 0 => failure
  | n + 1 => placeholderWith (parameterAtMost r n) (nameAtMost r n)

/-- What follows the sign of a parameter: a name, an operand without operators, or any token. -/
def parameterAtMost (r : Readers) : Nat → Parse Expr
  | 0 => failure
  | n + 1 => do
    match ← quotedName with
    | some _ => pure (.compound [])
    | none =>
      match ← firstOf [placeholderAtMost r n, r.primary] with
      | some e => pure (.compound [e])
      | none =>
        match ← acceptToken fun t => !Vocabulary.isReserved t with
        | some _ => pure (.compound [])
        | none => failure

def nameAtMost (r : Readers) : Nat → Parse (Option NameForm)
  | 0 => failure
  | n + 1 => nameWith (placeholderAtMost r n) true fun _ => false

end

def placeholder (r : Readers) : Parse (Option Expr) := fun ts =>
  placeholderAtMost r (3 * ts.length + 3) ts

/-- A name: any token that is not reserved if `any` holds, or else one that `accepts` takes. -/
def name (r : Readers) (any : Bool) (accepts : Token → Bool := Vocabulary.isNominal) :
    Parse (Option NameForm) := nameWith (placeholder r) any accepts

/-- The name of a unit or option, which is no column: any token that is not reserved if `any` holds,
or else a word that is no keyword. The operands inside it are given. -/
def unitName (r : Readers) (any : Bool) : Parse (Option (List Expr)) := do
  match ← acceptToken fun t => (any && !Vocabulary.isReserved t) || Vocabulary.isPlain t with
  | some _ => pure (some [])
  | none => pure ((← placeholder r).map ([·]))

/-- A string that can be a text: a plain one, a verbatim one, or one with code points. -/
def isText (t : Token) : Bool := t.kind == .literal || t.kind == .verbatim || t.kind == .unicode

/-- What follows a string with code points: the sign that marks them, if it is given. -/
def escapeSign (r : Readers) : Parse (List Expr) := do
  if ← acceptTexts ["UESCAPE"] then
    match ← acceptToken isText with
    | some _ => pure []
    | none => pure (← placeholder r).toList
  else pure []

def text (r : Readers) : Parse (Option Expr) := do
  match ← acceptToken isText with
  | some t =>
    match t.kind with
    | .literal => pure (some (.literal (.string t.text)))
    | .unicode => pure (some (.compound (← escapeSign r)))
    | _ => pure (some (.compound []))
  | none => placeholder r

/-- Nothing, written as a keyword, or a placeholder. -/
def nothing (r : Readers) : Parse (Option Expr) := do
  match ← acceptAnyWord ["NULL", "UNKNOWN"] with
  | some _ => pure (some (.literal .null))
  | none => placeholder r

end Grammar

end SchemaCatalog
