import SchemaCatalog.Expr.Basic
import SchemaCatalog.Expr.Vocabulary

/-!
# Reading single tokens of an expression

`Parse` is a reader of a token list that may fail. The readers here look at the first tokens and pass
them or leave them: keywords, which are unquoted words in any case, texts, which any token but a plain
string may have, and symbols. A reader of an `Option` answers `none`, and passes nothing, where
what it reads is absent; it fails where something is wrong.
-/

namespace SchemaCatalog

open Sql

namespace Grammar

abbrev Parse := StateT (List Token) Option

/-! ## 1. Looking and passing -/

def peek : Parse (Option Token) := fun ts => some (ts.head?, ts)

def advance : Parse Unit := fun ts => some ((), ts.drop 1)

def atToken (p : Token → Bool) : Parse Bool := fun ts => some (ts.head?.any p, ts)

def acceptToken (p : Token → Bool) : Parse (Option Token) := fun ts =>
  match ts with
  | t :: rest => if p t then some (some t, rest) else some (none, ts)
  | [] => some (none, ts)

/-- The tokens begin with some of the given properties, in order. -/
def beginsWith : List (Token → Bool) → List Token → Bool
  | [], _ => true
  | _ :: _, [] => false
  | p :: ps, t :: ts => p t && beginsWith ps ts

/-- Passes tokens of the given properties if all come next. -/
def acceptAll (ps : List (Token → Bool)) : Parse Bool := fun ts =>
  if beginsWith ps ts then some (true, ts.drop ps.length) else some (false, ts)

/-! ## 2. Keywords, texts and symbols -/

def isWord (word : String) (t : Token) : Bool := Vocabulary.word? t == some word

def isAnyWord (words : List String) (t : Token) : Bool := ((Vocabulary.word? t).map words.contains).getD false

/-- The token is no plain string and has the given text, in any letter case. -/
def hasText (text : String) (t : Token) : Bool := t.kind != .literal && Text.upper t.text == text

def hasAnyText (texts : List String) (t : Token) : Bool :=
  t.kind != .literal && texts.contains (Text.upper t.text)

def isAnySymbol (symbols : List String) (t : Token) : Bool :=
  t.kind == .symbol && symbols.contains t.text

/-- A sign of negation: `NOT` or `!`. -/
def isNot (t : Token) : Bool := isWord "NOT" t || t.isSymbol "!"

def acceptWord (word : String) : Parse Bool := do
  pure (← acceptToken (isWord word)).isSome

def acceptAnyWord (words : List String) : Parse (Option String) := do
  pure ((← acceptToken (isAnyWord words)).bind Vocabulary.word?)

/-- Passes tokens with the given texts if all come next. -/
def acceptTexts (texts : List String) : Parse Bool := acceptAll (texts.map hasText)

def acceptAnyText (texts : List String) : Parse (Option String) := do
  pure ((← acceptToken (hasAnyText texts)).map fun t => Text.upper t.text)

def acceptSymbol (symbol : String) : Parse Bool := do
  pure (← acceptToken (·.isSymbol symbol)).isSome

def acceptAnySymbol (symbols : List String) : Parse (Option String) := do
  pure ((← acceptToken (isAnySymbol symbols)).map (·.text))

def atWord (word : String) : Parse Bool := atToken (isWord word)

def atSymbol (symbol : String) : Parse Bool := atToken (·.isSymbol symbol)

def expectSymbol (symbol : String) : Parse Unit := do
  unless ← acceptSymbol symbol do failure

/-! ## 3. Absence and repetition -/

/-- An operand must be there. -/
def required {α : Type} (operand : Parse (Option α)) : Parse α := do
  match ← operand with
  | some a => pure a
  | none => failure

/-- Reads as if nothing were there where a reader fails. -/
def attempt {α : Type} (read : Parse (Option α)) : Parse (Option α) := fun ts =>
  match read ts with
  | some (some a, rest) => some (some a, rest)
  | _ => some (none, ts)

/-- The first of several readers that finds something. -/
def firstOf {α : Type} : List (Parse (Option α)) → Parse (Option α)
  | [] => pure none
  | read :: others => do
    match ← read with
    | some a => pure (some a)
    | none => firstOf others

/-- Repeats a step from one state to the next until it answers no further one, at most so many
times. -/
def repeatAtMost {σ : Type} (step : σ → Parse (Option σ)) : Nat → σ → Parse σ
  | 0, s => pure s
  | n + 1, s => do
    match ← step s with
    | some s' => repeatAtMost step n s'
    | none => pure s

/-- Repeats a step that passes a token whenever it answers a further state. -/
def repeated {σ : Type} (step : σ → Parse (Option σ)) (s : σ) : Parse σ := fun ts =>
  repeatAtMost step (ts.length + 1) s ts

def many {α : Type} (item : Parse (Option α)) : Parse (List α) := do
  pure (← repeated (fun items => do pure ((← item).map (· :: items))) []).reverse

/-- A row of items separated by commas, an absent item leaving none, and whether a comma came last. -/
def commaRow {α : Type} (item : Parse (Option α)) : Parse (List α × Bool) := do
  let first ← item
  let (items, trailing) ← repeated
    (fun (items, _) => do
      if ← acceptSymbol "," then
        match ← item with
        | some a => pure (some (a :: items, false))
        | none => pure (some (items, true))
      else pure none)
    (first.toList, false)
  pure (items.reverse, trailing)

def commaItems {α : Type} (item : Parse (Option α)) : Parse (List α) := do
  pure (← commaRow item).1

def parenthesized {α : Type} (inside : Parse α) : Parse α := do
  expectSymbol "("
  let a ← inside
  expectSymbol ")"
  pure a

end Grammar

end SchemaCatalog
