import SchemaCatalog.Expr.Grammar.Name
import SchemaCatalog.Text.Digit

/-!
# Intervals

`INTERVAL` with a value and a unit. A text may hold the unit itself, in words (`1 day`) or as days and
hours (`1 02:03`); a unit after the text is then no part of the interval. Further texts and numbers
that follow an interval are intervals added to it.
-/

namespace SchemaCatalog

open Sql

namespace Grammar

/-! ## 1. Texts of intervals -/

def afterBlanks (cs : List Char) : List Char := cs.dropWhile Text.isBlank

def afterDigits? : List Char → Option (List Char)
  | c :: cs => if Text.isDigit c then some (cs.dropWhile Text.isDigit) else none
  | [] => none

/-- The text after a fraction, or the whole text if it does not begin with one. -/
def afterFraction : List Char → List Char
  | '.' :: cs => (afterDigits? cs).getD ('.' :: cs)
  | cs => cs

def afterMinus : List Char → List Char
  | '-' :: cs => cs
  | cs => cs

/-- The text is a number of days followed by hours and minutes. -/
def isDayTime (text : String) : Bool :=
  match afterDigits? (afterBlanks (afterMinus (afterBlanks text.toList))) with
  | none => false
  | some cs =>
    let rest := afterFraction cs
    match rest with
    | c :: _ =>
      if Text.isBlank c then
        match afterDigits? (afterMinus (afterBlanks rest)) with
        | some (':' :: minutes) => (afterDigits? minutes).isSome
        | _ => false
      else false
    | [] => false

/-- A number with letters after it begins the text, or stands later in it. -/
def holdsUnit : List Char → Bool
  | [] => false
  | c :: cs =>
    (c.isDigit && (cs.dropWhile Text.isBlank).head?.any Char.isAlpha) || holdsUnit cs

/-! ## 2. The whole interval -/

def intervalUnit (r : Readers) : Parse (Option (List Expr)) := do
  match ← r.call {} with
  | some e => pure (some [e])
  | none => unitName r true

/-- The unit of an interval, unless another name or a cast comes next. -/
def firstUnit (r : Readers) : Parse (Option (List Expr)) := do
  match ← r.call {} with
  | some e => pure (some [e])
  | none =>
    if ← atToken (fun t => isWord "AS" t || t.isSymbol "::") then pure none
    else unitName r true

def atUnitRange (r : Readers) : Parse Bool := fun ts =>
  let read : Parse Bool := do
    if (← unitName r true).isSome then
      if ← acceptTexts ["TO"] then pure (← unitName r true).isSome else pure false
    else pure false
  match read ts with
  | some (found, _) => some (found, ts)
  | none => none

/-- The value is a name that begins a clause rather than an interval. -/
def isClauseName (ts : List Token) : Expr → Bool
  | .column [] name =>
    ts.head?.any (·.kind == .word) && ["IS", "ROWS"].contains (Text.upper name)
  | _ => false

/-- The unit of an interval with the given value. A unit after a text that holds one is given back. -/
def valueUnit (r : Readers) (value : Expr) : Parse (List Expr) := do
  match value with
  | .literal (.string text) =>
    if ← (pure (isDayTime text) <&&> (do pure !(← atUnitRange r))) then pure []
    else
      let before ← get
      match ← firstUnit r with
      | none => pure []
      | some unit =>
        let after ← get
        if holdsUnit text.toList then
          set (before.drop (before.length - after.length - 1))
          pure []
        else pure unit
  | _ => pure ((← firstUnit r).getD [])

/-- An interval after its first word, none if it has no value. -/
def intervalValue (r : Readers) : Parse (Option Expr) := do
  let before ← get
  let value ← if ← atToken (·.kind == .literal) then r.primary else r.term
  match value with
  | none => pure none
  | some value =>
    if isClauseName before value then pure none
    else
      let unit ← valueUnit r value
      let last ←
        if ← acceptTexts ["TO"] then
          match ← intervalUnit r with
          | some operands => pure operands
          | none => failure
        else pure []
      pure (some (.compound (value :: unit ++ last)))

def addedInterval (r : Readers) (e : Expr) : Parse (Option Expr) := fun ts =>
  match acceptSymbol "+" ts with
  | some (_, rest) =>
    if rest.head?.any fun t => t.kind == .literal || t.kind == .number then
      ((fun added => some (.compound [e, added])) <$> required (intervalValue r)) rest
    else some (none, ts)
  | none => none

/-- An interval, none if there is only a name that reads as its first word. -/
def interval (r : Readers) : Parse (Option Expr) := fun ts =>
  match ts with
  | t :: rest =>
    if isWord "INTERVAL" t then
      match intervalValue r rest with
      | some (some e, rest) => (some <$> repeated (addedInterval r) e) rest
      | some (none, _) => some (none, ts)
      | none => none
    else some (none, ts)
  | [] => some (none, ts)

end Grammar

end SchemaCatalog
