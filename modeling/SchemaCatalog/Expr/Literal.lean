import SchemaCatalog.Expr.Basic
import SchemaCatalog.Number.Binary64

/-!
# The values of literals

A literal, possibly in parentheses or a number under one minus sign, has a value. A number is read as
a whole number if its text is one, else as the nearest binary floating-point number, else it stands
for its own text. Such a text has no negative: an expression that negates it is `unreadable`.
-/

namespace SchemaCatalog

inductive Numeral where
  | integer (value : Int)
  | double (value : Binary64)
  /-- A text that is no number. -/
  | text (value : String)
  deriving DecidableEq, Repr

inductive Literal where
  | boolean (value : Bool)
  | null
  | string (value : String)
  | number (value : Numeral)
  deriving DecidableEq, Repr

namespace Numeral

def ofText (text : String) : Numeral :=
  match Text.readDecimal? text with
  | some value => integer value
  | none =>
    match Binary64.ofDecimalText? text with
    | some value => double value
    | none => .text text

/-- The negative of a number; a text has none. -/
def negated? : Numeral → Option Numeral
  | integer value => some (integer (-value))
  | double value => some (double value.neg)
  | text _ => none

/-- Two numbers are equal, a whole number and a floating-point one exactly. -/
def equals : Numeral → Numeral → Bool
  | integer a, integer b => a == b
  | integer a, double b => b.equalsInt a
  | double a, integer b => a.equalsInt b
  | double a, double b => a.sameValue b
  | text a, text b => a == b
  | _, _ => false

end Numeral

/-- Two literals of one kind are equal; those of different kinds never are. -/
def Literal.equals : Literal → Literal → Bool
  | boolean a, boolean b => a == b
  | null, null => true
  | string a, string b => a == b
  | number a, number b => a.equals b
  | _, _ => false

def RawLiteral.value : RawLiteral → Literal
  | boolean b => .boolean b
  | null => .null
  | string s => .string s
  | number text => .number (.ofText text)

namespace Expr

/-- The number a literal holds, for an expression under a minus sign. -/
def numeral? (e : Expr) : Option Numeral :=
  match e.unwrap with
  | literal (.number text) => some (.ofText text)
  | _ => none

/-- The value of a literal expression. An unreadable one has none. -/
def literalValue? (e : Expr) : Option Literal :=
  match e.unwrap with
  | literal raw => some raw.value
  | negate inner => (inner.numeral?.bind Numeral.negated?).map .number
  | _ => none

/-- The expression negates a number that is a mere text. -/
def isUnreadable (e : Expr) : Bool :=
  match e.unwrap with
  | negate inner =>
    match inner.numeral? with
    | some n => n.negated?.isNone
    | none => false
  | _ => false

def integerLiteral? (e : Expr) : Option Int :=
  match e.literalValue? with
  | some (.number (.integer value)) => some value
  | _ => none

def stringLiteral? (e : Expr) : Option String :=
  match e.literalValue? with
  | some (.string value) => some value
  | _ => none

end Expr

end SchemaCatalog
