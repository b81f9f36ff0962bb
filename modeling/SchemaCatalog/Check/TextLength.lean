import SchemaCatalog.Check.Truth

/-!
# Bounds on the length of texts

A check may bound the length of a text column, by a number or by the length of another column that
the checks of the table bound in turn. Upper bounds are exclusive and lower bounds inclusive: both
`length(a) < 11` and `length(a) <= 10` have the upper bound 11. A column whose bound is being looked
for is not looked for again.
-/

namespace SchemaCatalog

inductive BoundSide where
  | lower | upper
  deriving DecidableEq, Repr

namespace BoundSide

/-- Whether a comparison of a length with a limit admits the limit itself, if it is a bound of this
kind at all. -/
def admitsLimit? : BoundSide → Comparison → Option Bool
  | upper, .lt => some false
  | upper, .le => some true
  | lower, .gt => some false
  | lower, .ge => some true
  | _, _ => none

/-- The bound of a limit that is itself admitted or not. -/
def ofLimit : BoundSide → Bool → Nat → Nat
  | upper, true, limit => limit + 1
  | upper, false, limit => limit
  | lower, true, limit => limit
  | lower, false, limit => limit + 1

def stricter : BoundSide → Nat → Nat → Nat
  | upper, a, b => min a b
  | lower, a, b => max a b

/-- The bound of what satisfies both sides: the stricter one, or the only one. -/
def both (side : BoundSide) : Option Nat → Option Nat → Option Nat
  | some a, some b => some (side.stricter a b)
  | some a, none => some a
  | none, b => b

/-- The bound of what satisfies one side or the other: only a lower bound on both sides counts. -/
def either : BoundSide → Option Nat → Option Nat → Option Nat
  | lower, some a, some b => some (min a b)
  | _, _, _ => none

end BoundSide

/-- A comparison read from right to left. -/
def Comparison.swapped : Comparison → Comparison
  | eq => eq
  | ne => ne
  | lt => gt
  | le => ge
  | gt => lt
  | ge => le

/-- What a bound is looked for with: the kind of bound, the columns that are texts, the column it is
looked for on (any if none is given), and the bounds of other columns. -/
structure BoundSearch where
  side : BoundSide
  isText : String → Bool
  target : Option String
  boundOf : String → Option Nat

namespace BoundSearch

def wants (s : BoundSearch) (column : String) : Bool :=
  (match s.target with
    | some target => column == target
    | none => true) && s.isText column

/-- The limit that an expression sets: a number, or the bound of the length of another column. -/
def limit? (s : BoundSearch) (value : Expr) : Option Nat :=
  match value.integerLiteral? with
  | some (.ofNat n) => some n
  | _ => value.lengthColumn?.bind s.boundOf

/-- The bound set by comparing a length, on the left, with a limit. -/
def ofComparison (s : BoundSearch) (op : Comparison) (length value : Expr) : Option Nat := do
  let admitted ← s.side.admitsLimit? op
  let column ← length.lengthColumn?
  if s.wants column then
    let limit ← s.limit? value
    pure (s.side.ofLimit admitted limit)
  else none

def ofExpr (s : BoundSearch) : Expr → Option Nat
  | .paren inner => s.ofExpr inner
  | .compare op left right =>
    (s.ofComparison op left right).orElse fun _ => s.ofComparison op.swapped right left
  | .and left right => s.side.both (s.ofExpr left) (s.ofExpr right)
  | .or left right => s.side.either (s.ofExpr left) (s.ofExpr right)
  | _ => none

end BoundSearch

def CheckConstraint.isText (k : CheckConstraint) (m : TableMetadata) (name : String) : Bool :=
  match k.column? m name with
  | some c => c.isTextual
  | none => false

/-- The bound that all checks of a table set on the length of a column, none if the column is not
among those that may still be looked for. -/
def TableMetadata.lengthBound (m : TableMetadata) (side : BoundSide) (unvisited : List String)
    (column : String) : Option Nat :=
  if _ : column ∈ unvisited then
    let boundOf := fun other => m.lengthBound side (unvisited.erase column) other
    m.checks.foldl
      (fun found k =>
        side.both found
          ({ side, isText := k.isText m, target := some column, boundOf : BoundSearch }.ofExpr
            k.expression.tree))
      none
  else none
termination_by unvisited.length
decreasing_by
  have := List.length_erase_of_mem ‹column ∈ unvisited›
  have := List.length_pos_of_mem ‹column ∈ unvisited›
  omega

namespace CheckConstraint

/-- The columns whose bounds may be looked for on behalf of a check. -/
def boundColumns (k : CheckConstraint) (m : TableMetadata) : List String :=
  distinct (k.expression.tree.columnReferences
    ++ m.checks.flatMap fun other => other.expression.tree.columnReferences)

/-- The bound that a check sets on the length of a text. -/
def lengthBound (k : CheckConstraint) (m : TableMetadata) (side : BoundSide) : Option Nat :=
  { side
    isText := k.isText m
    target := none
    boundOf := m.lengthBound side (k.boundColumns m) : BoundSearch }.ofExpr k.expression.tree

/-- The first length of a text that the check rejects. -/
def upperBound (k : CheckConstraint) (m : TableMetadata) : Option Nat := k.lengthBound m .upper

/-- The least length of a text that the check accepts. -/
def lowerBound (k : CheckConstraint) (m : TableMetadata) : Option Nat := k.lengthBound m .lower

end CheckConstraint

/-- A comparison under the connectives bounds the length of a text by something unreadable. -/
def Expr.boundsUnreadable (isText : String → Bool) : Expr → Bool
  | paren inner => inner.boundsUnreadable isText
  | and left right => left.boundsUnreadable isText || right.boundsUnreadable isText
  | or left right => left.boundsUnreadable isText || right.boundsUnreadable isText
  | compare op left right =>
    let isLength := fun (e : Expr) => (e.lengthColumn?.filter isText).isSome
    (op != .eq && op != .ne)
      && ((isLength left && right.isUnreadable) || (isLength right && left.isUnreadable))
  | _ => false

end SchemaCatalog
