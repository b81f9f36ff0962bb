import SchemaCatalog.Check.Nullability
import SchemaCatalog.Check.TextLength

/-!
# Classification of checks

What can be said of a check without looking at rows: whether it is always true or always false,
demands mutual nullability or a text that is not empty, and how it bounds the length of texts. A
check that negates a number which is a mere text cannot be classified.
-/

namespace SchemaCatalog

/-- One side is a column that `isText` and the other the empty string. -/
def Expr.excludesEmpty (isText : String → Bool) (column value : Expr) : Bool :=
  value.stringLiteral? == some "" && (column.columnName?.filter isText).isSome

/-- The expression demands that some text is not empty. -/
def Expr.demandsText (isText : String → Bool) : Expr → Bool
  | paren inner => inner.demandsText isText
  | compare .ne left right => left.excludesEmpty isText right || right.excludesEmpty isText left
  | and left right => left.demandsText isText || right.demandsText isText
  | _ => false

namespace CheckConstraint

variable (k : CheckConstraint) (m : TableMetadata)

/-- The check demands that some text column is not empty. -/
def isNotEmptyText : Bool := k.expression.tree.demandsText (k.isText m)

/-- The check demands that several columns are null together or not at all. -/
def isMutualNullability : Bool := k.expression.tree.isMutualNullability

/-- The check rejects every row: its expression is false, or its bounds leave no length. -/
def isNegation : Bool :=
  k.truth m == some false
    || match k.lowerBound m, k.upperBound m with
      | some lower, some upper => decide (upper ≤ lower)
      | _, _ => false

/-- The check can be classified: it compares nothing unreadable. -/
def isReadable : Bool :=
  !(k.expression.tree.equatesUnreadable || k.expression.tree.boundsUnreadable (k.isText m))

def label : String :=
  let words :=
    (if k.isTautology m then ["tautology"] else [])
      ++ (if k.isNegation m then ["negation"] else [])
      ++ (if k.isMutualNullability then ["mutual nullability"] else [])
      ++ (if k.isNotEmptyText m then ["not empty"] else [])
      ++ (match k.lowerBound m with
        | some lower => ["length >= " ++ toString lower]
        | none => [])
      ++ match k.upperBound m with
        | some upper => ["length < " ++ toString upper]
        | none => []
  ", ".intercalate words

end CheckConstraint

end SchemaCatalog
