import SchemaCatalog.Catalog.Bisect
import SchemaCatalog.Catalog.Entity

/-!
# Mutual nullability

A check may demand that several columns are null together or not at all:
`(a IS NULL AND b IS NULL) OR (a IS NOT NULL AND b IS NOT NULL)`, either side first.
-/

namespace SchemaCatalog.Expr

/-- The columns tested by a conjunction of null tests that all say that the column is null, or all
that it is not. -/
def nullColumns? (isNull : Bool) : Expr → Option (List String)
  | paren inner => inner.nullColumns? isNull
  | and left right => do
    let columns ← left.nullColumns? isNull
    let more ← right.nullColumns? isNull
    pure (columns ++ more)
  | e =>
    match e.nullTest? with
    | some (name, test) => if test == isNull then some [name] else none
    | none => none

def sortedDistinct (names : List String) : List String := sortBy id textBefore (distinct names)

/-- The first expression tests columns for null, at least two of them, and the second tests the same
ones for the opposite. The answer is `none` if one of them is no such conjunction. -/
def pairsNullTests (first second : Expr) : Option Bool := do
  let nulls ← first.nullColumns? true
  let others ← second.nullColumns? false
  let columns := sortedDistinct nulls
  pure (columns == sortedDistinct others && decide (2 ≤ columns.length))

/-- The expression demands that several columns are null together or not at all. -/
def isMutualNullability (e : Expr) : Bool :=
  match e.unwrap with
  | or left right =>
    match pairsNullTests left right with
    | some answer => answer
    | none => (pairsNullTests right left).getD false
  | _ => false

end SchemaCatalog.Expr
