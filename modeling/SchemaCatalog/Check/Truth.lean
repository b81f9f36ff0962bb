import SchemaCatalog.Catalog.Entity
import SchemaCatalog.Expr.Literal

/-!
# Truth of a check

A check may be true or false whatever the row. Which of the two is decided from the expression alone
and from the columns that are never null: `some true` says true of every row, `some false` false of
every row, and `none` that nothing is known. The connectives are those of three-valued logic, where
what is not known may still be settled by the other side.
-/

namespace SchemaCatalog

/-- What is known of the truth of an expression. -/
abbrev Verdict := Option Bool

namespace Verdict

/-- True if one side is, false if both are. -/
def or : Verdict → Verdict → Verdict
  | some true, _ => some true
  | _, some true => some true
  | some false, some false => some false
  | _, _ => none

/-- False if one side is, true if both are. -/
def and : Verdict → Verdict → Verdict
  | some false, _ => some false
  | _, some false => some false
  | some true, some true => some true
  | _, _ => none

def not (v : Verdict) : Verdict := v.map (!·)

end Verdict

/-- Whether two literals are equal, if both are literals and neither is null. -/
def literalEquality (left right : Expr) : Verdict :=
  match left.literalValue?, right.literalValue? with
  | some .null, _ => none
  | _, some .null => none
  | some a, some b => some (a.equals b)
  | _, _ => none

namespace Expr

/-- The two expressions test one column for null, one of them that it is and the other that it is
not. -/
def isNullPair (left right : Expr) : Bool :=
  match left.nullTest?, right.nullTest? with
  | some (a, isNull), some (b, isNull') => a == b && isNull != isNull'
  | _, _ => false

/-- The truth of a test for null: known if the column is `required`, that is, never null. -/
def nullTestTruth (required : String → Bool) (column : String) (isNull : Bool) : Verdict :=
  if required column then some (!isNull) else none

/-- What is known of the truth of an expression, given the columns that are never null. -/
def truth (required : String → Bool) : Expr → Verdict
  | paren inner => inner.truth required
  | literal (.boolean value) => some value
  | is left right =>
    match (is left right).nullTest? with
    | some (name, isNull) => nullTestTruth required name isNull
    | none => none
  | not inner =>
    match (not inner).nullTest? with
    | some (name, isNull) => nullTestTruth required name isNull
    | none => (inner.truth required).not
  | compare .eq left right => literalEquality left right
  | compare .ne left right => (literalEquality left right).not
  | or left right =>
    if isNullPair left right then some true
    else (left.truth required).or (right.truth required)
  | and left right => (left.truth required).and (right.truth required)
  | _ => none

/-- An equality under the connectives compares something unreadable. -/
def equatesUnreadable : Expr → Bool
  | paren inner => inner.equatesUnreadable
  | not inner => inner.equatesUnreadable
  | and left right => left.equatesUnreadable || right.equatesUnreadable
  | or left right => left.equatesUnreadable || right.equatesUnreadable
  | compare .eq left right => left.isUnreadable || right.isUnreadable
  | compare .ne left right => left.isUnreadable || right.isUnreadable
  | _ => false

end Expr

namespace CheckConstraint

/-- The column of a name, if the check refers to it; `m` is what is known of the check's table. -/
def column? (k : CheckConstraint) (m : TableMetadata) (name : String) : Option Column :=
  if k.columnNames.contains name then m.column? name else none

def columns (k : CheckConstraint) (m : TableMetadata) : List Column :=
  k.columnNames.filterMap m.column?

/-- The column of a name is one of the check, and never null. -/
def requires (k : CheckConstraint) (m : TableMetadata) (name : String) : Bool :=
  match k.column? m name with
  | some c => !m.isNullable c
  | none => false

def truth (k : CheckConstraint) (m : TableMetadata) : Verdict :=
  k.expression.tree.truth (k.requires m)

/-- The check is true of every row. -/
def isTautology (k : CheckConstraint) (m : TableMetadata) : Bool := k.truth m == some true

end CheckConstraint

end SchemaCatalog
