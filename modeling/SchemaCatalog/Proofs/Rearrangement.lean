import Mathlib.Data.Multiset.AddSub
import Mathlib.Data.Option.NAry
import Mathlib.Logic.Relation
import SchemaCatalog.Check.Classification
import SchemaCatalog.Proofs.LengthSearch
import SchemaCatalog.Proofs.SortedSearch

/-!
# Rearranged expressions

Parentheses may be written or left out, the sides of a connective swapped, and a comparison read
from right to left. `Expr.Rearranges` is one such change at one place, however deep, and
`Expr.Rearranged` any number of them in either direction.

Whatever is read off an expression for a check is the same after one change: the value of a literal,
the column that is measured or tested for null, the truth, the columns that are null together, the
bound set to a length. Each of these is a lemma of its own, since each reading decides for itself
where it looks through parentheses and which side it tries first; it is an induction on where the
change is, and rests on the lemmas about what the reading reads in turn. `Rearranged.congr` takes
them from one change to any number.

Two readings try both orders of a pair and take the first that leads anywhere. There the order does
not matter because not both can: of two sides one at most is a conjunction of tests that columns are
null with the other one testing that they are not (`pairsNullTests_swap`), and a comparison bounds a
length from one side only (`ofComparison_swapped`).
-/

namespace SchemaCatalog

namespace Expr

/-! ## 1. The relation -/

/-- One place of an expression is written otherwise: the parentheses around a part are left out, the
sides of a connective are swapped, or a comparison is read from right to left. Those around the
keyword in `x IS (NULL)` stay, since without them it is a test for null. -/
inductive Rearranges : Expr → Expr → Prop
  | unparen (e : Expr) : Rearranges (.paren e) e
  | swapAnd (left right : Expr) : Rearranges (.and left right) (.and right left)
  | swapOr (left right : Expr) : Rearranges (.or left right) (.or right left)
  | mirror (op : Comparison) (left right : Expr) :
      Rearranges (.compare op left right) (.compare op.swapped right left)
  | paren {e e' : Expr} : Rearranges e e' → Rearranges (.paren e) (.paren e')
  | negate {e e' : Expr} : Rearranges e e' → Rearranges (.negate e) (.negate e')
  | not {e e' : Expr} : Rearranges e e' → Rearranges (.not e) (.not e')
  | andLeft {e e' : Expr} (right : Expr) :
      Rearranges e e' → Rearranges (.and e right) (.and e' right)
  | andRight {e e' : Expr} (left : Expr) :
      Rearranges e e' → Rearranges (.and left e) (.and left e')
  | orLeft {e e' : Expr} (right : Expr) : Rearranges e e' → Rearranges (.or e right) (.or e' right)
  | orRight {e e' : Expr} (left : Expr) : Rearranges e e' → Rearranges (.or left e) (.or left e')
  | compareLeft {e e' : Expr} (op : Comparison) (right : Expr) :
      Rearranges e e' → Rearranges (.compare op e right) (.compare op e' right)
  | compareRight {e e' : Expr} (op : Comparison) (left : Expr) :
      Rearranges e e' → Rearranges (.compare op left e) (.compare op left e')
  | isLeft {e e' : Expr} (right : Expr) : Rearranges e e' → Rearranges (.is e right) (.is e' right)
  | isRight {e e' : Expr} (left : Expr) :
      Rearranges e e' → e' ≠ .literal .null → Rearranges (.is left e) (.is left e')
  | call {e e' : Expr} (names : List String) (before after : List Expr) :
      Rearranges e e' →
      Rearranges (.call names (before ++ e :: after)) (.call names (before ++ e' :: after))
  | compound {e e' : Expr} (before after : List Expr) :
      Rearranges e e' →
      Rearranges (.compound (before ++ e :: after)) (.compound (before ++ e' :: after))
  | query {e e' : Expr} (before after : List Expr) :
      Rearranges e e' → Rearranges (.query (before ++ e :: after)) (.query (before ++ e' :: after))
  | nameless {e e' : Expr} (qualifiers : List String) (before after : List Expr) :
      Rearranges e e' →
      Rearranges (.nameless qualifiers (before ++ e :: after))
        (.nameless qualifiers (before ++ e' :: after))

/-- Two ways of writing one expression. -/
def Rearranged : Expr → Expr → Prop := Relation.EqvGen Rearranges

/-- What one change keeps, any number of them keeps. -/
theorem Rearranged.congr {α : Sort*} {v : Expr → α} (hv : ∀ {e e'}, Rearranges e e' → v e = v e')
    {e e' : Expr} (h : e.Rearranged e') : v e = v e' := by
  induction h with
  | rel e e' h => exact hv h
  | refl e => rfl
  | symm e e' _ ih => exact ih.symm
  | trans e e' e'' _ _ ih ih' => exact ih.trans ih'

namespace Rearranges

variable {e e' : Expr}

/-! ## 2. Columns and literals -/

theorem columnName?_eq (h : e.Rearranges e') : e.columnName? = e'.columnName? := by
  induction h with
  | paren _ ih => exact ih
  | _ => rfl

theorem numeral?_eq (h : e.Rearranges e') : e.numeral? = e'.numeral? := by
  induction h with
  | paren _ ih => exact ih
  | _ => rfl

theorem literalValue?_eq (h : e.Rearranges e') : e.literalValue? = e'.literalValue? := by
  induction h with
  | paren _ ih => exact ih
  | negate h => simp only [literalValue?, unwrap, h.numeral?_eq]
  | _ => rfl

theorem integerLiteral?_eq (h : e.Rearranges e') : e.integerLiteral? = e'.integerLiteral? := by
  rw [integerLiteral?, integerLiteral?, h.literalValue?_eq]

theorem stringLiteral?_eq (h : e.Rearranges e') : e.stringLiteral? = e'.stringLiteral? := by
  rw [stringLiteral?, stringLiteral?, h.literalValue?_eq]

theorem lengthColumn?_eq (h : e.Rearranges e') : e.lengthColumn? = e'.lengthColumn? := by
  induction h with
  | paren _ ih => exact ih
  | call names before after h =>
    match before, after with
    | [], [] => simp only [lengthColumn?, unwrap, List.nil_append, h.columnName?_eq]
    | [], _ :: _ => rfl
    | [_], _ => rfl
    | _ :: _ :: _, _ => rfl
  | _ => rfl

end Rearranges

/-! ## 3. Tests for null -/

/-- The column that the expression says is null. -/
def nullColumn? (e : Expr) : Option String :=
  match e.unwrap with
  | is left (literal .null) => left.columnName?
  | _ => none

theorem nullTest?_is (left right : Expr) :
    (Expr.is left right).nullTest? = (Expr.is left right).nullColumn?.map (·, true) := by
  cases right with
  | literal v => cases v <;> rfl
  | _ => rfl

theorem nullTest?_not (inner : Expr) :
    (Expr.not inner).nullTest? = inner.nullColumn?.map (·, false) := by
  change (match inner.unwrap with
    | is left (literal .null) => left.columnName?.map (·, false)
    | _ => none) = _
  unfold nullColumn?
  split <;> rfl

theorem nullColumn?_is_of_ne {left right : Expr} (h : right ≠ .literal .null) :
    (Expr.is left right).nullColumn? = none := by
  cases right with
  | literal v =>
    cases v with
    | null => exact absurd rfl h
    | _ => rfl
  | _ => rfl

namespace Rearranges

variable {e e' left left' right right' : Expr}

theorem nullColumn?_eq (h : e.Rearranges e') : e.nullColumn? = e'.nullColumn? := by
  induction h with
  | paren _ ih => exact ih
  | isLeft right h =>
    by_cases hnull : right = .literal .null
    · subst hnull
      exact h.columnName?_eq
    · rw [nullColumn?_is_of_ne hnull, nullColumn?_is_of_ne hnull]
  | isRight left h hnull =>
    -- The keyword alone cannot be changed.
    rw [nullColumn?_is_of_ne hnull, nullColumn?_is_of_ne (by rintro rfl; cases h)]
  | _ => rfl

theorem nullTest?_eq (h : e.Rearranges e') : e.nullTest? = e'.nullTest? := by
  induction h with
  | unparen e => rfl
  | paren _ ih => exact ih
  | not h => rw [nullTest?_not, nullTest?_not, h.nullColumn?_eq]
  | isLeft right h => rw [nullTest?_is, nullTest?_is, (h.isLeft right).nullColumn?_eq]
  | isRight left h hnull =>
    rw [nullTest?_is, nullTest?_is, (h.isRight left hnull).nullColumn?_eq]
  | _ => rfl

end Rearranges

theorem isNullPair_comm (left right : Expr) : left.isNullPair right = right.isNullPair left := by
  unfold isNullPair
  cases left.nullTest? with
  | none => cases right.nullTest? <;> rfl
  | some a =>
    cases right.nullTest? with
    | none => rfl
    | some b => simp only [Bool.beq_comm, bne_comm]

end Expr

/-! ## 4. Truth -/

theorem Verdict.and_comm (v w : Verdict) : v.and w = w.and v := by
  rcases v with _ | _ | _ <;> rcases w with _ | _ | _ <;> rfl

theorem Verdict.or_comm (v w : Verdict) : v.or w = w.or v := by
  rcases v with _ | _ | _ <;> rcases w with _ | _ | _ <;> rfl

theorem Binary64.sameValue_comm (x y : Binary64) : x.sameValue y = y.sameValue x := by
  unfold sameValue
  cases x.magnitude <;> cases y.magnitude <;> simp only
  · rename_i m e m' e'
    rw [Bool.eq_iff_iff]
    simp only [Bool.and_eq_true, Bool.or_eq_true, beq_iff_eq]
    constructor
    · rintro ⟨⟨rfl, rfl⟩, h⟩
      exact ⟨⟨rfl, rfl⟩, h.imp_left Eq.symm⟩
    · rintro ⟨⟨rfl, rfl⟩, h⟩
      exact ⟨⟨rfl, rfl⟩, h.imp_left Eq.symm⟩
  · exact Bool.beq_comm

theorem Numeral.equals_comm (a b : Numeral) : a.equals b = b.equals a := by
  cases a <;> cases b <;>
    simp only [equals, Bool.beq_comm, Binary64.sameValue_comm]

theorem Literal.equals_comm (a b : Literal) : a.equals b = b.equals a := by
  cases a <;> cases b <;>
    simp only [equals, Bool.beq_comm, Numeral.equals_comm]

theorem literalEquality_comm (left right : Expr) :
    literalEquality left right = literalEquality right left := by
  unfold literalEquality
  cases left.literalValue? with
  | none => rcases right.literalValue? with _ | _ | _ <;> rfl
  | some a =>
    cases right.literalValue? with
    | none => cases a <;> rfl
    | some b => cases a <;> cases b <;> simp only [Literal.equals_comm]

namespace Expr.Rearranges

variable {e e' left right : Expr} (required : String → Bool)

theorem literalEquality_left (h : e.Rearranges e') (right : Expr) :
    literalEquality e right = literalEquality e' right := by
  rw [literalEquality, literalEquality, h.literalValue?_eq]

theorem literalEquality_right (left : Expr) (h : e.Rearranges e') :
    literalEquality left e = literalEquality left e' := by
  rw [literalEquality, literalEquality, h.literalValue?_eq]

theorem truth_eq (h : e.Rearranges e') : e.truth required = e'.truth required := by
  induction h with
  | unparen e => rw [truth]
  | swapAnd left right => rw [truth, truth, Verdict.and_comm]
  | swapOr left right => rw [truth, truth, isNullPair_comm, Verdict.or_comm]
  | mirror op left right =>
    cases op with
    | eq => exact literalEquality_comm left right
    | ne => exact congrArg Verdict.not (literalEquality_comm left right)
    | _ => rfl
  | paren _ ih => rw [truth, truth, ih]
  | not h ih => rw [truth, truth, h.not.nullTest?_eq, ih]
  | andLeft right _ ih => rw [truth, truth, ih]
  | andRight left _ ih => rw [truth, truth, ih]
  | orLeft right h ih => rw [truth, truth, ih, isNullPair, isNullPair, h.nullTest?_eq]
  | orRight left h ih => rw [truth, truth, ih, isNullPair, isNullPair, h.nullTest?_eq]
  | compareLeft op right h =>
    cases op with
    | eq => exact h.literalEquality_left right
    | ne => exact congrArg Verdict.not (h.literalEquality_left right)
    | _ => rfl
  | compareRight op left h =>
    cases op with
    | eq => exact h.literalEquality_right left
    | ne => exact congrArg Verdict.not (h.literalEquality_right left)
    | _ => rfl
  | isLeft right h => rw [truth, truth, (h.isLeft right).nullTest?_eq]
  | isRight left h hnull => rw [truth, truth, (h.isRight left hnull).nullTest?_eq]
  | _ => rfl

end Expr.Rearranges

/-! ## 5. Mutual nullability -/

/-- Only which names there are counts. -/
theorem Expr.sortedDistinct_congr {as bs : List String} (h : ∀ a, a ∈ as ↔ a ∈ bs) :
    sortedDistinct as = sortedDistinct bs := by
  have hperm : (sortedDistinct as).Perm (sortedDistinct bs) := by
    refine ((sortBy_perm _).trans ?_).trans (sortBy_perm _).symm
    exact (List.perm_ext_iff_of_nodup (nodup_distinct as) (nodup_distinct bs)).mpr fun a => by
      rw [mem_distinct, mem_distinct, h a]
  refine hperm.eq_of_pairwise (fun a b _ _ hab hba => ?_)
    (sortedBy_sortBy textBefore_strictTotal (distinct as))
    (sortedBy_sortBy textBefore_strictTotal (distinct bs))
  exact textBefore_strictTotal.connected a b hba hab

namespace Expr

/-- An expression that is neither in parentheses nor a conjunction is a test by itself. -/
theorem nullColumns?_of_test {e : Expr} {isNull : Bool} (hparen : ∀ inner, e ≠ .paren inner)
    (hand : ∀ left right, e ≠ .and left right) : e.nullColumns? isNull
      = (e.nullTest?.filter fun test => test.2 == isNull).map fun test => [test.1] := by
  rw [nullColumns?]
  · cases e.nullTest? with
    | none => rfl
    | some test =>
      simp only [Option.filter]
      split <;> rfl
  · exact hparen
  · exact hand

/-- A conjunction of tests that some columns are null is no conjunction of tests that some are not,
and the other way round. -/
theorem nullColumns?_not {e : Expr} {isNull : Bool} (h : (e.nullColumns? isNull).isSome) :
    e.nullColumns? (!isNull) = none := by
  fun_induction nullColumns? isNull e with
  | case1 inner ih =>
    rw [nullColumns?]
    exact ih h
  | case2 left right ih ih' =>
    obtain ⟨columns, hcolumns⟩ := Option.isSome_iff_exists.mp h
    obtain ⟨lefts, hleft, -⟩ := Option.bind_eq_some_iff.mp hcolumns
    rw [nullColumns?, ih (Option.isSome_of_eq_some hleft)]
    rfl
  | case3 e hparen hand name test htest hkind =>
    have hopposite : (test == !isNull) = false := by
      rw [beq_iff_eq.mp hkind]
      cases isNull <;> rfl
    rw [nullColumns?_of_test hparen hand, htest, Option.filter, hopposite]
    rfl
  | case4 | case5 => cases h

/-- The columns that a conjunction of null tests of one kind is about, in no order. -/
def testedColumns? (isNull : Bool) (e : Expr) : Option (Multiset String) :=
  (e.nullColumns? isNull).map (↑)

theorem testedColumns?_and (isNull : Bool) (left right : Expr) :
    (Expr.and left right).testedColumns? isNull
      = Option.map₂ (· + ·) (left.testedColumns? isNull) (right.testedColumns? isNull) := by
  unfold testedColumns?
  rw [nullColumns?]
  cases left.nullColumns? isNull <;> cases right.nullColumns? isNull <;> rfl

theorem pairsNullTests_eq (first second : Expr) : pairsNullTests first second
    = ((first.nullColumns? true).map sortedDistinct).bind fun nulls =>
      ((second.nullColumns? false).map sortedDistinct).map fun others =>
        nulls == others && decide (2 ≤ nulls.length) := by
  unfold pairsNullTests
  cases first.nullColumns? true <;> cases second.nullColumns? false <;> rfl

/-- Two sides make a pair of null tests in one order at most. -/
theorem pairsNullTests_swap {first second : Expr} (h : (pairsNullTests first second).isSome) :
    pairsNullTests second first = none := by
  obtain ⟨answer, hanswer⟩ := Option.isSome_iff_exists.mp h
  obtain ⟨nulls, hnulls, -⟩ := Option.bind_eq_some_iff.mp hanswer
  have hnone : first.nullColumns? false = none :=
    nullColumns?_not (Option.isSome_of_eq_some hnulls)
  rw [pairsNullTests, hnone]
  cases second.nullColumns? true <;> rfl

theorem isMutualNullability_or_comm (left right : Expr) :
    (Expr.or left right).isMutualNullability = (Expr.or right left).isMutualNullability := by
  unfold isMutualNullability unwrap
  cases hleft : pairsNullTests left right with
  | none => cases hright : pairsNullTests right left <;> simp [hleft, hright]
  | some answer => simp [hleft, pairsNullTests_swap (Option.isSome_of_eq_some hleft)]

namespace Rearranges

variable {e e' : Expr}

theorem testedColumns?_eq (h : e.Rearranges e') (isNull : Bool) :
    e.testedColumns? isNull = e'.testedColumns? isNull := by
  induction h with
  | unparen e => rw [testedColumns?, nullColumns?, testedColumns?]
  | paren _ ih => exact ih
  | swapAnd left right =>
    rw [testedColumns?_and, testedColumns?_and, Option.map₂_comm Multiset.add_comm]
  | andLeft right _ ih => rw [testedColumns?_and, testedColumns?_and, ih]
  | andRight left _ ih => rw [testedColumns?_and, testedColumns?_and, ih]
  | not h => simp only [testedColumns?, nullColumns?, h.not.nullTest?_eq]
  | isLeft right h => simp only [testedColumns?, nullColumns?, (h.isLeft right).nullTest?_eq]
  | isRight left h hnull =>
    simp only [testedColumns?, nullColumns?, (h.isRight left hnull).nullTest?_eq]
  | _ => rfl

theorem sortedColumns_eq (h : e.Rearranges e') (isNull : Bool) :
    (e.nullColumns? isNull).map sortedDistinct = (e'.nullColumns? isNull).map sortedDistinct := by
  have htested := h.testedColumns?_eq isNull
  unfold testedColumns? at htested
  cases hcolumns : e.nullColumns? isNull with
  | none =>
    rw [hcolumns, Option.map_none, eq_comm, Option.map_eq_none_iff] at htested
    rw [htested]
  | some columns =>
    rw [hcolumns, Option.map_some, eq_comm, Option.map_eq_some_iff] at htested
    obtain ⟨columns', hcolumns', hsame⟩ := htested
    rw [hcolumns', Option.map_some, Option.map_some,
      sortedDistinct_congr fun _ => (Multiset.coe_eq_coe.mp hsame).symm.mem_iff.symm]

theorem isMutualNullability_eq (h : e.Rearranges e') :
    e.isMutualNullability = e'.isMutualNullability := by
  induction h with
  | paren _ ih => exact ih
  | swapOr left right => exact isMutualNullability_or_comm left right
  | orLeft right h | orRight left h =>
    simp only [isMutualNullability, unwrap, pairsNullTests_eq, h.sortedColumns_eq]
  | _ => rfl

end Rearranges

/-! ## 6. Texts that are not empty -/

namespace Rearranges

variable {e e' : Expr} (isText : String → Bool)

theorem excludesEmpty_column (h : e.Rearranges e') (value : Expr) :
    e.excludesEmpty isText value = e'.excludesEmpty isText value := by
  rw [excludesEmpty, excludesEmpty, h.columnName?_eq]

theorem excludesEmpty_value (column : Expr) (h : e.Rearranges e') :
    column.excludesEmpty isText e = column.excludesEmpty isText e' := by
  rw [excludesEmpty, excludesEmpty, h.stringLiteral?_eq]

theorem demandsText_eq (h : e.Rearranges e') : e.demandsText isText = e'.demandsText isText := by
  induction h with
  | unparen e => rw [demandsText]
  | paren _ ih => exact ih
  | swapAnd left right => exact Bool.or_comm _ _
  | andLeft right _ ih => rw [demandsText, demandsText, ih]
  | andRight left _ ih => rw [demandsText, demandsText, ih]
  | mirror op left right =>
    cases op with
    | ne => exact Bool.or_comm _ _
    | _ => rfl
  | compareLeft op right h =>
    cases op with
    | ne => rw [demandsText, demandsText, h.excludesEmpty_column, h.excludesEmpty_value]
    | _ => rfl
  | compareRight op left h =>
    cases op with
    | ne => rw [demandsText, demandsText, h.excludesEmpty_column, h.excludesEmpty_value]
    | _ => rfl
  | _ => rfl

end Rearranges

end Expr

/-! ## 7. Bounds on lengths -/

theorem Comparison.swapped_swapped (op : Comparison) : op.swapped.swapped = op := by
  cases op <;> rfl

theorem BoundSide.both_comm (side : BoundSide) (x y : Option Nat) :
    side.both x y = side.both y x := by
  cases side <;> cases x <;> cases y <;> simp [both, stricter, Nat.min_comm, Nat.max_comm]

theorem BoundSide.either_comm (side : BoundSide) (x y : Option Nat) :
    side.either x y = side.either y x := by
  cases side <;> cases x <;> cases y <;> simp [either, Nat.min_comm]

namespace BoundSearch

variable (s : BoundSearch) {e e' : Expr}

/-- A comparison bounds a length in one of the two directions in which it can be read. -/
theorem ofComparison_swapped {op : Comparison} {left right : Expr} {bound : Nat}
    (h : s.ofComparison op left right = some bound) :
    s.ofComparison op.swapped right left = none := by
  obtain ⟨admitted, hop, -⟩ := Option.bind_eq_some_iff.mp h
  rw [ofComparison, BoundSide.admitsLimit?_swapped (Option.isSome_of_eq_some hop)]
  rfl

theorem ofExpr_mirror (op : Comparison) (left right : Expr) :
    s.ofExpr (.compare op left right) = s.ofExpr (.compare op.swapped right left) := by
  rw [ofExpr, ofExpr, Comparison.swapped_swapped]
  cases hread : s.ofComparison op left right with
  | none => cases s.ofComparison op.swapped right left <;> rfl
  | some bound => rw [s.ofComparison_swapped hread]; rfl

theorem ofComparison_length (op : Comparison) (h : e.Rearranges e') (value : Expr) :
    s.ofComparison op e value = s.ofComparison op e' value := by
  rw [ofComparison, ofComparison, h.lengthColumn?_eq]

theorem ofComparison_value (op : Comparison) (length : Expr) (h : e.Rearranges e') :
    s.ofComparison op length e = s.ofComparison op length e' := by
  rw [ofComparison, ofComparison, limit?, limit?, h.integerLiteral?_eq, h.lengthColumn?_eq]

theorem ofExpr_rearranges (h : e.Rearranges e') : s.ofExpr e = s.ofExpr e' := by
  induction h with
  | unparen e => rw [ofExpr]
  | paren _ ih => rw [ofExpr, ofExpr, ih]
  | swapAnd left right => rw [ofExpr, ofExpr, BoundSide.both_comm]
  | swapOr left right => rw [ofExpr, ofExpr, BoundSide.either_comm]
  | mirror op left right => exact s.ofExpr_mirror op left right
  | andLeft right _ ih | andRight left _ ih | orLeft right _ ih | orRight left _ ih =>
    rw [ofExpr, ofExpr, ih]
  | compareLeft op right h | compareRight op left h =>
    simp only [ofExpr, s.ofComparison_length _ h, s.ofComparison_value _ _ h]
  | _ => rfl

end BoundSearch

/-! ## 8. Columns -/

namespace Expr

theorem columnNamesOfAll_eq (es : List Expr) : columnNamesOfAll es = es.flatMap columnNames := by
  induction es with
  | nil => rfl
  | cons e es ih => rw [columnNamesOfAll, ih, List.flatMap_cons]

/-- The same columns are referred to, and as often. -/
theorem Rearranges.columnNames_perm {e e' : Expr} (h : e.Rearranges e') :
    e.columnNames.Perm e'.columnNames := by
  induction h with
  | unparen e => rw [columnNames]
  | paren _ ih | negate _ ih | not _ ih => exact ih
  | swapAnd left right | swapOr left right | mirror op left right => exact List.perm_append_comm
  | andLeft right _ ih | orLeft right _ ih | compareLeft op right _ ih | isLeft right _ ih =>
    exact ih.append_right right.columnNames
  | andRight left _ ih | orRight left _ ih | compareRight op left _ ih | isRight left _ _ ih =>
    exact ih.append_left left.columnNames
  | call _ before after _ ih | compound before after _ ih =>
    simp only [columnNames, columnNamesOfAll_eq, List.flatMap_append, List.flatMap_cons]
    exact (ih.append_right _).append_left _
  | query | nameless => exact List.Perm.refl _

end Expr

end SchemaCatalog
