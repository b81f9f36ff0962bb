import SchemaCatalog.Check.Classification
import SchemaCatalog.Proofs.SortedSearch
import SchemaCatalog.Proofs.States
import SchemaCatalog.Proofs.TextLength

/-!
# Checks that are said to reject every row

A check is said to reject every row if its verdict is false, or if its lower bound on the length of
a text is not below its upper one. A false verdict is right. A bound only says that some column the
check measures meets it, on a row on which the check is true; and if the check compares two lengths,
the bound may be lent by the other checks of its table, which then have to be true as well
(`CheckConstraint.lengthBound_sound`).

No column meets both bounds if they leave no length, but two columns may meet one each. So a check
that bounds one text from above and another from below is true on some rows, and a check with a lent
bound may be true on a row that another check rejects. On any other row a check with such bounds is
not true.

A check that is said to reject every row is never said to accept every row as well, wherever its
bounds come from. Nothing that bounds a length has the verdict true (`BoundSearch.truth_ne_true`): a
bound comes from a comparison, on which there is no verdict, and it passes through `AND` and `OR`
only in ways that keep the verdict from being true.
-/

namespace SchemaCatalog

/-! ## 1. Lent bounds -/

/-- A comparison under the connectives has a length on both sides. -/
def Expr.comparesLengths : Expr → Bool
  | paren inner => inner.comparesLengths
  | and left right => left.comparesLengths || right.comparesLengths
  | or left right => left.comparesLengths || right.comparesLengths
  | compare _ left right => left.lengthColumn?.isSome && right.lengthColumn?.isSome
  | _ => false

namespace BoundSearch

variable {s : BoundSearch}

/-- The bound of another column does not matter unless both sides are lengths. -/
theorem ofComparison_eq {op : Comparison} {length value : Expr} (boundOf : String → Option Nat)
    (h : length.lengthColumn? = none ∨ value.lengthColumn? = none) :
    { s with boundOf }.ofComparison op length value = s.ofComparison op length value := by
  rcases h with h | h
  · simp [ofComparison, h]
  · simp [ofComparison, limit?, wants, h]

/-- No bound is lent to an expression that compares no two lengths. -/
theorem ofExpr_eq {e : Expr} (boundOf : String → Option Nat) (h : e.comparesLengths = false) :
    { s with boundOf }.ofExpr e = s.ofExpr e := by
  fun_induction s.ofExpr e with
  | case1 inner ih => exact ih h
  | case2 op left right =>
    unfold Expr.comparesLengths at h
    rw [Bool.and_eq_false_iff, Option.isSome_eq_false_iff, Option.isSome_eq_false_iff,
      Option.isNone_iff_eq_none, Option.isNone_iff_eq_none] at h
    rw [ofExpr, ofComparison_eq boundOf h, ofComparison_eq boundOf h.symm]
  | case3 left right ih ih' =>
    obtain ⟨hleft, hright⟩ := Bool.or_eq_false_iff.mp h
    rw [ofExpr, ih hleft, ih' hright]
  | case4 left right ih ih' =>
    obtain ⟨hleft, hright⟩ := Bool.or_eq_false_iff.mp h
    rw [ofExpr, ih hleft, ih' hright]
  | case5 e => rw [ofExpr] <;> assumption

end BoundSearch

/-! ## 2. The bounds of a check -/

/-- Bounds that a column meets leave its length. -/
theorem MeasuredRow.Meets.lt {ν : Type} {r : MeasuredRow ν} {lower upper : Nat} {column : String}
    (hupper : r.Meets .upper upper column) (hlower : r.Meets .lower lower column) :
    lower < upper := by
  obtain ⟨-, n, hn, hlt⟩ := hupper
  obtain ⟨-, n', hn', hle⟩ := hlower
  rw [hn] at hn'
  cases hn'
  exact Nat.lt_of_le_of_lt hle hlt

namespace CheckConstraint

variable {k : CheckConstraint} {m : TableMetadata} {ν : Type} {value : String → Option ν}
  {size : ν → Nat}

/-- On a row on which a check is true some column that it measures meets its bound. If the check
compares two lengths, the other checks of the table must be true as well. -/
theorem lengthBound_sound (htrue : k.expression.tree.IsWorth (m.measure value size) .true)
    (hothers : k.expression.tree.comparesLengths = true →
      ∀ other ∈ m.checks, other.expression.tree.IsWorth (m.measure value size) .true)
    {side : BoundSide} {bound : Nat} (h : k.lengthBound m side = some bound) :
    ∃ column ∈ k.expression.tree.measuredColumns,
      (m.measure value size).Meets side bound column := by
  unfold lengthBound at h
  cases hcompares : k.expression.tree.comparesLengths with
  | true =>
    obtain ⟨column, hcolumn, -, hmeets⟩ := BoundSearch.ofExpr_sound
      (r := m.measure value size)
      { isText := fun _ => TableMetadata.isText_of_check
        boundOf := fun _ _ => TableMetadata.lengthBound_sound (hothers hcompares) } h htrue
    exact ⟨column, hcolumn, hmeets⟩
  | false =>
    rw [← BoundSearch.ofExpr_eq (fun _ => none) hcompares] at h
    obtain ⟨column, hcolumn, -, hmeets⟩ := BoundSearch.ofExpr_sound
      (r := m.measure value size)
      { isText := fun _ => TableMetadata.isText_of_check
        boundOf := by simp } h htrue
    exact ⟨column, hcolumn, hmeets⟩

/-- What makes a check be said to reject every row. -/
theorem cases_of_isNegation (h : k.isNegation m = true) :
    k.truth m = some false ∨ ∃ lower upper, k.lowerBound m = some lower
      ∧ k.upperBound m = some upper ∧ upper ≤ lower := by
  unfold isNegation at h
  rcases Bool.or_eq_true_iff.mp h with h | h
  · exact Or.inl (eq_of_beq h)
  · split at h
    · rename_i lower upper hlower hupper
      exact Or.inr ⟨lower, upper, hlower, hupper, of_decide_eq_true h⟩
    · cases h

/-! ## 3. Contradictory bounds -/

/-- A check that is said to reject every row, and is true on a row nevertheless, has bounds that
leave no length. Either two text columns that it measures meet one each, or it compares two lengths
and some check of the table is not true on the row. -/
theorem texts_of_isNegation
    (hrow : ∀ c ∈ m.columns, m.isNullable c = false → (value c.name).isSome)
    (hcompares : k.expression.tree.ComparesAlike) (h : k.isNegation m = true)
    (htrue : k.expression.tree.IsWorth (m.measure value size) .true) :
    k.truth m ≠ some false
      ∧ ∃ lower upper, k.lowerBound m = some lower ∧ k.upperBound m = some upper ∧ upper ≤ lower
        ∧ ((∃ short ∈ k.expression.tree.measuredColumns,
              ∃ long ∈ k.expression.tree.measuredColumns, short ≠ long
                ∧ (m.measure value size).Meets .upper upper short
                ∧ (m.measure value size).Meets .lower lower long)
            ∨ k.expression.tree.comparesLengths = true
              ∧ ∃ other ∈ m.checks,
                ¬ other.expression.tree.IsWorth (m.measure value size) .true) := by
  have hrequired : ∀ name, k.requires m name = true → (value name).isSome := by
    intro name hname
    obtain ⟨c, hc, rfl, hnullable⟩ := exists_of_requires hname
    exact hrow c hc hnullable
  have hverdict : k.truth m ≠ some false := by
    intro hfalse
    have hright := htrue.hasValue.rightAbout_truth hcompares hrequired
    cases hright false hfalse
  refine ⟨hverdict, ?_⟩
  obtain ⟨lower, upper, hlower, hupper, hle⟩ := (cases_of_isNegation h).resolve_left hverdict
  refine ⟨lower, upper, hlower, hupper, hle, ?_⟩
  by_cases hothers : k.expression.tree.comparesLengths = true →
      ∀ other ∈ m.checks, other.expression.tree.IsWorth (m.measure value size) .true
  · obtain ⟨short, hshort, hmeets⟩ := lengthBound_sound htrue hothers hupper
    obtain ⟨long, hlong, hmeets'⟩ := lengthBound_sound htrue hothers hlower
    refine Or.inl ⟨short, hshort, long, hlong, ?_, hmeets, hmeets'⟩
    rintro rfl
    exact Nat.not_lt_of_le hle (hmeets.lt hmeets')
  · push Not at hothers
    exact Or.inr hothers

/-- The check `length(a) <= length(a) AND length(a) > 10` beside the check `length(a) < 5`, which
lends it an upper bound, and a row with a text of eleven characters. -/
theorem texts_of_isNegation_of_lent_bound :
    let length : Expr := .call ["length"] [.column [] "a"]
    let number := fun text : String => Expr.literal (.number text)
    let tree : Expr := .and (.compare .le length length) (.compare .gt length (number "10"))
    let check := fun tree : Expr =>
      { table := ⟨"t", none⟩
        expression := ⟨"", tree⟩
        columnNames := ["a"] : CheckConstraint }
    let other : Expr := .compare .lt length (number "5")
    let m : TableMetadata :=
      { columns := [{ table := ⟨"t", none⟩, name := "a", dataType := "text" }]
        checks := [check tree, check other] }
    let value : String → Option String := fun _ => some "long enough"
    (∀ c ∈ m.columns, m.isNullable c = false → (value c.name).isSome)
      ∧ tree.ComparesAlike
      ∧ (check tree).isNegation m = true
      ∧ tree.IsWorth (m.measure value String.length) .true
      ∧ ∃ k ∈ m.checks, ¬ k.expression.tree.IsWorth (m.measure value String.length) .true := by
  intro length number tree check other m value
  have hrow : ∀ c ∈ m.columns, m.isNullable c = false → (value c.name).isSome := by decide +kernel
  have htruth : tree.measuredTruth? (m.measure value String.length) = some .true := by
    decide +kernel
  have hcompares := Expr.comparesAlike_of_measuredTruth? htruth
  have hnegation : (check tree).isNegation m = true := by decide +kernel
  have htrue := Expr.isWorth_of_measuredTruth? htruth
  refine ⟨hrow, hcompares, hnegation, htrue, ?_⟩
  obtain ⟨-, _, _, -, -, -, ⟨short, hshort, long, hlong, hne, -⟩ | ⟨-, hother⟩⟩ :=
    texts_of_isNegation hrow hcompares hnegation htrue
  · -- the check measures no other column
    have hcolumns : ∀ column ∈ (check tree).expression.tree.measuredColumns, column = "a" := by
      decide +kernel
    exact absurd ((hcolumns short hshort).trans (hcolumns long hlong).symm) hne
  · exact hother

end CheckConstraint

/-! ## 4. Verdicts on what bounds a length -/

namespace Verdict

variable {x y : Verdict}

theorem and_eq_some_true : x.and y = some true ↔ x = some true ∧ y = some true := by
  rcases x with _ | _ | _ <;> rcases y with _ | _ | _ <;> decide

theorem or_eq_some_true : x.or y = some true ↔ x = some true ∨ y = some true := by
  rcases x with _ | _ | _ <;> rcases y with _ | _ | _ <;> decide

end Verdict

namespace BoundSearch

variable {s : BoundSearch} {e : Expr}

theorem ofExpr_unwrap (s : BoundSearch) (e : Expr) : s.ofExpr e.unwrap = s.ofExpr e := by
  fun_induction Expr.unwrap e with
  | case1 inner ih =>
    rw [ih, ofExpr]
  | case2 e _ => rfl

/-- A test for null bounds no length. -/
theorem ofExpr_of_nullTest? {name : String} {isNull : Bool}
    (h : e.nullTest? = some (name, isNull)) : s.ofExpr e = none := by
  obtain ⟨left, -, ⟨-, heq⟩ | ⟨-, inner, heq, -⟩⟩ := Expr.exists_of_nullTest? h
  · rw [← s.ofExpr_unwrap, heq]
    rfl
  · rw [← s.ofExpr_unwrap, heq]
    rfl

/-- There is no verdict on a comparison that bounds a length, since it is not an equality. -/
theorem truth_compare_of_ofExpr {required : String → Bool} {op : Comparison} {left right : Expr}
    {bound : Nat} (h : s.ofExpr (.compare op left right) = some bound) :
    (Expr.compare op left right).truth required = none := by
  cases op with
  | eq | ne =>
    cases hside : s.side <;>
      simp [ofExpr, ofComparison, Comparison.swapped, BoundSide.admitsLimit?, hside] at h
  | lt | le | gt | ge => rfl

/-- What bounds a length is not known to be true. -/
theorem truth_ne_true {required : String → Bool} {bound : Nat} (h : s.ofExpr e = some bound) :
    e.truth required ≠ some true := by
  fun_induction s.ofExpr e generalizing bound with
  | case1 inner ih =>
    rw [Expr.truth]
    exact ih h
  | case2 op left right =>
    rw [← ofExpr] at h
    rw [truth_compare_of_ofExpr h]
    exact (Option.some_ne_none true).symm
  | case3 left right ih ih' =>
    rw [Expr.truth, ne_eq, Verdict.and_eq_some_true, not_and_or]
    exact (BoundSide.eq_or_eq_of_both h).imp ih ih'
  | case4 left right ih ih' =>
    -- A lower bound on both sides, so neither is a test for null.
    obtain ⟨-, a, b, ha, hb, -⟩ := BoundSide.exists_of_either h
    rw [Expr.truth, if_neg, ne_eq, Verdict.or_eq_some_true, not_or]
    · exact ⟨ih ha, ih' hb⟩
    · intro hpair
      obtain ⟨name, isNull, htest, -⟩ := Expr.exists_of_isNullPair hpair
      rw [ofExpr_of_nullTest? htest] at ha
      cases ha
  | case5 e => cases h

end BoundSearch

namespace CheckConstraint

/-- A check that is true of every row bounds no length. -/
theorem lengthBound_of_isTautology {k : CheckConstraint} {m : TableMetadata}
    (h : k.isTautology m = true) (side : BoundSide) : k.lengthBound m side = none := by
  cases hbound : k.lengthBound m side with
  | none => rfl
  | some bound => exact absurd (eq_of_beq h) (BoundSearch.truth_ne_true hbound)

/-- No check is said to be true of every row and to reject every row, whatever the columns of its
table and the other checks are. -/
theorem not_isTautology_and_isNegation (k : CheckConstraint) (m : TableMetadata) :
    ¬ (k.isTautology m = true ∧ k.isNegation m = true) := by
  rintro ⟨htautology, hnegation⟩
  rcases cases_of_isNegation hnegation with hfalse | ⟨lower, -, hlower, -, -⟩
  · rw [isTautology, hfalse] at htautology
    cases htautology
  · rw [lowerBound, lengthBound_of_isTautology htautology] at hlower
    cases hlower

end CheckConstraint

namespace Builder

/-- The check `length(a) < 5 AND length(b) > 10` is said to reject every row, and is true on a row
with an empty text and one of eleven characters. -/
theorem isNegation_of_two_texts :
    ¬ ∀ (name : String) (statements : List Statement), (∀ s ∈ statements, s.Parsed) →
      ∀ e ∈ ((initial name).run statements).freeze.entries, ∀ k ∈ e.metadata.checks,
        k.expression.tree.ComparesAlike → k.isNegation e.metadata = true →
        ∀ (ν : Type) (value : String → Option ν) (size : ν → Nat),
          (∀ c ∈ e.metadata.columns, e.metadata.isNullable c = false →
            (value c.name).isSome) →
          ¬ k.expression.tree.IsWorth (e.metadata.measure value size) .true := by
  intro h
  let b := (initial "shop").run (Script.statements
    "CREATE TABLE t (a text, b text, CHECK (length(a) < 5 AND length(b) > 10))")
  let value : String → Option String := fun column =>
    some (if column = "a" then "" else "long enough")
  have hcheck : ∃ e ∈ b.entries, ∃ k ∈ e.metadata.checks, k.isNegation e.metadata = true
      ∧ (∀ c ∈ e.metadata.columns, e.metadata.isNullable c = false → (value c.name).isSome)
      ∧ k.expression.tree.measuredTruth? (e.metadata.measure value String.length)
        = some .true := by
    decide +kernel
  obtain ⟨e, he, k, hk, hnegation, hrow, htruth⟩ := hcheck
  exact h "shop" _ (fun _ => Statement.Parsed.of_text) e (b.entries_freeze_perm.mem_iff.mpr he) k hk
    (Expr.comparesAlike_of_measuredTruth? htruth) hnegation String value String.length hrow
    (Expr.isWorth_of_measuredTruth? htruth)

end Builder

end SchemaCatalog
