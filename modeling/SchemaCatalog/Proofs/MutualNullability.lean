import Mathlib.Data.Finset.Card
import SchemaCatalog.Proofs.Kleene
import SchemaCatalog.Proofs.Rearrangement

/-!
# Columns that are null together

A check demands that columns are null together or not at all in one way of writing it only: a
disjunction of two conjunctions of tests for null, one of them saying of each column that it is null
and the other one that it is not. `Expr.NullTogether` is that pattern, said without the search for
it. Which columns a conjunction is about does not depend on their order, on how it is nested or on
how often it names one, so they are a finite set.

The pattern is recognised exactly, and it means what it says: `Expr.isMutualNullability_exact`. Both
halves rest on one fact for each constructor, about a conjunction of tests: the columns that are
collected from it are those that it is about (`ConjoinsTests.exists_nullColumns?` and its converse),
and it is true on the rows where all of them are null, or all are not
(`ConjoinsTests.eq_of_hasValue`). It is never unknown, because a test for null never is.
-/

namespace SchemaCatalog.Expr

/-! ## 1. The pattern -/

/-- The expression tests a column for null: that it is null, or under one `NOT` that it is not.
Parentheses may stand anywhere but around the keyword, as in `x IS (NULL)`. -/
inductive TestsNull : Bool → String → Expr → Prop
  | is {e : Expr} {name : String} : e.columnName? = some name →
      TestsNull true name (.is e (.literal .null))
  | not {e : Expr} {name : String} : TestsNull true name e → TestsNull false name (.not e)
  | paren {isNull : Bool} {e : Expr} {name : String} : TestsNull isNull name e →
      TestsNull isNull name (.paren e)

/-- The expression is made by `AND` of tests of one kind, and the columns are those that are tested.
-/
inductive ConjoinsTests (isNull : Bool) : Expr → Finset String → Prop
  | test {e : Expr} {name : String} : TestsNull isNull name e → ConjoinsTests isNull e {name}
  | and {left right : Expr} {columns columns' : Finset String} :
      ConjoinsTests isNull left columns → ConjoinsTests isNull right columns' →
      ConjoinsTests isNull (.and left right) (columns ∪ columns')
  | paren {e : Expr} {columns : Finset String} : ConjoinsTests isNull e columns →
      ConjoinsTests isNull (.paren e) columns

/-- One side tests several columns for being null, and the other one the same columns for the
opposite. -/
inductive NullTogether (columns : Finset String) : Expr → Prop
  | or {isNull : Bool} {left right : Expr} : 2 ≤ columns.card →
      ConjoinsTests isNull left columns → ConjoinsTests (!isNull) right columns →
      NullTogether columns (.or left right)
  | paren {e : Expr} : NullTogether columns e → NullTogether columns (.paren e)

/-! ## 2. Tests -/

section Tests

variable {e : Expr} {isNull : Bool} {name : String} {columns : Finset String}

theorem TestsNull.of_unwrap (h : e.unwrap.TestsNull isNull name) : e.TestsNull isNull name := by
  fun_induction unwrap e with
  | case1 inner ih => exact .paren (ih h)
  | case2 e _ => exact h

theorem TestsNull.nullColumn? (h : e.TestsNull true name) : e.nullColumn? = some name := by
  generalize hkind : true = isNull at h
  induction h with
  | is hname => exact hname
  | not => cases hkind
  | paren _ ih => exact ih hkind

/-- Tests for null are recognised exactly. -/
theorem nullTest?_eq_some_iff : e.nullTest? = some (name, isNull) ↔ e.TestsNull isNull name := by
  constructor
  · intro h
    obtain ⟨left, hname, ⟨rfl, heq⟩ | ⟨rfl, inner, heq, hinner⟩⟩ := exists_of_nullTest? h
    · exact .of_unwrap (heq ▸ .is hname)
    · exact .of_unwrap (heq ▸ .not (.of_unwrap (hinner ▸ .is hname)))
  · intro h
    induction h with
    | is hname => exact nullTest?_isNull hname
    | not h => rw [nullTest?_not, h.nullColumn?, Option.map_some]
    | paren _ ih => exact ih

/-- A test is a conjunction of its own. -/
theorem TestsNull.nullColumns? (h : e.TestsNull isNull name) :
    e.nullColumns? isNull = some [name] := by
  induction h with
  | @is e name hname =>
    rw [nullColumns?_of_test (by simp) (by simp), nullTest?_eq_some_iff.mpr (.is hname)]
    rfl
  | not h =>
    rw [nullColumns?_of_test (by simp) (by simp), nullTest?_eq_some_iff.mpr (.not h)]
    rfl
  | paren _ ih =>
    rw [Expr.nullColumns?]
    exact ih

/-! ## 3. Conjunctions -/

/-- What is collected from a conjunction of tests are its columns. -/
theorem ConjoinsTests.exists_nullColumns? (h : e.ConjoinsTests isNull columns) :
    ∃ names, e.nullColumns? isNull = some names ∧ names.toFinset = columns := by
  induction h with
  | @test e name h => exact ⟨[name], h.nullColumns?, rfl⟩
  | and _ _ ih ih' =>
    obtain ⟨names, hnames, rfl⟩ := ih
    obtain ⟨names', hnames', rfl⟩ := ih'
    refine ⟨names ++ names', ?_, List.toFinset_append⟩
    rw [nullColumns?, hnames, hnames']
    rfl
  | paren _ ih =>
    rw [nullColumns?]
    exact ih

/-- Where something is collected there is a conjunction of tests. -/
theorem ConjoinsTests.of_nullColumns? {names : List String}
    (h : e.nullColumns? isNull = some names) : e.ConjoinsTests isNull names.toFinset := by
  fun_induction Expr.nullColumns? isNull e generalizing names with
  | case1 inner ih => exact .paren (ih h)
  | case2 left right ih ih' =>
    obtain ⟨columns, hleft, h⟩ := Option.bind_eq_some_iff.mp h
    obtain ⟨more, hright, h⟩ := Option.bind_eq_some_iff.mp h
    cases h
    rw [List.toFinset_append]
    exact .and (ih hleft) (ih' hright)
  | case3 e _ _ name test htest hkind =>
    cases h
    obtain rfl := beq_iff_eq.mp hkind
    exact .test (nullTest?_eq_some_iff.mp htest)
  | case4 | case5 => cases h

end Tests

/-! ## 4. The pattern is recognised -/

/-- Sorted names are compared as sets. -/
theorem sortedDistinct_eq_iff {as bs : List String} :
    sortedDistinct as = sortedDistinct bs ↔ as.toFinset = bs.toFinset := by
  have hmem (names : List String) (a : String) : a ∈ sortedDistinct names ↔ a ∈ names := by
    rw [sortedDistinct, (sortBy_perm _).mem_iff, mem_distinct]
  constructor
  · intro h
    ext a
    rw [List.mem_toFinset, List.mem_toFinset, ← hmem, h, hmem]
  · intro h
    refine sortedDistinct_congr fun a => ?_
    rw [← List.mem_toFinset, h, List.mem_toFinset]

theorem length_sortedDistinct (names : List String) :
    (sortedDistinct names).length = names.toFinset.card := by
  have hsame : (distinct names).toFinset = names.toFinset := by
    ext a
    rw [List.mem_toFinset, List.mem_toFinset, mem_distinct]
  rw [sortedDistinct, (sortBy_perm _).length_eq, ← hsame,
    List.toFinset_card_of_nodup (nodup_distinct names)]

section Pattern

variable {e left right : Expr} {columns : Finset String}

/-- A first expression tests for null what a second one tests for the opposite. -/
theorem pairsNullTests_eq_true_iff : pairsNullTests left right = some true
    ↔ ∃ columns, 2 ≤ columns.card ∧ left.ConjoinsTests true columns
      ∧ right.ConjoinsTests false columns := by
  constructor
  · intro h
    obtain ⟨nulls, hnulls, h⟩ := Option.bind_eq_some_iff.mp h
    obtain ⟨others, hothers, h⟩ := Option.bind_eq_some_iff.mp h
    simp only [Option.pure_def, Option.some.injEq, Bool.and_eq_true, beq_iff_eq,
      decide_eq_true_eq, sortedDistinct_eq_iff, length_sortedDistinct] at h
    exact ⟨nulls.toFinset, h.2, .of_nullColumns? hnulls, h.1 ▸ .of_nullColumns? hothers⟩
  · rintro ⟨columns, hcard, hleft, hright⟩
    obtain ⟨nulls, hnulls, rfl⟩ := hleft.exists_nullColumns?
    obtain ⟨others, hothers, hsame⟩ := hright.exists_nullColumns?
    simp [pairsNullTests, hnulls, hothers, sortedDistinct_eq_iff.mpr hsame, length_sortedDistinct,
      hcard]

/-- A disjunction is tried in both orders, of which one at most leads anywhere. -/
theorem isMutualNullability_or : (Expr.or left right).isMutualNullability = true
    ↔ pairsNullTests left right = some true ∨ pairsNullTests right left = some true := by
  cases hfirst : pairsNullTests left right with
  | none =>
    cases hsecond : pairsNullTests right left <;>
      simp [isMutualNullability, unwrap, hfirst, hsecond]
  | some answer =>
    have hsecond := pairsNullTests_swap (Option.isSome_of_eq_some hfirst)
    simp [isMutualNullability, unwrap, hfirst, hsecond]

theorem NullTogether.of_unwrap (h : e.unwrap.NullTogether columns) : e.NullTogether columns := by
  fun_induction unwrap e with
  | case1 inner ih => exact .paren (ih h)
  | case2 e _ => exact h

/-- The pattern is found wherever it is, and nowhere else. -/
theorem isMutualNullability_iff :
    e.isMutualNullability = true ↔ ∃ columns, e.NullTogether columns := by
  constructor
  · intro h
    cases hunwrap : e.unwrap with
    | or left right =>
      have hor : (Expr.or left right).isMutualNullability = true := by
        rwa [isMutualNullability, hunwrap] at h
      rcases isMutualNullability_or.mp hor with hpair | hpair
      · obtain ⟨columns, hcard, hleft, hright⟩ := pairsNullTests_eq_true_iff.mp hpair
        exact ⟨columns, .of_unwrap (hunwrap ▸ .or hcard hleft hright)⟩
      · obtain ⟨columns, hcard, hright, hleft⟩ := pairsNullTests_eq_true_iff.mp hpair
        exact ⟨columns, .of_unwrap (hunwrap ▸ .or hcard hleft hright)⟩
    | _ => simp [isMutualNullability, hunwrap] at h
  · rintro ⟨columns, h⟩
    induction h with
    | @or isNull left right hcard hleft hright =>
      rw [isMutualNullability_or, pairsNullTests_eq_true_iff, pairsNullTests_eq_true_iff]
      cases isNull with
      | true => exact Or.inl ⟨columns, hcard, hleft, hright⟩
      | false => exact Or.inr ⟨columns, hcard, hright, hleft⟩
    | paren _ ih => exact ih

/-! ## 5. What the pattern means -/

variable {ν : Type} {row : String → Option ν} {isNull : Bool} {v : TruthValue}

/-- A conjunction of tests is true where all its columns pass, and false elsewhere. -/
theorem ConjoinsTests.eq_of_hasValue (h : e.ConjoinsTests isNull columns)
    (hv : e.HasValue row v) : v = .ofBool (decide (∀ c ∈ columns, (row c).isNone = isNull)) := by
  induction h generalizing v with
  | test h =>
    rw [hv.of_nullTest? (nullTest?_eq_some_iff.mpr h)]
    simp only [Finset.mem_singleton, forall_eq, Bool.beq_eq_decide_eq]
  | and _ _ ih ih' =>
    cases hv with
    | and hleft hright =>
      rw [ih hleft, ih' hright, TruthValue.and_ofBool, ← Bool.decide_and]
      simp only [Finset.forall_mem_union]
    | unrecognized h => exact h.elim
  | paren _ ih =>
    cases hv with
    | paren hv => exact ih hv
    | unrecognized h => exact h.elim

/-- The pattern is true where its columns are null together or not at all, and false elsewhere. -/
theorem NullTogether.eq_of_hasValue (h : e.NullTogether columns) (hv : e.HasValue row v) :
    v = if (∀ c ∈ columns, (row c).isNone) ∨ ∀ c ∈ columns, (row c).isSome then .true
      else .false := by
  induction h generalizing v with
  | @or isNull left right _ hleft hright =>
    cases hv with
    | or hl hr =>
      have hsides : ((∀ c ∈ columns, (row c).isNone = isNull)
            ∨ ∀ c ∈ columns, (row c).isNone = !isNull)
          ↔ (∀ c ∈ columns, (row c).isNone) ∨ ∀ c ∈ columns, (row c).isSome := by
        cases isNull with
        | true => simp only [Bool.not_true, Option.isNone_eq_false_iff]
        | false => simp only [Bool.not_false, Option.isNone_eq_false_iff, or_comm]
      rw [hleft.eq_of_hasValue hl, hright.eq_of_hasValue hr, TruthValue.or_ofBool,
        ← Bool.decide_or]
      split
      · rename_i htogether
        rw [decide_eq_true (hsides.mpr htogether)]
        rfl
      · rename_i hapart
        rw [decide_eq_false (mt hsides.mp hapart)]
        rfl
    | unrecognized h => exact h.elim
  | paren _ ih =>
    cases hv with
    | paren hv => exact ih hv
    | unrecognized h => exact h.elim

end Pattern

/-- An expression is said to demand that columns are null together exactly if it is written as the
pattern. Then it has one truth value on each row: it is true if the columns of the pattern are all
null or all not null, and false otherwise. -/
theorem isMutualNullability_exact (e : Expr) :
    (e.isMutualNullability = true ↔ ∃ columns, e.NullTogether columns)
      ∧ ∀ columns, e.NullTogether columns →
          ∀ {ν : Type} (row : String → Option ν) (v : TruthValue), e.HasValue row v
            ↔ v = if (∀ c ∈ columns, (row c).isNone) ∨ ∀ c ∈ columns, (row c).isSome then .true
              else .false := by
  refine ⟨isMutualNullability_iff, fun columns h ν row v => ⟨h.eq_of_hasValue, ?_⟩⟩
  rintro rfl
  obtain ⟨v, hv⟩ := exists_hasValue row e
  exact h.eq_of_hasValue hv ▸ hv

/-- The columns `a` and `b` are named in different orders, one of them twice, and once each under a
`NOT` in front and behind; on a row only `a` is null. -/
theorem isMutualNullability_exact_of_nested_tests :
    let isNull (name : String) : Expr := .is (.column [] name) (.literal .null)
    let e : Expr := .paren (.or
      (.and (.not (isNull "b")) (.paren (.not (.paren (isNull "a")))))
      (.paren (.and (isNull "a") (.and (isNull "b") (isNull "a")))))
    let row : String → Option Nat := fun name => if name = "a" then none else some 5
    e.NullTogether {"a", "b"} ∧ e.isMutualNullability = true ∧ e.HasValue row .false
      ∧ ¬ e.HasValue row .true := by
  intro isNull e row
  have htest (name : String) : (isNull name).TestsNull true name := .is rfl
  have hnotNull := ConjoinsTests.and (.test (.not (htest "b")))
    (.paren (.test (.not (.paren (htest "a")))))
  have hnull := ConjoinsTests.and (.test (htest "a"))
    (.and (.test (htest "b")) (.test (htest "a")))
  rw [show ({"b"} ∪ {"a"} : Finset String) = {"a", "b"} by decide] at hnotNull
  rw [show ({"a"} ∪ ({"b"} ∪ {"a"}) : Finset String) = {"a", "b"} by decide] at hnull
  have htogether : e.NullTogether {"a", "b"} := .paren (.or (by decide) hnotNull (.paren hnull))
  obtain ⟨hiff, hvalue⟩ := isMutualNullability_exact e
  have hrow := hvalue _ htogether row
  exact ⟨htogether, hiff.mpr ⟨_, htogether⟩, (hrow .false).mpr (by decide), by
    rw [hrow .true]; decide⟩

end SchemaCatalog.Expr
