import SchemaCatalog.Check.TextLength
import SchemaCatalog.Proofs.Kleene

/-!
# Bounds on the length of texts are right

On a row the length of a text column is a number, or null if the column is, and whatever spelling
of the length function a check uses it means this number. `Expr.IsWorth` refines `Expr.HasValue`
accordingly: a comparison of lengths and whole numbers has the truth value of the comparison, and
is unknown if a length is null. Anything else is worth what it was before.

A bound that is found for an expression is met by some column that the expression measures, on
every row on which the expression is true (`BoundSearch.ofExpr_sound`); if the bound was looked
for on one column, by this one. The bound that all checks set on a column is met on every row on
which all of them are true (`TableMetadata.lengthBound_sound`). Nothing says which of its columns
meets a bound that was looked for on any.
-/

namespace SchemaCatalog

/-! ## 1. What an expression about lengths is worth -/

/-- A row, with the columns that hold texts and the length of a text. -/
structure MeasuredRow (ν : Type) where
  /-- The value of a column, none for null. -/
  value : String → Option ν
  isText : String → Bool
  size : ν → Nat

/-- The length of a column, none for null. -/
def MeasuredRow.length {ν : Type} (r : MeasuredRow ν) (column : String) : Option Nat :=
  (r.value column).map r.size

namespace TruthValue

theorem and_eq_true {v w : TruthValue} : v.and w = true ↔ v = true ∧ w = true := by
  cases v <;> cases w <;> decide

theorem or_eq_true {v w : TruthValue} : v.or w = true ↔ v = true ∨ w = true := by
  cases v <;> cases w <;> decide

end TruthValue

namespace Comparison

/-- The comparison of two whole numbers. -/
def holds : Comparison → Int → Int → Bool
  | eq, a, b => a = b
  | ne, a, b => a ≠ b
  | lt, a, b => a < b
  | le, a, b => a ≤ b
  | gt, a, b => a > b
  | ge, a, b => a ≥ b

/-- The truth value of a comparison, in which `none` is null. -/
def truthValue (op : Comparison) : Option Int → Option Int → TruthValue
  | some a, some b => .ofBool (op.holds a b)
  | _, _ => .unknown

theorem holds_swapped (op : Comparison) (a b : Int) : op.swapped.holds a b = op.holds b a := by
  cases op <;> simp [swapped, holds, eq_comm]

theorem truthValue_swapped (op : Comparison) (a b : Option Int) :
    op.swapped.truthValue a b = op.truthValue b a := by
  cases a <;> cases b <;> simp [truthValue, holds_swapped]

theorem holds_of_truthValue {op : Comparison} {a b : Option Int}
    (h : op.truthValue a b = .true) : ∃ x y, a = some x ∧ b = some y ∧ op.holds x y = true := by
  cases a with
  | none => cases h
  | some x =>
    cases b with
    | none => cases h
    | some y =>
      refine ⟨x, y, rfl, rfl, ?_⟩
      unfold truthValue at h
      cases hxy : op.holds x y with
      | true => rfl
      | false => simp [hxy, TruthValue.ofBool] at h

end Comparison

namespace Expr

variable {ν : Type} {r : MeasuredRow ν} {e : Expr} {v : TruthValue}

/-- The whole number that the expression is, or the length of a text column, `some none` if that is
null. -/
def measure? (r : MeasuredRow ν) (e : Expr) : Option (Option Int) :=
  match e.integerLiteral? with
  | some value => some (some value)
  | none => (e.lengthColumn?.filter r.isText).map fun column => (r.length column).map Int.ofNat

/-- The expression is no connective, and no comparison of lengths and whole numbers. -/
def IsAtom (r : MeasuredRow ν) : Expr → Prop
  | paren _ | not _ | and _ _ | or _ _ => False
  | compare _ left right => left.measure? r = none ∨ right.measure? r = none
  | _ => True

/-- The truth values that an expression may have on a row on which texts have a length. -/
inductive IsWorth (r : MeasuredRow ν) : Expr → TruthValue → Prop
  | paren {e : Expr} {v : TruthValue} : IsWorth r e v → IsWorth r (.paren e) v
  | not {e : Expr} {v : TruthValue} : IsWorth r e v → IsWorth r (.not e) v.not
  | and {left right : Expr} {v w : TruthValue} : IsWorth r left v → IsWorth r right w →
      IsWorth r (.and left right) (v.and w)
  | or {left right : Expr} {v w : TruthValue} : IsWorth r left v → IsWorth r right w →
      IsWorth r (.or left right) (v.or w)
  | measured {op : Comparison} {left right : Expr} {a b : Option Int} :
      left.measure? r = some a → right.measure? r = some b →
      IsWorth r (.compare op left right) (op.truthValue a b)
  | atom {e : Expr} {v : TruthValue} : e.IsAtom r → e.HasValue r.value v → IsWorth r e v

/-- A length is not a literal. -/
theorem literalValue?_eq_none {column : String} (h : e.lengthColumn? = some column) :
    e.literalValue? = none := by
  unfold lengthColumn? at h
  unfold literalValue?
  split at h
  · rename_i heq
    rw [heq]
  · cases h

theorem integerLiteral?_eq_none {column : String} (h : e.lengthColumn? = some column) :
    e.integerLiteral? = none := by
  rw [integerLiteral?, literalValue?_eq_none h]

theorem literalValue?_of_integerLiteral? {n : Int} (h : e.integerLiteral? = some n) :
    e.literalValue? = some (.number (.integer n)) := by
  unfold integerLiteral? at h
  split at h
  · rename_i heq
    cases h
    exact heq
  · cases h

/-- What is measured is a literal, a whole number, or no literal at all. -/
theorem literalValue?_of_measure? {a : Option Int} (h : e.measure? r = some a) :
    e.literalValue? = none ∨ ∃ n, a = some n ∧ e.literalValue? = some (.number (.integer n)) := by
  unfold measure? at h
  split at h
  · rename_i n hn
    cases h
    exact Or.inr ⟨n, rfl, literalValue?_of_integerLiteral? hn⟩
  · obtain ⟨column, hcolumn, -⟩ := Option.map_eq_some_iff.mp h
    exact Or.inl (literalValue?_eq_none (Option.eq_some_of_filter_eq_some hcolumn))

theorem measure?_of_lengthColumn? {column : String} (h : e.lengthColumn? = some column)
    (htext : r.isText column = true) :
    e.measure? r = some ((r.length column).map Int.ofNat) := by
  simp [measure?, integerLiteral?_eq_none h, h, Option.filter, htext]

theorem unrecognized_compare {op : Comparison} {left right : Expr}
    (h : left.literalValue? = none ∨ right.literalValue? = none) :
    (compare op left right).Unrecognized := by
  cases op with
  | eq | ne =>
    intro a b ha hb
    rcases h with h | h
    · simp [h] at ha
    · simp [h] at hb
  | lt | le | gt | ge => trivial

/-- An equality of whole numbers is compared by value anyway, and nothing is said of the other
comparisons of what is measured when texts have no length. -/
theorem hasValue_of_measure? {op : Comparison} {left right : Expr} {a b : Option Int}
    (hleft : left.measure? r = some a) (hright : right.measure? r = some b) :
    (compare op left right).HasValue r.value (op.truthValue a b) := by
  rcases literalValue?_of_measure? hleft with hnone | ⟨m, rfl, hm⟩
  · exact .unrecognized (unrecognized_compare (Or.inl hnone))
  rcases literalValue?_of_measure? hright with hnone | ⟨n, rfl, hn⟩
  · exact .unrecognized (unrecognized_compare (Or.inr hnone))
  cases op with
  | eq =>
    have hequal : (compare .eq left right).HasValue r.value _ := .equal hm hn (.integer m n)
    simpa [Comparison.truthValue, Comparison.holds] using hequal
  | ne =>
    have hunequal : (compare .ne left right).HasValue r.value _ := .unequal hm hn (.integer m n)
    simpa [Comparison.truthValue, Comparison.holds] using hunequal
  | lt | le | gt | ge => exact .unrecognized trivial

/-- The lengths only narrow down what an expression may be worth. -/
theorem IsWorth.hasValue (h : e.IsWorth r v) : e.HasValue r.value v := by
  induction h with
  | paren _ ih => exact .paren ih
  | not _ ih => exact .not ih
  | and _ _ ih ih' => exact .and ih ih'
  | or _ _ ih ih' => exact .or ih ih'
  | measured hleft hright => exact hasValue_of_measure? hleft hright
  | atom _ h => exact h

/-- Every expression is worth something on every row. -/
theorem exists_isWorth (r : MeasuredRow ν) : (e : Expr) → ∃ v, e.IsWorth r v
  | .paren inner =>
    have ⟨v, h⟩ := exists_isWorth r inner
    ⟨v, .paren h⟩
  | .not inner =>
    have ⟨v, h⟩ := exists_isWorth r inner
    ⟨v.not, .not h⟩
  | .and left right =>
    have ⟨v, h⟩ := exists_isWorth r left
    have ⟨w, h'⟩ := exists_isWorth r right
    ⟨v.and w, .and h h'⟩
  | .or left right =>
    have ⟨v, h⟩ := exists_isWorth r left
    have ⟨w, h'⟩ := exists_isWorth r right
    ⟨v.or w, .or h h'⟩
  | .compare op left right => by
    obtain ⟨v, h⟩ := exists_hasValue r.value (.compare op left right)
    cases hleft : left.measure? r with
    | none => exact ⟨v, .atom (Or.inl hleft) h⟩
    | some a =>
      cases hright : right.measure? r with
      | none => exact ⟨v, .atom (Or.inr hright) h⟩
      | some b => exact ⟨op.truthValue a b, .measured hleft hright⟩
  | .column qualifiers name => (exists_hasValue r.value _).imp fun _ => .atom trivial
  | .literal value => (exists_hasValue r.value _).imp fun _ => .atom trivial
  | .negate inner => (exists_hasValue r.value _).imp fun _ => .atom trivial
  | .is left right => (exists_hasValue r.value _).imp fun _ => .atom trivial
  | .call names arguments => (exists_hasValue r.value _).imp fun _ => .atom trivial
  | .compound operands => (exists_hasValue r.value _).imp fun _ => .atom trivial
  | .query operands => (exists_hasValue r.value _).imp fun _ => .atom trivial
  | .nameless qualifiers operands => (exists_hasValue r.value _).imp fun _ => .atom trivial

/-- A comparison of what is measured is worth what the comparison is. -/
theorem IsWorth.eq_truthValue {op : Comparison} {left right : Expr} {a b : Option Int}
    (h : (compare op left right).IsWorth r v) (hleft : left.measure? r = some a)
    (hright : right.measure? r = some b) : v = op.truthValue a b := by
  cases h with
  | measured hleft' hright' =>
    rw [hleft] at hleft'
    rw [hright] at hright'
    cases hleft'
    cases hright'
    rfl
  | atom hatom _ => simp [IsAtom, hleft, hright] at hatom

theorem IsWorth.of_and {left right : Expr} (h : (Expr.and left right).IsWorth r v) :
    ∃ x y, left.IsWorth r x ∧ right.IsWorth r y ∧ x.and y = v := by
  cases h with
  | and hleft hright => exact ⟨_, _, hleft, hright, rfl⟩
  | atom hatom _ => exact hatom.elim

theorem IsWorth.of_or {left right : Expr} (h : (Expr.or left right).IsWorth r v) :
    ∃ x y, left.IsWorth r x ∧ right.IsWorth r y ∧ x.or y = v := by
  cases h with
  | or hleft hright => exact ⟨_, _, hleft, hright, rfl⟩
  | atom hatom _ => exact hatom.elim

/-- The truth value of an expression in which everything is measured. -/
def measuredTruth? (r : MeasuredRow ν) : Expr → Option TruthValue
  | paren inner => inner.measuredTruth? r
  | not inner => (inner.measuredTruth? r).map TruthValue.not
  | and left right => do
    let v ← left.measuredTruth? r
    let w ← right.measuredTruth? r
    pure (v.and w)
  | or left right => do
    let v ← left.measuredTruth? r
    let w ← right.measuredTruth? r
    pure (v.or w)
  | compare op left right => do
    let a ← left.measure? r
    let b ← right.measure? r
    pure (op.truthValue a b)
  | _ => none

theorem isWorth_of_measuredTruth? (h : e.measuredTruth? r = some v) : e.IsWorth r v := by
  fun_induction e.measuredTruth? r generalizing v with
  | case1 inner ih => exact .paren (ih h)
  | case2 inner ih =>
    obtain ⟨w, hw, rfl⟩ := Option.map_eq_some_iff.mp h
    exact .not (ih hw)
  | case3 left right ih ih' =>
    obtain ⟨x, hx, h⟩ := Option.bind_eq_some_iff.mp h
    obtain ⟨y, hy, h⟩ := Option.bind_eq_some_iff.mp h
    cases h
    exact .and (ih hx) (ih' hy)
  | case4 left right ih ih' =>
    obtain ⟨x, hx, h⟩ := Option.bind_eq_some_iff.mp h
    obtain ⟨y, hy, h⟩ := Option.bind_eq_some_iff.mp h
    cases h
    exact .or (ih hx) (ih' hy)
  | case5 op left right =>
    obtain ⟨a, ha, h⟩ := Option.bind_eq_some_iff.mp h
    obtain ⟨b, hb, h⟩ := Option.bind_eq_some_iff.mp h
    cases h
    exact .measured ha hb
  | case6 => cases h

/-- The literals among what is measured are whole numbers. -/
theorem sameKind_of_measure? {left right : Expr} {a b : Option Int} {x y : Literal}
    (hleft : left.measure? r = some a) (hright : right.measure? r = some b)
    (hx : left.literalValue? = some x) (hy : right.literalValue? = some y) : x.SameKind y := by
  rcases literalValue?_of_measure? hleft with hnone | ⟨m, -, hm⟩
  · simp [hnone] at hx
  rcases literalValue?_of_measure? hright with hnone | ⟨n, -, hn⟩
  · simp [hnone] at hy
  obtain rfl : Literal.number (.integer m) = x := by simpa [hm] using hx
  obtain rfl : Literal.number (.integer n) = y := by simpa [hn] using hy
  exact .integer m n

theorem comparesAlike_of_measuredTruth? (h : e.measuredTruth? r = some v) : e.ComparesAlike := by
  fun_induction e.measuredTruth? r generalizing v with
  | case1 inner ih => exact ih h
  | case2 inner ih =>
    obtain ⟨w, hw, -⟩ := Option.map_eq_some_iff.mp h
    exact ih hw
  | case3 left right ih ih' | case4 left right ih ih' =>
    obtain ⟨x, hx, h⟩ := Option.bind_eq_some_iff.mp h
    obtain ⟨y, hy, -⟩ := Option.bind_eq_some_iff.mp h
    exact ⟨ih hx, ih' hy⟩
  | case5 op left right =>
    obtain ⟨a, ha, h⟩ := Option.bind_eq_some_iff.mp h
    obtain ⟨b, hb, -⟩ := Option.bind_eq_some_iff.mp h
    cases op with
    | eq | ne => exact fun _ _ hx hy _ _ => sameKind_of_measure? ha hb hx hy
    | lt | le | gt | ge => trivial
  | case6 => cases h

end Expr

/-! ## 2. Bounds -/

namespace BoundSide

/-- A length is within a bound. -/
def Admits : BoundSide → Nat → Nat → Prop
  | upper, bound, length => length < bound
  | lower, bound, length => bound ≤ length

/-- A number is within a limit, the limit included. -/
def Reaches : BoundSide → Nat → Int → Prop
  | upper, limit, value => value ≤ limit
  | lower, limit, value => limit ≤ value

theorem reaches_self (side : BoundSide) (n : Nat) : side.Reaches n n := by
  cases side <;> simp [Reaches]

theorem Admits.reaches {side : BoundSide} {bound n : Nat} (h : side.Admits bound n) :
    side.Reaches bound n := by
  cases side <;> simp only [Admits, Reaches] at h ⊢ <;> omega

/-- A length that compares with a number within a limit is within the bound that the limit sets. -/
theorem admits_ofLimit {side : BoundSide} {op : Comparison} {admitted : Bool} {limit n : Nat}
    {value : Int} (hop : side.admitsLimit? op = some admitted) (hlimit : side.Reaches limit value)
    (hcompare : op.holds n value = true) : side.Admits (side.ofLimit admitted limit) n := by
  cases side <;> cases op <;> cases hop <;>
    simp only [Comparison.holds, Reaches, Admits, ofLimit, decide_eq_true_eq] at * <;> omega

/-- Of two bounds that must both hold one is kept. -/
theorem eq_or_eq_of_both {side : BoundSide} {x y : Option Nat} {n : Nat}
    (h : side.both x y = some n) : x = some n ∨ y = some n := by
  cases x with
  | none => exact Or.inr h
  | some a =>
    cases y with
    | none => exact Or.inl h
    | some b =>
      cases side <;> simp only [both, stricter, Option.some.injEq] at h ⊢ <;> omega

/-- Of two bounds of which one must hold, lower ones, the lesser is kept. -/
theorem exists_of_either {side : BoundSide} {x y : Option Nat} {n : Nat}
    (h : side.either x y = some n) :
    side = lower ∧ ∃ a b, x = some a ∧ y = some b ∧ n ≤ a ∧ n ≤ b := by
  unfold either at h
  split at h
  · rename_i a b
    cases h
    exact ⟨rfl, a, b, rfl, rfl, Nat.min_le_left a b, Nat.min_le_right a b⟩
  · cases h

end BoundSide

section Sound

variable {ν : Type} {r : MeasuredRow ν} {s : BoundSearch}

/-- The column holds a text of a length within the bound. -/
def MeasuredRow.Meets (r : MeasuredRow ν) (side : BoundSide) (bound : Nat) (column : String) :
    Prop :=
  r.isText column = true ∧ ∃ n, r.length column = some n ∧ side.Admits bound n

/-- What meets a lower bound meets every lesser one. -/
theorem MeasuredRow.Meets.weaken {side : BoundSide} {bound lesser : Nat} {column : String}
    (h : r.Meets side bound column) (hside : side = .lower) (hle : lesser ≤ bound) :
    r.Meets side lesser column := by
  obtain ⟨htext, n, hn, hadmits⟩ := h
  refine ⟨htext, n, hn, ?_⟩
  subst hside
  exact Nat.le_trans hle hadmits

/-- What a bound is looked for with is right about a row. -/
structure BoundSearch.RightAbout (s : BoundSearch) (r : MeasuredRow ν) : Prop where
  isText : ∀ column, s.isText column = true → r.isText column = true
  boundOf : ∀ column n, s.boundOf column = some n → r.Meets s.side n column

/-- The columns whose length a comparison under the connectives has on one side. -/
def Expr.measuredColumns : Expr → List String
  | paren inner => inner.measuredColumns
  | and left right => left.measuredColumns ++ right.measuredColumns
  | or left right => left.measuredColumns ++ right.measuredColumns
  | compare _ left right => left.lengthColumn?.toList ++ right.lengthColumn?.toList
  | _ => []

namespace BoundSearch

theorem wants_isText {column : String} (h : s.wants column = true) : s.isText column = true := by
  unfold wants at h
  exact (Bool.and_eq_true_iff.mp h).2

theorem eq_target {column target : String} (h : s.wants column = true)
    (htarget : s.target = some target) : column = target := by
  unfold wants at h
  rw [htarget] at h
  exact eq_of_beq (Bool.and_eq_true_iff.mp h).1

/-- The limit that an expression sets is right about its measure. -/
theorem limit?_sound (hs : s.RightAbout r) {value : Expr} {limit : Nat}
    (h : s.limit? value = some limit) :
    ∃ n : Int, value.measure? r = some (some n) ∧ s.side.Reaches limit n := by
  unfold limit? at h
  split at h
  · rename_i hn
    cases h
    exact ⟨limit, by simp [Expr.measure?, hn], s.side.reaches_self limit⟩
  · obtain ⟨column, hcolumn, hbound⟩ := Option.bind_eq_some_iff.mp h
    obtain ⟨htext, n, hn, hadmits⟩ := hs.boundOf column limit hbound
    refine ⟨n, ?_, hadmits.reaches⟩
    rw [Expr.measure?_of_lengthColumn? hcolumn htext, hn]
    rfl

/-- The bound that a comparison sets is met by the column on its left. -/
theorem ofComparison_sound (hs : s.RightAbout r) {op : Comparison} {length value : Expr}
    {bound : Nat} (h : s.ofComparison op length value = some bound)
    (htrue : ∀ a b, length.measure? r = some a → value.measure? r = some b →
      op.truthValue a b = .true) :
    ∃ column, length.lengthColumn? = some column ∧ s.wants column = true
      ∧ r.Meets s.side bound column := by
  obtain ⟨admitted, hop, h⟩ := Option.bind_eq_some_iff.mp h
  obtain ⟨column, hcolumn, h⟩ := Option.bind_eq_some_iff.mp h
  split at h
  · rename_i hwants
    obtain ⟨limit, hlimit, h⟩ := Option.bind_eq_some_iff.mp h
    cases h
    obtain ⟨value', hvalue, hreaches⟩ := limit?_sound hs hlimit
    have htext := hs.isText column (wants_isText hwants)
    obtain ⟨_, _, hlength, heq, hholds⟩ := Comparison.holds_of_truthValue
      (htrue _ _ (Expr.measure?_of_lengthColumn? hcolumn htext) hvalue)
    obtain ⟨n, hn, rfl⟩ := Option.map_eq_some_iff.mp hlength
    cases heq
    exact ⟨column, hcolumn, hwants, htext, n, hn, BoundSide.admits_ofLimit hop hreaches hholds⟩
  · cases h

/-- The bound that an expression sets is met by a column that the expression measures, and that the
bound was looked for on. -/
theorem ofExpr_sound (hs : s.RightAbout r) {e : Expr} {bound : Nat}
    (h : s.ofExpr e = some bound) (htrue : e.IsWorth r .true) :
    ∃ column ∈ e.measuredColumns, s.wants column = true ∧ r.Meets s.side bound column := by
  fun_induction s.ofExpr e generalizing bound with
  | case1 inner ih =>
    cases htrue with
    | paren htrue => exact ih h htrue
    | atom hatom _ => exact hatom.elim
  | case2 op left right =>
    rw [Option.orElse_eq_or, Option.or_eq_some_iff] at h
    rcases h with h | ⟨-, h⟩
    · obtain ⟨column, hcolumn, hwants, hmeets⟩ :=
        ofComparison_sound hs h fun a b ha hb => (htrue.eq_truthValue ha hb).symm
      exact ⟨column, by simp [Expr.measuredColumns, hcolumn], hwants, hmeets⟩
    · obtain ⟨column, hcolumn, hwants, hmeets⟩ := ofComparison_sound hs h fun a b ha hb => by
        rw [Comparison.truthValue_swapped]
        exact (htrue.eq_truthValue hb ha).symm
      exact ⟨column, by simp [Expr.measuredColumns, hcolumn], hwants, hmeets⟩
  | case3 left right ih ih' =>
    obtain ⟨v, w, hleft, hright, hvalue⟩ := htrue.of_and
    obtain ⟨rfl, rfl⟩ := TruthValue.and_eq_true.mp hvalue
    rcases BoundSide.eq_or_eq_of_both h with h | h
    · obtain ⟨column, hcolumn, hmeets⟩ := ih h hleft
      exact ⟨column, List.mem_append_left _ hcolumn, hmeets⟩
    · obtain ⟨column, hcolumn, hmeets⟩ := ih' h hright
      exact ⟨column, List.mem_append_right _ hcolumn, hmeets⟩
  | case4 left right ih ih' =>
    obtain ⟨hside, a, b, ha, hb, hle, hle'⟩ := BoundSide.exists_of_either h
    obtain ⟨v, w, hleft, hright, hvalue⟩ := htrue.of_or
    rcases TruthValue.or_eq_true.mp hvalue with rfl | rfl
    · obtain ⟨column, hcolumn, hwants, hmeets⟩ := ih ha hleft
      exact ⟨column, List.mem_append_left _ hcolumn, hwants, hmeets.weaken hside hle⟩
    · obtain ⟨column, hcolumn, hwants, hmeets⟩ := ih' hb hright
      exact ⟨column, List.mem_append_right _ hcolumn, hwants, hmeets.weaken hside hle'⟩
  | case5 e => cases h

end BoundSearch

end Sound

/-! ## 3. The bounds of a table -/

namespace TableMetadata

variable {m : TableMetadata}

/-- The first column of a name holds texts. -/
def isText (m : TableMetadata) (name : String) : Bool :=
  match m.column? name with
  | some c => c.isTextual
  | none => false

/-- A row of the table. -/
def measure {ν : Type} (m : TableMetadata) (value : String → Option ν) (size : ν → Nat) :
    MeasuredRow ν where
  value
  isText := m.isText
  size

/-- A text column of a check is one of its table. -/
theorem isText_of_check {k : CheckConstraint} {name : String} (h : k.isText m name = true) :
    m.isText name = true := by
  unfold CheckConstraint.isText CheckConstraint.column? at h
  unfold isText
  split at h
  · rename_i c hc
    split at hc
    · rw [hc]
      exact h
    · cases hc
  · cases h

/-- The bound that several checks set is one of theirs. -/
theorem exists_of_foldl_both {side : BoundSide} {f : CheckConstraint → Option Nat} {n : Nat}
    {checks : List CheckConstraint} {found : Option Nat}
    (h : checks.foldl (fun found k => side.both found (f k)) found = some n) :
    found = some n ∨ ∃ k ∈ checks, f k = some n := by
  induction checks generalizing found with
  | nil => exact Or.inl h
  | cons k checks ih =>
    rcases ih h with h | ⟨k', hk', h⟩
    · rcases BoundSide.eq_or_eq_of_both h with h | h
      · exact Or.inl h
      · exact Or.inr ⟨k, List.mem_cons_self, h⟩
    · exact Or.inr ⟨k', List.mem_cons_of_mem k hk', h⟩

/-- On a row on which all checks of a table are true, each column meets the bounds that they set on
it, whichever columns may be looked for on the way. -/
theorem lengthBound_sound {ν : Type} {value : String → Option ν} {size : ν → Nat}
    (htrue : ∀ k ∈ m.checks, k.expression.tree.IsWorth (m.measure value size) .true)
    {side : BoundSide} {unvisited : List String} {column : String} {bound : Nat}
    (h : m.lengthBound side unvisited column = some bound) :
    (m.measure value size).Meets side bound column := by
  fun_induction m.lengthBound side unvisited column generalizing bound with
  | case1 unvisited column _ boundOf =>
    rename_i ih
    rcases exists_of_foldl_both h with hnone | ⟨k, hk, hbound⟩
    · cases hnone
    · have hright : ({ side, isText := k.isText m, target := some column, boundOf } :
          BoundSearch).RightAbout (m.measure value size) :=
        { isText := fun _ => isText_of_check
          boundOf := fun other _ hother => ih other hother }
      obtain ⟨column', -, hwants, hmeets⟩ :=
        BoundSearch.ofExpr_sound hright hbound (htrue k hk)
      obtain rfl := BoundSearch.eq_target hwants rfl
      exact hmeets
  | case2 => cases h

end TableMetadata

end SchemaCatalog
