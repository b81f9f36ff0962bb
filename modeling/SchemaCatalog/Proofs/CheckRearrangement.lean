import Mathlib.Data.List.Forall2
import SchemaCatalog.Catalog.Apply.Table
import SchemaCatalog.Proofs.Failures
import SchemaCatalog.Proofs.Rearrangement

/-!
# Rearranged checks

How the checks of a table are written does not matter for what they are found to be:
`TableMetadata.Rearranged.classification`. All that is read off the expression of a check alone
stays the same; what is left is the search for bounds, which goes through all checks of the table,
and back to them for each column that lends its bound. It is followed by an induction on the columns
that may still be looked for, of which the two ways of writing the checks need to have the same
ones, in whatever order (`TableMetadata.Rearranged.lengthBound_eq`).

A check carries the columns that its expression refers to. They are listed in the order of first
sight, which does depend on how the expression is written, so all that is asked of the two ways is
that they list the same ones. This is what a table has that is created with its checks written
otherwise: `CreateTable.Rearranged.metadata`.
-/

namespace SchemaCatalog

/-- The check is written otherwise, and refers to the same columns. -/
structure CheckConstraint.Rearranged (k k' : CheckConstraint) : Prop where
  table : k.table = k'.table
  tree : k.expression.tree.Rearranged k'.expression.tree
  columnNames : ∀ name, name ∈ k.columnNames ↔ name ∈ k'.columnNames

/-- The checks of the table are written otherwise, and nothing else is changed. -/
structure TableMetadata.Rearranged (m m' : TableMetadata) : Prop where
  rest : m' = { m with checks := m'.checks }
  checks : List.Forall₂ CheckConstraint.Rearranged m.checks m'.checks

/-! ## 1. Columns -/

namespace Expr.Rearranged

variable {e e' : Expr}

theorem mem_columnReferences (h : e.Rearranged e') (name : String) :
    name ∈ e.columnReferences ↔ name ∈ e'.columnReferences := by
  have hmem : (name ∈ e.columnReferences) = (name ∈ e'.columnReferences) := by
    refine Rearranged.congr (v := fun e => name ∈ e.columnReferences) (fun h => ?_) h
    simp only [columnReferences, mem_distinct, h.columnNames_perm.mem_iff]
  rw [hmem]

end Expr.Rearranged

namespace CheckConstraint.Rearranged

variable {k k' : CheckConstraint} {m m' : TableMetadata}

theorem column?_eq (h : k.Rearranged k') (hm : m.Rearranged m') (name : String) :
    k.column? m name = k'.column? m' name := by
  have hcontains : k.columnNames.contains name = k'.columnNames.contains name := by
    rw [Bool.eq_iff_iff, List.contains_iff_mem, List.contains_iff_mem, h.columnNames]
  rw [column?, column?, hcontains, hm.rest]
  rfl

theorem isText_eq (h : k.Rearranged k') (hm : m.Rearranged m') : k.isText m = k'.isText m' := by
  funext name
  rw [isText, isText, h.column?_eq hm]

theorem requires_eq (h : k.Rearranged k') (hm : m.Rearranged m') :
    k.requires m = k'.requires m' := by
  funext name
  rw [requires, requires, h.column?_eq hm, hm.rest]
  rfl

/-- The columns whose bounds may be looked for are the same. -/
theorem boundColumns_perm (h : k.Rearranged k') (hm : m.Rearranged m') :
    (k.boundColumns m).Perm (k'.boundColumns m') := by
  refine (List.perm_ext_iff_of_nodup (nodup_distinct _) (nodup_distinct _)).mpr fun name => ?_
  have hothers : (∃ j ∈ m.checks, name ∈ j.expression.tree.columnReferences)
      ↔ ∃ j ∈ m'.checks, name ∈ j.expression.tree.columnReferences := by
    constructor
    · rintro ⟨j, hj, hname⟩
      obtain ⟨j', hj', hjj'⟩ := exists_of_forall₂_left hm.checks hj
      exact ⟨j', hj', (hjj'.tree.mem_columnReferences name).mp hname⟩
    · rintro ⟨j', hj', hname⟩
      obtain ⟨j, hj, hjj'⟩ := exists_of_forall₂_right hm.checks hj'
      exact ⟨j, hj, (hjj'.tree.mem_columnReferences name).mpr hname⟩
  simp only [mem_distinct, List.mem_append, List.mem_flatMap, h.tree.mem_columnReferences name,
    hothers]

/-- The check sets the same bound, provided that other columns have the same ones. -/
theorem ofExpr_eq (h : k.Rearranged k') (hm : m.Rearranged m') (side : BoundSide)
    (target : Option String) (boundOf : String → Option Nat) :
    { side, isText := k.isText m, target, boundOf : BoundSearch }.ofExpr k.expression.tree
      = { side, isText := k'.isText m', target, boundOf : BoundSearch }.ofExpr
        k'.expression.tree := by
  rw [h.isText_eq hm]
  exact Expr.Rearranged.congr (fun hchange => BoundSearch.ofExpr_rearranges _ hchange) h.tree

end CheckConstraint.Rearranged

/-! ## 2. Creating a table -/

/-- The clause is the same, or a check of the same name that is written otherwise. -/
inductive ConstraintDefinition.Rearranged : ConstraintDefinition → ConstraintDefinition → Prop
  | same (d : ConstraintDefinition) : Rearranged d d
  | check {e e' : Expression} (name : Option String) (h : e.tree.Rearranged e'.tree) :
      Rearranged (.check e name) (.check e' name)

/-- The statement creates a table whose checks, those within columns included, are written
otherwise. -/
structure CreateTable.Rearranged (s s' : CreateTable) : Prop where
  rest : s' = { s with columns := s'.columns, constraints := s'.constraints }
  columns : List.Forall₂ (fun d d' => d' = { d with constraints := d'.constraints }
    ∧ List.Forall₂ ConstraintDefinition.Rearranged d.constraints d'.constraints)
    s.columns s'.columns
  constraints : List.Forall₂ ConstraintDefinition.Rearranged s.constraints s'.constraints

/-- Two computations have results that are so related, or fail in the same kind of way. -/
inductive AlikeUpTo {α β : Type} (R : α → β → Prop) :
    Except CatalogError α → Except CatalogError β → Prop
  | ok {a : α} {b : β} (h : R a b) : AlikeUpTo R (.ok a) (.ok b)
  | error {e e' : CatalogError} (h : e.kind = e'.kind) : AlikeUpTo R (.error e) (.error e')

namespace AlikeUpTo

variable {α β γ δ : Type} {R : α → β → Prop} {S : γ → δ → Prop}

theorem refl (x : Except CatalogError α) : AlikeUpTo Eq x x := by
  cases x with
  | ok a => exact ok rfl
  | error e => exact error rfl

theorem rel {a : α} {b : β} (h : AlikeUpTo R (.ok a) (.ok b)) : R a b := by
  cases h with
  | ok h => exact h

theorem bind {x : Except CatalogError α} {y : Except CatalogError β}
    {f : α → Except CatalogError γ} {g : β → Except CatalogError δ} (h : AlikeUpTo R x y)
    (hfg : ∀ a b, R a b → AlikeUpTo S (f a) (g b)) : AlikeUpTo S (x >>= f) (y >>= g) := by
  cases h with
  | ok h => exact hfg _ _ h
  | error h => exact error h

theorem foldlM {Q : γ → δ → Prop} {f : α → γ → Except CatalogError α}
    {g : β → δ → Except CatalogError β} {cs : List γ} {ds : List δ} (h : List.Forall₂ Q cs ds)
    (hfg : ∀ a b c d, R a b → Q c d → AlikeUpTo R (f a c) (g b d)) {a : α} {b : β} (hab : R a b) :
    AlikeUpTo R (cs.foldlM f a) (ds.foldlM g b) := by
  induction h generalizing a b with
  | nil => exact ok hab
  | cons hcd _ ih =>
    rw [List.foldlM_cons, List.foldlM_cons]
    exact (hfg _ _ _ _ hab hcd).bind fun _ _ => ih

end AlikeUpTo

/-- An expression is resolved to the same columns, in whatever order. -/
theorem resolveColumns_rearranged (columns : List Column) (table : String) {e e' : Expression}
    (h : e.tree.Rearranged e'.tree) :
    AlikeUpTo (fun cs cs' => ∀ c, c ∈ cs ↔ c ∈ cs') (resolveColumns columns table e)
      (resolveColumns columns table e') := by
  unfold resolveColumns
  cases hfind : e.tree.columnReferences.find?
      fun name => !columns.any (·.name == name) && !isNiladic name with
  | some name =>
    have hunknown := List.find?_some hfind
    have hname : name ∈ e'.tree.columnReferences :=
      (h.mem_columnReferences name).mp (List.mem_of_find?_eq_some hfind)
    have hsome : (e'.tree.columnReferences.find?
        fun name => !columns.any (·.name == name) && !isNiladic name).isSome :=
      List.find?_isSome.mpr ⟨name, hname, hunknown⟩
    obtain ⟨name', hfind'⟩ := Option.isSome_iff_exists.mp hsome
    simp only [hfind, hfind']
    exact .error rfl
  | none =>
    have hknown : ∀ name ∈ e'.tree.columnReferences,
        ¬(!columns.any (·.name == name) && !isNiladic name) = true := by
      intro name hname
      exact List.find?_eq_none.mp hfind name ((h.mem_columnReferences name).mpr hname)
    simp only [hfind, List.find?_eq_none.mpr hknown]
    constructor
    intro c
    simp only [List.mem_filterMap, h.mem_columnReferences]

section Creation

variable {b : Builder} {table : ObjectName} {m m' : TableMetadata}

theorem declareCheck_rearranged {e e' : Expression} (name : Option String) (hm : m.Rearranged m')
    (h : e.tree.Rearranged e'.tree) :
    AlikeUpTo TableMetadata.Rearranged (declareConstraint b table m (.check e name))
      (declareConstraint b table m' (.check e' name)) := by
  obtain ⟨hrest, hchecks⟩ := hm
  rw [hrest]
  have hcolumns := resolveColumns_rearranged m.columns table.qualified h
  refine hcolumns.bind fun columns columns' hsame => ?_
  refine .ok ⟨rfl, List.rel_append hchecks (.cons ⟨rfl, h, fun name => ?_⟩ .nil)⟩
  simp only [List.mem_map, hsame]

theorem declareConstraint_rearranged {d d' : ConstraintDefinition} (hm : m.Rearranged m')
    (hd : d.Rearranged d') :
    AlikeUpTo TableMetadata.Rearranged (declareConstraint b table m d)
      (declareConstraint b table m' d') := by
  cases hd with
  | check name h => exact declareCheck_rearranged name hm h
  | same d =>
    cases d with
    | check e name => exact declareCheck_rearranged name hm (.refl _)
    | primaryKey columns name =>
      obtain ⟨hrest, hchecks⟩ := hm
      rw [hrest]
      simp only [declareConstraint]
      split
      · exact (AlikeUpTo.refl _).bind fun _ _ _ => .ok ⟨rfl, hchecks⟩
      · exact .error rfl
    | unique columns name nullsDistinct =>
      obtain ⟨hrest, hchecks⟩ := hm
      rw [hrest]
      exact (AlikeUpTo.refl _).bind fun _ _ _ => .ok ⟨rfl, hchecks⟩
    | foreignKey d => exact .ok hm

/-- The target of a foreign key is looked at for its columns and its primary key. -/
theorem declareForeignKey_rearranged (hm : m.Rearranged m') (d : ForeignKeyDefinition) :
    declareForeignKey b table m d = declareForeignKey b table m' d := by
  rw [hm.rest]
  unfold declareForeignKey referencedTable
  cases hself : d.referencedTable.denotesSame table with
  | true =>
    simp only [hself, if_true]
    rfl
  | false => simp only [hself, Bool.false_eq_true, if_false]

/-- Columns are declared without a look at their constraints. -/
theorem declareColumns_congr {ordinal : Nat} {seen : List String} {ds ds' : List ColumnDefinition}
    (h : List.Forall₂ (fun d d' => d' = { d with constraints := d'.constraints }
      ∧ List.Forall₂ ConstraintDefinition.Rearranged d.constraints d'.constraints) ds ds') :
    declareColumns table ordinal seen ds' = declareColumns table ordinal seen ds := by
  induction h generalizing ordinal seen with
  | nil => rfl
  | cons hd _ ih =>
    rw [hd.1, declareColumns, declareColumns, ih]

theorem foreignKeyDefinitions_rearranged {ds ds' : List ConstraintDefinition}
    (h : List.Forall₂ ConstraintDefinition.Rearranged ds ds') :
    foreignKeyDefinitions ds' = foreignKeyDefinitions ds := by
  unfold foreignKeyDefinitions
  induction h with
  | nil => rfl
  | cons hd _ ih =>
    cases hd with
    | same d => rw [List.filterMap_cons, List.filterMap_cons, ih]
    | check name _ => exact ih

/-- Where the checks of a new table are written otherwise, the table has the same metadata up to the
checks, and these are the same up to how they are written. -/
theorem CreateTable.Rearranged.metadata {s s' : CreateTable} (h : s.Rearranged s') :
    AlikeUpTo TableMetadata.Rearranged (s.metadata b) (s'.metadata b) := by
  have hcolumns : declareColumns s'.name 1 [] s'.columns
      = declareColumns s.name 1 [] s.columns := by
    rw [h.rest]
    exact declareColumns_congr h.columns
  have hall : List.Forall₂ ConstraintDefinition.Rearranged s.allConstraints s'.allConstraints :=
    List.rel_append (List.rel_flatMap h.columns fun d d' hd => hd.2) h.constraints
  have hname : s'.name = s.name := by rw [h.rest]
  unfold CreateTable.metadata
  rw [hcolumns, foreignKeyDefinitions_rearranged hall, hname]
  refine (AlikeUpTo.refl _).bind fun columns _ heq => ?_
  subst heq
  refine (AlikeUpTo.foldlM hall (fun m m' d d' hm hd => declareConstraint_rearranged hm hd)
    ⟨rfl, .nil⟩).bind fun m m' hm => ?_
  have hkeys : declareForeignKey b s.name m = declareForeignKey b s.name m' :=
    funext (declareForeignKey_rearranged hm)
  rw [hkeys]
  refine (AlikeUpTo.refl _).bind fun keys _ heq => ?_
  subst heq
  exact .ok ⟨by rw [hm.rest], hm.checks⟩

end Creation

/-! ## 3. The search for bounds -/

namespace TableMetadata.Rearranged

variable {m m' : TableMetadata} {side : BoundSide}

/-- All checks of a table set the same bound on a column in both ways of writing them. For each
column that is looked for on the way one less may still be, in whatever order these stand, and the
induction is on how many there are. -/
theorem lengthBound_eq (h : m.Rearranged m') {unvisited unvisited' : List String}
    (hperm : unvisited.Perm unvisited') (column : String) :
    m.lengthBound side unvisited column = m'.lengthBound side unvisited' column := by
  induction hlength : unvisited.length generalizing unvisited unvisited' column with
  | zero =>
    obtain rfl := List.eq_nil_of_length_eq_zero hlength
    obtain rfl := hperm.symm.eq_nil
    rw [lengthBound, lengthBound, dif_neg List.not_mem_nil, dif_neg List.not_mem_nil]
  | succ n ih =>
    rw [lengthBound, lengthBound]
    by_cases hmem : column ∈ unvisited
    · have hless : (unvisited.erase column).length = n := by
        rw [List.length_erase_of_mem hmem, hlength, Nat.add_sub_cancel]
      have hboundOf : m.lengthBound side (unvisited.erase column)
          = m'.lengthBound side (unvisited'.erase column) :=
        funext fun other => ih (hperm.erase column) other hless
      rw [dif_pos hmem, dif_pos (hperm.mem_iff.mp hmem)]
      refine List.rel_foldl (P := Eq) (R := CheckConstraint.Rearranged) ?_ rfl h.checks
      rintro found _ rfl k k' hk
      rw [hboundOf]
      exact congrArg (side.both found) (hk.ofExpr_eq h side (some column) _)
    · rw [dif_neg hmem, dif_neg fun hmem' => hmem (hperm.mem_iff.mpr hmem')]

end TableMetadata.Rearranged

/-! ## 4. Classification -/

namespace CheckConstraint.Rearranged

variable {k k' : CheckConstraint} {m m' : TableMetadata}

theorem truth_eq (h : k.Rearranged k') (hm : m.Rearranged m') : k.truth m = k'.truth m' := by
  unfold truth
  rw [h.requires_eq hm]
  exact Expr.Rearranged.congr (fun hchange => hchange.truth_eq _) h.tree

theorem isMutualNullability_eq (h : k.Rearranged k') :
    k.isMutualNullability = k'.isMutualNullability :=
  Expr.Rearranged.congr (fun hchange => hchange.isMutualNullability_eq) h.tree

theorem isNotEmptyText_eq (h : k.Rearranged k') (hm : m.Rearranged m') :
    k.isNotEmptyText m = k'.isNotEmptyText m' := by
  unfold isNotEmptyText
  rw [h.isText_eq hm]
  exact Expr.Rearranged.congr (fun hchange => hchange.demandsText_eq _) h.tree

theorem lengthBound_eq (h : k.Rearranged k') (hm : m.Rearranged m') (side : BoundSide) :
    k.lengthBound m side = k'.lengthBound m' side := by
  have hboundOf : m.lengthBound side (k.boundColumns m)
      = m'.lengthBound side (k'.boundColumns m') :=
    funext fun column => hm.lengthBound_eq (h.boundColumns_perm hm) column
  unfold lengthBound
  rw [hboundOf]
  exact h.ofExpr_eq hm side none _

theorem isTautology_eq (h : k.Rearranged k') (hm : m.Rearranged m') :
    k.isTautology m = k'.isTautology m' := by
  rw [isTautology, isTautology, h.truth_eq hm]

theorem isNegation_eq (h : k.Rearranged k') (hm : m.Rearranged m') :
    k.isNegation m = k'.isNegation m' := by
  unfold isNegation lowerBound upperBound
  rw [h.truth_eq hm, h.lengthBound_eq hm, h.lengthBound_eq hm]

end CheckConstraint.Rearranged

/-- Write the checks of a table otherwise: with more parentheses or fewer, the sides of connectives
and equations swapped, and comparisons read from right to left, at any places and any number of
times. Each check is as true as it was; it demands mutual nullability, or a text that is not empty,
if it did so before; it bounds the length of texts by the same numbers; and it is a tautology or a
negation if it was one. -/
theorem TableMetadata.Rearranged.classification {m m' : TableMetadata} (h : m.Rearranged m') :
    List.Forall₂ (fun k k' =>
      k.truth m = k'.truth m'
        ∧ k.isMutualNullability = k'.isMutualNullability
        ∧ k.isNotEmptyText m = k'.isNotEmptyText m'
        ∧ k.upperBound m = k'.upperBound m'
        ∧ k.lowerBound m = k'.lowerBound m'
        ∧ k.isTautology m = k'.isTautology m'
        ∧ k.isNegation m = k'.isNegation m') m.checks m'.checks := by
  refine h.checks.imp fun k k' hk => ?_
  exact ⟨hk.truth_eq h, hk.isMutualNullability_eq, hk.isNotEmptyText_eq h,
    hk.lengthBound_eq h .upper, hk.lengthBound_eq h .lower, hk.isTautology_eq h,
    hk.isNegation_eq h⟩

/-- Two ways of creating a table with two lengths of which one bounds the other, and with a test for
null that is always true. -/
theorem TableMetadata.Rearranged.classification_of_lent_bound :
    let length := fun column : String => Expr.call ["length"] [.column [] column]
    let isNull := fun column : String => Expr.is (.column [] column) (.literal .null)
    let table := fun trees : List Expr =>
      { name := ⟨"t", none⟩
        columns := ["a", "b"].map fun name => { name, dataType := "text" }
        constraints := trees.map fun tree => .check ⟨"", tree⟩ none : CreateTable }
    let s := table
      [.compare .lt (length "a") (length "b"),
        .and (.or (isNull "a") (.not (isNull "a"))) (.compare .eq (.literal (.number "1"))
          (.negate (.literal (.number "1")))),
        .compare .le (length "b") (.literal (.number "9"))]
    let s' := table
      [.compare .gt (.paren (length "b")) (length "a"),
        .and (.compare .eq (.paren (.negate (.literal (.number "1")))) (.literal (.number "1")))
          (.or (.not (.paren (isNull "a"))) (isNull "a")),
        .compare .ge (.literal (.number "9")) (length "b")]
    let m := (s.metadata (.empty "shop")).toOption.getD {}
    let m' := (s'.metadata (.empty "shop")).toOption.getD {}
    s.Rearranged s' ∧ s.metadata (.empty "shop") = .ok m ∧ s'.metadata (.empty "shop") = .ok m'
      ∧ m.Rearranged m' ∧ m'.checks.map (·.upperBound m') = [some 10, none, some 10]
      ∧ m'.checks.map (·.isNegation m') = [false, true, false] := by
  intro length isNull table s s' m m'
  have hcolumns : List.Forall₂ (fun d d' => d' = { d with constraints := d'.constraints }
      ∧ List.Forall₂ ConstraintDefinition.Rearranged d.constraints d'.constraints)
      s.columns s'.columns :=
    .cons ⟨rfl, .nil⟩ (.cons ⟨rfl, .nil⟩ .nil)
  have hconstraints : List.Forall₂ ConstraintDefinition.Rearranged s.constraints s'.constraints := by
    refine .cons (.check none ?_) (.cons (.check none ?_) (.cons (.check none ?_) .nil))
    · refine .trans _ _ _ (.rel _ _ (.mirror .lt _ _)) ?_
      exact .symm _ _ (.rel _ _ (.compareLeft .gt _ (.unparen _)))
    · refine .trans _ _ _ (.rel _ _ (.swapAnd _ _)) ?_
      refine .trans _ _ _ (.rel _ _ (.andLeft _ (.mirror .eq _ _))) ?_
      refine .trans _ _ _ (.rel _ _ (.andRight _ (.swapOr _ _))) ?_
      refine .symm _ _ (.trans _ _ _ (.rel _ _ (.andLeft _ (.compareLeft .eq _ (.unparen _)))) ?_)
      exact .rel _ _ (.andRight _ (.orLeft _ (.not (.unparen _))))
    · exact .rel _ _ (.mirror .le _ _)
  have hs : s.Rearranged s' := ⟨rfl, hcolumns, hconstraints⟩
  have hcreated {s : CreateTable} (h : (s.metadata (.empty "shop")).toOption.isSome = true) :
      s.metadata (.empty "shop") = .ok ((s.metadata (.empty "shop")).toOption.getD {}) := by
    cases hs : s.metadata (.empty "shop") with
    | ok m => rfl
    | error e => rw [hs] at h; cases h
  have hm : s.metadata (.empty "shop") = .ok m := hcreated (by decide +kernel)
  have hm' : s'.metadata (.empty "shop") = .ok m' := hcreated (by decide +kernel)
  have halike : AlikeUpTo TableMetadata.Rearranged (s.metadata (.empty "shop"))
      (s'.metadata (.empty "shop")) := hs.metadata
  rw [hm, hm'] at halike
  have h : m.Rearranged m' := halike.rel
  have hsame := h.classification
  have hupper : m.checks.map (·.upperBound m) = m'.checks.map (·.upperBound m') := by
    rw [← List.forall₂_eq_eq_eq, List.forall₂_map_left_iff, List.forall₂_map_right_iff]
    exact hsame.imp fun _ _ ⟨_, _, _, hupper, _⟩ => hupper
  have hnegation : m.checks.map (·.isNegation m) = m'.checks.map (·.isNegation m') := by
    rw [← List.forall₂_eq_eq_eq, List.forall₂_map_left_iff, List.forall₂_map_right_iff]
    exact hsame.imp fun _ _ ⟨_, _, _, _, _, _, hnegation⟩ => hnegation
  refine ⟨hs, hm, hm', h, hupper.symm.trans ?_, hnegation.symm.trans ?_⟩
  · decide +kernel
  · decide +kernel

end SchemaCatalog
