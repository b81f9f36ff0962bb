import Mathlib.Data.List.Nodup
import SchemaCatalog.Proofs.Reading
import SchemaCatalog.Proofs.Run
import SchemaCatalog.Proofs.TextLength

/-!
# The search for the bounds of a column

A check may bound the length of a column by that of another one, whose bound is then looked for over
all checks of the table. The search keeps the columns that it looks for on a stack and passes them
over when it meets them again; a number that cannot be read stops it where it is.
`TableMetadata.searchColumn` is this search, step by step, as a computation that need not end.

It does end, whatever the lengths refer to and whatever is on the stack: each column that is looked
for leaves one less to look for, which is the induction in `searchColumn_ends`. Unless it is stuck at
something unreadable, it leaves the stack as it was and gives the bound that
`TableMetadata.lengthBound` is, so what it gives is right on every row on which the checks of the
table are true: `searchColumn_ends_soundly`.
-/

namespace SchemaCatalog

/-! ## 1. The search -/

/-- A part of the search: it has the stack of the columns that are looked for, may be stopped, and
need not end. -/
abbrev Visiting (α : Type) := ExceptT Unit (StateT (List String) Option) α

namespace TableMetadata

/-- The column is one that a bound is looked for on: a text column of the check, and the target if
there is one. -/
def wants (m : TableMetadata) (k : CheckConstraint) (target : Option String) (column : String) :
    Bool :=
  target.all (column == ·) && k.isText m column

mutual

/-- Looks for the limit that an expression sets: a number, or the bound of the length of a column that
is not looked for already. -/
def searchLimit (m : TableMetadata) (side : BoundSide) (value : Expr) : Visiting (Option Nat) := do
  if value.isUnreadable then throw ()
  else
    match value.integerLiteral?, value.lengthColumn? with
    | some (.ofNat n), _ => pure (some n)
    | _, some other => if (← get).contains other then pure none else m |>.searchColumn side other
    | _, none => pure none
partial_fixpoint

/-- Looks for the bound set by comparing a length, on the left, with a limit. -/
def searchComparison (m : TableMetadata) (side : BoundSide) (k : CheckConstraint)
    (target : Option String) (op : Comparison) (length value : Expr) : Visiting (Option Nat) :=
  match side.admitsLimit? op, length.lengthColumn? with
  | some admitted, some column =>
    if m.wants k target column then do
      let limit ← m |>.searchLimit side value
      pure (limit.map (side.ofLimit admitted))
    else pure none
  | _, _ => pure none
partial_fixpoint

/-- Looks for the bound that an expression sets. -/
def searchExpr (m : TableMetadata) (side : BoundSide) (k : CheckConstraint)
    (target : Option String) : Expr → Visiting (Option Nat)
  | .paren inner => m |>.searchExpr side k target inner
  | .compare op left right => do
    match ← m |>.searchComparison side k target op left right with
    | some bound => pure (some bound)
    | none => m |>.searchComparison side k target op.swapped right left
  | .and left right => do
    let a ← m |>.searchExpr side k target left
    let b ← m |>.searchExpr side k target right
    pure (side.both a b)
  | .or left right => do
    let a ← m |>.searchExpr side k target left
    let b ← m |>.searchExpr side k target right
    pure (side.either a b)
  | _ => pure none
partial_fixpoint

/-- Looks for the bound that all checks of the table set on the length of a column, which is on the
stack meanwhile. -/
def searchColumn (m : TableMetadata) (side : BoundSide) (column : String) :
    Visiting (Option Nat) := do
  modify (· ++ [column])
  let bound ← m.checks.foldlM (fun found k => do
    let next ← m |>.searchExpr side k (some column) k.expression.tree
    pure (side.both found next)) none
  modify List.dropLast
  pure bound
partial_fixpoint

end

end TableMetadata

/-! ## 2. How a search ends -/

namespace Visiting

variable {α β : Type}

/-- What comes of a part of the search that starts with the stack given, and the stack when it is
over; `none` if it never is. -/
def runFrom (x : Visiting α) (visited : List String) : Option (Except Unit α × List String) :=
  x.run.run visited

/-- Started with the stack given, the part of the search is stopped if it is stuck, and otherwise
gives the result and leaves the stack as it was. -/
structure Ends (x : Visiting α) (visited : List String) (stuck : Prop) (a : α) : Prop where
  stops : stuck → ∃ left, x.runFrom visited = some (.error (), left)
  gives : ¬ stuck → x.runFrom visited = some (.ok a, visited)

variable {x : Visiting α} {f : α → Visiting β} {visited left : List String} {p q : Prop} {a : α}
  {b : β}

theorem runFrom_pure (a : α) (visited : List String) :
    (pure a : Visiting α).runFrom visited = some (.ok a, visited) := rfl

theorem runFrom_throw (visited : List String) :
    (throw () : Visiting α).runFrom visited = some (.error (), visited) := rfl

theorem runFrom_modify (f : List String → List String) (visited : List String) :
    (modify f : Visiting PUnit).runFrom visited = some (.ok ⟨⟩, f visited) := rfl

theorem runFrom_get (visited : List String) :
    (get : Visiting (List String)).runFrom visited = some (.ok visited, visited) := rfl

theorem runFrom_bind_ok (h : x.runFrom visited = some (.ok a, left)) (f : α → Visiting β) :
    (x >>= f).runFrom visited = (f a).runFrom left := by
  change (x.run.run visited).bind _ = _
  unfold runFrom at h
  rw [h]
  rfl

theorem runFrom_bind_error (h : x.runFrom visited = some (.error (), left)) (f : α → Visiting β) :
    (x >>= f).runFrom visited = some (.error (), left) := by
  change (x.run.run visited).bind _ = _
  unfold runFrom at h
  rw [h]
  rfl

theorem Ends.pure (a : α) (visited : List String) : (pure a : Visiting α).Ends visited False a where
  stops := False.elim
  gives _ := runFrom_pure a visited

theorem Ends.of_iff {q : Prop} (h : x.Ends visited p a) (hpq : p ↔ q) : x.Ends visited q a :=
  propext hpq ▸ h

/-- A sequence is stuck where its first part is, or what follows it. -/
theorem Ends.bind (hx : x.Ends visited p a) (hf : ¬ p → (f a).Ends visited q b) :
    (x >>= f).Ends visited (p ∨ q) b := by
  refine { stops := fun hstuck => ?_, gives := fun hfree => ?_ }
  · by_cases hp : p
    · obtain ⟨left, hleft⟩ := hx.stops hp
      exact ⟨left, runFrom_bind_error hleft f⟩
    · rw [runFrom_bind_ok (hx.gives hp)]
      exact (hf hp).stops (hstuck.resolve_left hp)
  · rw [not_or] at hfree
    rw [runFrom_bind_ok (hx.gives hfree.1)]
    exact (hf hfree.1).gives hfree.2

/-- What follows may look at the stack. -/
theorem Ends.get {f : List String → Visiting β} (h : (f visited).Ends visited p b) :
    (MonadState.get >>= f).Ends visited p b where
  stops hp := by rw [runFrom_bind_ok (runFrom_get visited)]; exact h.stops hp
  gives hp := by rw [runFrom_bind_ok (runFrom_get visited)]; exact h.gives hp

/-- A result may be put to use. -/
theorem Ends.bind_pure (hx : x.Ends visited p a) (g : α → β) :
    (x >>= fun a => Pure.pure (g a)).Ends visited p (g a) :=
  (hx.bind fun _ => .pure (g a) visited).of_iff (by simp)

/-- Going through a list is stuck where one of its elements is. -/
theorem Ends.foldlM {γ : Type} {as : List γ} {step : β → γ → Visiting β} {stuck : γ → Prop}
    {next : β → γ → β} (h : ∀ c ∈ as, ∀ b, (step b c).Ends visited (stuck c) (next b c)) (b : β) :
    (as.foldlM step b).Ends visited (∃ c ∈ as, stuck c) (as.foldl next b) := by
  induction as generalizing b with
  | nil => exact (Ends.pure b visited).of_iff (by simp)
  | cons c as ih =>
    obtain ⟨hc, has⟩ := List.forall_mem_cons.mp h
    rw [List.foldlM_cons, List.foldl_cons]
    exact ((hc b).bind fun _ => ih has (next b c)).of_iff (by simp)

end Visiting

/-! ## 3. The columns of an expression -/

theorem nodup_distinctFrom {α : Type} [BEq α] [LawfulBEq α] (seen as : List α) :
    (distinctFrom seen as).Nodup := by
  induction as generalizing seen with
  | nil => exact List.nodup_nil
  | cons a as ih =>
    rw [distinctFrom]
    split
    · exact ih seen
    · refine List.nodup_cons.mpr ⟨fun hmem => ?_, ih (a :: seen)⟩
      exact (mem_distinctFrom.mp hmem).2 List.mem_cons_self

/-- Dropping repetitions leaves none. -/
theorem nodup_distinct {α : Type} [BEq α] [LawfulBEq α] (as : List α) : (distinct as).Nodup :=
  nodup_distinctFrom [] as

namespace Expr

theorem columnNames_unwrap (e : Expr) : e.unwrap.columnNames = e.columnNames := by
  fun_induction unwrap e with
  | case1 inner ih => rw [ih, columnNames]
  | case2 => rfl

theorem mem_columnNames_of_columnName? {e : Expr} {name : String} (h : e.columnName? = some name) :
    name ∈ e.columnNames := by
  rw [columnName?] at h
  rw [← columnNames_unwrap]
  split at h <;> cases h
  rename_i heq
  rw [heq, columnNames]
  exact List.mem_singleton_self name

theorem mem_columnNames_of_lengthColumn? {e : Expr} {name : String}
    (h : e.lengthColumn? = some name) : name ∈ e.columnNames := by
  rw [lengthColumn?] at h
  rw [← columnNames_unwrap]
  split at h
  · rename_i names argument heq
    split at h
    · rw [heq, columnNames, columnNamesOfAll]
      exact List.mem_append_left _ (mem_columnNames_of_columnName? h)
    · cases h
  · cases h

/-- An expression refers to the columns that it measures. -/
theorem measuredColumns_subset (e : Expr) : e.measuredColumns ⊆ e.columnReferences := by
  intro name h
  rw [columnReferences, mem_distinct]
  fun_induction measuredColumns e with
  | case1 inner ih => exact ih h
  | case2 left right ih ih' | case3 left right ih ih' =>
    exact List.mem_append.mpr ((List.mem_append.mp h).imp ih ih')
  | case4 op left right =>
    rw [List.mem_append, Option.mem_toList, Option.mem_toList] at h
    exact List.mem_append.mpr
      (h.imp mem_columnNames_of_lengthColumn? mem_columnNames_of_lengthColumn?)
  | case5 => cases h

end Expr

/-! ## 4. Where a search is stuck -/

theorem Comparison.isOrder_swapped (op : Comparison) :
    (op.swapped != .eq && op.swapped != .ne) = (op != .eq && op != .ne) := by
  cases op <;> rfl

namespace BoundSide

variable {side : BoundSide} {op : Comparison}

/-- The comparisons that bound a length are those that ask which of two is less. -/
theorem isOrder_of_admitsLimit? (h : (side.admitsLimit? op).isSome = true) :
    (op != .eq && op != .ne) = true := by
  cases side <;> cases op <;> first | rfl | cases h

/-- A comparison that bounds a length, read in one direction, bounds none in the other. -/
theorem admitsLimit?_swapped (h : (side.admitsLimit? op).isSome = true) :
    side.admitsLimit? op.swapped = none := by
  cases side <;> cases op <;> first | rfl | cases h

/-- The limit that a comparison sets to the length of a wanted column, on the left. -/
def limitOf? (side : BoundSide) (wants : String → Bool) (op : Comparison) (length value : Expr) :
    Option Expr :=
  if (side.admitsLimit? op).isSome && length.lengthColumn?.any wants then some value else none

end BoundSide

/-- The bound that a comparison sets to a wanted length is that of its limit. -/
theorem BoundSearch.ofComparison_of_wants {s : BoundSearch} {op : Comparison} {length value : Expr}
    {admitted : Bool} {column : String} (hop : s.side.admitsLimit? op = some admitted)
    (hcolumn : length.lengthColumn? = some column) (hwants : s.wants column = true) :
    s.ofComparison op length value = (s.limit? value).map (s.side.ofLimit admitted) := by
  simp only [BoundSearch.ofComparison, hop, hcolumn, Option.bind_eq_bind, Option.bind_some,
    if_pos hwants, Option.map_eq_bind]
  rfl

namespace Expr

/-- The limits that the comparisons under the connectives set to the lengths of wanted columns. -/
def limits (side : BoundSide) (wants : String → Bool) : Expr → List Expr
  | paren inner => inner.limits side wants
  | and left right => left.limits side wants ++ right.limits side wants
  | or left right => left.limits side wants ++ right.limits side wants
  | compare op left right =>
    (side.limitOf? wants op left right).toList ++ (side.limitOf? wants op.swapped right left).toList
  | _ => []

theorem mem_measuredColumns_of_limits {side : BoundSide} {wants : String → Bool} {e value : Expr}
    {other : String} (h : value ∈ e.limits side wants)
    (hother : value.lengthColumn? = some other) : other ∈ e.measuredColumns := by
  fun_induction e.limits side wants with
  | case1 inner ih => exact ih h
  | case2 left right ih ih' | case3 left right ih ih' =>
    exact List.mem_append.mpr ((List.mem_append.mp h).imp ih ih')
  | case4 op left right =>
    have hlimit {op : Comparison} {length v : Expr}
        (hv : value ∈ (side.limitOf? wants op length v).toList) : v.lengthColumn? = some other := by
      rw [Option.mem_toList, BoundSide.limitOf?] at hv
      split at hv <;> cases hv
      exact hother
    rw [Expr.measuredColumns, List.mem_append]
    rcases List.mem_append.mp h with h | h
    · exact Or.inr (by simp [hlimit h])
    · exact Or.inl (by simp [hlimit h])
  | case5 => cases h

end Expr

namespace TableMetadata

/-- Some check of the table sets the expression as a limit to the length of the column. -/
def Limits (m : TableMetadata) (side : BoundSide) (column : String) (value : Expr) : Prop :=
  ∃ k ∈ m.checks, value ∈ k.expression.tree.limits side (m.wants k (some column))

/-- The search on a column is stopped: by an unreadable limit, or by one that is the length of a
column which is not on the stack and on which the search is stopped. -/
inductive Stuck (m : TableMetadata) (side : BoundSide) : List String → String → Prop
  | unreadable {visited : List String} {column : String} {value : Expr} :
      m.Limits side column value → value.isUnreadable = true → Stuck m side visited column
  | lent {visited : List String} {column other : String} {value : Expr} :
      m.Limits side column value → value.lengthColumn? = some other →
      other ∉ visited ++ [column] → Stuck m side (visited ++ [column]) other →
      Stuck m side visited column

/-- A limit stops the search when it is looked for with the stack given. -/
def Blocks (m : TableMetadata) (side : BoundSide) (visited : List String) (value : Expr) : Prop :=
  value.isUnreadable = true
    ∨ ∃ other, value.lengthColumn? = some other ∧ other ∉ visited ∧ m.Stuck side visited other

variable {m : TableMetadata} {side : BoundSide} {visited : List String} {column : String}

theorem stuck_iff : m.Stuck side visited column
    ↔ ∃ value, m.Limits side column value ∧ m.Blocks side (visited ++ [column]) value := by
  constructor
  · intro h
    cases h with
    | unreadable hlimits hvalue => exact ⟨_, hlimits, Or.inl hvalue⟩
    | lent hlimits hvalue hnew hstuck => exact ⟨_, hlimits, Or.inr ⟨_, hvalue, hnew, hstuck⟩⟩
  · rintro ⟨value, hlimits, hvalue | ⟨other, hvalue, hnew, hstuck⟩⟩
    · exact .unreadable hlimits hvalue
    · exact .lent hlimits hvalue hnew hstuck

/-! ## 5. Limits and expressions -/

/-- The search finds a limit, provided that it finds the bound of the column it may be the length
of. -/
theorem searchLimit_ends {s : BoundSearch} {value : Expr}
    (hlooked : ∀ other, value.lengthColumn? = some other → other ∈ visited →
      s.boundOf other = none)
    (hlent : ∀ other, value.lengthColumn? = some other → other ∉ visited →
      (m.searchColumn side other).Ends visited (m.Stuck side visited other) (s.boundOf other)) :
    (m.searchLimit side value).Ends visited (m.Blocks side visited value) (s.limit? value) := by
  rw [searchLimit]
  split
  · rename_i hunreadable
    exact {
      stops := fun _ => ⟨visited, Visiting.runFrom_throw visited⟩
      gives := fun hfree => absurd (Or.inl hunreadable) hfree }
  rename_i hreadable
  have hblocks : m.Blocks side visited value
      ↔ ∃ other, value.lengthColumn? = some other ∧ other ∉ visited ∧ m.Stuck side visited other :=
    or_iff_right hreadable
  cases hcolumn : value.lengthColumn? with
  | none =>
    have hfree : ¬ m.Blocks side visited value := by simp [hblocks, hcolumn]
    rw [BoundSearch.limit?, hcolumn]
    rcases value.integerLiteral? with _ | n | n <;>
      exact (Visiting.Ends.pure _ visited).of_iff (iff_of_false id hfree)
  | some other =>
    have hnumber := Expr.integerLiteral?_eq_none hcolumn
    have hlimit : s.limit? value = s.boundOf other := by
      rw [BoundSearch.limit?, hnumber, hcolumn]
      rfl
    rw [hnumber, hlimit]
    refine .get ?_
    split
    · rename_i hseen
      rw [List.contains_iff_mem] at hseen
      rw [hlooked other hcolumn hseen]
      exact (Visiting.Ends.pure none visited).of_iff (by simp [hblocks, hcolumn, hseen])
    · rename_i hnew
      rw [List.contains_iff_mem] at hnew
      exact (hlent other hcolumn hnew).of_iff (by simp [hblocks, hcolumn, hnew])

variable {k : CheckConstraint} {s : BoundSearch}

/-- A search on behalf of a check, for a bound on some column. -/
def search (m : TableMetadata) (side : BoundSide) (k : CheckConstraint) (target : Option String)
    (boundOf : String → Option Nat) : BoundSearch :=
  { side, isText := k.isText m, target, boundOf }

theorem wants_search {target : Option String} {boundOf : String → Option Nat} (column : String) :
    (m.search side k target boundOf).wants column = m.wants k target column := by
  cases target <;> rfl

variable {target : Option String} {boundOf : String → Option Nat}

theorem searchComparison_ends {op : Comparison} {length value : Expr}
    (hlimit : ∀ v ∈ (side.limitOf? (m.wants k target) op length value).toList,
      (m.searchLimit side v).Ends visited (m.Blocks side visited v)
        ((m.search side k target boundOf).limit? v)) :
    (m.searchComparison side k target op length value).Ends visited
      (∃ v ∈ (side.limitOf? (m.wants k target) op length value).toList, m.Blocks side visited v)
      ((m.search side k target boundOf).ofComparison op length value) := by
  -- Without a limit nothing is looked for, and there is no bound.
  have hnothing (hnone : side.limitOf? (m.wants k target) op length value = none)
      (hbound : (m.search side k target boundOf).ofComparison op length value = none) :
      (pure none : Visiting (Option Nat)).Ends visited
        (∃ v ∈ (side.limitOf? (m.wants k target) op length value).toList, m.Blocks side visited v)
        ((m.search side k target boundOf).ofComparison op length value) := by
    rw [hbound]
    exact (Visiting.Ends.pure none visited).of_iff (by simp [hnone])
  rw [searchComparison]
  cases hop : side.admitsLimit? op with
  | none =>
    exact hnothing (by simp [BoundSide.limitOf?, hop])
      (by simp [BoundSearch.ofComparison, search, hop])
  | some admitted =>
    cases hcolumn : length.lengthColumn? with
    | none =>
      exact hnothing (by simp [BoundSide.limitOf?, hcolumn])
        (by simp [BoundSearch.ofComparison, hcolumn])
    | some column =>
      by_cases hwants : m.wants k target column = true
      · have hsome : side.limitOf? (m.wants k target) op length value = some value := by
          simp [BoundSide.limitOf?, hop, hcolumn, hwants]
        have hbound : (m.search side k target boundOf).ofComparison op length value
            = ((m.search side k target boundOf).limit? value).map (side.ofLimit admitted) :=
          BoundSearch.ofComparison_of_wants hop hcolumn ((wants_search column).trans hwants)
        rw [hbound]
        dsimp only
        rw [if_pos hwants]
        exact ((hlimit value (by simp [hsome])).bind_pure _).of_iff (by simp [hsome])
      · dsimp only
        rw [if_neg hwants]
        exact hnothing (by simp [BoundSide.limitOf?, hcolumn, hwants])
          (by simp [BoundSearch.ofComparison, hcolumn, wants_search, hwants])

/-- The search finds the bound that an expression sets, provided that it finds its limits. -/
theorem searchExpr_ends {e : Expr}
    (hlimit : ∀ value ∈ e.limits side (m.wants k target),
      (m.searchLimit side value).Ends visited (m.Blocks side visited value)
        ((m.search side k target boundOf).limit? value)) :
    (m.searchExpr side k target e).Ends visited
      (∃ value ∈ e.limits side (m.wants k target), m.Blocks side visited value)
      ((m.search side k target boundOf).ofExpr e) := by
  fun_induction (m.search side k target boundOf).ofExpr e with
  | case1 inner ih =>
    rw [searchExpr]
    exact ih hlimit
  | case2 op left right =>
    rw [Expr.limits, List.forall_mem_append] at hlimit
    rw [searchExpr, Expr.limits]
    refine ((searchComparison_ends hlimit.1).bind
      (q := ∃ v ∈ (side.limitOf? (m.wants k target) op.swapped right left).toList,
        m.Blocks side visited v) fun _ => ?_).of_iff ?_
    · cases hbound : (m.search side k target boundOf).ofComparison op left right with
      | none => exact searchComparison_ends hlimit.2
      | some bound =>
        obtain ⟨admitted, hop, -⟩ := Option.bind_eq_some_iff.mp hbound
        have hswapped : side.admitsLimit? op.swapped = none :=
          BoundSide.admitsLimit?_swapped (Option.isSome_of_eq_some hop)
        have hnone : side.limitOf? (m.wants k target) op.swapped right left = none := by
          simp [BoundSide.limitOf?, hswapped]
        exact (Visiting.Ends.pure (some bound) visited).of_iff (by simp [hnone])
    · simp only [List.mem_append, or_and_right, exists_or]
  | case3 left right ih ih' =>
    rw [Expr.limits, List.forall_mem_append] at hlimit
    rw [searchExpr, Expr.limits]
    refine ((ih hlimit.1).bind fun _ => (ih' hlimit.2).bind_pure _).of_iff ?_
    simp only [List.mem_append, or_and_right, exists_or]
  | case4 left right ih ih' =>
    rw [Expr.limits, List.forall_mem_append] at hlimit
    rw [searchExpr, Expr.limits]
    refine ((ih hlimit.1).bind fun _ => (ih' hlimit.2).bind_pure _).of_iff ?_
    simp only [List.mem_append, or_and_right, exists_or]
  | case5 e hparen hcompare hand hor =>
    have hlimits : e.limits side (m.wants k target) = [] := by
      rw [Expr.limits] <;> assumption
    rw [searchExpr, hlimits] <;> try assumption
    exact (Visiting.Ends.pure none visited).of_iff (by simp)

/-! ## 6. Columns -/

/-- The columns that the checks of a table measure. -/
def measuredColumns (m : TableMetadata) : List String :=
  m.checks.flatMap (·.expression.tree.measuredColumns)

/-- The search finds the bound of a column, provided that it finds the limits that the checks set to
it while it is on the stack. -/
theorem searchColumn_ends_of_limits
    (hlimit : ∀ k ∈ m.checks, ∀ value ∈ k.expression.tree.limits side (m.wants k (some column)),
      (m.searchLimit side value).Ends (visited ++ [column])
        (m.Blocks side (visited ++ [column]) value)
        ((m.search side k (some column) boundOf).limit? value)) :
    (m.searchColumn side column).Ends visited (m.Stuck side visited column)
      (m.checks.foldl (fun found k => side.both found
        ((m.search side k (some column) boundOf).ofExpr k.expression.tree)) none) := by
  have hchecks : (m.checks.foldlM (fun found k => do
      let next ← m.searchExpr side k (some column) k.expression.tree
      pure (side.both found next)) none).Ends (visited ++ [column]) _ _ :=
    Visiting.Ends.foldlM
      (fun k hk found => (searchExpr_ends (hlimit k hk)).bind_pure (side.both found)) none
  have hstuck : m.Stuck side visited column ↔ ∃ k ∈ m.checks, ∃ value ∈
      k.expression.tree.limits side (m.wants k (some column)),
        m.Blocks side (visited ++ [column]) value := by
    rw [stuck_iff]
    constructor
    · rintro ⟨value, ⟨k, hk, hvalue⟩, hblocks⟩
      exact ⟨k, hk, value, hvalue, hblocks⟩
    · rintro ⟨k, hk, value, hvalue, hblocks⟩
      exact ⟨value, ⟨k, hk, hvalue⟩, hblocks⟩
  rw [searchColumn]
  refine { stops := fun h => ?_, gives := fun h => ?_ }
  · obtain ⟨left, hleft⟩ := hchecks.stops (hstuck.mp h)
    refine ⟨left, ?_⟩
    rw [Visiting.runFrom_bind_ok (Visiting.runFrom_modify _ visited)]
    exact Visiting.runFrom_bind_error hleft _
  · have hgives := hchecks.gives fun h' => h (hstuck.mpr h')
    rw [Visiting.runFrom_bind_ok (Visiting.runFrom_modify _ visited),
      Visiting.runFrom_bind_ok hgives,
      Visiting.runFrom_bind_ok (Visiting.runFrom_modify _ _), Visiting.runFrom_pure,
      List.dropLast_concat]

/-- The columns are those that may still be looked for: the column given and, of those that are
measured, the other ones that are not on the stack. -/
structure Unvisited (m : TableMetadata) (visited : List String) (column : String)
    (unvisited : List String) : Prop where
  nodup : unvisited.Nodup
  column_mem : column ∈ unvisited
  mem_iff : ∀ other ∈ m.measuredColumns, other ≠ column → (other ∈ unvisited ↔ other ∉ visited)

/-- The search finds the bound of a column. Each column that is looked for on the way is one less that
still may be, and the induction is on how many there are. -/
theorem searchColumn_ends {unvisited : List String} (h : m.Unvisited visited column unvisited) :
    (m.searchColumn side column).Ends visited (m.Stuck side visited column)
      (m.lengthBound side unvisited column) := by
  induction hlength : unvisited.length generalizing visited column unvisited with
  | zero => exact absurd h.column_mem (List.eq_nil_of_length_eq_zero hlength ▸ List.not_mem_nil)
  | succ n ih =>
    rw [lengthBound, dif_pos h.column_mem]
    refine searchColumn_ends_of_limits fun k hk value hvalue => ?_
    have hleft : ∀ other ∈ m.measuredColumns,
        other ∈ unvisited.erase column ↔ other ∉ visited ++ [column] := by
      intro other hmeasured
      rw [h.nodup.mem_erase_iff, List.mem_append, List.mem_singleton, not_or, and_comm]
      exact and_congr_left fun hne => h.mem_iff other hmeasured hne
    have hmeasured {other : String} (hother : value.lengthColumn? = some other) :
        other ∈ m.measuredColumns :=
      List.mem_flatMap.mpr ⟨k, hk, Expr.mem_measuredColumns_of_limits hvalue hother⟩
    refine searchLimit_ends (fun other hother hseen => ?_) (fun other hother hnew => ?_)
    · have hgone := mt (hleft other (hmeasured hother)).mp (not_not_intro hseen)
      change m.lengthBound side (unvisited.erase column) other = none
      rw [lengthBound, dif_neg hgone]
    · refine ih { nodup := h.nodup.erase column
                  column_mem := (hleft other (hmeasured hother)).mpr hnew
                  mem_iff := fun c hc _ => hleft c hc } ?_
      rw [List.length_erase_of_mem h.column_mem, hlength, Nat.add_sub_cancel]

/-- The column given and, of those that are measured, the other ones that are not on the stack. -/
def unvisited (m : TableMetadata) (visited : List String) (column : String) : List String :=
  column :: (distinct m.measuredColumns).filter fun other =>
    other != column && !visited.contains other

theorem unvisited_unvisited (m : TableMetadata) (visited : List String) (column : String) :
    m.Unvisited visited column (m.unvisited visited column) where
  nodup := by
    refine List.nodup_cons.mpr ⟨by simp, (nodup_distinct _).filter _⟩
  column_mem := List.mem_cons_self
  mem_iff other hmeasured hne := by
    simp [unvisited, mem_distinct, hmeasured, hne]

theorem boundsUnreadable_of_limits {e value : Expr}
    (h : value ∈ e.limits side (m.wants k target)) (hvalue : value.isUnreadable = true) :
    e.boundsUnreadable (k.isText m) = true := by
  fun_induction e.limits side (m.wants k target) with
  | case1 inner ih => exact ih h
  | case2 left right ih ih' | case3 left right ih ih' =>
    exact Bool.or_eq_true_iff.mpr ((List.mem_append.mp h).imp ih ih')
  | case4 op left right =>
    have hlimit {op : Comparison} {length v : Expr}
        (hv : value ∈ (side.limitOf? (m.wants k target) op length v).toList) :
        (op != .eq && op != .ne) = true ∧ (length.lengthColumn?.filter (k.isText m)).isSome = true
          ∧ v.isUnreadable = true := by
      rw [Option.mem_toList, BoundSide.limitOf?] at hv
      split at hv <;> cases hv
      rename_i hbounds
      obtain ⟨hop, hlength⟩ := Bool.and_eq_true_iff.mp hbounds
      obtain ⟨column, hcolumn, hwants⟩ := (Option.any_eq_true _ _).mp hlength
      refine ⟨BoundSide.isOrder_of_admitsLimit? hop, ?_, hvalue⟩
      rw [hcolumn, Option.filter, if_pos (Bool.and_eq_true_iff.mp hwants).2]
      rfl
    rw [Expr.boundsUnreadable]
    rcases List.mem_append.mp h with h | h
    · obtain ⟨hop, hlength, hright⟩ := hlimit h
      simp [hop, hlength, hright]
    · obtain ⟨hop, hlength, hleft⟩ := hlimit h
      rw [Comparison.isOrder_swapped] at hop
      simp [hop, hlength, hleft]
  | case5 => cases h

/-- Where no check bounds a length by something unreadable, no search is stuck. -/
theorem not_stuck_of_readable
    (h : ∀ k ∈ m.checks, k.expression.tree.boundsUnreadable (k.isText m) = false) :
    ¬ m.Stuck side visited column := by
  intro hstuck
  induction hstuck with
  | lent _ _ _ _ ih => exact ih
  | unreadable hlimits hvalue =>
    obtain ⟨k, hk, hmem⟩ := hlimits
    have hbounds := boundsUnreadable_of_limits hmem hvalue
    rw [h k hk] at hbounds
    cases hbounds

/-- The search for the bound that all checks of a table set on the length of a column ends, whatever
the lengths in the checks refer to and whatever is on the stack. It is stopped exactly if it is stuck
at something unreadable; otherwise it gives the bound and leaves the stack as it was. A bound that it
gives is met by the column on every row on which the checks of the table are true. -/
theorem searchColumn_ends_soundly (m : TableMetadata) (side : BoundSide) (visited : List String)
    (column : String) :
    (m.Stuck side visited column →
        ∃ left, (m.searchColumn side column).runFrom visited = some (.error (), left))
      ∧ (¬ m.Stuck side visited column →
        (m.searchColumn side column).runFrom visited
          = some (.ok (m.lengthBound side (m.unvisited visited column) column), visited))
      ∧ ∀ {ν : Type} (value : String → Option ν) (size : ν → Nat),
        (∀ k ∈ m.checks, k.expression.tree.IsWorth (m.measure value size) .true) →
        ∀ (bound : Nat) (left : List String),
          (m.searchColumn side column).runFrom visited = some (.ok (some bound), left) →
          (m.measure value size).Meets side bound column := by
  have hends : (m.searchColumn side column).Ends visited _ _ :=
    searchColumn_ends (m.unvisited_unvisited visited column)
  refine ⟨hends.stops, hends.gives, fun value size htrue bound left hgiven => ?_⟩
  by_cases hstuck : m.Stuck side visited column
  · obtain ⟨left', hstopped⟩ := hends.stops hstuck
    rw [hstopped] at hgiven
    cases hgiven
  · rw [hends.gives hstuck, Option.some.injEq, Prod.mk.injEq, Except.ok.injEq] at hgiven
    exact lengthBound_sound htrue hgiven.1

/-- Two columns that are no longer than each other, one of them shorter than five. -/
theorem searchColumn_ends_soundly_of_cycle :
    let length := fun column : String => Expr.call ["length"] [.column [] column]
    let check := fun tree : Expr =>
      { table := ⟨"t", none⟩
        expression := ⟨"", tree⟩
        columnNames := ["a", "b"] : CheckConstraint }
    let m : TableMetadata :=
      { columns := ["a", "b"].map fun name => { table := ⟨"t", none⟩, name, dataType := "text" }
        checks :=
          [check (.compare .le (length "a") (length "b")),
            check (.compare .le (length "b") (length "a")),
            check (.compare .lt (length "b") (.literal (.number "5")))] }
    let value : String → Option String := fun _ => some "text"
    (∀ k ∈ m.checks, k.expression.tree.IsWorth (m.measure value String.length) .true)
      ∧ ¬ m.Stuck .upper [] "a"
      ∧ (m.searchColumn .upper "a").runFrom [] = some (.ok (some 6), [])
      ∧ (m.measure value String.length).Meets .upper 6 "a" := by
  intro length check m value
  have htruth : ∀ k ∈ m.checks,
      k.expression.tree.measuredTruth? (m.measure value String.length) = some .true := by
    decide +kernel
  have htrue := fun k hk => Expr.isWorth_of_measuredTruth? (htruth k hk)
  have hfree : ¬ m.Stuck .upper [] "a" := not_stuck_of_readable (by decide +kernel)
  have hbound : m.lengthBound .upper (m.unvisited [] "a") "a" = some 6 := by decide +kernel
  obtain ⟨-, hgives, hsound⟩ := searchColumn_ends_soundly m .upper [] "a"
  have hfound := hgives hfree
  rw [hbound] at hfound
  exact ⟨htrue, hfree, hfound, hsound value String.length htrue 6 [] hfound⟩

end TableMetadata

/-- The left side of a disjunction. -/
def Expr.leftOfOr : Expr → Expr
  | or left _ => left
  | e => e

/-- The search is stopped at `length(a) < -1e`, also where the check that this is a part of is true,
and does not give a bound. -/
theorem Builder.search_stopped :
    ¬ ∀ (name : String) (statements : List Statement), (∀ s ∈ statements, s.Parsed) →
      ∀ e ∈ ((initial name).run statements).entries, ∀ (side : BoundSide) (column : String),
        e.metadata.isText column = true →
        ∀ (ν : Type) (value : String → Option ν) (size : ν → Nat),
          (∀ k ∈ e.metadata.checks,
            k.expression.tree.IsWorth (e.metadata.measure value size) .true) →
          ∃ bound, (e.metadata.searchColumn side column).runFrom [] = some (.ok bound, []) := by
  intro h
  let statements := Script.statements
    "CREATE TABLE t (a text, b text, CHECK (length(b) < length(a)),
     CHECK (length(a) < 10 OR length(a) < -1e))"
  let value : String → Option String := fun column => some (if column = "a" then "a" else "")
  -- Of a disjunction the left side alone is measured.
  obtain ⟨e, he, htext, ⟨k, hk, limit, hlimit, hlent⟩, ⟨k', hk', limit', hlimit', hunreadable⟩,
      htruth⟩ : ∃ e ∈ ((initial "shop").run statements).entries, e.metadata.isText "b" = true
      ∧ (∃ k ∈ e.metadata.checks, ∃ v ∈ k.expression.tree.limits .upper
          (e.metadata.wants k (some "b")), v.lengthColumn? = some "a")
      ∧ (∃ k ∈ e.metadata.checks, ∃ v ∈ k.expression.tree.limits .upper
          (e.metadata.wants k (some "a")), v.isUnreadable = true)
      ∧ ∀ k ∈ e.metadata.checks, k.expression.tree.leftOfOr.measuredTruth?
          (e.metadata.measure value String.length) = some .true := by
    decide +kernel
  have htrue : ∀ k ∈ e.metadata.checks,
      k.expression.tree.IsWorth (e.metadata.measure value String.length) .true := by
    intro k hk
    have hworth := Expr.isWorth_of_measuredTruth? (htruth k hk)
    cases htree : k.expression.tree with
    | or left right =>
      rw [htree] at hworth
      obtain ⟨w, hw⟩ := Expr.exists_isWorth (e.metadata.measure value String.length) right
      exact Expr.IsWorth.or hworth hw
    | _ =>
      rw [htree] at hworth
      exact hworth
  have hstuck : e.metadata.Stuck .upper [] "b" :=
    .lent ⟨k, hk, hlimit⟩ hlent (by simp) (.unreadable ⟨k', hk', hlimit'⟩ hunreadable)
  obtain ⟨bound, hgiven⟩ := h "shop" statements (fun _ => Statement.Parsed.of_text) e he .upper "b"
    htext String value String.length htrue
  obtain ⟨left, hstopped⟩ :=
    (TableMetadata.searchColumn_ends (e.metadata.unvisited_unvisited [] "b")).stops hstuck
  rw [hstopped] at hgiven
  cases hgiven

/-- The bound that a check sets on the length of some text is found by the search on its behalf, which
starts with an empty stack. -/
theorem CheckConstraint.search_ends (k : CheckConstraint) (m : TableMetadata) (side : BoundSide) :
    (m.searchExpr side k none k.expression.tree).Ends []
      (∃ value ∈ k.expression.tree.limits side (m.wants k none), m.Blocks side [] value)
      (k.lengthBound m side) := by
  refine TableMetadata.searchExpr_ends fun value hvalue => ?_
  refine TableMetadata.searchLimit_ends (by simp) fun other hother _ => ?_
  have hown : other ∈ k.expression.tree.measuredColumns :=
    Expr.mem_measuredColumns_of_limits hvalue hother
  refine TableMetadata.searchColumn_ends
    { nodup := nodup_distinct _
      column_mem := mem_distinct.mpr (List.mem_append_left _ (Expr.measuredColumns_subset _ hown))
      mem_iff := fun other hmeasured _ => iff_of_true ?_ List.not_mem_nil }
  obtain ⟨k', hk', hmem⟩ := List.mem_flatMap.mp hmeasured
  refine mem_distinct.mpr (List.mem_append_right _ (List.mem_flatMap.mpr ⟨k', hk', ?_⟩))
  exact Expr.measuredColumns_subset _ hmem

end SchemaCatalog
