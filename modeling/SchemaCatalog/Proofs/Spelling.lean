import SchemaCatalog.Proofs.Failures
import SchemaCatalog.Proofs.States

/-!
# Two spellings of a table

A table of the default schema may be named with its schema or without it, and it does not matter how
a statement names the tables that it refers to: `Statement.apply_respelled`. Spelled in the other
way, a statement does the same, or fails in the same kind of way and leaves the same, and with it a
script (`Builder.applyAll_alike`).

Nearly all of it is that a name in either spelling is resolved to the same table
(`resolve?_respells`), which takes distinct tables: where `t` and `public.t` are two tables each
spelling finds its own. From there on a statement goes by what it has found, and names are looked at
again only to word a failure. `Alike` is the relation that sees results and kinds of failures but no
wording, and it is carried through a computation from its parts.

Three places compare names that were resolved to nothing. A foreign key is compared with the table
that is being created, and there both spellings are read alike (`ObjectName.Respells.denotesSame`).
A trigger to drop and the objects of a revocation are looked for under the name as it is written
(`Builder.keyOf`); but triggers and grants carry the keys of tables, which such a name is not, so
both spellings find nothing.
-/

namespace SchemaCatalog

/-! ## 1. Spelling a statement in another way -/

/-- Two spellings of a name: the same one, or one with and one without the default schema. -/
def ObjectName.Respells (n n' : ObjectName) : Prop := n' = n ∨ n.alias? = some n'

inductive ConstraintDefinition.Respells : ConstraintDefinition → ConstraintDefinition → Prop
  | same (d : ConstraintDefinition) : Respells d d
  | foreignKey {d : ForeignKeyDefinition} {n : ObjectName} (h : d.referencedTable.Respells n) :
      Respells (.foreignKey d) (.foreignKey { d with referencedTable := n })

inductive ColumnDefinition.Respells : ColumnDefinition → ColumnDefinition → Prop
  | constraints {d : ColumnDefinition} {ds : List ConstraintDefinition}
      (h : List.Forall₂ ConstraintDefinition.Respells d.constraints ds) :
      Respells d { d with constraints := ds }

/-- Two statements that differ only in how they spell the tables that they refer to. The name of a
new table is not a reference. -/
inductive Statement.Respells : Statement → Statement → Prop
  | same (s : Statement) : Respells s s
  | createTable {s : CreateTable} {columns : List ColumnDefinition}
      {constraints : List ConstraintDefinition}
      (hcolumns : List.Forall₂ ColumnDefinition.Respells s.columns columns)
      (hconstraints : List.Forall₂ ConstraintDefinition.Respells s.constraints constraints) :
      Respells (.createTable s) (.createTable { s with columns, constraints })
  | dropTable {s : DropTable} {names : List ObjectName}
      (h : List.Forall₂ ObjectName.Respells s.names names) :
      Respells (.dropTable s) (.dropTable { s with names })
  | alterTable {s : AlterTable} {name : ObjectName} (h : s.name.Respells name) :
      Respells (.alterTable s) (.alterTable { s with name })
  | createIndex {s : CreateIndex} {table : ObjectName} (h : s.table.Respells table) :
      Respells (.createIndex s) (.createIndex { s with table })
  | createTrigger {s : CreateTrigger} {table : ObjectName} (h : s.table.Respells table) :
      Respells (.createTrigger s) (.createTrigger { s with table })
  | dropTrigger {s : DropTrigger} {n n' : ObjectName} (hn : s.table = some n) (h : n.Respells n') :
      Respells (.dropTrigger s) (.dropTrigger { s with table := some n' })
  | createPolicy {s : CreatePolicy} {table : ObjectName} (h : s.table.Respells table) :
      Respells (.createPolicy s) (.createPolicy { s with table })
  | dropPolicy {s : DropPolicy} {table : ObjectName} (h : s.table.Respells table) :
      Respells (.dropPolicy s) (.dropPolicy { s with table })
  | grantPrivileges {s : GrantPrivileges} {names : List ObjectName}
      (hkind : s.objects.kind = .tables)
      (h : List.Forall₂ ObjectName.Respells s.objects.names names) :
      Respells (.grantPrivileges s)
        (.grantPrivileges { s with objects := { s.objects with names } })
  | revokePrivileges {s : RevokePrivileges} {names : List ObjectName}
      (hkind : s.objects.kind = .tables)
      (h : List.Forall₂ ObjectName.Respells s.objects.names names) :
      Respells (.revokePrivileges s)
        (.revokePrivileges { s with objects := { s.objects with names } })
  | commentOn {s : CommentOn} {target : ObjectName} (h : s.target.Respells target) :
      Respells (.commentOn s) (.commentOn { s with target })

/-! ## 2. Results and kinds of failures -/

/-- Two computations have the same result, or fail in the same kind of way. -/
def Alike {α : Type} (x y : Except CatalogError α) : Prop :=
  x.mapError CatalogError.kind = y.mapError CatalogError.kind

namespace Alike

variable {α β : Type} {x y : Except CatalogError α} {f g : α → Except CatalogError β}

theorem refl (x : Except CatalogError α) : Alike x x := rfl

theorem error {e e' : CatalogError} (h : e.kind = e'.kind) :
    Alike (.error e : Except CatalogError α) (.error e') :=
  congrArg Except.error h

theorem bind (h : Alike x y) (hf : ∀ a, x = .ok a → Alike (f a) (g a)) :
    Alike (x >>= f) (y >>= g) := by
  cases x with
  | ok a =>
    cases y with
    | ok a' =>
      cases h
      exact hf a rfl
    | error e' => cases h
  | error e =>
    cases y with
    | ok a' => cases h
    | error e' => exact error (Except.error.inj h)

/-- Two guards of one condition stop in the same kind of way. -/
theorem guard {c : Prop} [Decidable c] {e e' : CatalogError} {f g : α → Except CatalogError β}
    {x y : Except CatalogError β} (he : e.kind = e'.kind) (h : Alike x y) :
    Alike (if c then throw e >>= f else x) (if c then throw e' >>= g else y) := by
  split
  · exact error he
  · exact h

theorem ite {c : Prop} [Decidable c] {x' y' : Except CatalogError α} (h : Alike x y)
    (h' : Alike x' y') : Alike (if c then x else x') (if c then y else y') := by
  split
  · exact h
  · exact h'

/-- Computing over lists whose elements are computed alike. -/
theorem mapM {γ : Type} {R : α → γ → Prop} {f : α → Except CatalogError β}
    {g : γ → Except CatalogError β} {as : List α} {bs : List γ} (h : List.Forall₂ R as bs)
    (hf : ∀ a b, R a b → Alike (f a) (g b)) : Alike (as.mapM f) (bs.mapM g) := by
  induction h with
  | nil => exact refl _
  | cons hab _ ih =>
    rw [List.mapM_cons, List.mapM_cons]
    exact (hf _ _ hab).bind fun _ _ => ih.bind fun _ _ => refl _

theorem forM {f g : α → Except CatalogError Unit} {as : List α} (h : ∀ a, Alike (f a) (g a)) :
    Alike (as.forM f) (as.forM g) := by
  induction as with
  | nil => exact refl _
  | cons a as ih => exact (h a).bind fun _ _ => ih

end Alike

/-- Two outcomes leave the same, and have both succeeded or both failed in the same kind of way. -/
structure Outcome.Alike (o o' : Outcome) : Prop where
  builder : o.builder = o'.builder
  failure : o.failure.map CatalogError.kind = o'.failure.map CatalogError.kind

theorem Outcome.Alike.refl (o : Outcome) : o.Alike o := ⟨rfl, rfl⟩

theorem Outcome.Alike.whole {b : Builder} {x y : Except CatalogError Builder}
    (h : SchemaCatalog.Alike x y) : (whole b x).Alike (whole b y) := by
  cases x with
  | ok b' =>
    cases y with
    | ok b'' =>
      cases h
      exact refl _
    | error e' => cases h
  | error e =>
    cases y with
    | ok b'' => cases h
    | error e' => exact ⟨rfl, congrArg some (Except.error.inj h)⟩

/-- Of outcomes that are alike both are successes or both are failures. -/
theorem Outcome.Alike.cases {o o' : Outcome} (h : o.Alike o') :
    (∃ c : Builder, o = { builder := c } ∧ o' = { builder := c })
      ∨ ∃ (c : Builder) (e e' : CatalogError), e.kind = e'.kind
        ∧ o = { builder := c, failure := some e } ∧ o' = { builder := c, failure := some e' } := by
  obtain ⟨c, failure⟩ := o
  obtain ⟨c', failure'⟩ := o'
  obtain ⟨hbuilder, hfailure⟩ := h
  obtain rfl : c = c' := hbuilder
  cases failure with
  | none =>
    cases failure' with
    | none => exact .inl ⟨c, rfl, rfl⟩
    | some e' => cases hfailure
  | some e =>
    cases failure' with
    | none => cases hfailure
    | some e' => exact .inr ⟨c, e, e', Option.some.inj hfailure, rfl, rfl⟩

theorem requireColumns_alike (columns : List Column) (table table' : String) (names : List String) :
    Alike (requireColumns columns table names) (requireColumns columns table' names) := by
  rw [requireColumns, requireColumns]
  split
  · exact .error rfl
  · exact .refl _

/-! ## 3. Resolving names -/

/-- Two spellings denote the same table. -/
theorem ObjectName.Respells.denoted {n n' : ObjectName} (h : n.Respells n') :
    n'.denoted = n.denoted := ObjectName.denoted_eq_iff.mpr h

/-- The target of a foreign key is compared with the new table by its denotation, an empty schema
being the default one. -/
theorem ObjectName.denotesSame_eq (n table : ObjectName) :
    n.denotesSame table = (n.denoted.2 == table.name
      && (if n.denoted.1.isEmpty then defaultSchema else n.denoted.1)
        == (if table.denoted.1.isEmpty then defaultSchema else table.denoted.1)) := by
  obtain ⟨name, schema⟩ := n
  obtain ⟨name', schema'⟩ := table
  cases schema <;> cases schema' <;> rfl

theorem ObjectName.Respells.denotesSame {n n' : ObjectName} (h : n.Respells n')
    (table : ObjectName) : n'.denotesSame table = n.denotesSame table := by
  rw [denotesSame_eq, denotesSame_eq, h.denoted]

namespace Builder

variable {b : Builder}

/-- Names of one denotation are resolved to one table, since there is only one that they denote. -/
theorem resolve?_congr (hb : b.DistinctTables) {n n' : ObjectName} (h : n'.denoted = n.denoted) :
    b.resolve? n' = b.resolve? n := by
  cases ht : b.resolve? n with
  | none =>
    cases ht' : b.resolve? n' with
    | none => rfl
    | some t' =>
      obtain ⟨e, he, -, hkey⟩ := resolve?_eq_some ht'
      exact absurd (hkey.trans h) (resolve?_eq_none ht e he)
  | some t =>
    obtain ⟨e, he, rfl, hkey⟩ := resolve?_eq_some ht
    cases ht' : b.resolve? n' with
    | none => exact absurd (hkey.trans h.symm) (resolve?_eq_none ht' e he)
    | some t' =>
      obtain ⟨e', he', rfl, hkey'⟩ := resolve?_eq_some ht'
      rw [hb.entry_eq he' he (hkey'.trans (h.trans hkey.symm))]

theorem resolve?_respells (hb : b.DistinctTables) {n n' : ObjectName} (h : n.Respells n') :
    b.resolve? n' = b.resolve? n := resolve?_congr hb h.denoted

theorem requireTable_alike (hb : b.DistinctTables) {n n' : ObjectName} (h : n.Respells n')
    (referencedBy referencedBy' : String) :
    Alike (b.requireTable n referencedBy) (b.requireTable n' referencedBy') := by
  rw [requireTable, requireTable, resolve?_respells hb h]
  split
  · exact .refl _
  · exact .error rfl

theorem requireRole_alike (b : Builder) (name referencedBy referencedBy' : String) :
    Alike (b.requireRole name referencedBy) (b.requireRole name referencedBy') := by
  rw [requireRole, requireRole]
  exact .ite (.refl _) (.error rfl)

/-- Triggers and grants on tables carry the keys of tables. -/
structure NamesTables (b : Builder) : Prop where
  triggers : ∀ t ∈ b.triggers, t.table ∈ b.entries.map (·.key)
  grants : ∀ g ∈ b.grants, g.objects.kind = .tables →
    ∀ n ∈ g.objects.names, n ∈ b.entries.map (·.key)

/-- What is closed names its tables. -/
theorem Closed.namesTables (hb : b.Closed) : b.NamesTables where
  triggers t ht := by
    obtain ⟨e, he, hkey, -⟩ := hb.triggers t ht
    exact List.mem_map.mpr ⟨e, he, hkey⟩
  grants g hg hkind n hn := by
    obtain ⟨e, he, hkey, -⟩ := hb.grants g hg hkind n hn
    exact List.mem_map.mpr ⟨e, he, hkey⟩

/-- The key that a name is compared by: that of its table, or else the name itself. -/
def keyOf (b : Builder) (n : ObjectName) : TableKey :=
  match b.resolve? n with
  | some t => t.key
  | none => n

/-- A table has the key that a name is compared by in either spelling or in neither: a name that is
resolved to nothing is not the key of a table. -/
theorem eq_keyOf_respells (hb : b.DistinctTables) {key : TableKey}
    (hkey : key ∈ b.entries.map (·.key)) {n n' : ObjectName} (h : n.Respells n') :
    key = b.keyOf n' ↔ key = b.keyOf n := by
  have hother {m : ObjectName} (hm : b.resolve? m = none) : key ≠ m := by
    rintro rfl
    obtain ⟨e, he, heq⟩ := List.mem_map.mp hkey
    exact resolve?_eq_none hm e he (congrArg ObjectName.denoted heq)
  have hsame := resolve?_respells hb h
  rw [keyOf, keyOf, hsame]
  cases hfound : b.resolve? n with
  | some t => exact Iff.rfl
  | none =>
    rw [hfound] at hsame
    exact iff_of_false (hother hsame) (hother hfound)

end Builder

/-! ## 4. Statements -/

variable {b : Builder}

/-- The columns of a table are declared without a look at their constraints. -/
theorem declareColumns_respells {table : ObjectName} {ds ds' : List ColumnDefinition}
    (h : List.Forall₂ ColumnDefinition.Respells ds ds') (ordinal : Nat) (seen : List String) :
    declareColumns table ordinal seen ds' = declareColumns table ordinal seen ds := by
  induction h generalizing ordinal seen with
  | nil => rfl
  | cons hd _ ih =>
    cases hd
    rw [declareColumns, declareColumns, ih]

/-- Constraints other than foreign keys are declared without a look at the foreign keys. -/
theorem declareConstraint_respells {table : ObjectName} {m : TableMetadata}
    {d d' : ConstraintDefinition} (h : d.Respells d') :
    declareConstraint b table m d' = declareConstraint b table m d := by
  cases h <;> rfl

theorem declareConstraints_respells {table : ObjectName} {ds ds' : List ConstraintDefinition}
    (h : List.Forall₂ ConstraintDefinition.Respells ds ds') (m : TableMetadata) :
    ds'.foldlM (declareConstraint b table) m = ds.foldlM (declareConstraint b table) m := by
  induction h generalizing m with
  | nil => rfl
  | cons hd _ ih =>
    rw [List.foldlM_cons, List.foldlM_cons, declareConstraint_respells hd]
    exact congrArg _ (funext ih)

/-- The foreign keys among constraints are the same, up to the spelling of their targets. -/
theorem foreignKeyDefinitions_respells {ds ds' : List ConstraintDefinition}
    (h : List.Forall₂ ConstraintDefinition.Respells ds ds') :
    List.Forall₂ (fun k k' : ForeignKeyDefinition => ∃ n, k.referencedTable.Respells n
      ∧ k' = { k with referencedTable := n })
      (foreignKeyDefinitions ds) (foreignKeyDefinitions ds') := by
  induction h with
  | nil => exact .nil
  | @cons d _ _ _ hd _ ih =>
    cases hd with
    | same =>
      cases d with
      | foreignKey k => exact .cons ⟨k.referencedTable, Or.inl rfl, rfl⟩ ih
      | _ => exact ih
    | foreignKey hn => exact .cons ⟨_, hn, rfl⟩ ih

theorem referencedTable_alike (hb : b.DistinctTables) {table : ObjectName} {m : TableMetadata}
    {n n' : ObjectName} (h : n.Respells n') (referencedBy : String) :
    Alike (referencedTable b table m n referencedBy)
      (referencedTable b table m n' referencedBy) := by
  rw [referencedTable, referencedTable, h.denotesSame]
  exact .ite (.refl _) ((Builder.requireTable_alike hb h ..).bind fun _ _ => .refl _)

theorem declareForeignKey_alike (hb : b.DistinctTables) {table : ObjectName} {m : TableMetadata}
    {k : ForeignKeyDefinition} {n : ObjectName} (h : k.referencedTable.Respells n) :
    Alike (declareForeignKey b table m k)
      (declareForeignKey b table m { k with referencedTable := n }) := by
  refine (Alike.refl (requireColumns ..)).bind fun _ _ => ?_
  refine (referencedTable_alike hb h _).bind fun target _ => .guard rfl ?_
  exact (requireColumns_alike ..).bind fun _ _ => .guard rfl (.refl _)

theorem CreateTable.apply_alike (hb : b.DistinctTables) {s : CreateTable}
    {columns : List ColumnDefinition} {constraints : List ConstraintDefinition}
    (hcolumns : List.Forall₂ ColumnDefinition.Respells s.columns columns)
    (hconstraints : List.Forall₂ ConstraintDefinition.Respells s.constraints constraints) :
    Alike (s.apply b) (CreateTable.apply { s with columns, constraints } b) := by
  have hall : List.Forall₂ ConstraintDefinition.Respells s.allConstraints
      (CreateTable.allConstraints { s with columns, constraints }) := by
    refine List.rel_append (List.rel_flatMap hcolumns fun d d' hd => ?_) hconstraints
    cases hd with
    | constraints hds => exact hds
  cases hfound : b.resolve? s.name with
  | some t =>
    simp only [apply, hfound]
    exact .refl _
  | none =>
    simp only [apply, hfound]
    refine Alike.bind ?_ fun _ _ => .refl _
    rw [CreateTable.metadata, CreateTable.metadata, declareColumns_respells hcolumns]
    refine (Alike.refl (declareColumns ..)).bind fun _ _ => ?_
    rw [declareConstraints_respells hall]
    refine (Alike.refl (List.foldlM ..)).bind fun _ _ => ?_
    refine (Alike.mapM (foreignKeyDefinitions_respells hall) fun k k' hk => ?_).bind
      fun _ _ => .refl _
    obtain ⟨n, hn, rfl⟩ := hk
    exact declareForeignKey_alike hb hn

theorem tablesToDrop_alike (hb : b.DistinctTables) (ifExists : Bool) {ns ns' : List ObjectName}
    (h : List.Forall₂ ObjectName.Respells ns ns') (found : List Table) :
    Alike (tablesToDrop b ifExists found ns) (tablesToDrop b ifExists found ns') := by
  induction h generalizing found with
  | nil => exact .refl _
  | cons hn _ ih =>
    rw [tablesToDrop, tablesToDrop, Builder.resolve?_respells hb hn]
    split
    · exact .ite (ih found) (.error rfl)
    · exact ih _

theorem DropTable.apply_alike (hb : b.DistinctTables) {s : DropTable} {names : List ObjectName}
    (h : List.Forall₂ ObjectName.Respells s.names names) :
    Alike (s.apply b) (DropTable.apply { s with names } b) :=
  (tablesToDrop_alike hb s.ifExists h []).bind fun _ _ => .refl _

theorem AlterTable.apply_alike (hb : b.DistinctTables) {s : AlterTable} {name : ObjectName}
    (h : s.name.Respells name) : Alike (s.apply b) (AlterTable.apply { s with name } b) := by
  rw [apply, apply, Builder.resolve?_respells hb h]
  split
  · exact .ite (.refl _) (.error rfl)
  · exact .refl _

theorem CreateIndex.apply_alike (hb : b.DistinctTables) {s : CreateIndex} {table : ObjectName}
    (h : s.table.Respells table) : Alike (s.apply b) (CreateIndex.apply { s with table } b) :=
  (Builder.requireTable_alike hb h ..).bind fun _ _ => .refl _

theorem CreateTrigger.apply_alike (hb : b.DistinctTables) {s : CreateTrigger} {table : ObjectName}
    (h : s.table.Respells table) : Alike (s.apply b) (CreateTrigger.apply { s with table } b) :=
  (Builder.requireTable_alike hb h ..).bind fun _ _ => .refl _

/-- A trigger is on a table, so it is one to drop in either spelling or in neither. -/
theorem DropTrigger.selects_respells (hb : b.DistinctTables) (hnames : b.NamesTables)
    {s : DropTrigger} {n n' : ObjectName} (h : n.Respells n') {t : Trigger} (ht : t ∈ b.triggers) :
    s.selects (some (b.keyOf n')) t = s.selects (some (b.keyOf n)) t := by
  have hkey := Builder.eq_keyOf_respells hb (hnames.triggers t ht) h
  have hsame : (some (b.keyOf n') == some t.table) = (some (b.keyOf n) == some t.table) := by
    rw [Bool.eq_iff_iff, beq_iff_eq, beq_iff_eq, Option.some_inj, Option.some_inj, eq_comm, hkey,
      eq_comm]
  rw [selects, selects, hsame, Option.isNone_some, Option.isNone_some]

theorem DropTrigger.apply_alike (hb : b.DistinctTables) (hnames : b.NamesTables)
    {s : DropTrigger} {n n' : ObjectName} (hn : s.table = some n) (h : n.Respells n') :
    Alike (s.apply b) (DropTrigger.apply { s with table := some n' } b) := by
  have hkey : s.key? b = some (b.keyOf n) := by
    rw [key?, hn]
    rfl
  have hkey' : DropTrigger.key? { s with table := some n' } b = some (b.keyOf n') := rfl
  have hselects : DropTrigger.selects { s with table := some n' } = s.selects := rfl
  have hfound : b.triggers.filter (s.selects (some (b.keyOf n')))
      = b.triggers.filter (s.selects (some (b.keyOf n))) :=
    List.filter_congr fun _ ht => selects_respells hb hnames h ht
  simp only [apply, hselects, hkey, hkey', hfound]
  exact .ite (.ite (.refl _) (.error rfl)) (.refl _)

theorem CreatePolicy.apply_alike (hb : b.DistinctTables) {s : CreatePolicy} {table : ObjectName}
    (h : s.table.Respells table) : Alike (s.apply b) (CreatePolicy.apply { s with table } b) :=
  (Builder.requireTable_alike hb h ..).bind fun _ _ => .refl _

theorem DropPolicy.apply_alike (hb : b.DistinctTables) {s : DropPolicy} {table : ObjectName}
    (h : s.table.Respells table) : Alike (s.apply b) (DropPolicy.apply { s with table } b) := by
  have hkey : DropPolicy.key? { s with table } b = s.key? b := by
    rw [key?, key?, Builder.resolve?_respells hb h]
  rw [apply, apply, hkey]
  split
  · exact .refl _
  · exact .ite (.refl _) (.error rfl)

theorem resolveObjects_alike (hb : b.DistinctTables) {objects : GrantObjects}
    {names : List ObjectName} (hkind : objects.kind = .tables)
    (h : List.Forall₂ ObjectName.Respells objects.names names)
    (referencedBy referencedBy' : String) :
    Alike (resolveObjects b objects referencedBy)
      (resolveObjects b { objects with names } referencedBy') := by
  simp only [resolveObjects, hkind]
  refine Alike.bind (.mapM h fun n n' hn => ?_) fun _ _ => .refl _
  exact Builder.requireTable_alike hb hn ..

theorem GrantPrivileges.apply_alike (hb : b.DistinctTables) {s : GrantPrivileges}
    {names : List ObjectName} (hkind : s.objects.kind = .tables)
    (h : List.Forall₂ ObjectName.Respells s.objects.names names) :
    Alike (s.apply b)
      (GrantPrivileges.apply { s with objects := { s.objects with names } } b) := by
  obtain ⟨privileges, objects, grantees, all, withOption, grantedBy⟩ := s
  have hobjects (referencedBy referencedBy' : String) :=
    resolveObjects_alike hb hkind h referencedBy referencedBy'
  refine (Alike.forM fun _ => b.requireRole_alike ..).bind fun _ _ => ?_
  cases grantedBy with
  | none => exact (hobjects _ _).bind fun _ _ => .refl _
  | some grantor =>
    exact (b.requireRole_alike ..).bind fun _ _ => (hobjects _ _).bind fun _ _ => .refl _

/-- The names of a grant are those of a revocation in either spelling or in neither. -/
theorem eq_map_keyOf_respells (hb : b.DistinctTables) {keys ns ns' : List ObjectName}
    (hkeys : ∀ k ∈ keys, k ∈ b.entries.map (·.key))
    (h : List.Forall₂ ObjectName.Respells ns ns') :
    keys = ns'.map b.keyOf ↔ keys = ns.map b.keyOf := by
  induction h generalizing keys with
  | nil => exact Iff.rfl
  | cons hn _ ih =>
    cases keys with
    | nil => simp
    | cons k keys =>
      obtain ⟨hk, hkeys⟩ := List.forall_mem_cons.mp hkeys
      rw [List.map_cons, List.map_cons, List.cons.injEq, List.cons.injEq, ih hkeys,
        Builder.eq_keyOf_respells hb hk hn]

theorem RevokePrivileges.eq_resolvedObjects_iff {s : RevokePrivileges}
    (hkind : s.objects.kind = .tables) (objects : GrantObjects) :
    objects = s.resolvedObjects b
      ↔ objects.kind = .tables ∧ objects.names = s.objects.names.map b.keyOf := by
  obtain ⟨kind, names⟩ := objects
  simp only [resolvedObjects, hkind, beq_self_eq_true, if_true, GrantObjects.mk.injEq]
  exact Iff.rfl

/-- A revocation in either spelling is about the same grants. -/
theorem RevokePrivileges.isAbout_respells (hb : b.DistinctTables) (hnames : b.NamesTables)
    {s s' : RevokePrivileges} (hkind : s.objects.kind = .tables)
    (hkind' : s'.objects.kind = .tables)
    (h : List.Forall₂ ObjectName.Respells s.objects.names s'.objects.names) {g : Grant}
    (hg : g ∈ b.grants) :
    s.isAbout (s'.resolvedObjects b) g = s.isAbout (s.resolvedObjects b) g := by
  have hobjects : (g.objects == s'.resolvedObjects b) = (g.objects == s.resolvedObjects b) := by
    rw [Bool.eq_iff_iff, beq_iff_eq, beq_iff_eq, eq_resolvedObjects_iff hkind,
      eq_resolvedObjects_iff hkind']
    exact and_congr_right fun htables =>
      eq_map_keyOf_respells hb (hnames.grants g hg htables) h
  rw [isAbout, isAbout, hobjects]

/-- Tests that agree on the grants take the same ones away. -/
theorem replaceGrants_alike {p p' : Grant → Bool} (h : ∀ g ∈ b.grants, p' g = p g)
    (f : Grant → Option Grant) {e e' : CatalogError} (he : e.kind = e'.kind) :
    Alike (if b.grants.any p then .ok (b.replaceGrants p f) else .error e)
      (if b.grants.any p' then .ok (b.replaceGrants p' f) else .error e') := by
  have hany : b.grants.any p' = b.grants.any p := by
    rw [Bool.eq_iff_iff, List.any_eq_true, List.any_eq_true]
    exact exists_congr fun g => and_congr_right fun hg => by rw [h g hg]
  have hreplaced : b.replaceGrants p' f = b.replaceGrants p f := by
    rw [Builder.replaceGrants, Builder.replaceGrants,
      List.filterMap_congr fun g hg => congrArg (if · then f g else some g) (h g hg)]
  rw [hany, hreplaced]
  exact .ite (.refl _) (.error he)

theorem RevokePrivileges.apply_alike (hb : b.DistinctTables) (hnames : b.NamesTables)
    {s : RevokePrivileges} {names : List ObjectName} (hkind : s.objects.kind = .tables)
    (h : List.Forall₂ ObjectName.Respells s.objects.names names) :
    Alike (s.apply b)
      (RevokePrivileges.apply { s with objects := { s.objects with names } } b) := by
  set s' : RevokePrivileges := { s with objects := { s.objects with names } }
  have hkind' : s'.objects.kind = .tables := hkind
  refine replaceGrants_alike (fun g hg => ?_) _ ?_
  · exact isAbout_respells hb hnames hkind hkind' h hg
  · simp only [CatalogError.kind]

/-! ## 5. Outcomes and runs -/

namespace Statement

theorem apply_alike (hb : b.DistinctTables) (hnames : b.NamesTables) {s s' : Statement}
    (h : s.Respells s') : (s.apply b).Alike (s'.apply b) := by
  cases h with
  | same => exact .refl _
  | createTable hcolumns hconstraints =>
    exact .whole (CreateTable.apply_alike hb hcolumns hconstraints)
  | dropTable h => exact .whole (DropTable.apply_alike hb h)
  | alterTable h => exact .whole (AlterTable.apply_alike hb h)
  | createIndex h => exact .whole (CreateIndex.apply_alike hb h)
  | createTrigger h => exact .whole (CreateTrigger.apply_alike hb h)
  | dropTrigger hn h => exact .whole (DropTrigger.apply_alike hb hnames hn h)
  | createPolicy h => exact .whole (CreatePolicy.apply_alike hb h)
  | dropPolicy h => exact .whole (DropPolicy.apply_alike hb h)
  | grantPrivileges hkind h => exact .whole (GrantPrivileges.apply_alike hb hkind h)
  | revokePrivileges hkind h => exact .whole (RevokePrivileges.apply_alike hb hnames hkind h)
  | commentOn _ => exact .refl _

/-- It does not matter how a statement spells the tables that it refers to, where they are distinct
and what carries the key of a table belongs to one: both spellings succeed or both fail in the same
kind of way, and they leave the same. -/
theorem apply_respelled (hb : b.DistinctTables) (hnames : b.NamesTables) {s s' : Statement}
    (h : s.Respells s') :
    (∃ c : Builder, s.apply b = { builder := c } ∧ s'.apply b = { builder := c })
      ∨ ∃ (c : Builder) (e e' : CatalogError), e.kind = e'.kind
        ∧ s.apply b = { builder := c, failure := some e }
        ∧ s'.apply b = { builder := c, failure := some e' } :=
  (apply_alike hb hnames h).cases

/-- What was granted on a table with its schema is revoked from it without. -/
theorem apply_respelled_of_revoked_grant :
    let statements : List Statement := [
      .createTable { name := ⟨"t", none⟩, columns := [{ name := "id", dataType := "int" }] },
      .grantPrivileges
        { privileges := [⟨"SELECT", []⟩], objects := ⟨.tables, [⟨"t", some "public"⟩]⟩
          grantees := ["PUBLIC"] }]
    let b := (Builder.initial "shop").run statements
    let revocation (t : ObjectName) : RevokePrivileges :=
      { privileges := [⟨"SELECT", []⟩], objects := ⟨.tables, [t]⟩, grantees := ["PUBLIC"] }
    b.DistinctTables ∧ b.NamesTables ∧ b.grants.length = 1
      ∧ Respells (.revokePrivileges (revocation ⟨"t", none⟩))
          (.revokePrivileges (revocation ⟨"t", some "public"⟩))
      ∧ ∃ c : Builder, c.grants = []
        ∧ Statement.apply b (.revokePrivileges (revocation ⟨"t", none⟩)) = { builder := c }
        ∧ Statement.apply b (.revokePrivileges (revocation ⟨"t", some "public"⟩))
            = { builder := c } := by
  intro statements b revocation
  obtain ⟨hdistinct, hone, hrevoked⟩ : b.DistinctTables ∧ b.grants.length = 1
      ∧ (Statement.apply b (.revokePrivileges (revocation ⟨"t", none⟩))).builder.grants = []
      ∧ (Statement.apply b (.revokePrivileges (revocation ⟨"t", none⟩))).failure = none := by
    decide +kernel
  have hnames : b.NamesTables :=
    (Builder.run_closed (Builder.initial_consistent "shop").closed statements).namesTables
  have hrespells : Respells (.revokePrivileges (revocation ⟨"t", none⟩))
      (.revokePrivileges (revocation ⟨"t", some "public"⟩)) :=
    .revokePrivileges rfl (.cons (.inr rfl) .nil)
  refine ⟨hdistinct, hnames, hone, hrespells, ?_⟩
  rcases apply_respelled hdistinct hnames hrespells with ⟨c, ho, ho'⟩ | ⟨c, e, e', -, ho, -⟩
  · rw [ho] at hrevoked
    exact ⟨c, hrevoked.1, ho, ho'⟩
  · rw [ho] at hrevoked
    cases hrevoked.2

end Statement

/-- Scripts that differ only in how they spell the tables that they refer to build the same or fail
in the same kind of way, where no statement brings two tables together. -/
theorem Builder.applyAll_alike (hb : b.Consistent) {statements statements' : List Statement}
    (hfree : b.Admits (fun b s => ¬ s.Collides b) statements)
    (h : List.Forall₂ Statement.Respells statements statements') :
    (b.applyAll statements).Alike (b.applyAll statements') := by
  rw [applyAll, applyAll]
  induction h generalizing b with
  | nil => exact .refl _
  | @cons s s' rest rest' hs _ ih =>
    obtain ⟨hfirst, hrest⟩ := hfree
    rcases (Statement.apply_alike hb.distinct hb.closed.namesTables hs).cases with
      ⟨c, ho, ho'⟩ | ⟨c, e, e', hkind, ho, ho'⟩
    · have hc := Statement.apply_consistent hb hfirst
      rw [ho] at hc hrest
      simpa only [Outcome.each, ho, ho'] using ih hc hrest
    · simpa only [Outcome.each, ho, ho'] using ⟨rfl, congrArg some hkind⟩

end SchemaCatalog
