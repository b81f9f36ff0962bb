import SchemaCatalog.Proofs.Ownership

/-!
# New tables

What the metadata of a new table looks like when its statement succeeds. Its columns are declared
first, constraints other than foreign keys are added to them one by one, and foreign keys come
last; so everything but the foreign keys is an invariant of the fold over the constraints, and
each foreign key is described on its own by `declareForeignKey_eq_ok`.

A foreign key is `Grounded` on a target when it leads there: from columns of its host to as many
of the target, and at least one.
-/

namespace SchemaCatalog

/-- A foreign key leads from columns of an entry to columns of the target, as many and not none. -/
structure ForeignKey.Grounded (k : ForeignKey) (e target : TableEntry) : Prop where
  host : k.host = e.key
  referenced : k.referenced = target.key
  hostColumns : k.hostColumns ⊆ e.metadata.columnNames
  referencedColumns : k.referencedColumns ⊆ target.metadata.columnNames
  length : k.hostColumns.length = k.referencedColumns.length
  nonempty : k.hostColumns ≠ []

/-! ## 1. Columns and constraints -/

/-- The columns of a new table carry its key. -/
theorem declareColumns_table {table : ObjectName} {ordinal : Nat} {seen : List String}
    {ds : List ColumnDefinition} {columns : List Column}
    (h : declareColumns table ordinal seen ds = .ok columns) : ∀ c ∈ columns, c.table = table := by
  induction ds generalizing ordinal seen columns with
  | nil =>
    rw [declareColumns] at h
    cases h
    exact fun c hc => absurd hc List.not_mem_nil
  | cons d ds ih =>
    rw [declareColumns] at h
    split at h
    · cases h
    · cases hrest : declareColumns table (ordinal + 1) (d.name :: seen) ds with
      | error e => rw [hrest] at h; cases h
      | ok rest =>
        rw [hrest] at h
        cases h
        exact List.forall_mem_cons.mpr ⟨rfl, ih hrest⟩

variable {b : Builder} {table : ObjectName}

/-- The state of a new table while its constraints are declared: in order, and without foreign keys
until the end. -/
structure TableMetadata.InTheMaking (m : TableMetadata) (table : TableKey) : Prop
    extends m.FiledUnder table where
  noForeignKeys : m.foreignKeys = []

namespace TableMetadata

/-- The columns of a new table are in order by themselves. -/
theorem InTheMaking.of_columns {columns : List Column}
    (h : ∀ c ∈ columns, c.table = table) : InTheMaking { columns } table where
  columns := h
  indices := by simp
  uniqueIndices := by simp
  foreignKeys := by simp
  checks := by simp
  primaryKey := by simp
  hostColumns := by simp
  checkColumns := by simp
  noForeignKeys := rfl

theorem InTheMaking.addUnique {m : TableMetadata} (hm : m.InTheMaking table)
    {i : UniqueIndex} (hi : i.table = table) {primaryKey : List String}
    (hkey : primaryKey ⊆ m.columnNames) :
    InTheMaking { m with primaryKey, uniqueIndices := m.uniqueIndices ++ [i] } table where
  columns := hm.columns
  indices := hm.indices
  uniqueIndices := fun j hj => (List.mem_append.mp hj).elim (hm.uniqueIndices j)
    fun hnew => List.mem_singleton.mp hnew ▸ hi
  foreignKeys := hm.foreignKeys
  checks := hm.checks
  primaryKey := hkey
  hostColumns := hm.hostColumns
  checkColumns := hm.checkColumns
  noForeignKeys := hm.noForeignKeys

theorem InTheMaking.addCheck {m : TableMetadata} (hm : m.InTheMaking table)
    {k : CheckConstraint} (hk : k.table = table) (hcolumns : k.columnNames ⊆ m.columnNames) :
    InTheMaking { m with checks := m.checks ++ [k] } table where
  columns := hm.columns
  indices := hm.indices
  uniqueIndices := hm.uniqueIndices
  foreignKeys := hm.foreignKeys
  checks := fun j hj => (List.mem_append.mp hj).elim (hm.checks j)
    fun hnew => List.mem_singleton.mp hnew ▸ hk
  primaryKey := hm.primaryKey
  hostColumns := hm.hostColumns
  checkColumns := fun j hj => (List.mem_append.mp hj).elim (hm.checkColumns j)
    fun hnew => List.mem_singleton.mp hnew ▸ hcolumns
  noForeignKeys := hm.noForeignKeys

end TableMetadata

/-- Declaring a constraint keeps the metadata in order. -/
theorem declareConstraint_inTheMaking {m m' : TableMetadata} {d : ConstraintDefinition}
    (hm : m.InTheMaking table) (h : declareConstraint b table m d = .ok m') :
    m'.InTheMaking table := by
  cases d with
  | primaryKey columns name =>
    simp only [declareConstraint] at h
    split at h
    · obtain ⟨_, hcolumns, h⟩ := bind_eq_ok.mp h
      rw [pure_eq_ok] at h
      exact h ▸ hm.addUnique rfl (requireColumns_eq_ok.mp hcolumns)
    · exact absurd h (by simp [throw, throwThe, MonadExceptOf.throw, bind, Except.bind])
  | unique columns name nullsDistinct =>
    simp only [declareConstraint] at h
    obtain ⟨_, -, h⟩ := bind_eq_ok.mp h
    rw [pure_eq_ok] at h
    exact h ▸ hm.addUnique rfl hm.primaryKey
  | check expression name =>
    simp only [declareConstraint] at h
    obtain ⟨columns, hcolumns, h⟩ := bind_eq_ok.mp h
    rw [pure_eq_ok] at h
    exact h ▸ hm.addCheck rfl (List.map_subset _ (resolveColumns_subset hcolumns))
  | foreignKey d =>
    simp only [declareConstraint, pure_eq_ok] at h
    exact h ▸ hm

/-! ## 2. Foreign keys -/

/-- A foreign key of a new table leads to the table itself or to one that its name resolves to. -/
theorem referencedTable_eq_ok {m m' : TableMetadata} {target : ObjectName} {referencedBy : String}
    {key : TableKey} (h : referencedTable b table m target referencedBy = .ok (key, m')) :
    (key = table ∧ m' = m) ∨ ∃ e ∈ b.entries, e.key = key ∧ e.metadata = m' := by
  rw [referencedTable] at h
  split at h
  · cases h; exact Or.inl ⟨rfl, rfl⟩
  · simp only [bind_eq_ok, Builder.requireEntry_eq_ok, pure_eq_ok] at h
    obtain ⟨t, -, e, he, heq⟩ := h
    cases heq
    obtain ⟨hmem, hkey⟩ := Builder.entry?_eq_some he
    exact Or.inr ⟨e, hmem, hkey, rfl⟩

/-- A foreign key that is declared leads from its columns to as many, and at least one, of the table
that its name resolves to. -/
theorem declareForeignKey_eq_ok {m : TableMetadata} {d : ForeignKeyDefinition} {k : ForeignKey}
    (h : declareForeignKey b table m d = .ok k) :
    k.host = table ∧ k.hostColumns ⊆ m.columnNames
      ∧ k.hostColumns.length = k.referencedColumns.length ∧ k.hostColumns ≠ []
      ∧ ∃ m', k.referencedColumns ⊆ TableMetadata.columnNames m'
        ∧ ((k.referenced = table ∧ m' = m)
          ∨ ∃ e ∈ b.entries, e.key = k.referenced ∧ e.metadata = m') := by
  simp only [declareForeignKey] at h
  obtain ⟨_, hhost, h⟩ := bind_eq_ok.mp h
  obtain ⟨⟨key, m'⟩, htarget, h⟩ := bind_eq_ok.mp h
  obtain ⟨hsome, h⟩ := guard_eq_ok.mp h
  obtain ⟨_, hreferenced, h⟩ := bind_eq_ok.mp h
  obtain ⟨hlength, h⟩ := guard_eq_ok.mp h
  rw [pure_eq_ok] at h
  subst h
  simp only [bne_iff_ne, ne_eq, Decidable.not_not] at hlength
  refine ⟨rfl, requireColumns_eq_ok.mp hhost, hlength.symm, ?_, m',
    requireColumns_eq_ok.mp hreferenced, ?_⟩
  · intro (hnil : d.columns = [])
    rw [hnil, List.length_nil, List.length_eq_zero_iff] at hlength
    exact hsome (by rw [hlength, List.isEmpty_nil])
  · exact (referencedTable_eq_ok htarget).imp id fun ⟨e, he, hkey, hmeta⟩ => ⟨e, he, hkey, hmeta⟩

/-! ## 3. The whole table -/

/-- The metadata of a new table is in order, and each foreign key leads to the table itself or to
one of the builder. -/
theorem CreateTable.metadata_eq_ok {s : CreateTable} {m : TableMetadata}
    (h : s.metadata b = .ok m) :
    m.FiledUnder s.name ∧ ∀ k ∈ m.foreignKeys, ∃ target : TableEntry,
      (target = s.entry m ∨ target ∈ b.entries) ∧ k.Grounded (s.entry m) target := by
  simp only [CreateTable.metadata] at h
  obtain ⟨columns, hcolumns, h⟩ := bind_eq_ok.mp h
  obtain ⟨made, hmade, h⟩ := bind_eq_ok.mp h
  obtain ⟨keys, hkeys, h⟩ := bind_eq_ok.mp h
  rw [pure_eq_ok] at h
  subst h
  have hmaking : made.InTheMaking s.name :=
    foldlM_invariant (P := fun m => m.InTheMaking s.name)
      (fun m _ _ m' hm => declareConstraint_inTheMaking hm)
      (TableMetadata.InTheMaking.of_columns (declareColumns_table hcolumns)) hmade
  have hdeclared : ∀ k ∈ keys, ∃ d, declareForeignKey b s.name made d = .ok k := by
    intro k hk
    obtain ⟨d, -, hd⟩ := exists_of_forall₂_right (mapM_eq_ok.mp hkeys) hk
    exact ⟨d, hd⟩
  refine ⟨{ hmaking.toFiledUnder with foreignKeys := ?_, hostColumns := ?_ }, ?_⟩
  · intro k hk
    obtain ⟨d, hd⟩ := hdeclared k hk
    exact (declareForeignKey_eq_ok hd).1
  · intro k hk
    obtain ⟨d, hd⟩ := hdeclared k hk
    exact (declareForeignKey_eq_ok hd).2.1
  · intro k hk
    obtain ⟨d, hd⟩ := hdeclared k hk
    obtain ⟨hhost, hhostColumns, hlength, hnonempty, m', hreferenced, hplace⟩ :=
      declareForeignKey_eq_ok hd
    rcases hplace with ⟨hself, rfl⟩ | ⟨e, he, hkey, rfl⟩
    · exact ⟨_, Or.inl rfl, hhost, hself, hhostColumns, hreferenced, hlength, hnonempty⟩
    · exact ⟨e, Or.inr he, hhost, hkey.symm, hhostColumns, hreferenced, hlength, hnonempty⟩

end SchemaCatalog
