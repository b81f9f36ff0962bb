import SchemaCatalog.Proofs.Success

/-!
# What belongs to a table

Columns, indexes, checks and foreign keys carry the key of the table whose metadata they are in,
and triggers, policies and grants carry the keys of the tables that they are on. Nothing but these
values ties them together. `TableMetadata.FiledUnder` says that the parts of a table's metadata
carry its key and name columns that it has; `Builder.Closed` adds that whatever is on a table is
on one of the builder, and names columns of it.

What is on a table asks no more of it than its key and the names of its columns, its `outline`. So
a change that keeps every outline keeps whatever is on the tables in its place.
-/

namespace SchemaCatalog

/-! ## 1. Metadata -/

/-- The parts of the metadata carry the key, and they name columns of the table. -/
structure TableMetadata.FiledUnder (m : TableMetadata) (key : TableKey) : Prop where
  columns : ∀ c ∈ m.columns, c.table = key
  indices : ∀ i ∈ m.indices, i.table = key
  uniqueIndices : ∀ i ∈ m.uniqueIndices, i.table = key
  foreignKeys : ∀ k ∈ m.foreignKeys, k.host = key
  checks : ∀ k ∈ m.checks, k.table = key
  primaryKey : m.primaryKey ⊆ m.columnNames
  hostColumns : ∀ k ∈ m.foreignKeys, k.hostColumns ⊆ m.columnNames
  checkColumns : ∀ k ∈ m.checks, k.columnNames ⊆ m.columnNames

namespace TableMetadata

variable {m : TableMetadata} {key : TableKey}

/-- An index on the table may be added. -/
theorem FiledUnder.addTo (h : m.FiledUnder key) (s : CreateIndex) :
    (s.addTo key m).FiledUnder key := by
  rw [CreateIndex.addTo]
  split
  · refine { h with uniqueIndices := ?_ }
    intro i hi
    rcases List.mem_append.mp hi with hold | hnew
    · exact h.uniqueIndices i hold
    · rw [List.mem_singleton.mp hnew]
  · refine { h with indices := ?_ }
    intro i hi
    rcases List.mem_append.mp hi with hold | hnew
    · exact h.indices i hold
    · rw [List.mem_singleton.mp hnew]

/-- An index may be taken away. -/
theorem FiledUnder.eraseIndex (h : m.FiledUnder key) (name : String) (unique : Bool) :
    (m.eraseIndex name unique).FiledUnder key := by
  rw [TableMetadata.eraseIndex]
  split
  · exact { h with uniqueIndices := fun i hi => h.uniqueIndices i (List.mem_of_mem_eraseP hi) }
  · exact { h with indices := fun i hi => h.indices i (List.mem_of_mem_eraseP hi) }

@[simp] theorem columnNames_addTo (s : CreateIndex) :
    (s.addTo key m).columnNames = m.columnNames := by
  rw [CreateIndex.addTo]; split <;> rfl

@[simp] theorem foreignKeys_addTo (s : CreateIndex) :
    (s.addTo key m).foreignKeys = m.foreignKeys := by
  rw [CreateIndex.addTo]; split <;> rfl

@[simp] theorem columnNames_eraseIndex (name : String) (unique : Bool) :
    (m.eraseIndex name unique).columnNames = m.columnNames := by
  rw [eraseIndex]; split <;> rfl

@[simp] theorem foreignKeys_eraseIndex (name : String) (unique : Bool) :
    (m.eraseIndex name unique).foreignKeys = m.foreignKeys := by
  rw [eraseIndex]; split <;> rfl

end TableMetadata

/-- What an entry shows to the rest of a catalog: its key and the names of its columns. -/
def TableEntry.outline (e : TableEntry) : TableKey × List String := (e.key, e.metadata.columnNames)

/-! ## 2. Builders -/

namespace Builder

variable {b b' : Builder}

/-- A table of the builder is filed under the key and has columns of the names. -/
def HasColumns (b : Builder) (key : TableKey) (names : List String) : Prop :=
  ∃ e ∈ b.entries, e.key = key ∧ names ⊆ e.metadata.columnNames

/-- The tables that a grant on tables names are of the builder, and have the columns that it is
limited to. -/
def Supports (b : Builder) (g : Grant) : Prop :=
  g.objects.kind = GrantObjectKind.tables →
    ∀ n ∈ g.objects.names, b.HasColumns n (g.privileges.flatMap (·.columns))

/-- What carries the key of a table is in its metadata or on a table of the builder, and names
columns of it. -/
structure Closed (b : Builder) : Prop where
  entries : ∀ e ∈ b.entries, e.metadata.FiledUnder e.key
  triggers : ∀ t ∈ b.triggers, b.HasColumns t.table t.updateColumns
  policies : ∀ p ∈ b.policies, b.HasColumns p.table []
  grants : ∀ g ∈ b.grants, b.Supports g

/-- Every grant on tables names one. -/
def NoVoidGrants (b : Builder) : Prop := ∀ g ∈ b.grants, g.isVoid = false

/-- Only the outlines of the tables decide which columns there are. -/
theorem HasColumns.of_outlines {key : TableKey} {names : List String} (h : b.HasColumns key names)
    (hsub : b.entries.map (·.outline) ⊆ b'.entries.map (·.outline)) : b'.HasColumns key names := by
  obtain ⟨e, he, rfl, hnames⟩ := h
  obtain ⟨e', he', heq⟩ := List.mem_map.mp (hsub (List.mem_map_of_mem he))
  obtain ⟨hkey, hcolumns⟩ := Prod.mk.inj heq
  exact ⟨e', he', hkey, hcolumns ▸ hnames⟩

theorem Supports.of_outlines {g : Grant} (h : b.Supports g)
    (hsub : b.entries.map (·.outline) ⊆ b'.entries.map (·.outline)) : b'.Supports g :=
  fun hkind n hn => (h hkind n hn).of_outlines hsub

/-- A lookup that finds an entry with the columns shows that they are there. -/
theorem HasColumns.of_entry {key : TableKey} {e : TableEntry} {names : List String}
    (he : b.entry? key = some e) (hnames : names ⊆ e.metadata.columnNames) :
    b.HasColumns key names := by
  obtain ⟨hmem, hkey⟩ := entry?_eq_some he
  exact ⟨e, hmem, hkey, hnames⟩

/-- A name that is resolved gives the key of a table. -/
theorem HasColumns.of_resolve {n : ObjectName} {t : Table} (h : b.resolve? n = some t) :
    b.HasColumns t.key [] := by
  obtain ⟨e, he, rfl, -⟩ := resolve?_eq_some h
  exact ⟨e, he, rfl, List.nil_subset _⟩

/-- Where no outline goes, what is on the tables stays where it is. -/
theorem Closed.of_outlines (hb : b.Closed)
    (hsub : b.entries.map (·.outline) ⊆ b'.entries.map (·.outline))
    (hentries : ∀ e ∈ b'.entries, e.metadata.FiledUnder e.key)
    (htriggers : b'.triggers = b.triggers) (hpolicies : b'.policies = b.policies)
    (hgrants : b'.grants = b.grants) : b'.Closed where
  entries := hentries
  triggers t ht := (hb.triggers t (htriggers ▸ ht)).of_outlines hsub
  policies p hp := (hb.policies p (hpolicies ▸ hp)).of_outlines hsub
  grants g hg := (hb.grants g (hgrants ▸ hg)).of_outlines hsub

/-- The keys are the same where the outlines are. -/
theorem map_key_of_outlines {es es' : List TableEntry}
    (h : es'.map (·.outline) = es.map (·.outline)) : es'.map (·.key) = es.map (·.key) := by
  have hfst := congrArg (List.map Prod.fst) h
  rwa [List.map_map, List.map_map] at hfst

theorem distinctTables_iff :
    b.DistinctTables ↔ ((b.entries.map (·.key)).map ObjectName.denoted).Nodup := by
  rw [List.map_map]; rfl

/-- Where no key changes, the tables stay distinct. -/
theorem DistinctTables.of_keys (hb : b.DistinctTables)
    (h : b'.entries.map (·.key) = b.entries.map (·.key)) : b'.DistinctTables := by
  rw [distinctTables_iff] at hb ⊢
  rwa [h]

end Builder

end SchemaCatalog
