import SchemaCatalog.Proofs.IndexPlaces
import SchemaCatalog.Proofs.Repetition

/-!
# The names of indexes

The name of an index is unique in a schema, so a new index may fail on an index of another table.
Which tables are asked is decided by the table that the index is on. Declared with a schema, it shares
the names of indexes with the tables of that schema, where a missing schema is the default one.
Declared without one it shares them with all tables, since the name that is looked for has no schema
then, and a name without a schema finds indexes anywhere. `Table.SharesIndexNames` is that relation.
It is not symmetric: `Builder.alias_fails_on_other_schema` is a table in the default schema that cannot
have an index because a table elsewhere has one of its name, though not the other way round.

`Builder.OwnsIndexNames` says what this comes to. A named index on columns of its table is refused
exactly when a table that shares the names with it has an index of the name, and is created otherwise;
and creating one index makes no difference to another one on a table that does not share the names.
-/

namespace SchemaCatalog

/-! ## 1. Taken names -/

/-- The table has an index or a unique index of the name. -/
def TableMetadata.HasIndex (m : TableMetadata) (name : String) : Prop :=
  (∃ i ∈ m.indices, i.name = some name) ∨ ∃ i ∈ m.uniqueIndices, i.name = some name

/-- Indexes of the table have to have other names than those of the other one: this one is in the
same schema, or the table was declared without a schema. -/
def Table.SharesIndexNames (t u : Table) : Prop :=
  t.schema = none ∨ u.key.denoted.1 = t.key.denoted.1

instance (m : TableMetadata) (name : String) : Decidable (m.HasIndex name) :=
  inferInstanceAs (Decidable (_ ∨ _))

instance (t u : Table) : Decidable (t.SharesIndexNames u) := inferInstanceAs (Decidable (_ ∨ _))

theorem TableMetadata.indexPlaces_eq_nil {m : TableMetadata} {name : String} :
    m.indexPlaces name = [] ↔ ¬ m.HasIndex name := by
  rw [indexPlaces, List.append_eq_nil_iff, List.map_eq_nil_iff, List.map_eq_nil_iff,
    List.filter_eq_nil_iff, List.filter_eq_nil_iff, HasIndex, not_or, not_exists, not_exists]
  simp

/-- An index of another name makes no difference. -/
theorem TableMetadata.hasIndex_addTo {m : TableMetadata} {s : CreateIndex} {name : String}
    (h : s.name ≠ some name) (table : TableKey) :
    (s.addTo table m).HasIndex name ↔ m.HasIndex name := by
  rw [CreateIndex.addTo]
  split <;> simp [HasIndex, or_and_right, exists_or, h]

theorem Table.sharesIndexNames_iff {t u : Table} {name : String} :
    t.SharesIndexNames u ↔ (⟨name, t.schema⟩ : ObjectName).admitsSchemaOf u = true := by
  rw [SharesIndexNames, ObjectName.admitsSchemaOf]
  cases hschema : t.schema with
  | none => simp
  | some schema =>
    simp only [inSchema_iff, reduceCtorEq, false_or, ObjectName.denoted, Table.key, hschema,
      Option.getD_some]

namespace Builder

variable {b c : Builder}

/-- A table that shares the names of indexes with the given one has an index of the name. -/
def IndexNameTaken (b : Builder) (t : Table) (name : String) : Prop :=
  ∃ u ∈ b.tables, t.SharesIndexNames u ∧ (b.view.metadataOf u.key).HasIndex name

instance (b : Builder) (t : Table) (name : String) : Decidable (b.IndexNameTaken t name) :=
  inferInstanceAs (Decidable (∃ u ∈ b.tables, _))

theorem indexNameTaken_iff {t : Table} {name : String} {places : List IndexPlace}
    (h : b.indexPlaces ⟨name, t.schema⟩ = .ok places) : b.IndexNameTaken t name ↔ places ≠ [] := by
  rw [indexPlaces_eq_flatMap] at h
  cases h
  rw [IndexNameTaken, Ne, List.flatMap_eq_nil_iff]
  simp only [List.mem_filter, TableMetadata.indexPlaces_eq_nil, ← Table.sharesIndexNames_iff]
  push Not
  exact exists_congr fun u => and_assoc.symm

end Builder

/-! ## 2. Creating an index -/

namespace CreateIndex

variable {b c : Builder} {s : CreateIndex} {t : Table} {name : String}

theorem takenName?_of_taken (hs : s.name = some name) (h : b.IndexNameTaken t name) :
    s.takenName? b t = .ok (some name) := by
  obtain ⟨places, hplaces⟩ := b.exists_indexPlaces_eq_ok ⟨name, t.schema⟩
  have hsome : places.isEmpty = false :=
    List.isEmpty_eq_false_iff.mpr ((Builder.indexNameTaken_iff hplaces).mp h)
  simp only [takenName?, hs, hplaces]
  exact congrArg (fun taken => Except.ok (if taken = true then none else some name)) hsome

/-- A name is free if there is none, or if no table that shares it has an index of it. -/
theorem takenName?_of_free (h : ∀ name, s.name = some name → ¬ b.IndexNameTaken t name) :
    s.takenName? b t = .ok none := by
  cases hs : s.name with
  | none => rw [takenName?, hs]
  | some name =>
    obtain ⟨places, hplaces⟩ := b.exists_indexPlaces_eq_ok ⟨name, t.schema⟩
    have hnone : places.isEmpty = true := List.isEmpty_iff.mpr
      (not_not.mp fun hsome => h name hs ((Builder.indexNameTaken_iff hplaces).mpr hsome))
    simp only [takenName?, hs, hplaces]
    exact congrArg (fun taken => Except.ok (if taken = true then none else some name)) hnone

/-- Where its name is taken an index is not created. -/
theorem apply_of_taken (ht : b.resolve? s.table = some t) (hs : s.name = some name)
    (h : b.IndexNameTaken t name) :
    s.apply b = if s.ifNotExists then .ok b else .error (.alreadyExists "index" name) := by
  simp only [apply, Builder.requireTable_eq_ok.mpr ht, ok_bind, takenName?_of_taken hs h]
  rfl

/-- Where its name is free an index is created, if its columns are found. -/
theorem apply_of_free (ht : b.resolve? s.table = some t)
    (h : ∀ name, s.name = some name → ¬ b.IndexNameTaken t name) :
    ∃ b', s.apply b = (s.items.forM fun item => do
        let _ ← resolveColumns (b.view.metadataOf t.key).columns t.qualifiedName item)
      >>= fun _ => .ok b' := by
  obtain ⟨e, he⟩ := Builder.exists_requireEntry_eq_ok ht
  obtain ⟨b', hb'⟩ : ∃ b', b.updateMetadata t.key (s.addTo t.key) = .ok b' := by
    rw [Builder.updateMetadata, Builder.updateEntry, Builder.requireEntry_eq_ok.mp he]
    exact ⟨_, rfl⟩
  have hmetadata : b.view.metadataOf t.key = e.metadata := by
    rw [Builder.metadataOf_eq, Builder.requireEntry_eq_ok.mp he]
    rfl
  refine ⟨b', ?_⟩
  simp only [apply, Builder.requireTable_eq_ok.mpr ht, ok_bind, takenName?_of_free h, he,
    hmetadata, hb']

/-- The statement creates an index of the name on the table, without condition, and its items refer
to columns of the table only. -/
structure Names (s : CreateIndex) (b : Builder) (t : Table) (name : String) : Prop where
  table : b.resolve? s.table = some t
  name : s.name = some name
  insists : s.ifNotExists = false
  columns : ∀ item ∈ s.items,
    item.tree.columnReferences ⊆ (b.view.metadataOf t.key).columnNames

instance (s : CreateIndex) (b : Builder) (t : Table) (name : String) :
    Decidable (s.Names b t name) :=
  decidable_of_iff (b.resolve? s.table = some t ∧ s.name = some name ∧ s.ifNotExists = false
      ∧ ∀ item ∈ s.items, item.tree.columnReferences ⊆ (b.view.metadataOf t.key).columnNames)
    ⟨fun ⟨table, name, insists, columns⟩ => ⟨table, name, insists, columns⟩,
      fun h => ⟨h.table, h.name, h.insists, h.columns⟩⟩

/-- Items that refer to columns of the table are found. -/
theorem Names.items_found (h : s.Names b t name) :
    (s.items.forM fun item => do
      let _ ← resolveColumns (b.view.metadataOf t.key).columns t.qualifiedName item) = .ok () := by
  refine forM_eq_ok.mpr fun item hitem => ?_
  obtain ⟨found, hfound⟩ : ∃ found,
      resolveColumns (b.view.metadataOf t.key).columns t.qualifiedName item = .ok found := by
    have hnone : (item.tree.columnReferences.find? fun name =>
        !((b.view.metadataOf t.key).columns.any (·.name == name)) && !isNiladic name) = none := by
      rw [List.find?_eq_none]
      intro name hname
      have hcolumn : ((b.view.metadataOf t.key).columns.any (·.name == name)) = true :=
        any_name_eq.mpr (h.columns item hitem hname)
      simp [hcolumn]
    rw [resolveColumns]
    simp only [hnone]
    exact ⟨_, rfl⟩
  rw [hfound]
  rfl

theorem Names.apply_of_taken (h : s.Names b t name) (htaken : b.IndexNameTaken t name) :
    s.apply b = .error (.alreadyExists "index" name) := by
  rw [CreateIndex.apply_of_taken h.table h.name htaken, h.insists]
  rfl

theorem Names.apply_of_free (h : s.Names b t name) (hfree : ¬ b.IndexNameTaken t name) :
    ∃ b', s.apply b = .ok b' := by
  have hnames (other : String) (hs : s.name = some other) : ¬ b.IndexNameTaken t other := by
    cases h.name.symm.trans hs
    exact hfree
  obtain ⟨b', hb'⟩ := CreateIndex.apply_of_free h.table hnames
  rw [h.items_found] at hb'
  exact ⟨b', hb'⟩

end CreateIndex

/-! ## 3. Creating two indexes -/

namespace CreateIndex

variable {b c : Builder} {s s' : CreateIndex} {t t' : Table} {name : String}

/-- How a statement fails is decided by the table that it names, by whether the name of the index is
taken there, and by the columns of the table. -/
theorem apply_eq_error_congr (htable : c.resolve? s.table = b.resolve? s.table)
    (htaken : ∀ t name, b.resolve? s.table = some t → s.name = some name →
      (c.IndexNameTaken t name ↔ b.IndexNameTaken t name))
    (hcolumns : ∀ key, (c.view.metadataOf key).columns = (b.view.metadataOf key).columns)
    (e : CatalogError) : s.apply c = .error e ↔ s.apply b = .error e := by
  cases ht : b.resolve? s.table with
  | none => simp only [apply, Builder.requireTable, htable, ht]; rfl
  | some t =>
    have ht' : c.resolve? s.table = some t := htable.trans ht
    by_cases hname : ∃ name, s.name = some name ∧ b.IndexNameTaken t name
    · obtain ⟨name, hs, hb⟩ := hname
      rw [apply_of_taken ht hs hb, apply_of_taken ht' hs ((htaken t name ht hs).mpr hb)]
      cases s.ifNotExists <;> simp
    · have hfree (name : String) (hs : s.name = some name) : ¬ b.IndexNameTaken t name :=
        fun hb => hname ⟨name, hs, hb⟩
      obtain ⟨b', hb'⟩ := apply_of_free ht hfree
      obtain ⟨c', hc'⟩ := apply_of_free ht' fun name hs hc =>
        hfree name hs ((htaken t name ht hs).mp hc)
      rw [hb', hc', hcolumns, bind_eq_error, bind_eq_error]
      simp only [reduceCtorEq, and_false, exists_false]

/-- After an index was created the tables are the same, and so is what is filed under each key, but
for the index itself under the key of its table. -/
theorem tables_of_apply (ht : b.resolve? s.table = some t) (h : s.apply b = .ok c) :
    c.tables = b.tables ∧ ∀ key, c.view.metadataOf key = b.view.metadataOf key
      ∨ t.key = key ∧ c.view.metadataOf key = s.addTo t.key (b.view.metadataOf key) := by
  rcases updateMetadata_of_apply h with rfl | ⟨u, hu, hupdate⟩
  · exact ⟨rfl, fun _ => Or.inl rfl⟩
  · cases ht.symm.trans hu
    refine ⟨?_, fun key => ?_⟩
    · rw [Builder.updateEntry_eq_ok hupdate]
      refine map_replaceFirst (g := TableEntry.table) (fun e _ => ?_) b.entries
      rfl
    · rw [Builder.metadataOf_updateMetadata hupdate]
      split
      · rename_i hkey
        exact Or.inr ⟨hkey, rfl⟩
      · exact Or.inl rfl

/-- The name of an index stays free, or taken, when an index was created on a table that does not
share its names, or an index of another name. -/
theorem indexNameTaken_of_apply (ht' : b.resolve? s'.table = some t') (h : s'.apply b = .ok c)
    (hapart : t.schema ≠ none ∧ t'.key.denoted.1 ≠ t.key.denoted.1 ∨ s'.name ≠ some name) :
    c.IndexNameTaken t name ↔ b.IndexNameTaken t name := by
  obtain ⟨htables, hmetadata⟩ := tables_of_apply ht' h
  rw [Builder.IndexNameTaken, Builder.IndexNameTaken, htables]
  refine exists_congr fun u => and_congr_right fun _ => and_congr_right fun hshares => ?_
  rcases hmetadata u.key with hsame | ⟨hkey, hadded⟩
  · rw [hsame]
  · rw [hadded]
    refine TableMetadata.hasIndex_addTo ?_ t'.key
    refine hapart.resolve_left fun ⟨hschema, hother⟩ => ?_
    exact hother (hkey ▸ hshares.resolve_left hschema)

/-- An index makes no difference to one on a table in another schema that was declared with it, nor
to one of another name. -/
theorem apply_eq_error_of_apply (ht : b.resolve? s.table = some t)
    (ht' : b.resolve? s'.table = some t') (h : s'.apply b = .ok c)
    (hapart : t.schema ≠ none ∧ t'.key.denoted.1 ≠ t.key.denoted.1 ∨ s'.name ≠ s.name)
    (e : CatalogError) : s.apply c = .error e ↔ s.apply b = .error e := by
  obtain ⟨htables, hmetadata⟩ := tables_of_apply ht' h
  refine apply_eq_error_congr (Builder.resolve?_of_tables htables s.table) ?_ (fun key => ?_) e
  · intro u name hu hname
    cases ht.symm.trans hu
    exact indexNameTaken_of_apply ht' h (hname ▸ hapart)
  · rcases hmetadata key with hsame | ⟨-, hadded⟩
    · rw [hsame]
    · rw [hadded, addTo]
      split <;> rfl

end CreateIndex

/-! ## 4. Any builder -/

namespace Builder

/-- Names of indexes are kept apart as the tables share them. A named index on columns of its table
is refused exactly when its name is taken, and created otherwise. One that was created makes no
difference to another one on a table in another schema that was declared with it, nor to one of
another name. -/
structure OwnsIndexNames (b : Builder) : Prop where
  refused_iff : ∀ (s : CreateIndex) t name, s.Names b t name →
    (s.apply b = .error (.alreadyExists "index" name) ↔ b.IndexNameTaken t name)
  created : ∀ (s : CreateIndex) t name, s.Names b t name → ¬ b.IndexNameTaken t name →
    ∃ b', s.apply b = .ok b'
  apart : ∀ (s s' : CreateIndex) t t' c, b.resolve? s.table = some t →
    b.resolve? s'.table = some t' → s'.apply b = .ok c →
      t.schema ≠ none ∧ t'.key.denoted.1 ≠ t.key.denoted.1 ∨ s'.name ≠ s.name →
        ∀ e, s.apply c = .error e ↔ s.apply b = .error e

/-- In any state, of a run or not, names of indexes are kept apart as the tables share them. -/
theorem ownsIndexNames (b : Builder) : b.OwnsIndexNames where
  refused_iff s t name h := by
    refine ⟨fun herror => ?_, h.apply_of_taken⟩
    by_contra hfree
    obtain ⟨b', hb'⟩ := h.apply_of_free hfree
    rw [hb'] at herror
    cases herror
  created _ _ _ h hfree := h.apply_of_free hfree
  apart _ _ _ _ _ ht ht' happly hapart e :=
    CreateIndex.apply_eq_error_of_apply ht ht' happly hapart e

/-- Of three tables in three schemas one has an index. A second one of the name is refused there,
and in the default schema, where there is none, but not in the third schema. -/
theorem ownsIndexNames_of_three_schemas :
    let onTable (schema : Option String) : CreateIndex :=
      { table := ⟨"t", schema⟩, items := [.ofColumn "x"], name := some "i" }
    let table (schema : Option String) : Statement :=
      .createTable { name := ⟨"t", schema⟩, columns := [{ name := "x", dataType := "int" }] }
    let b := (initial "shop").run
      [table (some "a"), table (some "b"), table none, .createIndex (onTable (some "a"))]
    (onTable (some "a")).apply b = .error (.alreadyExists "index" "i")
      ∧ (onTable none).apply b = .error (.alreadyExists "index" "i")
      ∧ ∃ b', (onTable (some "b")).apply b = .ok b' := by
  intro onTable table b
  have hnames : ∀ schema ∈ [some "a", some "b", none],
      (onTable schema).Names b { name := "t", schema } "i" := by decide +kernel
  have htaken : ∀ schema ∈ [some "a", none], b.IndexNameTaken { name := "t", schema } "i" := by
    decide +kernel
  have hfree : ¬ b.IndexNameTaken { name := "t", schema := some "b" } "i" := by decide +kernel
  exact ⟨((ownsIndexNames b).refused_iff _ _ _ (hnames _ (by simp))).mpr (htaken _ (by simp)),
    ((ownsIndexNames b).refused_iff _ _ _ (hnames _ (by simp))).mpr (htaken _ (by simp)),
    (ownsIndexNames b).created _ _ _ (hnames _ (by simp)) hfree⟩

/-- A table in the default schema that was declared without the schema is refused an index for one
of a table in another schema. -/
theorem alias_fails_on_other_schema :
    ¬ ∀ (name : String) (statements : List Statement), (∀ s ∈ statements, s.Parsed) →
      ∀ (s : CreateIndex) t index, s.Names ((initial name).run statements) t index →
        s.apply ((initial name).run statements) = .error (.alreadyExists "index" index) →
          ∃ u ∈ ((initial name).run statements).tables, u.key.denoted.1 = t.key.denoted.1
            ∧ (((initial name).run statements).view.metadataOf u.key).HasIndex index := by
  intro h
  let b := (initial "shop").run (Script.statements
    "CREATE TABLE a.t (x int); CREATE INDEX i ON a.t (x); CREATE TABLE t (x int)")
  let s : CreateIndex := { table := ⟨"t", none⟩, items := [.ofColumn "x"], name := some "i" }
  obtain ⟨hnames, htaken, hnone⟩ : s.Names b { name := "t" } "i"
      ∧ b.IndexNameTaken { name := "t" } "i"
      ∧ ¬ ∃ u ∈ b.tables, u.key.denoted.1 = defaultSchema
        ∧ (b.view.metadataOf u.key).HasIndex "i" := by
    decide +kernel
  exact hnone (h "shop" _ (fun _ => Statement.Parsed.of_text) s _ "i" hnames
    (hnames.apply_of_taken htaken))

end Builder

end SchemaCatalog
