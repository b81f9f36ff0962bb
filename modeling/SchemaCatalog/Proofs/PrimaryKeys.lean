import SchemaCatalog.Proofs.IndexPlaces

/-!
# Primary keys and their indexes

A primary key is held twice: by name, as the columns of the key, and by the unique index that is
marked as that of the key. Both are made by one constraint of the statement that creates the table,
and `TableMetadata.KeyIndexed` says that they agree. Nothing parts them later. An index that is added
is not marked, an index that is marked is not dropped, and a renaming leaves columns and expressions
as they are, so what `TableEntry.keyPart` shows of a table stays until the table goes:
`Statement.keepsKeys`.

What they do not agree on is a key over no columns. That a table has a key is read off the columns,
so such a key is taken for none, its index all the same being there; and a second key is not noticed.
`Builder.states_keysIndexed_iff` says that this is the only way to a table whose key and index
disagree.

Dropping an index is the one place where an order matters. Indexes are found first and dropped one by
one, each as the first of its name that its table still has, and it is the places found, not the
indexes, that say which one is that of a key. `Builder.Heeds` is the invariant that they say it of
the right index, for tables that share a key as well.
-/

namespace SchemaCatalog

/-! ## 1. The key of a table -/

namespace TableMetadata

/-- The unique indexes of the primary key. -/
def keyIndexes (m : TableMetadata) : List UniqueIndex := m.uniqueIndices.filter (·.primaryKey)

/-- What the indexes of the primary key are over. -/
def keyExpressions (m : TableMetadata) : List (List Expression) := m.keyIndexes.map (·.expressions)

/-- The primary key and its index are in step: there is no more than one such index, there is one if
the key has columns, and it is over these columns in their order. -/
structure KeyIndexed (m : TableMetadata) : Prop where
  atMostOne : m.keyIndexes.length ≤ 1
  indexed_iff : m.keyIndexes ≠ [] ↔ m.primaryKey ≠ []
  expressions : ∀ i ∈ m.keyIndexes, i.expressions = m.primaryKey.map Expression.ofColumn

/-- What the indexes of a primary key of the given columns are to be over: there is one over the
columns, unless there are none. -/
def keyDue (columns : List String) : List (List Expression) :=
  if columns = [] then [] else [columns.map Expression.ofColumn]

variable {m m' : TableMetadata}

/-- The three clauses in one equation. -/
theorem keyIndexed_iff : m.KeyIndexed ↔ m.keyExpressions = keyDue m.primaryKey := by
  constructor
  · intro h
    rw [keyExpressions, keyDue]
    cases hkey : m.keyIndexes with
    | nil => rw [if_pos (not_imp_not.mp h.indexed_iff.mpr hkey), List.map_nil]
    | cons i rest =>
      have hone := h.atMostOne
      rw [hkey, List.length_cons] at hone
      have hrest : rest = [] := List.length_eq_zero_iff.mp (by omega)
      have hsome : m.primaryKey ≠ [] := h.indexed_iff.mp (hkey ▸ List.cons_ne_nil i rest)
      rw [if_neg hsome, hrest, List.map_singleton,
        h.expressions i (hkey ▸ List.mem_cons_self)]
  · intro h
    have hlength := congrArg List.length h
    rw [keyExpressions, List.length_map, keyDue] at hlength
    refine { atMostOne := ?_, indexed_iff := ?_, expressions := fun i hi => ?_ }
    · rw [hlength]
      split <;> simp
    · rw [← List.length_pos_iff, hlength]
      split <;> rename_i hnil <;> simp [hnil]
    · have hmem : i.expressions ∈ keyDue m.primaryKey := h ▸ List.mem_map_of_mem hi
      rw [keyDue] at hmem
      split at hmem
      · cases hmem
      · exact List.mem_singleton.mp hmem

/-- Apart from indexes over nothing, the primary key and its index are in step. -/
def KeyDeclared (m : TableMetadata) : Prop :=
  m.keyExpressions.filter (!·.isEmpty) = keyDue m.primaryKey

theorem nil_not_mem_keyDue (columns : List String) : [] ∉ keyDue columns := by
  rw [keyDue]
  split
  · exact List.not_mem_nil
  · rename_i hsome
    rw [List.mem_singleton, eq_comm, List.map_eq_nil_iff]
    exact hsome

/-- A key is out of step with its index only if it has one over nothing. -/
theorem KeyDeclared.keyIndexed_iff (h : m.KeyDeclared) : m.KeyIndexed ↔ [] ∉ m.keyExpressions := by
  rw [TableMetadata.keyIndexed_iff]
  constructor
  · intro heq
    rw [heq]
    exact nil_not_mem_keyDue m.primaryKey
  · intro hnone
    rw [← h, eq_comm, List.filter_eq_self]
    intro es hes
    rw [Bool.not_eq_true', List.isEmpty_eq_false_iff]
    rintro rfl
    exact hnone hes

end TableMetadata

/-- What an entry shows of its primary key: the name of the table, the columns of the key, and the
indexes of the key wherever these say that they are filed. -/
def TableEntry.keyPart (e : TableEntry) :
    String × List String × List (List Expression × Option String × Bool) :=
  (e.table.name, e.metadata.primaryKey,
    e.metadata.keyIndexes.map fun i => (i.expressions, i.name, i.nullsDistinct))

/-- Where two entries show the same, their keys have the same columns and indexes over the same. -/
theorem TableEntry.keys_of_keyPart {e e' : TableEntry} (h : e.keyPart = e'.keyPart) :
    e.metadata.primaryKey = e'.metadata.primaryKey
      ∧ e.metadata.keyExpressions = e'.metadata.keyExpressions := by
  obtain ⟨-, h⟩ := Prod.mk.inj h
  obtain ⟨hcolumns, hindexes⟩ := Prod.mk.inj h
  refine ⟨hcolumns, ?_⟩
  have hfirst := congrArg (List.map Prod.fst) hindexes
  rwa [List.map_map, List.map_map] at hfirst

/-! ## 2. New tables -/

section Declaring

variable {b : Builder} {table : ObjectName} {m m' : TableMetadata} {d : ConstraintDefinition}

/-- A primary key is declared where there is none with columns, with an index over its columns. -/
theorem declareConstraint_primaryKey {columns : List String} {name : Option String}
    (h : declareConstraint b table m (.primaryKey columns name) = .ok m') :
    m.primaryKey = [] ∧ m'.primaryKey = columns
      ∧ m'.keyExpressions = m.keyExpressions ++ [columns.map Expression.ofColumn] := by
  simp only [declareConstraint] at h
  split at h
  · rename_i hnone
    obtain ⟨_, -, h⟩ := bind_eq_ok.mp h
    rw [pure_eq_ok] at h
    subst h
    refine ⟨List.isEmpty_iff.mp hnone, rfl, ?_⟩
    simp [TableMetadata.keyExpressions, TableMetadata.keyIndexes, UniqueIndex.ofColumns]
  · exact absurd h (by simp [throw, throwThe, MonadExceptOf.throw, bind, Except.bind])

/-- Any other constraint leaves the key and its indexes as they are. -/
theorem declareConstraint_other (hd : ∀ columns name, d ≠ .primaryKey columns name)
    (h : declareConstraint b table m d = .ok m') :
    m'.primaryKey = m.primaryKey ∧ m'.keyExpressions = m.keyExpressions := by
  cases d with
  | primaryKey columns name => exact absurd rfl (hd columns name)
  | unique columns name nullsDistinct =>
    simp only [declareConstraint] at h
    obtain ⟨_, -, h⟩ := bind_eq_ok.mp h
    rw [pure_eq_ok] at h
    subst h
    simp [TableMetadata.keyExpressions, TableMetadata.keyIndexes, UniqueIndex.ofColumns]
  | check expression name =>
    simp only [declareConstraint] at h
    obtain ⟨_, -, h⟩ := bind_eq_ok.mp h
    rw [pure_eq_ok] at h
    subst h
    exact ⟨rfl, rfl⟩
  | foreignKey d =>
    simp only [declareConstraint, pure_eq_ok] at h
    subst h
    exact ⟨rfl, rfl⟩

theorem declareConstraint_keyDeclared (hm : m.KeyDeclared)
    (h : declareConstraint b table m d = .ok m') : m'.KeyDeclared := by
  rw [TableMetadata.KeyDeclared, TableMetadata.keyDue] at hm ⊢
  by_cases hd : ∃ columns name, d = .primaryKey columns name
  · obtain ⟨columns, name, rfl⟩ := hd
    obtain ⟨hnone, hcolumns, hexpressions⟩ := declareConstraint_primaryKey h
    rw [if_pos hnone] at hm
    rw [hcolumns, hexpressions, List.filter_append, hm, List.nil_append, List.filter_singleton]
    cases columns <;> rfl
  · obtain ⟨hcolumns, hexpressions⟩ :=
      declareConstraint_other (fun columns name heq => hd ⟨columns, name, heq⟩) h
    rwa [hcolumns, hexpressions]

/-- An index over nothing comes from a primary key over nothing. -/
theorem declareConstraint_nil_mem (h : declareConstraint b table m d = .ok m') :
    [] ∈ m'.keyExpressions
      ↔ [] ∈ m.keyExpressions ∨ ∃ name, ConstraintDefinition.primaryKey [] name = d := by
  by_cases hd : ∃ columns name, d = .primaryKey columns name
  · obtain ⟨columns, name, rfl⟩ := hd
    obtain ⟨-, -, hexpressions⟩ := declareConstraint_primaryKey h
    rw [hexpressions, List.mem_append, List.mem_singleton]
    simp [eq_comm]
  · obtain ⟨-, hexpressions⟩ :=
      declareConstraint_other (fun columns name heq => hd ⟨columns, name, heq⟩) h
    rw [hexpressions, or_iff_left]
    rintro ⟨name, rfl⟩
    exact hd ⟨[], name, rfl⟩

theorem declareConstraints_nil_mem {ds : List ConstraintDefinition}
    (h : ds.foldlM (declareConstraint b table) m = .ok m') :
    [] ∈ m'.keyExpressions
      ↔ [] ∈ m.keyExpressions ∨ ∃ name, ConstraintDefinition.primaryKey [] name ∈ ds := by
  induction ds generalizing m with
  | nil =>
    rw [List.foldlM_nil, pure_eq_ok] at h
    subst h
    simp
  | cons d ds ih =>
    rw [List.foldlM_cons] at h
    obtain ⟨made, hmade, hrest⟩ := bind_eq_ok.mp h
    rw [ih hrest, declareConstraint_nil_mem hmade, or_assoc]
    simp only [List.mem_cons, exists_or]

/-- The primary key of a new table is in step with its index, unless it is over nothing. -/
theorem CreateTable.metadata_keys {s : CreateTable} (h : s.metadata b = .ok m) :
    m.KeyDeclared ∧ ([] ∈ m.keyExpressions
      ↔ ∃ name, ConstraintDefinition.primaryKey [] name ∈ s.allConstraints) := by
  simp only [CreateTable.metadata] at h
  obtain ⟨columns, -, h⟩ := bind_eq_ok.mp h
  obtain ⟨made, hmade, h⟩ := bind_eq_ok.mp h
  obtain ⟨keys, -, h⟩ := bind_eq_ok.mp h
  rw [pure_eq_ok] at h
  subst h
  have hdeclared : made.KeyDeclared :=
    foldlM_invariant (P := TableMetadata.KeyDeclared)
      (fun m _ _ m' hm => declareConstraint_keyDeclared hm) (by exact rfl) hmade
  refine ⟨hdeclared, (declareConstraints_nil_mem hmade).trans ?_⟩
  exact or_iff_right List.not_mem_nil

end Declaring

/-! ## 3. Dropping indexes -/

namespace TableMetadata

/-- Which of the unique indexes of a name are of the primary key, in order. -/
def keyFlags (m : TableMetadata) (name : String) : List Bool :=
  (m.uniqueIndices.filter (·.name == some name)).map (·.primaryKey)

variable {m : TableMetadata} {name : String}

theorem keyFlags_eraseIndex (m : TableMetadata) (name : String) (unique : Bool) :
    (m.eraseIndex name unique).keyFlags name
      = if unique then (m.keyFlags name).tail else m.keyFlags name := by
  cases unique with
  | true =>
    simp only [eraseIndex, keyFlags, if_true]
    rw [filter_eraseP, List.map_tail]
  | false => rfl

/-- An index that is not of the key is dropped without a change of those that are. -/
theorem keyIndexes_eraseIndex {unique : Bool}
    (h : unique = true → ∀ flag ∈ (m.keyFlags name).head?, flag = false) :
    (m.eraseIndex name unique).keyIndexes = m.keyIndexes := by
  cases unique with
  | false => rfl
  | true =>
    refine filter_eraseP_of_find? fun i hi => ?_
    refine h rfl i.primaryKey ?_
    rw [keyFlags, List.head?_map, List.head?_filter, hi]
    rfl

end TableMetadata

/-- Which of the unique indexes of a table, by their places, are of its primary key. -/
def keyFlagsAt (key : TableKey) (places : List IndexPlace) : List Bool :=
  (places.filter fun p => p.unique && p.table == key).map (·.primaryKey)

theorem keyFlagsAt_append (key : TableKey) (places more : List IndexPlace) :
    keyFlagsAt key (places ++ more) = keyFlagsAt key places ++ keyFlagsAt key more := by
  rw [keyFlagsAt, List.filter_append, List.map_append]
  rfl

/-- The places of the indexes in the metadata of a table tell which are of its key. -/
theorem TableMetadata.FiledUnder.keyFlagsAt {m : TableMetadata} {key : TableKey}
    (h : m.FiledUnder key) (name : String) (other : TableKey) :
    SchemaCatalog.keyFlagsAt other (m.indexPlaces name)
      = if key = other then m.keyFlags name else [] := by
  rw [TableMetadata.indexPlaces, keyFlagsAt_append]
  have hindices : SchemaCatalog.keyFlagsAt other
      ((m.indices.filter (·.name == some name)).map fun i => ⟨i.table, false, false⟩) = [] := by
    rw [SchemaCatalog.keyFlagsAt, List.filter_map, List.map_map, List.map_eq_nil_iff,
      List.filter_eq_nil_iff]
    simp
  rw [hindices, List.nil_append, SchemaCatalog.keyFlagsAt, List.filter_map, List.map_map]
  split
  · rename_i heq
    rw [List.filter_eq_self.mpr]
    · rfl
    · intro i hi
      simp [h.uniqueIndices i (List.mem_of_mem_filter hi), heq]
  · rename_i hne
    rw [List.filter_eq_nil_iff.mpr, List.map_nil]
    intro i hi
    simp [h.uniqueIndices i (List.mem_of_mem_filter hi), hne]

namespace Builder

variable {b b' : Builder}

/-- Of each table that has places among those given, the unique indexes of the name that it still
has are told by the next of its places, in order, as being of its primary key or not. -/
def Heeds (b : Builder) (name : String) (places : List IndexPlace) : Prop :=
  ∀ key, keyFlagsAt key places = []
    ∨ (b.view.metadataOf key).keyFlags name <+: keyFlagsAt key places

/-- The places of the indexes of a name are heeded when they have been found. -/
theorem heeds_indexPlaces (hb : b.Closed) {n : ObjectName} {places : List IndexPlace}
    (h : b.indexPlaces n = .ok places) : b.Heeds n.name places := by
  obtain ⟨found, hfound, hplaces⟩ := bind_eq_ok.mp h
  rw [pure_eq_ok] at hplaces
  subst hplaces
  clear h
  intro key
  replace hfound := mapM_eq_ok.mp hfound
  generalize b.tables.filter n.admitsSchemaOf = ts at hfound
  induction hfound with
  | nil => exact Or.inl rfl
  | @cons t m ts ms htm _ ih =>
    rw [CatalogView.metadata] at htm
    split at htm <;> cases htm
    rename_i e he
    obtain ⟨hmem, hkey⟩ := entry?_eq_some he
    rw [List.flatMap_cons, keyFlagsAt_append, (hb.entries e hmem).keyFlagsAt n.name key]
    split
    · -- A table of the key: its own indexes come first.
      rename_i heq
      have hfirst : b.view.metadataOf key = e.metadata := by
        rw [← heq, hkey, CatalogView.metadataOf, he]
      rw [hfirst]
      exact Or.inr (List.prefix_append _ _)
    · rw [List.nil_append]
      exact ih

/-- What is heeded of the next place: it is that of an index of no key, if that is dropped. -/
theorem Heeds.next {name : String} {p : IndexPlace} {places : List IndexPlace}
    (hb : b.Heeds name (p :: places)) (hkey : p.primaryKey = false) (hunique : p.unique = true) :
    (b.view.metadataOf p.table).keyFlags name <+: false :: keyFlagsAt p.table places := by
  have hcons : keyFlagsAt p.table (p :: places) = false :: keyFlagsAt p.table places := by
    simp [keyFlagsAt, hkey, hunique]
  rcases hb p.table with hnone | hprefix
  · rw [hcons] at hnone
    cases hnone
  · rwa [hcons] at hprefix

/-- What is heeded is heeded without the next place, when its index was dropped. -/
theorem Heeds.dropIndex {n : ObjectName} {p : IndexPlace} {places : List IndexPlace}
    (hb : b.Heeds n.name (p :: places)) (h : b.dropIndex n p = .ok b') :
    b'.Heeds n.name places := by
  obtain ⟨hkey, hupdate⟩ := updateMetadata_of_dropIndex h
  intro key
  rw [metadataOf_updateMetadata hupdate]
  by_cases hhere : p.unique = true ∧ p.table = key
  · obtain ⟨hunique, rfl⟩ := hhere
    have hnext := hb.next hkey hunique
    rw [if_pos rfl, TableMetadata.keyFlags_eraseIndex, if_pos hunique]
    cases hflags : (b.view.metadataOf p.table).keyFlags n.name with
    | nil => exact Or.inr List.nil_prefix
    | cons flag flags =>
      rw [hflags] at hnext
      exact Or.inr (List.cons_prefix_cons.mp hnext).2
  · have hskip : keyFlagsAt key (p :: places) = keyFlagsAt key places := by
      rw [keyFlagsAt, List.filter_cons_of_neg (by simpa using hhere)]
      rfl
    have hsame : (if p.table = key then (b.view.metadataOf key).eraseIndex n.name p.unique
        else b.view.metadataOf key).keyFlags n.name = (b.view.metadataOf key).keyFlags n.name := by
      split
      · rename_i htable
        rw [TableMetadata.keyFlags_eraseIndex, if_neg fun hunique => hhere ⟨hunique, htable⟩]
      · rfl
    rw [hsame, ← hskip]
    exact hb key

/-- An index that is dropped where its place is heeded is not one of a primary key. -/
theorem Heeds.keyParts_dropIndex {n : ObjectName} {p : IndexPlace} {places : List IndexPlace}
    (hb : b.Heeds n.name (p :: places)) (h : b.dropIndex n p = .ok b') :
    b'.entries.map (·.keyPart) = b.entries.map (·.keyPart) := by
  obtain ⟨hkey, hupdate⟩ := updateMetadata_of_dropIndex h
  rw [updateEntry_eq_ok hupdate]
  refine map_replaceFirst_of_find? fun e he => ?_
  have hfound : b.view.metadataOf p.table = e.metadata := by
    rw [metadataOf_eq, show b.entry? p.table = some e from he]
    rfl
  have hkept : (e.metadata.eraseIndex n.name p.unique).keyIndexes = e.metadata.keyIndexes := by
    refine TableMetadata.keyIndexes_eraseIndex fun hunique flag hflag => ?_
    have hnext := hb.next hkey hunique
    rw [hfound] at hnext
    cases hflags : e.metadata.keyFlags n.name with
    | nil => rw [hflags] at hflag; cases hflag
    | cons first flags =>
      rw [hflags] at hnext hflag
      cases hflag
      exact (List.cons_prefix_cons.mp hnext).1
  have hcolumns : (e.metadata.eraseIndex n.name p.unique).primaryKey = e.metadata.primaryKey := by
    rw [TableMetadata.eraseIndex]
    split <;> rfl
  rw [TableEntry.keyPart, TableEntry.keyPart, hkept, hcolumns]

/-- Dropping indexes by their places leaves the keys of all tables, up to a failure as well. -/
theorem keyParts_each_dropIndex {n : ObjectName} {places : List IndexPlace}
    (hb : b.Heeds n.name places) :
    (Outcome.each (fun b p => .whole b (b.dropIndex n p)) b places).builder.entries.map
      (·.keyPart) = b.entries.map (·.keyPart) := by
  induction places generalizing b with
  | nil => rfl
  | cons p places ih =>
    rw [Outcome.each]
    cases hdrop : b.dropIndex n p with
    | ok b' => exact (ih (hb.dropIndex hdrop)).trans (hb.keyParts_dropIndex hdrop)
    | error e => rfl

theorem keyParts_dropIndices (hb : b.Closed) (ifExists : Bool) (n : ObjectName) :
    (b.dropIndices ifExists n).builder.entries.map (·.keyPart) = b.entries.map (·.keyPart) := by
  obtain ⟨places, hplaces⟩ := b.exists_indexPlaces_eq_ok n
  rw [dropIndices, hplaces]
  cases places with
  | nil =>
    dsimp only
    split <;> rfl
  | cons p places => exact keyParts_each_dropIndex (heeds_indexPlaces hb hplaces)

/-! ## 4. Other statements -/

theorem entries_removeTables {ts : List Table}
    (h : ts.foldlM (fun b t => b.removeTable t.key) b = .ok b') :
    b'.entries.Sublist b.entries := by
  refine removeTables_invariant (P := fun c => c.entries.Sublist b.entries) ?_ (.refl _) h
  intro c key c' hc hremoved
  rw [removeTable_eq_ok hremoved]
  exact List.eraseP_sublist.trans hc

theorem entries_dropSchema {ifExists cascade : Bool} {name : String}
    (h : b.dropSchema ifExists cascade name = .ok b') : b'.entries.Sublist b.entries := by
  rcases dropSchema_eq_ok h with rfl | ⟨c, hremoved, -, rfl⟩
  · exact .refl _
  · have hc : c.entries.Sublist b.entries := entries_removeTables hremoved
    exact hc

theorem keyParts_alterTable {s : AlterTable} (h : s.apply b = .ok b') :
    b'.entries.map (·.keyPart) = b.entries.map (·.keyPart) := by
  rcases AlterTable.apply_eq_ok h with rfl | ⟨t, rfl⟩
  · rfl
  · refine map_replaceFirst (fun e he => ?_) b.entries
    have hname : t.name = e.table.name := congrArg ObjectName.name (beq_iff_eq.mp he).symm
    rw [TableEntry.keyPart, TableEntry.keyPart, hname]

/-- An index that is added is not one of the primary key. -/
theorem keyParts_createIndex {s : CreateIndex} (h : s.apply b = .ok b') :
    b'.entries.map (·.keyPart) = b.entries.map (·.keyPart) := by
  rcases CreateIndex.apply_eq_ok h with rfl | ⟨t, -, rfl⟩
  · rfl
  · refine map_replaceFirst (fun e _ => ?_) b.entries
    rw [CreateIndex.addTo]
    split <;> simp [TableEntry.keyPart, TableMetadata.keyIndexes]

theorem keyParts_renameSchema (hb : b.Closed) {schema : Schema} {old new : String}
    (hold : b.schema? old = some schema) (h : b.renameSchema schema new = .ok b') :
    b'.entries.map (·.keyPart) = b.entries.map (·.keyPart) := by
  obtain ⟨-, rfl⟩ := renameSchema_eq_ok hb hold h
  change (b.entries.map (·.mapKeys (.movedTo (b.keysIn old) new))).map (·.keyPart) = _
  rw [List.map_map]
  refine List.map_congr_left fun e _ => ?_
  have hname : (ObjectName.movedTo (b.keysIn old) new e.key).name = e.table.name := by
    rw [ObjectName.movedTo]
    split <;> rfl
  have hindexes : (e.metadata.mapKeys (.movedTo (b.keysIn old) new)).keyIndexes
      = e.metadata.keyIndexes.map fun i =>
        { i with table := .movedTo (b.keysIn old) new i.table } := by
    rw [TableMetadata.keyIndexes, TableMetadata.mapKeys, List.filter_map]
    rfl
  rw [Function.comp_apply, TableEntry.keyPart, TableEntry.keyPart, TableEntry.mapKeys, hname,
    hindexes, List.map_map]
  rfl

end Builder

/-- The statement removes tables. -/
def Statement.dropsTables : Statement → Bool
  | dropTable _ | dropSchema _ => true
  | _ => false

open Builder in
/-- What removes tables changes no other one. -/
theorem Statement.entries_apply_of_dropsTables {s : Statement} (hs : s.dropsTables = true)
    (b : Builder) : (s.apply b).builder.entries.Sublist b.entries := by
  cases s with
  | dropTable s =>
    refine Outcome.whole_invariant (P := fun c => c.entries.Sublist b.entries) (.refl _)
      fun b' h => ?_
    obtain ⟨dropped, -, -, hremoved⟩ := DropTable.apply_eq_ok h
    exact entries_removeTables hremoved
  | dropSchema s =>
    refine Outcome.each_invariant (P := fun c => c.entries.Sublist b.entries)
      (fun c name hc => ?_) s.names (.refl _)
    exact Outcome.whole_invariant (P := fun c => c.entries.Sublist b.entries) hc fun c' h =>
      (entries_dropSchema h).trans hc
  | _ => cases hs

/-- What creates a table adds it after the others, or it changes nothing. -/
theorem Statement.entries_apply_createTable (d : CreateTable) (b : Builder) :
    ((createTable d).apply b).builder = b
      ∨ ∃ m, b.resolve? d.name = none ∧ d.metadata b = .ok m
        ∧ ((createTable d).apply b).builder.entries = b.entries ++ [d.entry m] := by
  rw [Statement.apply]
  cases happly : d.apply b with
  | error e => exact Or.inl rfl
  | ok b' =>
    rcases CreateTable.apply_eq_ok happly with rfl | ⟨m, hfree, hm, rfl⟩
    · exact Or.inl rfl
    · exact Or.inr ⟨m, hfree, hm, rfl⟩

/-- The statement may change tables, or what is filed under them. -/
def Statement.changesEntries : Statement → Bool
  | createTable _ | dropTable _ | alterTable _ | createIndex _ | dropIndex _ | alterSchema _
  | dropSchema _ => true
  | _ => false

open Builder in
/-- Any other statement leaves the tables, whether it fails or not. -/
theorem Statement.entries_apply {s : Statement} (hs : s.changesEntries = false) (b : Builder) :
    (s.apply b).builder.entries = b.entries := by
  have hwhole {b : Builder} {r : Except CatalogError Builder}
      (h : ∀ b', r = .ok b' → b'.entries = b.entries) :
      (Outcome.whole b r).builder.entries = b.entries :=
    Outcome.whole_invariant (P := fun c => c.entries = b.entries) rfl h
  have heach {α : Type} {step : Builder → α → Outcome}
      (h : ∀ c a, (step c a).builder.entries = c.entries) (as : List α) :
      (Outcome.each step b as).builder.entries = b.entries :=
    Outcome.each_invariant (P := fun c => c.entries = b.entries)
      (fun c a hc => (h c a).trans hc) as rfl
  cases s with
  | createFunction s => exact hwhole fun _ h => (sameOwned_of_createFunction h).entries
  | dropFunction s =>
    exact heach (fun _ _ => hwhole fun _ h => (sameOwned_of_dropFunctions h).entries) s.targets
  | createTrigger s =>
    refine hwhole fun b' h => ?_
    obtain ⟨t, f, e, -, -, -, -, rfl | rfl⟩ := CreateTrigger.apply_eq_ok h <;> rfl
  | dropTrigger s =>
    refine hwhole fun b' h => ?_
    rcases DropTrigger.apply_eq_ok h with rfl | ⟨p, rfl⟩ <;> rfl
  | createPolicy s =>
    refine hwhole fun b' h => ?_
    obtain ⟨t, p, -, -, -, -, rfl⟩ := CreatePolicy.apply_eq_ok h
    rfl
  | dropPolicy s =>
    refine hwhole fun b' h => ?_
    rcases DropPolicy.apply_eq_ok h with rfl | ⟨p, rfl⟩ <;> rfl
  | createRole s => exact hwhole fun _ h => (onlyRoles_of_createRole h).sameRoutines.entries
  | dropRole s =>
    exact heach (fun _ _ => hwhole fun _ h => (onlyRoles_of_dropRole h).sameRoutines.entries)
      s.names
  | grantPrivileges s =>
    refine hwhole fun b' h => ?_
    obtain ⟨_, _, -, -, rfl⟩ := GrantPrivileges.apply_eq_ok h
    rfl
  | revokePrivileges s =>
    refine hwhole fun b' h => ?_
    obtain ⟨_, rfl⟩ := RevokePrivileges.apply_eq_ok h
    rfl
  | grantRole s =>
    rw [Statement.apply, GrantRole.apply]
    split
    · rfl
    · exact heach (fun _ _ => hwhole fun _ h => (onlyRoles_of_grantTo h).sameRoutines.entries)
        s.grantees
  | revokeRole s => exact (onlyRoles_revokeRole s b).sameRoutines.entries
  | createSchema s => exact hwhole fun _ h => (sameRoutines_of_createSchema h).entries
  | setTimeZone value => rfl
  | commentOn _ => rfl
  | other kind sql =>
    rw [Statement.apply]
    split <;> rfl
  | _ => cases hs

open Builder in
/-- What neither creates nor removes tables leaves their keys, whether it fails or not. -/
theorem Statement.keyParts_apply {s : Statement} {b : Builder} (hb : b.Closed)
    (hcreate : ∀ d, s ≠ .createTable d) (hdrop : s.dropsTables = false) :
    (s.apply b).builder.entries.map (·.keyPart) = b.entries.map (·.keyPart) := by
  by_cases hs : s.changesEntries = true
  · have hwhole {r : Except CatalogError Builder}
        (h : ∀ b', r = .ok b' → b'.entries.map (·.keyPart) = b.entries.map (·.keyPart)) :
        (Outcome.whole b r).builder.entries.map (·.keyPart) = b.entries.map (·.keyPart) :=
      Outcome.whole_invariant
        (P := fun c => c.entries.map (·.keyPart) = b.entries.map (·.keyPart)) rfl h
    cases s with
    | createTable d => exact absurd rfl (hcreate d)
    | dropTable s => cases hdrop
    | dropSchema s => cases hdrop
    | alterTable s => exact hwhole fun _ => keyParts_alterTable
    | createIndex s => exact hwhole fun _ => keyParts_createIndex
    | dropIndex s =>
      refine (Outcome.each_invariant
        (P := fun c => c.Closed ∧ c.entries.map (·.keyPart) = b.entries.map (·.keyPart))
        (fun c n hc => ⟨?_, ?_⟩) s.names ⟨hb, rfl⟩).2
      · exact dropIndices_invariant (fun _ _ _ hc h =>
          (Effect.of_dropIndex (s := .dropIndex s) h).closed hc) s.ifExists hc.1
      · exact (keyParts_dropIndices hc.1 s.ifExists n).trans hc.2
    | alterSchema s =>
      refine hwhole fun b' h => ?_
      rcases AlterSchema.apply_eq_ok h with hsame | ⟨schema, new, -, hschema, hrename⟩
      · rw [hsame.entries]
      · exact keyParts_renameSchema hb hschema hrename
    | _ => cases hs
  · rw [entries_apply (Bool.not_eq_true _ ▸ hs)]

/-! ## 5. Runs -/

/-- The statement removes tables and changes no other one, or it leaves the keys of all tables and
adds a table at most. -/
def Statement.KeepsKeys (b : Builder) (s : Statement) : Prop :=
  if s.dropsTables then (s.apply b).builder.entries.Sublist b.entries
  else b.entries.map (·.keyPart) <+: (s.apply b).builder.entries.map (·.keyPart)

theorem Statement.keepsKeys (s : Statement) {b : Builder} (hb : b.Closed) : s.KeepsKeys b := by
  rw [KeepsKeys]
  split
  · rename_i hdrop
    exact entries_apply_of_dropsTables hdrop b
  · rename_i hdrop
    by_cases hcreate : ∃ d, s = .createTable d
    · obtain ⟨d, rfl⟩ := hcreate
      rcases entries_apply_createTable d b with hsame | ⟨m, -, -, hentries⟩
      · simp only [hsame, List.prefix_rfl]
      · rw [hentries, List.map_append]
        exact List.prefix_append _ _
    · exact keyParts_apply hb (not_exists.mp hcreate) (Bool.not_eq_true _ ▸ hdrop) ▸
        List.prefix_rfl

/-- The statement creates a table with a primary key over no columns. -/
def Statement.FilesEmptyKey (b : Builder) (s : Statement) : Prop :=
  ∃ d m, s = .createTable d ∧ b.resolve? d.name = none ∧ d.metadata b = .ok m
    ∧ ∃ name, ConstraintDefinition.primaryKey [] name ∈ d.allConstraints

namespace Builder

/-- The primary key of each table is in step with its index. -/
def KeysIndexed (b : Builder) : Prop := ∀ e ∈ b.entries, e.metadata.KeyIndexed

/-- Each table has its primary key and its index from its declaration. -/
def KeysDeclared (b : Builder) : Prop := ∀ e ∈ b.entries, e.metadata.KeyDeclared

end Builder

/-- A property of the key and the indexes of a table that holds of every table after a statement, if
it held of every table before and holds of the one that is created. -/
theorem Statement.forall_apply_keys {P : List String → List (List Expression) → Prop}
    {s : Statement} {b : Builder} (hb : b.Closed)
    (hold : ∀ e ∈ b.entries, P e.metadata.primaryKey e.metadata.keyExpressions)
    (hnew : ∀ d m, s = .createTable d → b.resolve? d.name = none → d.metadata b = .ok m →
      P m.primaryKey m.keyExpressions) :
    ∀ e ∈ (s.apply b).builder.entries, P e.metadata.primaryKey e.metadata.keyExpressions := by
  intro e he
  by_cases hdrop : s.dropsTables = true
  · exact hold e ((entries_apply_of_dropsTables hdrop b).subset he)
  by_cases hcreate : ∃ d, s = .createTable d
  · obtain ⟨d, rfl⟩ := hcreate
    rcases entries_apply_createTable d b with hsame | ⟨m, hfree, hm, hentries⟩
    · exact hold e (hsame ▸ he)
    · rw [hentries] at he
      rcases List.mem_append.mp he with hmem | hlast
      · exact hold e hmem
      · rw [List.mem_singleton.mp hlast]
        exact hnew d m rfl hfree hm
  · have hkeys := keyParts_apply hb (not_exists.mp hcreate) (Bool.not_eq_true _ ▸ hdrop)
    have hmem : e.keyPart ∈ b.entries.map (·.keyPart) := hkeys ▸ List.mem_map_of_mem he
    obtain ⟨e₀, he₀, hpart⟩ := List.mem_map.mp hmem
    obtain ⟨hcolumns, hexpressions⟩ := TableEntry.keys_of_keyPart hpart
    exact hcolumns ▸ hexpressions ▸ hold e₀ he₀

/-- The keys of all tables stay as they were declared. -/
theorem Statement.apply_keysDeclared {s : Statement} {b : Builder} (hb : b.Closed)
    (hkeys : b.KeysDeclared) : (s.apply b).builder.KeysDeclared :=
  forall_apply_keys
    (P := fun columns expressions =>
      expressions.filter (!·.isEmpty) = TableMetadata.keyDue columns)
    hb hkeys fun _ _ _ _ hm => (CreateTable.metadata_keys hm).1

/-- A statement leaves the keys of all tables in step with their indexes exactly when it creates no
table with a key over no columns. -/
theorem Statement.apply_keysIndexed_iff {s : Statement} {b : Builder} (hb : b.Closed)
    (hkeys : b.KeysIndexed) : (s.apply b).builder.KeysIndexed ↔ ¬ s.FilesEmptyKey b := by
  constructor
  · rintro hafter ⟨d, m, rfl, hfree, hm, hempty⟩
    obtain ⟨hdeclared, hnil⟩ := CreateTable.metadata_keys hm
    have hentry : d.entry m ∈ ((createTable d).apply b).builder.entries := by
      rw [Statement.apply, CreateTable.apply_of_metadata hfree hm]
      exact List.mem_append_right _ (List.mem_singleton_self _)
    exact hdeclared.keyIndexed_iff.mp (hafter _ hentry) (hnil.mpr hempty)
  · intro hfree e he
    rw [TableMetadata.keyIndexed_iff]
    refine forall_apply_keys
      (P := fun columns expressions => expressions = TableMetadata.keyDue columns)
      hb (fun e he => TableMetadata.keyIndexed_iff.mp (hkeys e he)) ?_ e he
    intro d m hs hnone hm
    obtain ⟨hdeclared, hnil⟩ := CreateTable.metadata_keys hm
    refine TableMetadata.keyIndexed_iff.mp (hdeclared.keyIndexed_iff.mpr fun hmem => ?_)
    exact hfree ⟨d, m, hs, hnone, hm, hnil.mp hmem⟩

namespace Builder

theorem initial_keysDeclared (name : String) : (initial name).KeysDeclared :=
  fun _ he => absurd he List.not_mem_nil

theorem initial_keysIndexed (name : String) : (initial name).KeysIndexed :=
  fun _ he => absurd he List.not_mem_nil

/-- In the states of a run the primary keys of all tables are in step with their unique indexes
exactly when no statement of the run creates a table with a key over no columns. In any state a key is
out of step only with an index over nothing, and no statement takes a key or its index from a table
but by removing the table. -/
theorem states_keysIndexed_iff (name : String) (statements : List Statement) :
    ((∀ done, done <+: statements → ((initial name).run done).KeysIndexed)
        ↔ (initial name).Admits (fun b s => ¬ s.FilesEmptyKey b) statements)
      ∧ (∀ e ∈ ((initial name).run statements).entries,
          e.metadata.KeyIndexed ↔ [] ∉ e.metadata.keyExpressions)
      ∧ ∀ s : Statement, s.KeepsKeys ((initial name).run statements) := by
  have hclosed := (initial_consistent name).closed
  refine ⟨?_, ?_, fun s => s.keepsKeys (run_closed hclosed statements)⟩
  · have hstates := run_iff (P := fun b => b.Closed ∧ b.KeysIndexed)
      (fun s b hb => and_iff_right (Statement.apply_closed hb.1) |>.trans
        (Statement.apply_keysIndexed_iff hb.1 hb.2))
      ⟨hclosed, initial_keysIndexed name⟩ statements
    refine Iff.trans ?_ hstates
    exact forall₂_congr fun done _ => (and_iff_right (run_closed hclosed done)).symm
  · have hdeclared : ((initial name).run statements).Closed
        ∧ ((initial name).run statements).KeysDeclared :=
      run_keeps (P := fun b => b.Closed ∧ b.KeysDeclared)
        (fun s _ b hb => ⟨Statement.apply_closed hb.1, Statement.apply_keysDeclared hb.1 hb.2⟩)
        ⟨hclosed, initial_keysDeclared name⟩
    exact fun e he => (hdeclared.2 e he).keyIndexed_iff

/-- A primary key may be declared over no columns, and its index is there all the same. -/
theorem empty_key_has_index :
    ¬ ∀ (name : String) (statements : List Statement), (∀ s ∈ statements, s.Parsed) →
      ((initial name).run statements).KeysIndexed := by
  intro h
  have hstates := h "shop" (Script.statements "CREATE TABLE t (x int, PRIMARY KEY ())")
    fun _ => Statement.Parsed.of_text
  have hindexed : ∀ e ∈ ((initial "shop").run
      (Script.statements "CREATE TABLE t (x int, PRIMARY KEY ())")).entries,
      e.metadata.keyIndexes ≠ [] → e.metadata.primaryKey ≠ [] :=
    fun e he => (hstates e he).indexed_iff.mp
  exact absurd hindexed (by decide +kernel)

end Builder

end SchemaCatalog
