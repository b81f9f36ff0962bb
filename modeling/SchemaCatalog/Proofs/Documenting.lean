import SchemaCatalog.Proofs.Comments

/-!
# Documenting a catalog

Attaching comments to a catalog overrides: a table or column that a comment is attached to has that
text afterwards, every other one the text that it had. `Catalog.document_overrides` says that
nothing else changes, the lookups included, that attaching the same comments again changes nothing,
and what the texts are after two attachments, one after the other.

Tables keep their keys, so every table is looked up in the documentation under the same name each
time and one table at a time can be looked at (`TableEntry.document_document`). The texts of columns
are pairs with distinct names once comments are attached, and such pairs are told by the order of
the names and what is filed under each (`eq_of_filed?`), which a second attachment does not change.
-/

namespace SchemaCatalog

/-! ## 1. Merging again -/

section Filing

variable {κ α : Type} [BEq κ] [LawfulBEq κ]

/-- Pairs with distinct keys are told by their keys and by what is filed under each. -/
theorem eq_of_filed? {pairs pairs' : List (κ × α)} (hnodup : (pairs.map Prod.fst).Nodup)
    (hkeys : pairs.map Prod.fst = pairs'.map Prod.fst)
    (hfiled : ∀ key, filed? key pairs = filed? key pairs') : pairs = pairs' := by
  have hmem (p : κ × α) (hp : p ∈ pairs) : p ∈ pairs' :=
    (filed?_eq_some_iff (hkeys ▸ hnodup)).mp
      (hfiled p.1 ▸ (filed?_eq_some_iff hnodup).mpr hp)
  clear hfiled
  induction pairs generalizing pairs' with
  | nil => simpa using hkeys
  | cons p ps ih =>
    cases pairs' with
    | nil => cases hkeys
    | cons p' ps' =>
      obtain ⟨hkey, hrest⟩ := List.cons.inj hkeys
      obtain ⟨hnot, hps⟩ := List.nodup_cons.mp hnodup
      have hkey_mem {q : κ × α} {qs : List (κ × α)} (hq : q ∈ qs) : q.1 ∈ qs.map Prod.fst :=
        List.mem_map_of_mem hq
      have hp : p = p' := (List.mem_cons.mp (hmem p List.mem_cons_self)).resolve_right
        fun h => hnot (hrest ▸ hkey_mem h)
      have hothers : ∀ q ∈ ps, q ∈ ps' := fun q hq =>
        (List.mem_cons.mp (hmem q (List.mem_cons_of_mem p hq))).resolve_left
          fun h => hnot (by rw [hkey, ← h]; exact hkey_mem hq)
      rw [hp, ih hps hrest hothers]

theorem keys_foldl_fileUnder {pairs filed : List (κ × α)}
    (h : ∀ p ∈ pairs, p.1 ∈ filed.map Prod.fst) :
    (pairs.foldl (fun merged p => fileUnder p.1 p.2 merged) filed).map Prod.fst
      = filed.map Prod.fst := by
  induction pairs generalizing filed with
  | nil => rfl
  | cons p ps ih =>
    obtain ⟨hp, hps⟩ := List.forall_mem_cons.mp h
    have hkeys := keys_fileUnder_of_mem hp p.2
    rw [List.foldl_cons, ih (hkeys ▸ hps), hkeys]

/-- Pairs with distinct keys are filed as they are. -/
theorem foldl_fileUnder_nil {pairs : List (κ × α)} (h : (pairs.map Prod.fst).Nodup) :
    pairs.foldl (fun merged p => fileUnder p.1 p.2 merged) [] = pairs := by
  induction pairs using List.reverseRecOn with
  | nil => rfl
  | append_singleton pairs p ih =>
    rw [List.map_append, List.nodup_append] at h
    have hnew : p.1 ∉ pairs.map Prod.fst := fun hmem => h.2.2 p.1 hmem p.1 (by simp) rfl
    rw [List.foldl_append, ih h.1]
    exact fileUnder_of_not_mem hnew p.2

/-- What is filed among merged pairs is the last of the new ones, else the last of the old ones. -/
theorem filed?_mergePairs (key : κ) (old new : List (κ × α)) :
    filed? key (mergePairs old new) = (filed? key new.reverse).or (filed? key old.reverse) := by
  rw [mergePairs, filed?_foldl_fileUnder, List.reverse_append]
  change (filed? key (_ ++ _)).or none = _
  rw [Option.or_none, filed?, List.find?_append, Option.map_or]
  rfl

theorem nodup_mergePairs (old new : List (κ × α)) : ((mergePairs old new).map Prod.fst).Nodup :=
  nodup_foldl_fileUnder _ List.nodup_nil

/-- A second time the new pairs find their keys and values in place. -/
theorem mergePairs_mergePairs (old new : List (κ × α)) :
    mergePairs (mergePairs old new) new = mergePairs old new := by
  have hnodup : ((mergePairs old new).map Prod.fst).Nodup := nodup_mergePairs old new
  have hagain : mergePairs (mergePairs old new) new
      = new.foldl (fun merged p => fileUnder p.1 p.2 merged) (mergePairs old new) := by
    have hold := foldl_fileUnder_nil hnodup
    exact List.foldl_append.trans (by rw [hold])
  have hthere : ∀ p ∈ new, p.1 ∈ (mergePairs old new).map Prod.fst := by
    intro p hp
    have hnew : (filed? p.1 new.reverse).isSome = true :=
      isSome_filed?.mpr (List.mem_map_of_mem (List.mem_reverse.mpr hp))
    rw [← isSome_filed?, filed?_mergePairs, Option.isSome_or, hnew, Bool.true_or]
  refine eq_of_filed? (nodup_mergePairs _ _) ?_ fun key => ?_
  · rw [hagain, keys_foldl_fileUnder hthere]
  · rw [filed?_mergePairs, filed?_reverse hnodup, filed?_mergePairs]
    cases filed? key new.reverse <;> rfl

end Filing

/-! ## 2. One table -/

/-- The text for the table of a key, in the comments that are found for it. -/
def Documentation.tableText? (docs : Documentation) (key : TableKey) : Option String :=
  (docs.ofTable? key).bind (·.table)

/-- The text for a column of the table of a key, in the comments that are found for the table. -/
def Documentation.columnText? (docs : Documentation) (key : TableKey) (column : String) :
    Option String :=
  (docs.ofTable? key).bind fun doc => filed? column doc.columns

/-- The comments that statements make on one table are on distinct columns. -/
theorem Documentation.nodup_columns {statements : List Statement} {key : TableKey}
    {doc : TableDocumentation} (h : (ofStatements statements).ofTable? key = some doc) :
    (doc.columns.map Prod.fst).Nodup := by
  rw [ofTable?_ofStatements] at h
  split at h
  · cases h
    have hcolumns := Comments.distinctColumns_ofStatements statements (spellingOf statements key)
    rw [Comments.ofTable]
    cases hpairs : filed? (spellingOf statements key)
        (Comments.ofStatements statements).columns with
    | none => exact List.nodup_nil
    | some pairs => exact nodup_valued (hcolumns pairs hpairs)
  · cases h

namespace TableMetadata

/-- The metadata without comments on the table and its columns. -/
def withoutComments (m : TableMetadata) : TableMetadata :=
  { m with documentation := none, columnDocumentation := [] }

theorem document_document (m : TableMetadata) (doc : TableDocumentation) :
    (m.document doc).document doc = m.document doc := by
  have htable : (doc.table.orElse fun _ => doc.table.orElse fun _ => m.documentation)
      = doc.table.orElse fun _ => m.documentation := by
    cases doc.table <;> rfl
  have hcolumns := mergePairs_mergePairs m.columnDocumentation doc.columns
  exact congrArg₂ (fun table columns =>
    { m with documentation := table, columnDocumentation := columns }) htable hcolumns

end TableMetadata

/-- The entry without comments on its table. -/
def TableEntry.withoutComments (e : TableEntry) : TableEntry :=
  { e with metadata := e.metadata.withoutComments }

theorem TableEntry.table_document (e : TableEntry) (docs : Documentation) :
    (e.document docs).table = e.table := by
  rw [document]
  split <;> rfl

theorem TableEntry.withoutComments_document (e : TableEntry) (docs : Documentation) :
    (e.document docs).withoutComments = e.withoutComments := by
  rw [document]
  split <;> rfl

theorem TableEntry.document_document (e : TableEntry) (docs : Documentation) :
    (e.document docs).document docs = e.document docs := by
  cases hdoc : docs.ofTable? e.key with
  | none => simp only [document, hdoc]
  | some doc =>
    have hkey : docs.ofTable? (e.document docs).key = some doc := by rw [key_document, hdoc]
    rw [document, hkey]
    simp only [document, hdoc, TableMetadata.document_document]

/-- What metadata have become after comments, and then further ones, were attached to the table of a
key. -/
structure TableMetadata.Overridden (m m' : TableMetadata) (key : TableKey)
    (docs docs' : Documentation) : Prop where
  rest : m'.withoutComments = m.withoutComments
  table : m'.documentation
    = (docs'.tableText? key).or ((docs.tableText? key).or m.documentation)
  columns : ∀ column, m'.documentationOf? column
    = (docs'.columnText? key column).or
      ((docs.columnText? key column).or (m.documentationOf? column))
  distinct : (m.columnDocumentation.map Prod.fst).Nodup →
    (m'.columnDocumentation.map Prod.fst).Nodup

namespace TableEntry

theorem documentation_document (e : TableEntry) (docs : Documentation) :
    (e.document docs).metadata.documentation
      = (docs.tableText? e.key).or e.metadata.documentation := by
  rw [document, Documentation.tableText?]
  cases docs.ofTable? e.key with
  | none => rfl
  | some doc => exact e.metadata.documentation_document doc

theorem documentationOf?_document (e : TableEntry) (statements : List Statement)
    (column : String) :
    (e.document (.ofStatements statements)).metadata.documentationOf? column
      = ((Documentation.ofStatements statements).columnText? e.key column).or
        (e.metadata.documentationOf? column) := by
  rw [document, Documentation.columnText?]
  cases hdoc : (Documentation.ofStatements statements).ofTable? e.key with
  | none => rfl
  | some doc =>
    have hnodup := Documentation.nodup_columns hdoc
    rw [Option.bind_some, ← filed?_reverse hnodup]
    exact e.metadata.documentationOf?_document doc column

theorem nodup_document {e : TableEntry} (h : (e.metadata.columnDocumentation.map Prod.fst).Nodup)
    (docs : Documentation) :
    ((e.document docs).metadata.columnDocumentation.map Prod.fst).Nodup := by
  rw [document]
  split
  · exact nodup_mergePairs _ _
  · exact h

theorem overridden_document (e : TableEntry) (first second : List Statement) :
    e.metadata.Overridden
      ((e.document (.ofStatements first)).document (.ofStatements second)).metadata e.key
      (.ofStatements first) (.ofStatements second) where
  rest := by
    have hsecond := (e.document (.ofStatements first)).withoutComments_document
      (.ofStatements second)
    exact congrArg metadata (hsecond.trans (e.withoutComments_document _))
  table := by rw [documentation_document, documentation_document, key_document]
  columns column := by
    rw [documentationOf?_document, documentationOf?_document, key_document]
  distinct h := nodup_document (nodup_document h _) _

end TableEntry

/-! ## 3. Catalogs -/

/-- The contents without the comments on tables and their columns. -/
def Contents.withoutComments (c : Contents) : Contents :=
  { c with entries := c.entries.map TableEntry.withoutComments }

/-- A catalog to be queried without the comments on tables and their columns. -/
def CatalogView.withoutComments (v : CatalogView) : CatalogView :=
  { v with
    contents := v.contents.withoutComments
    entry? := fun key => (v.entry? key).map TableEntry.withoutComments }

namespace Catalog

theorem withoutComments_document (c : Catalog) (docs : Documentation) :
    (c.document docs).view.withoutComments = c.view.withoutComments := by
  have hentries : (c.document docs).entries.map TableEntry.withoutComments
      = c.entries.map TableEntry.withoutComments := by
    change (c.entries.map (·.document docs)).map TableEntry.withoutComments = _
    rw [List.map_map]
    exact List.map_congr_left fun e _ => e.withoutComments_document docs
  have hfound : (fun key => (Catalog.entry? (c.document docs) key).map TableEntry.withoutComments)
      = fun key => (c.entry? key).map TableEntry.withoutComments := by
    funext key
    rw [entry?_document, Option.map_map]
    exact congrArg (Option.map · (c.entry? key)) (funext fun e => e.withoutComments_document docs)
  exact congrArg₂ (fun entries found => { c.view with
    contents := { c.toContents with entries }, entry? := found }) hentries hfound

theorem document_document (c : Catalog) (docs : Documentation) :
    (c.document docs).document docs = c.document docs := by
  have hentries : (c.entries.map (·.document docs)).map (·.document docs)
      = c.entries.map (·.document docs) := by
    rw [List.map_map]
    exact List.map_congr_left fun e _ => e.document_document docs
  exact congrArg (fun entries => { c with entries }) hentries

theorem key_of_entry? {c : Catalog} {key : TableKey} {e : TableEntry} (h : c.entry? key = some e) :
    e.key = key := by
  obtain ⟨-, hkey⟩ := Option.filter_eq_some_iff.mp h
  exact ObjectName.sortKey_inj.mp (beq_iff_eq.mp hkey)

/-- The metadata of a table, found again in the documented catalog. -/
theorem exists_metadata_document_document {c : Catalog} {t : Table} {m : TableMetadata}
    (h : c.view.metadata t = .ok m) (first second : List Statement) :
    ∃ m', ((c.document (.ofStatements first)).document (.ofStatements second)).view.metadata t
        = .ok m' ∧ m.Overridden m' t.key (.ofStatements first) (.ofStatements second) := by
  cases hfound : c.entry? t.key with
  | none =>
    rw [CatalogView.metadata, show c.view.entry? t.key = none from hfound] at h
    cases h
  | some e =>
    rw [CatalogView.metadata, show c.view.entry? t.key = some e from hfound] at h
    cases h
    refine ⟨_, ?_, key_of_entry? hfound ▸ e.overridden_document first second⟩
    have hagain : CatalogView.entry?
        ((c.document (.ofStatements first)).document (.ofStatements second)).view t.key
          = some ((e.document (.ofStatements first)).document (.ofStatements second)) := by
      change Catalog.entry? _ t.key = _
      rw [entry?_document, entry?_document, hfound]
      rfl
    rw [CatalogView.metadata, hagain]

/-- Attaching comments leaves everything but the texts of tables and columns, lookups included, and
attaching the same ones again leaves all. After a second attachment each table and each column has
the text that it gives it, else the one that the first gave it, else its own; and no column has two
texts if none had. That holds for the tables in their order, and for what is looked up. -/
theorem document_overrides (c : Catalog) (first second : List Statement) :
    let docs := Documentation.ofStatements first
    let docs' := Documentation.ofStatements second
    (c.document docs).view.withoutComments = c.view.withoutComments
    ∧ (c.document docs).document docs = c.document docs
    ∧ List.Forall₂
        (fun e e' => e'.table = e.table ∧ e.metadata.Overridden e'.metadata e.key docs docs')
        c.entries ((c.document docs).document docs').entries
    ∧ ∀ t m, c.view.metadata t = .ok m →
        ∃ m', ((c.document docs).document docs').view.metadata t = .ok m'
          ∧ m.Overridden m' t.key docs docs' := by
  intro docs docs'
  refine ⟨c.withoutComments_document docs, c.document_document docs, ?_, fun t m hm => ?_⟩
  · change List.Forall₂ _ c.entries ((c.entries.map (·.document docs)).map (·.document docs'))
    rw [List.map_map, List.forall₂_map_right_iff]
    refine List.forall₂_same.mpr fun e _ => ⟨?_, e.overridden_document first second⟩
    exact ((e.document docs).table_document docs').trans (e.table_document docs)
  · exact exists_metadata_document_document hm first second

/-- A table that was declared without its schema has comments under the name with the schema first.
Then the one on the table is removed under the name without it, which gives it no text, and one on a
column is added. -/
theorem document_overrides_of_alias :
    let column : ColumnDefinition := { name := "x", dataType := "int" }
    let c := ((Builder.initial "shop").run
      [.createTable { name := ⟨"t", none⟩, columns := [column] }]).freeze
    let t : Table := { name := "t" }
    let target : ObjectName := ⟨"t", some "public"⟩
    let first : List Statement :=
      [.commentOn { objectKind := "TABLE", target, text := some "a" },
        .commentOn { objectKind := "COLUMN", target, column := some "x", text := some "b" },
        .commentOn { objectKind := "COLUMN", target, column := some "y", text := some "c" }]
    let second : List Statement :=
      [.commentOn { objectKind := "TABLE", target := t.key },
        .commentOn
          { objectKind := "COLUMN", target := t.key, column := some "y", text := some "d" }]
    ∃ m m', c.view.metadata t = .ok m
      ∧ ((c.document (.ofStatements first)).document (.ofStatements second)).view.metadata t
        = .ok m'
      ∧ m'.documentation = some "a" ∧ m'.documentationOf? "x" = some "b"
      ∧ m'.documentationOf? "y" = some "d" := by
  intro column c t target first second
  have hfound : (c.view.metadata t).isOk = true := by decide +kernel
  cases hm : c.view.metadata t with
  | error e =>
    rw [hm] at hfound
    cases hfound
  | ok m =>
    obtain ⟨-, -, -, hlookup⟩ := document_overrides c first second
    obtain ⟨m', hm', hoverridden⟩ := hlookup t m hm
    have htexts : (Documentation.ofStatements second).tableText? t.key = none
        ∧ (Documentation.ofStatements first).tableText? t.key = some "a"
        ∧ (Documentation.ofStatements second).columnText? t.key "x" = none
        ∧ (Documentation.ofStatements first).columnText? t.key "x" = some "b"
        ∧ (Documentation.ofStatements second).columnText? t.key "y" = some "d" := by
      decide +kernel
    obtain ⟨htable', htable, hx', hx, hy⟩ := htexts
    refine ⟨m, m', rfl, hm', ?_, ?_, ?_⟩
    · rw [hoverridden.table, htable', htable]
      rfl
    · rw [hoverridden.columns, hx', hx]
      rfl
    · rw [hoverridden.columns, hy]
      rfl

end Catalog

end SchemaCatalog
