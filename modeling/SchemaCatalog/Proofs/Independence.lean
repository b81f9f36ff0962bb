import SchemaCatalog.Catalog.DependencyOrder
import SchemaCatalog.Proofs.Freezing
import SchemaCatalog.Proofs.Success

/-!
# Creating tables in either order

Creating a table looks up the name of the table and those that its foreign keys target, and nothing
else about tables. A table that denotes none of these goes unnoticed: `CreateTable.added` says what
a statement adds to a builder, and `added_addTables` that other tables make no difference to it. So
two statements that are `Independent` of each other add the same entries in either order, and fail
alike.

The two builders differ in the order of their entries. The catalogs made of them do not, since a
list that is sorted is known by the elements of each key, in their order: `SortedBy.eq_of_filter`.
The same holds of any number of statements, in any order, each two of which are independent
(`Builder.freeze_createTables_perm`).
-/

namespace SchemaCatalog

/-! ## 1. Sorted lists -/

section Sorting

variable {α κ : Type} {key : α → κ} {before : κ → κ → Bool}

/-- The first of a sorted list is not after any element of it. -/
theorem SortedBy.not_before_head (h : StrictTotal before) {a b : α} {l : List α}
    (hl : SortedBy key before (a :: l)) (hb : b ∈ a :: l) : before (key b) (key a) = false := by
  rcases List.mem_cons.mp hb with rfl | hmem
  · exact h.irrefl _
  · exact (List.pairwise_cons.mp hl).1 b hmem

variable [BEq κ] [LawfulBEq κ]

/-- What is among the elements of one key in one list is in the other. -/
theorem mem_of_filter_eq {l l' : List α}
    (h : ∀ k, l.filter (fun a => key a == k) = l'.filter fun a => key a == k) {a : α} (ha : a ∈ l) :
    a ∈ l' := by
  have hmem : a ∈ l.filter fun b => key b == key a := List.mem_filter.mpr ⟨ha, BEq.rfl⟩
  rw [h] at hmem
  exact List.mem_of_mem_filter hmem

/-- Two sorted lists that have the same elements of each key, in the same order, are the same. -/
theorem SortedBy.eq_of_filter (h : StrictTotal before) {l l' : List α} (hl : SortedBy key before l)
    (hl' : SortedBy key before l')
    (hsame : ∀ k, l.filter (fun a => key a == k) = l'.filter fun a => key a == k) : l = l' := by
  induction l generalizing l' with
  | nil =>
    refine (List.eq_nil_iff_forall_not_mem.mpr fun a ha => ?_).symm
    exact List.not_mem_nil (mem_of_filter_eq (fun k => (hsame k).symm) ha)
  | cons a l ih =>
    cases l' with
    | nil => exact absurd (mem_of_filter_eq hsame (List.mem_cons_self ..)) List.not_mem_nil
    | cons a' l' =>
      have ha : a ∈ a' :: l' := mem_of_filter_eq hsame (List.mem_cons_self ..)
      have ha' : a' ∈ a :: l := mem_of_filter_eq (fun k => (hsame k).symm) (List.mem_cons_self ..)
      have hkey : key a = key a' :=
        h.connected _ _ (hl'.not_before_head h ha) (hl.not_before_head h ha')
      have hfirst := hsame (key a)
      simp only [List.filter_cons, hkey, BEq.rfl, if_true] at hfirst
      obtain rfl : a = a' := (List.cons.inj hfirst).1
      rw [ih (List.pairwise_cons.mp hl).2 (List.pairwise_cons.mp hl').2 fun k => ?_]
      have hk := hsame k
      rw [List.filter_cons, List.filter_cons] at hk
      split at hk
      · exact (List.cons.inj hk).2
      · exact hk

/-- Lists that have the same elements of each key, in the same order, are sorted alike. -/
theorem sortBy_eq_of_filter (h : StrictTotal before) {l l' : List α}
    (hsame : ∀ k, l.filter (fun a => key a == k) = l'.filter fun a => key a == k) :
    sortBy key before l = sortBy key before l' :=
  (sortedBy_sortBy h l).eq_of_filter h (sortedBy_sortBy h l') fun k => by
    rw [filter_sortBy h, filter_sortBy h, hsame]

/-- Of two parts of a list that have no key in common, at least one has no element of a key. -/
theorem filter_eq_nil_or_of_ne {as bs : List α} (h : ∀ a ∈ as, ∀ b ∈ bs, key a ≠ key b) (k : κ) :
    (as.filter fun a => key a == k) = [] ∨ (bs.filter fun b => key b == k) = [] := by
  by_cases has : (as.filter fun a => key a == k) = []
  · exact Or.inl has
  · obtain ⟨a, ha⟩ := List.exists_mem_of_ne_nil _ has
    obtain ⟨hmem, hkey⟩ := List.mem_filter.mp ha
    refine Or.inr (List.filter_eq_nil_iff.mpr fun b hb hkey' => ?_)
    exact h a hmem b hb ((beq_iff_eq.mp hkey).trans (beq_iff_eq.mp hkey').symm)

/-- Parts that have no key in common have the same elements of each key in whatever order. -/
theorem filter_flatMap_perm {ι : Type} {f : ι → List α} {is js : List ι} (hperm : is.Perm js)
    (hne : is.Pairwise fun i j => ∀ a ∈ f i, ∀ b ∈ f j, key a ≠ key b) (k : κ) :
    (is.flatMap f).filter (fun a => key a == k) = (js.flatMap f).filter fun a => key a == k := by
  induction hperm with
  | nil => rfl
  | cons i _ ih =>
    rw [List.flatMap_cons, List.flatMap_cons, List.filter_append, List.filter_append,
      ih (List.pairwise_cons.mp hne).2]
  | swap i j is =>
    simp only [List.flatMap_cons, List.filter_append]
    have hfirst := (List.pairwise_cons.mp hne).1 i (List.mem_cons_self ..)
    rcases filter_eq_nil_or_of_ne hfirst k with hnil | hnil <;>
      rw [hnil, List.nil_append, List.nil_append]
  | trans hperm _ ih ih' =>
    rw [ih hne, ih' ((hperm.pairwise_iff fun h a ha b hb => (h b hb a ha).symm).mp hne)]

end Sorting

/-! ## 2. Tables that go unnoticed -/

namespace Builder

/-- A builder with further tables. -/
def addTables (b : Builder) (es : List TableEntry) : Builder := { b with entries := b.entries ++ es }

variable {b : Builder} {es : List TableEntry}

/-- A key is not that of a table of another denotation. -/
theorem entry?_addTables {key : TableKey} (h : ∀ e ∈ es, e.key.denoted ≠ key.denoted) :
    Builder.entry? (b.addTables es) key = b.entry? key := by
  have hnone : es.find? (·.key == key) = none :=
    List.find?_eq_none.mpr fun e he hkey => h e he (congrArg _ (beq_iff_eq.mp hkey))
  rw [Builder.entry?, addTables, List.find?_append, hnone, Option.or_none]
  rfl

theorem table?_addTables {key : TableKey} (h : ∀ e ∈ es, e.key.denoted ≠ key.denoted) :
    (b.addTables es).view.table? key = b.view.table? key :=
  congrArg (Option.map TableEntry.table) (entry?_addTables h)

/-- A name is resolved without regard to tables of other denotations. -/
theorem resolve?_addTables {n : ObjectName} (h : ∀ e ∈ es, e.key.denoted ≠ n.denoted) :
    (b.addTables es).resolve? n = b.resolve? n := by
  have halias : n.alias?.bind (b.addTables es).view.table? = n.alias?.bind b.view.table? := by
    refine Option.bind_congr fun m hm => table?_addTables ?_
    rwa [ObjectName.denoted_eq_iff.mpr (Or.inr hm)]
  rw [resolve?, resolve?, CatalogView.resolve?, CatalogView.resolve?, table?_addTables h, halias]

theorem requireTable_addTables {n : ObjectName} (h : ∀ e ∈ es, e.key.denoted ≠ n.denoted)
    (referencedBy : String) :
    (b.addTables es).requireTable n referencedBy = b.requireTable n referencedBy := by
  rw [requireTable, requireTable, resolve?_addTables h]

end Builder

/-! ## 3. What a statement adds -/

/-- The tables that foreign keys of a statement target. -/
def CreateTable.targets (s : CreateTable) : List ObjectName :=
  (foreignKeyDefinitions s.allConstraints).map (·.referencedTable)

/-- The entries that a statement adds to a builder: one, or none if its name is taken already and
that is no failure. -/
def CreateTable.added (s : CreateTable) (b : Builder) : Except CatalogError (List TableEntry) :=
  match b.resolve? s.name with
  | some _ => if s.ifNotExists then .ok [] else .error (.alreadyExists "table" s.name.qualified)
  | none => do
    let m ← s.metadata b
    pure [s.entry m]

section Added

variable {b : Builder} {es : List TableEntry}

/-- The target of a foreign key is found without regard to tables of other denotations. -/
theorem referencedTable_addTables {table target : ObjectName} {m : TableMetadata}
    (h : ∀ e ∈ es, e.key.denoted ≠ target.denoted) (referencedBy : String) :
    referencedTable (b.addTables es) table m target referencedBy
      = referencedTable b table m target referencedBy := by
  rw [referencedTable, referencedTable, Builder.requireTable_addTables h]
  split
  · rfl
  · refine bind_congr_ok fun t ht => ?_
    obtain ⟨e, -, rfl, hkey⟩ := Builder.resolve?_eq_some (Builder.requireTable_eq_ok.mp ht)
    rw [Builder.requireEntry, Builder.requireEntry, Builder.entry?_addTables]
    rwa [show e.table.key.denoted = target.denoted from hkey]

namespace CreateTable

variable {s : CreateTable}

/-- The metadata of a table do not depend on tables that none of its foreign keys targets. -/
theorem metadata_addTables (h : ∀ e ∈ es, ∀ n ∈ s.targets, e.key.denoted ≠ n.denoted) :
    s.metadata (b.addTables es) = s.metadata b := by
  have hconstraint : declareConstraint (b.addTables es) s.name = declareConstraint b s.name := rfl
  have hkeys (m : TableMetadata) :
      (foreignKeyDefinitions s.allConstraints).mapM (declareForeignKey (b.addTables es) s.name m)
        = (foreignKeyDefinitions s.allConstraints).mapM (declareForeignKey b s.name m) := by
    refine mapM_congr fun d hd => ?_
    have htarget : ∀ e ∈ es, e.key.denoted ≠ d.referencedTable.denoted := fun e he =>
      h e he d.referencedTable (List.mem_map_of_mem hd)
    simp only [declareForeignKey, referencedTable_addTables htarget]
  simp only [metadata, hconstraint, hkeys]

/-- What a statement adds does not depend on tables that neither its name nor one of its foreign keys
denotes. -/
theorem added_addTables (hname : ∀ e ∈ es, e.key.denoted ≠ s.name.denoted)
    (htargets : ∀ e ∈ es, ∀ n ∈ s.targets, e.key.denoted ≠ n.denoted) :
    s.added (b.addTables es) = s.added b := by
  rw [added, added, Builder.resolve?_addTables hname, metadata_addTables htargets]

/-- A statement adds its entries, or fails and adds none. -/
theorem apply_eq (s : CreateTable) (b : Builder) : s.apply b = (s.added b).map b.addTables := by
  rw [apply, added]
  cases b.resolve? s.name with
  | some t =>
    have hnothing : b.addTables [] = b := by rw [Builder.addTables, List.append_nil]
    cases s.ifNotExists with
    | false => rfl
    | true => exact congrArg Except.ok hnothing.symm
  | none => cases s.metadata b <;> rfl

/-- The entries that there are more when a statement was applied. -/
def entries (s : CreateTable) (b : Builder) : List TableEntry := (s.added b).toOption.getD []

/-- What a statement adds is filed under its name. -/
theorem key_of_mem_entries {e : TableEntry} (he : e ∈ s.entries b) : e.key = s.name := by
  rw [entries, added] at he
  split at he
  · split at he <;> cases he
  · cases hm : s.metadata b with
    | error _ =>
      rw [hm] at he
      cases he
    | ok m =>
      rw [hm] at he
      rw [List.mem_singleton.mp he]
      rfl

theorem builder_apply (s : CreateTable) (b : Builder) :
    ((Statement.createTable s).apply b).builder = b.addTables (s.entries b) := by
  rw [Statement.apply, apply_eq, entries]
  cases s.added b with
  | ok es => rfl
  | error e => exact (congrArg (fun l => { b with entries := l }) (List.append_nil b.entries)).symm

/-- How a statement fails depends on what it adds only. -/
theorem failure_apply {b' : Builder} (h : s.added b' = s.added b) :
    ((Statement.createTable s).apply b').failure = ((Statement.createTable s).apply b).failure := by
  rw [Statement.apply, Statement.apply, apply_eq, apply_eq, h]
  cases s.added b <;> rfl

end CreateTable

end Added

/-! ## 4. Independent statements -/

/-- Two statements create different tables, neither of which has a foreign key into the other. -/
structure CreateTable.Independent (s s' : CreateTable) : Prop where
  names : s.name.denoted ≠ s'.name.denoted
  targets : ∀ n ∈ s.targets, n.denoted ≠ s'.name.denoted
  targets' : ∀ n ∈ s'.targets, n.denoted ≠ s.name.denoted

instance (s s' : CreateTable) : Decidable (s.Independent s') :=
  decidable_of_iff
    (s.name.denoted ≠ s'.name.denoted ∧ (∀ n ∈ s.targets, n.denoted ≠ s'.name.denoted)
      ∧ ∀ n ∈ s'.targets, n.denoted ≠ s.name.denoted)
    ⟨fun ⟨h, ht, ht'⟩ => ⟨h, ht, ht'⟩, fun ⟨h, ht, ht'⟩ => ⟨h, ht, ht'⟩⟩

namespace CreateTable.Independent

variable {s s' : CreateTable}

theorem symm (h : s.Independent s') : s'.Independent s := ⟨h.names.symm, h.targets', h.targets⟩

/-- What a statement adds is the same after the other one. -/
theorem added_eq (h : s.Independent s') (b : Builder) :
    s.added (b.addTables (s'.entries b)) = s.added b := by
  refine added_addTables (fun e he => ?_) fun e he n hn => ?_
  · rw [key_of_mem_entries he]
    exact h.names.symm
  · rw [key_of_mem_entries he]
    exact (h.targets n hn).symm

theorem entries_eq (h : s.Independent s') (b : Builder) :
    s.entries (b.addTables (s'.entries b)) = s.entries b := by
  rw [entries, h.added_eq, ← entries]

end CreateTable.Independent

namespace Builder

/-- What independent statements leave are the entries of each, in the order of the statements. -/
theorem run_createTables {ss : List CreateTable} (h : ss.Pairwise CreateTable.Independent)
    (b : Builder) :
    b.run (ss.map Statement.createTable) = b.addTables (ss.flatMap (·.entries b)) := by
  induction ss generalizing b with
  | nil => exact (congrArg (fun l => { b with entries := l }) (List.append_nil b.entries)).symm
  | cons s ss ih =>
    obtain ⟨hs, hss⟩ := List.pairwise_cons.mp h
    have hrest : ss.flatMap (·.entries (b.addTables (s.entries b))) = ss.flatMap (·.entries b) :=
      List.flatMap_congr fun s' hs' => (hs s' hs').symm.entries_eq b
    have hstep : b.run ((s :: ss).map Statement.createTable)
        = (b.addTables (s.entries b)).run (ss.map Statement.createTable) := by
      rw [List.map_cons, run, List.foldl_cons, CreateTable.builder_apply, ← run]
    rw [hstep, ih hss, hrest, List.flatMap_cons, addTables, addTables, addTables, List.append_assoc]

/-- Independent statements lead to one catalog in whatever order they are applied. -/
theorem freeze_createTables_perm {ss ss' : List CreateTable}
    (h : ss.Pairwise CreateTable.Independent) (hperm : ss.Perm ss') (b : Builder) :
    (b.run (ss.map Statement.createTable)).freeze
      = (b.run (ss'.map Statement.createTable)).freeze := by
  have h' : ss'.Pairwise CreateTable.Independent :=
    (hperm.pairwise_iff CreateTable.Independent.symm).mp h
  have hne : ss.Pairwise fun s s' => ∀ e ∈ s.entries b, ∀ e' ∈ s'.entries b,
      e.key.sortKey ≠ e'.key.sortKey := by
    refine h.imp fun {s s'} hs e he e' he' heq => hs.names ?_
    rw [ObjectName.sortKey_inj, CreateTable.key_of_mem_entries he,
      CreateTable.key_of_mem_entries he'] at heq
    exact congrArg _ heq
  have hsorted : sortBy (·.key.sortKey) tableBefore (b.entries ++ ss.flatMap (·.entries b))
      = sortBy (·.key.sortKey) tableBefore (b.entries ++ ss'.flatMap (·.entries b)) := by
    refine sortBy_eq_of_filter tableBefore_strictTotal fun k => ?_
    rw [List.filter_append, List.filter_append, filter_flatMap_perm hperm hne k]
  rw [run_createTables h, run_createTables h']
  simp only [freeze, addTables, hsorted]

/-- Whatever the builder, two statements that create different tables, and neither of which has a
foreign key into the table of the other, may be applied in either order: each of them fails as it
would without the other one, or does not, and the catalogs made of what they leave are the same, so
their tables are ordered alike. -/
theorem createTables_commute (b : Builder) {s s' : CreateTable} (h : s.Independent s') :
    ((Statement.createTable s').apply ((Statement.createTable s).apply b).builder).failure
        = ((Statement.createTable s').apply b).failure
      ∧ ((Statement.createTable s).apply ((Statement.createTable s').apply b).builder).failure
        = ((Statement.createTable s).apply b).failure
      ∧ (b.run [.createTable s, .createTable s']).freeze
        = (b.run [.createTable s', .createTable s]).freeze
      ∧ (b.run [.createTable s, .createTable s']).freeze.view.dependencyOrder
        = (b.run [.createTable s', .createTable s]).freeze.view.dependencyOrder := by
  have hfreeze : (b.run [.createTable s, .createTable s']).freeze
      = (b.run [.createTable s', .createTable s]).freeze :=
    freeze_createTables_perm (List.pairwise_pair.mpr h) (List.Perm.swap ..) b
  refine ⟨?_, ?_, hfreeze, by rw [hfreeze]⟩
  · rw [CreateTable.builder_apply]
    exact CreateTable.failure_apply (h.symm.added_eq b)
  · rw [CreateTable.builder_apply]
    exact CreateTable.failure_apply (h.added_eq b)

/-- Two tables of one name in different schemas reference a third one, which one of them names with
its schema and the other without. -/
theorem createTables_commute_of_same_name :
    let column : ColumnDefinition := { name := "x", dataType := "int" }
    let b := (initial "shop").run
      [.createTable
        { name := ⟨"u", none⟩, columns := [column], constraints := [.primaryKey ["x"] none] }]
    let key (n : ObjectName) : ConstraintDefinition :=
      .foreignKey { columns := ["x"], referencedTable := n }
    let s : CreateTable :=
      { name := ⟨"t", some "a"⟩, columns := [column], constraints := [key ⟨"u", none⟩] }
    let s' : CreateTable :=
      { name := ⟨"t", none⟩, columns := [column], constraints := [key ⟨"u", some "public"⟩] }
    let c := b.run [.createTable s, .createTable s']
    let c' := b.run [.createTable s', .createTable s]
    s.Independent s'
      ∧ c.tables.map (·.qualifiedName) = ["u", "a.t", "t"]
      ∧ c'.tables.map (·.qualifiedName) = ["u", "t", "a.t"]
      ∧ c.freeze = c'.freeze := by
  intro column b key s s' c c'
  have hindependent : s.Independent s' := by decide +kernel
  exact ⟨hindependent, by decide +kernel, by decide +kernel,
    (createTables_commute b hindependent).2.2.1⟩

end Builder

end SchemaCatalog
