import Mathlib.Data.List.Perm.Subperm
import SchemaCatalog.Proofs.States

/-!
# What can fail

A failure says what is wrong with a statement, or else that a builder has lost something that was
found in it before. `CatalogError.isReported` tells the two apart by the kind of the failure, and no
statement of a run fails in the second way: `Builder.states_failures_reported`.

An operation that must find something comes after a lookup of it, so it is enough that nothing is
lost in between. Where a statement goes through what it has found and changes the builder on its
way, an invariant of the loop says so:

* indexes are dropped from metadata, and the keys of the tables stay;
* tables are removed at most as often as their key is filed (`exists_removeTables_eq_ok`);
* triggers are removed all at once (`DropTrigger.removed_eq`);
* the tables of a schema are moved by one renaming (`renameSchema_eq`).

All that is asked of the builder is that what carries the key of a table belongs to one, and every
state of a run is `Closed`, those after failures and after renamings that bring two tables together
included.
-/

namespace SchemaCatalog

/-- The kinds of failures. -/
inductive FailureKind where
  | unresolved | unknownColumn | alreadyExists | notFound | dropConflict | revokeMismatch
  | syntaxError | load | unsupported
  /-- A catalog contradicts itself. -/
  | inconsistent
  /-- A catalog was asked about a table of another one. -/
  | invalidArgument
  /-- Something that was looked up before is gone. -/
  | vanished
  deriving DecidableEq, Repr

/-- The kind of a failure, without the names involved. -/
def CatalogError.kind : CatalogError → FailureKind
  | unresolved .. => .unresolved
  | unknownColumn .. => .unknownColumn
  | alreadyExists .. => .alreadyExists
  | notFound .. => .notFound
  | dropConflict .. => .dropConflict
  | revokeMismatch .. => .revokeMismatch
  | syntaxError .. => .syntaxError
  | load .. => .load
  | unsupported .. => .unsupported
  | danglingReference .. | referenceCycle .. => .inconsistent
  | absentTable .. | absentOwner .. => .invalidArgument
  | vanished .. => .vanished

/-- The failure is about the statement that failed. -/
def CatalogError.isReported (e : CatalogError) : Bool :=
  [FailureKind.unresolved, .unknownColumn, .alreadyExists, .notFound, .dropConflict,
    .revokeMismatch, .unsupported].contains e.kind

/-! ## 1. Computations and outcomes -/

/-- The computation fails in a reported way only. -/
structure Reports {α : Type} (x : Except CatalogError α) : Prop where
  isReported : ∀ e, x = .error e → e.isReported = true

namespace Reports

variable {α β : Type} {x : Except CatalogError α} {f : α → Except CatalogError β}
  {e : CatalogError}

theorem of_ok {a : α} (h : x = .ok a) : Reports x where
  isReported := by
    rintro e rfl
    cases h

theorem ok (a : α) : Reports (.ok a : Except CatalogError α) := of_ok rfl

theorem error (h : e.isReported = true) : Reports (.error e : Except CatalogError α) where
  isReported := by
    rintro e' ⟨⟩
    exact h

/-- A sequence reports what its first step does, and what the rest does with its result. -/
theorem bind (hx : Reports x) (hf : ∀ a, x = .ok a → Reports (f a)) : Reports (x >>= f) where
  isReported e h := by
    rcases bind_eq_error.mp h with hfirst | ⟨a, ha, hrest⟩
    · exact hx.isReported e hfirst
    · exact (hf a ha).isReported e hrest

/-- What is behind a guard matters only where the guard lets it pass. -/
theorem guard {c : Prop} [Decidable c] {y : Except CatalogError β} (he : e.isReported = true)
    (hy : ¬ c → Reports y) : Reports (if c then throw e >>= f else y) := by
  split
  · exact error he
  · rename_i hc
    exact hy hc

theorem forM {f : α → Except CatalogError Unit} {as : List α} (h : ∀ a ∈ as, Reports (f a)) :
    Reports (as.forM f) := by
  induction as with
  | nil => exact ok ()
  | cons a as ih =>
    obtain ⟨ha, has⟩ := List.forall_mem_cons.mp h
    exact ha.bind fun _ _ => ih has

theorem mapM {as : List α} (h : ∀ a ∈ as, Reports (f a)) : Reports (as.mapM f) where
  isReported e he := by
    obtain ⟨a, ha, hfail⟩ := mapM_eq_error he
    exact (h a ha).isReported e hfail

/-- A fold reports what its steps do. -/
theorem foldlM {g : β → α → Except CatalogError β} (h : ∀ b a, Reports (g b a)) (as : List α)
    (b : β) : Reports (as.foldlM g b) := by
  induction as generalizing b with
  | nil => exact ok b
  | cons a as ih =>
    rw [List.foldlM_cons]
    exact (h b a).bind fun b' _ => ih b'

end Reports

namespace Outcome

/-- The outcome is a success or a failure that is reported. -/
structure Reports (o : Outcome) : Prop where
  isReported : ∀ e, o.failure = some e → e.isReported = true

theorem Reports.success (b : Builder) : Reports { builder := b } where
  isReported := by rintro e ⟨⟩

theorem Reports.failed {e : CatalogError} (h : e.isReported = true) (b : Builder) :
    Reports { builder := b, failure := some e } where
  isReported := by
    rintro e' ⟨⟩
    exact h

theorem Reports.whole {b : Builder} {r : Except CatalogError Builder}
    (h : SchemaCatalog.Reports r) : (whole b r).Reports := by
  cases r with
  | ok b' => exact success b'
  | error e => exact failed (h.isReported e rfl) b

/-- Doing something for several targets reports what doing it for one does, in the states that come
up on the way. -/
theorem Reports.each {α : Type} {P : Builder → Prop} {step : Builder → α → Outcome} {as : List α}
    (keeps : ∀ b, ∀ a ∈ as, P b → P (step b a).builder)
    (reports : ∀ b, ∀ a ∈ as, P b → (step b a).Reports) {b : Builder} (hb : P b) :
    (each step b as).Reports := by
  induction as generalizing b with
  | nil => exact success b
  | cons a as ih =>
    have hreports := reports b a (List.mem_cons_self ..) hb
    have hkeeps := keeps b a (List.mem_cons_self ..) hb
    rw [Outcome.each]
    split
    · rename_i b' heq
      rw [heq] at hkeeps
      exact ih (fun b a' ha' => keeps b a' (List.mem_cons_of_mem _ ha'))
        (fun b a' ha' => reports b a' (List.mem_cons_of_mem _ ha')) hkeeps
    · exact hreports

end Outcome

/-! ## 2. Checks -/

theorem requireColumns_reports (columns : List Column) (table : String) (names : List String) :
    Reports (requireColumns columns table names) := by
  rw [requireColumns]
  split
  · exact .error rfl
  · exact .ok _

theorem resolveColumns_reports (columns : List Column) (table : String) (e : Expression) :
    Reports (resolveColumns columns table e) := by
  rw [resolveColumns]
  split
  · exact .error rfl
  · exact .ok _

namespace Builder

variable {b : Builder}

theorem requireTable_reports (b : Builder) (n : ObjectName) (referencedBy : String) :
    Reports (b.requireTable n referencedBy) := by
  rw [requireTable]
  split
  · exact .ok _
  · exact .error rfl

theorem requireRole_reports (b : Builder) (name referencedBy : String) :
    Reports (b.requireRole name referencedBy) := by
  rw [requireRole]
  split
  · exact .ok _
  · exact .error rfl

/-! ## 3. What is found again -/

/-- Under the key of a table that a name is resolved to some entry is found. -/
theorem exists_requireEntry_eq_ok {n : ObjectName} {t : Table} (h : b.resolve? n = some t) :
    ∃ e, b.requireEntry t.key = .ok e := by
  obtain ⟨e, he, rfl, -⟩ := resolve?_eq_some h
  obtain ⟨e', he'⟩ := exists_entry? he
  exact ⟨e', requireEntry_eq_ok.mpr he'⟩

/-- What is filed under the key of a table can be changed. -/
theorem exists_updateEntry_eq_ok {key : TableKey} (h : key ∈ b.entries.map (·.key))
    (f : TableEntry → TableEntry) : ∃ b', b.updateEntry key f = .ok b' := by
  obtain ⟨e, he, rfl⟩ := List.mem_map.mp h
  obtain ⟨e', he'⟩ := exists_entry? he
  rw [updateEntry, he']
  exact ⟨_, rfl⟩

theorem updateEntry_reports {n : ObjectName} {t : Table} (h : b.resolve? n = some t)
    (f : TableEntry → TableEntry) : Reports (b.updateEntry t.key f) := by
  obtain ⟨e, he, rfl, -⟩ := resolve?_eq_some h
  obtain ⟨b', hb'⟩ := exists_updateEntry_eq_ok (List.mem_map_of_mem he) f
  exact .of_ok hb'

/-- Tables whose keys are filed, each as often as it stands among them, can all be removed. -/
theorem exists_removeTables_eq_ok {ts : List Table}
    (h : (ts.map (·.key)).Subperm (b.entries.map (·.key))) :
    ∃ b', ts.foldlM (fun b t => b.removeTable t.key) b = .ok b' := by
  induction ts generalizing b with
  | nil => exact ⟨b, rfl⟩
  | cons t ts ih =>
    obtain ⟨e, he, hkey⟩ := List.mem_map.mp (h.subset (List.mem_cons_self ..))
    obtain ⟨e', he'⟩ := exists_entry? he
    rw [hkey] at he'
    rw [List.foldlM_cons, removeTable, he']
    refine ih ?_
    have herased := h.erase t.key
    rw [List.map_cons, List.erase_cons_head, List.erase_eq_eraseP', List.eraseP_map] at herased
    exact herased

end Builder

/-! ## 4. Tables -/

variable {b : Builder}

theorem declareColumns_reports (table : ObjectName) (ordinal : Nat) (seen : List String)
    (ds : List ColumnDefinition) : Reports (declareColumns table ordinal seen ds) := by
  induction ds generalizing ordinal seen with
  | nil => exact .ok _
  | cons d ds ih =>
    rw [declareColumns]
    split
    · exact .error rfl
    · have hrest := ih (ordinal + 1) (d.name :: seen)
      cases h : declareColumns table (ordinal + 1) (d.name :: seen) ds with
      | ok rest => exact .ok _
      | error e => exact .error (hrest.isReported e h)

theorem declareConstraint_reports (b : Builder) (table : ObjectName) (m : TableMetadata)
    (d : ConstraintDefinition) : Reports (declareConstraint b table m d) := by
  cases d with
  | primaryKey columns name =>
    simp only [declareConstraint]
    split
    · exact (requireColumns_reports ..).bind fun _ _ => .ok _
    · exact .error rfl
  | unique columns name nullsDistinct =>
    exact (requireColumns_reports ..).bind fun _ _ => .ok _
  | check expression name => exact (resolveColumns_reports ..).bind fun _ _ => .ok _
  | foreignKey d => exact .ok _

/-- The table that a foreign key references is the new one, or its entry is found. -/
theorem referencedTable_reports (b : Builder) (table : ObjectName) (m : TableMetadata)
    (target : ObjectName) (referencedBy : String) :
    Reports (referencedTable b table m target referencedBy) := by
  rw [referencedTable]
  split
  · exact .ok _
  · refine (b.requireTable_reports ..).bind fun t ht => ?_
    obtain ⟨e, he⟩ := Builder.exists_requireEntry_eq_ok (Builder.requireTable_eq_ok.mp ht)
    exact (Reports.of_ok he).bind fun _ _ => .ok _

theorem declareForeignKey_reports (b : Builder) (table : ObjectName) (m : TableMetadata)
    (d : ForeignKeyDefinition) : Reports (declareForeignKey b table m d) := by
  refine (requireColumns_reports ..).bind fun _ _ => ?_
  refine (referencedTable_reports ..).bind fun target _ => .guard rfl fun _ => ?_
  exact (requireColumns_reports ..).bind fun _ _ => .guard rfl fun _ => .ok _

theorem CreateTable.apply_reports (s : CreateTable) (b : Builder) : Reports (s.apply b) := by
  rw [CreateTable.apply]
  split
  · split
    · exact .ok _
    · exact .error rfl
  · refine Reports.bind ?_ fun _ _ => .ok _
    refine (declareColumns_reports ..).bind fun _ _ => ?_
    refine (Reports.foldlM (declareConstraint_reports b s.name) _ _).bind fun m _ => ?_
    exact (Reports.mapM fun d _ => declareForeignKey_reports b s.name m d).bind fun _ _ => .ok _

/-- The tables to drop are of the builder, each once. -/
theorem tablesToDrop_eq_ok {ifExists : Bool} {names : List ObjectName} {found ts : List Table}
    (hnodup : (found.map (·.key)).Nodup) (hsub : found ⊆ b.tables)
    (h : tablesToDrop b ifExists found names = .ok ts) :
    (ts.map (·.key)).Nodup ∧ ts ⊆ b.tables := by
  induction names generalizing found with
  | nil =>
    rw [tablesToDrop] at h
    cases h
    exact ⟨hnodup, hsub⟩
  | cons n names ih =>
    rw [tablesToDrop] at h
    split at h
    · split at h
      · exact ih hnodup hsub h
      · cases h
    · rename_i t ht
      split at h
      · exact ih hnodup hsub h
      · rename_i hnew
        obtain ⟨e, he, rfl, -⟩ := Builder.resolve?_eq_some ht
        refine ih ?_ (List.append_subset.mpr ⟨hsub, ?_⟩) h
        · rw [List.map_append, List.map_singleton, List.nodup_append_comm]
          refine List.nodup_cons.mpr ⟨fun hmem => hnew ?_, hnodup⟩
          obtain ⟨u, hu, hkey⟩ := List.mem_map.mp hmem
          exact List.any_eq_true.mpr ⟨u, hu, beq_iff_eq.mpr hkey⟩
        · exact fun u hu => List.mem_singleton.mp hu ▸ List.mem_map_of_mem he

theorem tablesToDrop_reports (b : Builder) (ifExists : Bool) (names : List ObjectName)
    (found : List Table) : Reports (tablesToDrop b ifExists found names) := by
  induction names generalizing found with
  | nil => exact .ok _
  | cons n names ih =>
    rw [tablesToDrop]
    split
    · split
      · exact ih found
      · exact .error rfl
    · exact ih _

theorem requireUnreferenced_reports (b : Builder) (dropped : List Table) :
    Reports (requireUnreferenced b dropped) := by
  refine .forM fun t _ => ?_
  dsimp only
  split
  · exact .ok _
  · exact .error rfl

/-- The tables to drop are removed one after the other, each from where it was found. -/
theorem DropTable.apply_reports (s : DropTable) (b : Builder) : Reports (s.apply b) := by
  refine (tablesToDrop_reports ..).bind fun dropped hdropped => ?_
  obtain ⟨hnodup, hsub⟩ := tablesToDrop_eq_ok (by simp) (List.nil_subset _) hdropped
  have hremoved : Reports (dropped.foldlM (fun b t => b.removeTable t.key) b) := by
    have hkeys : dropped.map (·.key) ⊆ b.entries.map (·.key) := by
      refine List.Subset.trans (List.map_subset _ hsub) ?_
      rw [Builder.tables, List.map_map]
      exact List.Subset.refl _
    obtain ⟨b', hb'⟩ := Builder.exists_removeTables_eq_ok (List.subperm_of_subset hnodup hkeys)
    exact .of_ok hb'
  dsimp only
  split
  · exact hremoved
  · exact (requireUnreferenced_reports ..).bind fun _ _ => hremoved

theorem AlterTable.key_act (t : Table) (actions : List RowSecurityAction) :
    (actions.foldl RowSecurityAction.act t).key = t.key := by
  induction actions generalizing t with
  | nil => rfl
  | cons a actions ih =>
    refine (ih _).trans ?_
    cases a <;> rfl

theorem AlterTable.apply_reports (s : AlterTable) (b : Builder) : Reports (s.apply b) := by
  rw [AlterTable.apply]
  split
  · split
    · exact .ok _
    · exact .error rfl
  · rename_i t ht
    rw [Builder.replaceTable, AlterTable.key_act]
    exact Builder.updateEntry_reports ht _

/-! ## 5. Indexes -/

/-- An index is found in the metadata of its table. -/
theorem TableMetadata.FiledUnder.table_of_mem_indexPlaces {m : TableMetadata} {key : TableKey}
    (h : m.FiledUnder key) {name : String} {p : IndexPlace} (hp : p ∈ m.indexPlaces name) :
    p.table = key := by
  rcases List.mem_append.mp hp with hindex | hunique
  · obtain ⟨i, hi, rfl⟩ := List.mem_map.mp hindex
    exact h.indices i (List.mem_of_mem_filter hi)
  · obtain ⟨i, hi, rfl⟩ := List.mem_map.mp hunique
    exact h.uniqueIndices i (List.mem_of_mem_filter hi)

namespace Builder

theorem metadata_of_mem_tables {t : Table} (ht : t ∈ b.tables) :
    b.view.metadata t = .ok (b.view.metadataOf t.key) := by
  obtain ⟨e, he, rfl⟩ := List.mem_map.mp ht
  obtain ⟨e', he'⟩ := exists_entry? he
  have hview : b.view.entry? e.table.key = some e' := he'
  rw [CatalogView.metadata, CatalogView.metadataOf, hview]

/-- The indexes of a name are those of the tables in its schema; there is nothing to fail. -/
theorem indexPlaces_eq_flatMap (b : Builder) (n : ObjectName) :
    b.indexPlaces n = .ok ((b.tables.filter n.admitsSchemaOf).flatMap fun t =>
      (b.view.metadataOf t.key).indexPlaces n.name) := by
  have hmetadata : (b.tables.filter n.admitsSchemaOf).mapM b.view.metadata
      = .ok ((b.tables.filter n.admitsSchemaOf).map fun t => b.view.metadataOf t.key) := by
    rw [mapM_eq_ok, List.forall₂_map_right_iff]
    exact List.forall₂_same.mpr fun t ht => metadata_of_mem_tables (List.mem_of_mem_filter ht)
  rw [indexPlaces, hmetadata]
  exact congrArg Except.ok (List.flatMap_map ..)

theorem exists_indexPlaces_eq_ok (b : Builder) (n : ObjectName) :
    ∃ places, b.indexPlaces n = .ok places := ⟨_, b.indexPlaces_eq_flatMap n⟩

/-- An index is found in a table of the builder, under whose key it is filed. -/
theorem indexPlaces_table (hb : b.Closed) {n : ObjectName} {places : List IndexPlace}
    (h : b.indexPlaces n = .ok places) {p : IndexPlace} (hp : p ∈ places) :
    p.table ∈ b.entries.map (·.key) := by
  obtain ⟨found, hfound, hplaces⟩ := bind_eq_ok.mp h
  rw [pure_eq_ok] at hplaces
  subst hplaces
  obtain ⟨m, hm, hpm⟩ := List.mem_flatMap.mp hp
  obtain ⟨t, -, htm⟩ := exists_of_forall₂_right (mapM_eq_ok.mp hfound) hm
  rw [CatalogView.metadata] at htm
  split at htm <;> cases htm
  rename_i e he
  have hmem := (entry?_eq_some he).1
  exact List.mem_map.mpr ⟨e, hmem, ((hb.entries e hmem).table_of_mem_indexPlaces hpm).symm⟩

/-- Only the index of a primary key is not dropped. -/
theorem exists_dropIndex_eq_ok {n : ObjectName} {p : IndexPlace}
    (h : p.table ∈ b.entries.map (·.key)) (hp : p.primaryKey = false) :
    ∃ b', b.dropIndex n p = .ok b' := by
  rw [dropIndex, if_neg (by simp [hp]), updateMetadata]
  exact exists_updateEntry_eq_ok h _

theorem dropIndex_reports {n : ObjectName} {p : IndexPlace}
    (h : p.table ∈ b.entries.map (·.key)) : Reports (b.dropIndex n p) := by
  cases hp : p.primaryKey with
  | true =>
    rw [dropIndex, if_pos hp]
    exact .error rfl
  | false =>
    obtain ⟨b', hb'⟩ := exists_dropIndex_eq_ok h hp
    exact .of_ok hb'

/-- Dropping an index leaves every table under its key. -/
theorem map_key_dropIndex {b' : Builder} {n : ObjectName} {p : IndexPlace}
    (h : b.dropIndex n p = .ok b') : b'.entries.map (·.key) = b.entries.map (·.key) := by
  rw [dropIndex_eq_ok h]
  refine map_replaceFirst (g := TableEntry.key) ?_ _
  exact fun _ _ => rfl

/-- The places of the indexes are those of the state before the first one is dropped; what keeps
them good is that the keys of the tables stay. -/
theorem dropIndices_reports (hb : b.Closed) (ifExists : Bool) (n : ObjectName) :
    (b.dropIndices ifExists n).Reports := by
  obtain ⟨places, hplaces⟩ := b.exists_indexPlaces_eq_ok n
  rw [dropIndices, hplaces]
  cases places with
  | nil =>
    dsimp only
    split
    · exact .success b
    · exact .failed rfl b
  | cons first places =>
    refine .each (P := fun c => c.entries.map (·.key) = b.entries.map (·.key))
      (fun c p _ hc => ?_) (fun c p hp hc => ?_) rfl
    · exact Outcome.whole_invariant hc fun c' hc' => (map_key_dropIndex hc').trans hc
    · refine .whole (dropIndex_reports ?_)
      rw [hc]
      exact indexPlaces_table hb hplaces hp

end Builder

theorem CreateIndex.apply_reports (s : CreateIndex) (b : Builder) : Reports (s.apply b) := by
  refine (b.requireTable_reports ..).bind fun t ht => ?_
  have ht := Builder.requireTable_eq_ok.mp ht
  refine Reports.bind ?_ fun taken _ => ?_
  · rw [CreateIndex.takenName?]
    split
    · rename_i name _
      obtain ⟨places, hplaces⟩ := b.exists_indexPlaces_eq_ok ⟨name, t.schema⟩
      exact (Reports.of_ok hplaces).bind fun _ _ => .ok _
    · exact .ok _
  · split
    · split
      · exact .ok _
      · exact .error rfl
    · obtain ⟨e, he⟩ := Builder.exists_requireEntry_eq_ok ht
      refine (Reports.of_ok he).bind fun e _ => ?_
      refine (Reports.forM fun item _ => ?_).bind fun _ _ => Builder.updateEntry_reports ht _
      exact (resolveColumns_reports ..).bind fun _ _ => .ok _

/-! ## 6. Functions, triggers, policies -/

theorem CreateFunction.apply_reports (s : CreateFunction) (b : Builder) : Reports (s.apply b) := by
  simp only [CreateFunction.apply]
  split
  · exact .ok _
  · rename_i g hfound
    split
    · have hmem : g ∈ b.functions := List.mem_of_mem_filter (List.mem_of_find?_eq_some hfound)
      rw [Builder.replaceFunction, if_pos (List.contains_iff_mem.mpr hmem)]
      exact .ok _
    · exact .error rfl

theorem Builder.dropFunctions_reports (b : Builder) (ifExists : Bool) (s : FunctionSignature) :
    Reports (b.dropFunctions ifExists s) := by
  simp only [Builder.dropFunctions]
  split
  · split
    · exact .ok _
    · exact .error rfl
  · split
    · exact .error rfl
    · exact .ok _

theorem CreateTrigger.apply_reports (s : CreateTrigger) (b : Builder) : Reports (s.apply b) := by
  refine (b.requireTable_reports ..).bind fun t ht => ?_
  split
  · exact .error rfl
  · obtain ⟨e, he⟩ := Builder.exists_requireEntry_eq_ok (Builder.requireTable_eq_ok.mp ht)
    refine (Reports.of_ok he).bind fun e _ => (requireColumns_reports ..).bind fun _ _ => ?_
    dsimp only
    split
    · exact .ok _
    · rename_i hthere
      split
      · rw [Bool.not_eq_true, Bool.not_eq_false'] at hthere
        rw [Builder.replaceTrigger]
        exact (if_pos hthere).symm ▸ .ok _
      · exact .error rfl

theorem DropTrigger.apply_reports (s : DropTrigger) (b : Builder) : Reports (s.apply b) := by
  simp only [DropTrigger.apply]
  split
  · split
    · exact .ok _
    · exact .error rfl
  · exact .of_ok (s.removed_eq b _)

theorem CreatePolicy.apply_reports (s : CreatePolicy) (b : Builder) : Reports (s.apply b) :=
  (b.requireTable_reports ..).bind fun _ _ => .guard rfl fun _ => .ok _

theorem DropPolicy.apply_reports (s : DropPolicy) (b : Builder) : Reports (s.apply b) := by
  rw [DropPolicy.apply]
  split
  · rename_i key hkey
    rw [Builder.removePolicy, if_pos (Option.filter_eq_some_iff.mp hkey).2]
    exact .ok _
  · split
    · exact .ok _
    · exact .error rfl

/-! ## 7. Roles and grants -/

namespace Builder

theorem replaceRole_reports {name : String} {r r' : Role} (h : b.role? name = some r)
    (hname : r'.name = r.name) : Reports (b.replaceRole r') := by
  have hthere : b.roles.any (·.name == r'.name) = true :=
    List.any_eq_true.mpr ⟨r, List.mem_of_find?_eq_some h, beq_iff_eq.mpr hname.symm⟩
  rw [replaceRole, if_pos hthere]
  exact .ok _

theorem dropRole_reports (b : Builder) (ifExists : Bool) (name : String) :
    Reports (b.dropRole ifExists name) := by
  simp only [dropRole]
  split
  · split
    · exact .ok _
    · exact .error rfl
  · split
    · exact .ok _
    · exact .error rfl

end Builder

theorem CreateRole.apply_reports (s : CreateRole) (b : Builder) : Reports (s.apply b) :=
  .guard rfl fun _ =>
    (Reports.forM fun _ _ => b.requireRole_reports ..).bind fun _ _ => .ok _

theorem GrantRole.grantTo_reports (s : GrantRole) (b : Builder) (grantee : String) :
    Reports (s.grantTo b grantee) := by
  refine (b.requireRole_reports ..).bind fun _ _ => ?_
  split
  · rename_i r hr
    exact Builder.replaceRole_reports hr rfl
  · exact .ok _

theorem GrantRole.apply_reports (s : GrantRole) (b : Builder) : (s.apply b).Reports := by
  rw [GrantRole.apply]
  split
  · rename_i e he
    exact .failed ((Reports.forM fun _ _ => b.requireRole_reports ..).isReported e he) b
  · exact .each (P := fun _ => True) (fun _ _ _ _ => trivial)
      (fun b grantee _ _ => .whole (s.grantTo_reports b grantee)) trivial

theorem RevokeRole.revokeFrom_reports (s : RevokeRole) (state : Builder × Nat) (grantee : String) :
    Reports (s.revokeFrom state grantee) := by
  simp only [RevokeRole.revokeFrom]
  split
  · rename_i r hr
    have hname : (r.leave s.roles).name = r.name := rfl
    exact (Builder.replaceRole_reports hr hname).bind fun _ _ => .ok _
  · exact .ok _

theorem RevokeRole.apply_reports (s : RevokeRole) (b : Builder) : (s.apply b).Reports := by
  rw [RevokeRole.apply]
  split
  · rename_i e he
    exact .failed ((Reports.foldlM s.revokeFrom_reports _ _).isReported e he) b
  · split
    · exact .failed rfl _
    · exact .success _

theorem resolveObjects_reports (b : Builder) (objects : GrantObjects) (referencedBy : String) :
    Reports (resolveObjects b objects referencedBy) := by
  rw [resolveObjects]
  split
  · exact (Reports.mapM fun _ _ => b.requireTable_reports ..).bind fun _ _ => .ok _
  all_goals
    try exact .ok _
  all_goals
    refine (Reports.forM fun n _ => ?_).bind fun _ _ => .ok _
    split
    · exact .ok _
    · exact .error rfl

/-- The columns of a table that a grant names are looked for in its entry, which is found. -/
theorem requirePrivilegeColumns_reports {n : ObjectName} {t : Table} (h : b.resolve? n = some t)
    (privileges : List Privilege) : Reports (requirePrivilegeColumns b privileges t.key) := by
  obtain ⟨e, he⟩ := Builder.exists_requireEntry_eq_ok h
  refine (Reports.of_ok he).bind fun e _ => .forM fun p _ => requireColumns_reports ..

theorem GrantPrivileges.apply_reports (s : GrantPrivileges) (b : Builder) :
    Reports (s.apply b) := by
  have hresolved (referencedBy : String) : Reports (do
      let objects ← resolveObjects b s.objects referencedBy
      if objects.kind == .tables then
        objects.names.forM (requirePrivilegeColumns b s.privileges)
      pure (b.addGrant { s.grant with objects })) := by
    refine (resolveObjects_reports ..).bind fun objects hobjects => ?_
    obtain ⟨hkind, hnames⟩ := resolveObjects_eq_ok hobjects
    split
    · rename_i htables
      refine (Reports.forM fun key hkey => ?_).bind fun _ _ => .ok _
      have hforall := hnames (hkind ▸ beq_iff_eq.mp htables)
      obtain ⟨n, -, t, ht, rfl⟩ := exists_of_forall₂_right hforall hkey
      exact requirePrivilegeColumns_reports ht _
    · exact .ok _
  refine (Reports.forM fun _ _ => b.requireRole_reports ..).bind fun _ _ => ?_
  -- With a grantor or without one, what follows is the same.
  split
  · exact (b.requireRole_reports ..).bind fun _ _ => hresolved _
  · exact hresolved _

theorem RevokePrivileges.apply_reports (s : RevokePrivileges) (b : Builder) :
    Reports (s.apply b) := by
  simp only [RevokePrivileges.apply]
  split
  · exact .ok _
  · exact .error rfl

/-! ## 8. Schemas -/

theorem CreateSchema.apply_reports (s : CreateSchema) (b : Builder) : Reports (s.apply b) := by
  rw [CreateSchema.apply]
  split
  · split
    · exact .ok _
    · exact .error rfl
  · exact .ok _

/-- The tables of a schema are removed, each as often as its key is filed there. -/
theorem Builder.dropSchema_reports (b : Builder) (ifExists cascade : Bool) (name : String) :
    Reports (b.dropSchema ifExists cascade name) := by
  rw [Builder.dropSchema]
  split
  · split
    · exact .ok _
    · exact .error rfl
  · refine .guard rfl fun _ => Reports.bind ?_ fun _ _ => .ok _
    have hsub : ((b.view.tablesIn name).map Table.key).Sublist (b.view.tables.map Table.key) :=
      List.filter_sublist.map _
    rw [CatalogView.tables, List.map_map] at hsub
    obtain ⟨b', hb'⟩ := Builder.exists_removeTables_eq_ok hsub.subperm
    exact .of_ok hb'

theorem Builder.renameSchema_reports (hb : b.Closed) {old new : String} {schema : Schema}
    (hold : b.schema? old = some schema) : Reports (b.renameSchema schema new) := by
  cases hnew : b.schema? new with
  | none => exact .of_ok (Builder.renameSchema_eq hold hnew hb.entries)
  | some taken =>
    rw [Builder.renameSchema, hnew]
    exact .error rfl

theorem AlterSchema.apply_reports (hb : b.Closed) (s : AlterSchema) : Reports (s.apply b) := by
  rw [AlterSchema.apply]
  split
  · split
    · exact .ok _
    · exact .error rfl
  · rename_i schema hschema
    split
    · have hthere : b.schemas.any (·.name == schema.name) = true :=
        List.any_eq_true.mpr ⟨schema, List.mem_of_find?_eq_some hschema, BEq.rfl⟩
      rw [Builder.replaceSchema, if_pos hthere]
      exact .ok _
    · exact Builder.renameSchema_reports hb hschema

/-! ## 9. Statements and runs -/

/-- A statement that is applied to a closed builder fails in a reported way only. -/
theorem Statement.apply_reports (s : Statement) (hb : b.Closed) : (s.apply b).Reports := by
  cases s with
  | createTable s => exact .whole (s.apply_reports b)
  | dropTable s => exact .whole (s.apply_reports b)
  | alterTable s => exact .whole (s.apply_reports b)
  | createIndex s => exact .whole (s.apply_reports b)
  | dropIndex s =>
    refine .each (P := Builder.Closed) (fun b n _ hb => ?_)
      (fun b n _ hb => Builder.dropIndices_reports hb s.ifExists n) hb
    have hone := apply_closed (s := .dropIndex { names := [n], ifExists := s.ifExists }) hb
    rwa [Statement.apply, DropIndex.apply, Outcome.each_singleton] at hone
  | createFunction s => exact .whole (s.apply_reports b)
  | dropFunction s =>
    exact .each (P := fun _ => True) (fun _ _ _ _ => trivial)
      (fun b target _ _ => .whole (b.dropFunctions_reports s.ifExists target)) trivial
  | createTrigger s => exact .whole (s.apply_reports b)
  | dropTrigger s => exact .whole (s.apply_reports b)
  | createPolicy s => exact .whole (s.apply_reports b)
  | dropPolicy s => exact .whole (s.apply_reports b)
  | createRole s => exact .whole (s.apply_reports b)
  | dropRole s =>
    exact .each (P := fun _ => True) (fun _ _ _ _ => trivial)
      (fun b name _ _ => .whole (b.dropRole_reports s.ifExists name)) trivial
  | grantPrivileges s => exact .whole (s.apply_reports b)
  | revokePrivileges s => exact .whole (s.apply_reports b)
  | grantRole s => exact s.apply_reports b
  | revokeRole s => exact s.apply_reports b
  | createSchema s => exact .whole (s.apply_reports b)
  | dropSchema s =>
    exact .each (P := fun _ => True) (fun _ _ _ _ => trivial)
      (fun b name _ _ => .whole (b.dropSchema_reports s.ifExists s.cascade name)) trivial
  | alterSchema s => exact .whole (s.apply_reports hb)
  | setTimeZone value => exact .success _
  | commentOn _ => exact .success b
  | other kind sql =>
    rw [Statement.apply]
    split
    · exact .success b
    · exact .failed rfl b

namespace Builder

/-- Whatever statements have been applied to an empty builder, with or without success, the next one
succeeds or its failure is reported: nothing that was looked up is missing when it is needed. -/
theorem states_failures_reported (name : String) (statements : List Statement) (s : Statement)
    {e : CatalogError} (h : (s.apply ((initial name).run statements)).failure = some e) :
    e.isReported = true :=
  (s.apply_reports (run_closed (initial_consistent name).closed statements)).isReported e h

/-- Two tables that a renaming has brought together lose an index of one name each, before a name
that no index has is reported. -/
theorem states_failures_reported_of_met_tables :
    let statements := Script.statements
      "CREATE SCHEMA a; CREATE TABLE a.t (x int); CREATE INDEX i ON a.t (x);
       CREATE TABLE b.t (y int); CREATE INDEX i ON b.t (y); ALTER SCHEMA a RENAME TO b"
    let s : Statement := .dropIndex { names := [⟨"i", none⟩, ⟨"j", none⟩] }
    (s.apply ((initial "shop").run statements)).failure = some (.notFound "index" "j")
      ∧ (CatalogError.notFound "index" "j").isReported = true := by
  intro statements s
  have hfails : (s.apply ((initial "shop").run statements)).failure
      = some (.notFound "index" "j") := by decide +kernel
  exact ⟨hfails, states_failures_reported "shop" statements s hfails⟩

end Builder

end SchemaCatalog
