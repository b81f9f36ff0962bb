import SchemaCatalog.Proofs.Tables

/-!
# What the success of a statement means

One lemma for each kind of statement says which checks it has passed when it succeeds and how the
builder after it comes from the builder before. Nothing that follows opens a statement again.

A statement about roles, functions or the declaration of schemas leaves the tables alone and
whatever belongs to tables, which is `Builder.SameOwned`; one about roles or schemas leaves the
functions alone as well, which is `Builder.SameRoutines`; and one about roles leaves everything else
alone, which is `Builder.OnlyRoles`.
-/

namespace SchemaCatalog

/-- The names of the columns of a table. -/
def TableMetadata.columnNames (m : TableMetadata) : List String := m.columns.map (·.name)

/-! ## 1. Checks of columns -/

theorem any_name_eq {columns : List Column} {name : String} :
    (columns.any fun c => c.name == name) = true ↔ name ∈ columns.map (·.name) := by
  simp [List.any_eq_true]

theorem requireColumns_eq_ok {columns : List Column} {table : String} {names : List String} :
    requireColumns columns table names = .ok () ↔ names ⊆ columns.map (·.name) := by
  rw [requireColumns]
  split
  · rename_i name hfind
    have hmem := List.mem_of_find?_eq_some hfind
    have hno := List.find?_some hfind
    simp only [Bool.not_eq_true', ← Bool.not_eq_true, any_name_eq] at hno
    simp only [reduceCtorEq, false_iff]
    exact fun hsub => hno (hsub hmem)
  · rename_i hnone
    simp only [true_iff]
    intro name hname
    have hall := List.find?_eq_none.mp hnone name hname
    simpa only [Bool.not_eq_true', Bool.not_eq_false, any_name_eq] using hall

/-- The columns that an expression is resolved to are columns of the table. -/
theorem resolveColumns_subset {columns : List Column} {table : String} {e : Expression}
    {found : List Column} (h : resolveColumns columns table e = .ok found) : found ⊆ columns := by
  rw [resolveColumns] at h
  split at h
  · cases h
  · cases h
    intro c hc
    obtain ⟨name, -, hfind⟩ := List.mem_filterMap.mp hc
    exact List.mem_of_find?_eq_some hfind

/-! ## 2. Statements that leave the tables alone -/

namespace Builder

/-- Two builders hold the same tables and the same triggers, policies and grants. -/
structure SameOwned (b b' : Builder) : Prop where
  entries : b'.entries = b.entries
  triggers : b'.triggers = b.triggers
  policies : b'.policies = b.policies
  grants : b'.grants = b.grants

variable {b b' : Builder}

theorem SameOwned.refl (b : Builder) : b.SameOwned b := ⟨rfl, rfl, rfl, rfl⟩

theorem SameOwned.trans {c : Builder} (h : b.SameOwned b') (h' : b'.SameOwned c) : b.SameOwned c :=
  ⟨h'.entries.trans h.entries, h'.triggers.trans h.triggers, h'.policies.trans h.policies,
    h'.grants.trans h.grants⟩

/-- A function is added to those of its name if none of them has its input types, and otherwise
takes the place of one that has. -/
theorem createFunction_eq_ok {s : CreateFunction} (h : s.apply b = .ok b') :
    ((∀ g ∈ b.functionsNamed s.function.name,
        g.normalizedArgumentTypes ≠ s.function.normalizedArgumentTypes)
      ∧ b' = b.addFunction s.function)
    ∨ ∃ g ∈ b.functionsNamed s.function.name,
      g.normalizedArgumentTypes = s.function.normalizedArgumentTypes
      ∧ b' = { b with functions := replaceFirst (· == g) (fun _ => s.function) b.functions } := by
  simp only [CreateFunction.apply] at h
  split at h
  · rename_i hnone
    cases h
    refine Or.inl ⟨fun g hg hsame => ?_, rfl⟩
    exact List.find?_eq_none.mp hnone g hg (beq_iff_eq.mpr hsame)
  · rename_i g hfound
    have hsame := List.find?_some hfound
    split at h
    · rw [replaceFunction] at h
      split at h <;> cases h
      exact Or.inr ⟨g, List.mem_of_find?_eq_some hfound, beq_iff_eq.mp hsame, rfl⟩
    · cases h

/-- Of the functions of a name those that are denoted go, all of them only if nothing calls one. -/
theorem dropFunctions_eq_ok {ifExists : Bool} {s : FunctionSignature}
    (h : b.dropFunctions ifExists s = .ok b') :
    b' = b ∨ b' = b.removeFunctions (b.functionsOf s)
      ∧ ((b.functionsOf s).length = (b.functionsNamed s.name.name).length →
          b.functionDependents s.name.name = []) := by
  simp only [dropFunctions] at h
  split at h
  · split at h <;> cases h
    exact Or.inl rfl
  · split at h <;> cases h
    rename_i hguard
    refine Or.inr ⟨rfl, fun hall => ?_⟩
    simpa [hall] using hguard

theorem sameOwned_of_createFunction {s : CreateFunction} (h : s.apply b = .ok b') :
    b.SameOwned b' := by
  rcases createFunction_eq_ok h with ⟨-, rfl⟩ | ⟨g, -, -, rfl⟩ <;> exact ⟨rfl, rfl, rfl, rfl⟩

theorem sameOwned_of_dropFunctions {ifExists : Bool} {s : FunctionSignature}
    (h : b.dropFunctions ifExists s = .ok b') : b.SameOwned b' := by
  rcases dropFunctions_eq_ok h with rfl | ⟨rfl, -⟩
  · exact SameOwned.refl b'
  · exact ⟨rfl, rfl, rfl, rfl⟩

/-- Two builders hold the same functions too. -/
structure SameRoutines (b b' : Builder) : Prop extends b.SameOwned b' where
  functions : b'.functions = b.functions

theorem SameRoutines.refl (b : Builder) : b.SameRoutines b := ⟨SameOwned.refl b, rfl⟩

theorem SameRoutines.trans {c : Builder} (h : b.SameRoutines b') (h' : b'.SameRoutines c) :
    b.SameRoutines c :=
  ⟨h.toSameOwned.trans h'.toSameOwned, h'.functions.trans h.functions⟩

/-- Replacing a schema changes nothing else. -/
theorem replaceSchema_eq_ok {name : String} {s : Schema} (h : b.replaceSchema name s = .ok b') :
    b' = { b with schemas := replaceFirst (·.name == name) (fun _ => s) b.schemas } := by
  rw [replaceSchema] at h
  split at h <;> cases h
  rfl

theorem sameRoutines_of_replaceSchema {name : String} {s : Schema}
    (h : b.replaceSchema name s = .ok b') : b.SameRoutines b' := by
  rw [replaceSchema_eq_ok h]
  exact ⟨⟨rfl, rfl, rfl, rfl⟩, rfl⟩

theorem sameRoutines_of_createSchema {s : CreateSchema} (h : s.apply b = .ok b') :
    b.SameRoutines b' := by
  rw [CreateSchema.apply] at h
  split at h
  · split at h <;> cases h
    exact SameRoutines.refl b
  · cases h; exact ⟨⟨rfl, rfl, rfl, rfl⟩, rfl⟩

/-- Two builders differ in their roles at most. -/
def OnlyRoles (b b' : Builder) : Prop := b' = { b with roles := b'.roles }

theorem OnlyRoles.refl (b : Builder) : b.OnlyRoles b := rfl

theorem OnlyRoles.trans {c : Builder} (h : b.OnlyRoles b') (h' : b'.OnlyRoles c) : b.OnlyRoles c :=
  Eq.trans h' (congrArg (fun b => { b with roles := c.roles }) h)

theorem OnlyRoles.sameRoutines (h : b.OnlyRoles b') : b.SameRoutines b' := by
  rw [h]
  exact ⟨⟨rfl, rfl, rfl, rfl⟩, rfl⟩

theorem onlyRoles_of_replaceRole {r : Role} (h : b.replaceRole r = .ok b') : b.OnlyRoles b' := by
  rw [replaceRole] at h
  split at h <;> cases h
  rfl

theorem onlyRoles_of_createRole {s : CreateRole} (h : s.apply b = .ok b') : b.OnlyRoles b' := by
  simp only [CreateRole.apply, guard_eq_ok, bind_eq_ok] at h
  obtain ⟨-, _, -, hpure⟩ := h
  rw [← pure_eq_ok.mp hpure]
  rfl

theorem onlyRoles_of_dropRole {ifExists : Bool} {name : String}
    (h : b.dropRole ifExists name = .ok b') : b.OnlyRoles b' := by
  simp only [dropRole] at h
  split at h
  · split at h <;> cases h
    exact .refl b
  · split at h <;> cases h
    rfl

theorem onlyRoles_of_grantTo {s : GrantRole} {grantee : String}
    (h : s.grantTo b grantee = .ok b') : b.OnlyRoles b' := by
  simp only [GrantRole.grantTo, bind_eq_ok] at h
  obtain ⟨_, -, h⟩ := h
  split at h
  · exact onlyRoles_of_replaceRole h
  · rw [← pure_eq_ok.mp h]
    exact .refl b

theorem onlyRoles_revokeRole (s : RevokeRole) (b : Builder) : b.OnlyRoles (s.apply b).builder := by
  rw [RevokeRole.apply]
  split
  · exact .refl b
  · rename_i c removed hfold
    have hsame : b.OnlyRoles c := by
      refine foldlM_invariant (P := fun state => b.OnlyRoles state.1) ?_ (.refl b) hfold
      intro state grantee _ state' hstate hstep
      rw [RevokeRole.revokeFrom] at hstep
      split at hstep
      · simp only [bind_eq_ok, pure_eq_ok] at hstep
        obtain ⟨c', hreplace, rfl⟩ := hstep
        exact hstate.trans (onlyRoles_of_replaceRole hreplace)
      · rw [pure_eq_ok] at hstep
        exact hstep ▸ hstate
    split <;> exact hsame

/-! ## 3. Operations on tables -/

/-- An entry is changed where it is filed first. -/
theorem updateEntry_eq_ok {key : TableKey} {f : TableEntry → TableEntry}
    (h : b.updateEntry key f = .ok b') :
    b' = { b with entries := replaceFirst (·.key == key) f b.entries } := by
  rw [updateEntry] at h
  split at h <;> cases h
  rfl

/-- A view gives the metadata of the entry that is found, and empty metadata if there is none. -/
theorem metadataOf_eq (b : Builder) (key : TableKey) :
    b.view.metadataOf key = ((b.entry? key).map (·.metadata)).getD {} := by
  have hview : b.view.entry? key = b.entry? key := rfl
  rw [CatalogView.metadataOf, hview]
  cases b.entry? key <;> rfl

/-- Where keys are distinct the view gives the metadata of every entry. -/
theorem metadataOf_of_mem (hkeys : (b.entries.map (·.key)).Nodup) {e : TableEntry}
    (he : e ∈ b.entries) : b.view.metadataOf e.table.key = e.metadata := by
  have hentry : b.entry? e.table.key = some e := entry?_of_mem hkeys he
  rw [metadataOf_eq, hentry]
  rfl

/-- A change of metadata shows under the key of the table, and under no other one. -/
theorem metadataOf_updateMetadata {key : TableKey} {f : TableMetadata → TableMetadata}
    (h : b.updateMetadata key f = .ok b') (other : TableKey) :
    b'.view.metadataOf other
      = if key = other then f (b.view.metadataOf other) else b.view.metadataOf other := by
  have hentries : b'.entries = replaceFirst (·.key == key)
      (fun e => { e with metadata := f e.metadata }) b.entries := by
    rw [updateEntry_eq_ok h]
  rw [updateMetadata, updateEntry] at h
  rw [metadataOf_eq, metadataOf_eq]
  split
  · rename_i heq
    subst heq
    have hfind : b'.entry? key = (b.entry? key).map fun e => { e with metadata := f e.metadata } := by
      unfold entry?
      rw [hentries]
      exact find?_replaceFirst_self (p := fun e => e.key == key)
        (f := fun e => { e with metadata := f e.metadata }) (fun _ he => he) b.entries
    rw [hfind]
    cases hfound : b.entry? key with
    | some e => rfl
    | none => rw [hfound] at h; cases h
  · rename_i hne
    have hother (e : TableEntry) (he : (e.key == key) = true) : (e.key == other) = false := by
      rw [beq_iff_eq.mp he]
      exact beq_false_of_ne hne
    have hfind : b'.entry? other = b.entry? other := by
      unfold entry?
      rw [hentries]
      exact find?_replaceFirst_of_ne (f := fun e => { e with metadata := f e.metadata })
        hother hother b.entries
    rw [hfind]

theorem removeTable_eq_ok {key : TableKey} (h : b.removeTable key = .ok b') :
    b' = { b with
      entries := b.entries.eraseP (·.key == key)
      triggers := b.triggers.filter (·.table != key)
      policies := b.policies.filter (·.table != key)
      grants := (b.grants.map (·.withoutTable key)).filter fun g => !g.isVoid } := by
  rw [removeTable] at h
  split at h <;> cases h
  rfl

/-- Removing tables goes on with the builder that is left. -/
theorem removeTables_invariant {P : Builder → Prop}
    (step : ∀ b key b', P b → b.removeTable key = .ok b' → P b') {ts : List Table} (hb : P b)
    (h : ts.foldlM (fun b t => b.removeTable t.key) b = .ok b') : P b' :=
  foldlM_invariant (fun b t _ b' => step b t.key b') hb h

end Builder

variable {b b' : Builder}

/-! ## 4. Tables and indexes -/

/-- The entry that a statement files for a new table. -/
def CreateTable.entry (s : CreateTable) (m : TableMetadata) : TableEntry :=
  { table := { name := s.name.name, schema := s.name.schema }, metadata := m }

/-- A table is created where its name denotes none; otherwise nothing happens. -/
theorem CreateTable.apply_eq_ok {s : CreateTable} (h : s.apply b = .ok b') :
    b' = b ∨ ∃ m, b.resolve? s.name = none ∧ s.metadata b = .ok m
      ∧ b' = b.addTable (s.entry m) := by
  rw [CreateTable.apply] at h
  split at h
  · split at h <;> cases h
    exact Or.inl rfl
  · rename_i hnone
    obtain ⟨m, hm, hpure⟩ := bind_eq_ok.mp h
    rw [pure_eq_ok] at hpure
    exact Or.inr ⟨m, hnone, hm, hpure.symm⟩

/-- A table whose name is free and whose metadata can be made is created. -/
theorem CreateTable.apply_of_metadata {s : CreateTable} {m : TableMetadata}
    (hfree : b.resolve? s.name = none) (hm : s.metadata b = .ok m) :
    s.apply b = .ok (b.addTable (s.entry m)) := by
  rw [CreateTable.apply, hfree]
  exact bind_eq_ok.mpr ⟨m, hm, rfl⟩

/-- A table that stays has no foreign key into one that goes. -/
theorem requireUnreferenced_eq_ok {dropped : List Table}
    (h : requireUnreferenced b dropped = .ok ()) {e : TableEntry} (he : e ∈ b.entries)
    (hstays : e.key ∉ dropped.map (·.key)) {k : ForeignKey} (hk : k ∈ e.metadata.foreignKeys) :
    k.referenced ∉ dropped.map (·.key) := by
  intro hmem
  obtain ⟨t, ht, heq⟩ := List.mem_map.mp hmem
  have hcheck := forM_eq_ok.mp h t ht
  dsimp only at hcheck
  split at hcheck
  · rename_i hempty
    -- The entry itself is among the dependents that the check found none of.
    have hne : e.key ≠ t.key := fun hkey => hstays (hkey ▸ List.mem_map_of_mem ht)
    have hdependent : e.table ∈ b.tableDependents t.key := by
      refine List.mem_map.mpr ⟨e, List.mem_filter.mpr ⟨he, ?_⟩, rfl⟩
      rw [Bool.and_eq_true, bne_iff_ne, List.any_eq_true]
      exact ⟨hne, k, hk, beq_iff_eq.mpr heq.symm⟩
    have hnot : (dropped.any fun u => u.key == e.table.key) = false := by
      rw [List.any_eq_false]
      intro u hu hukey
      exact hstays (List.mem_map.mpr ⟨u, hu, beq_iff_eq.mp hukey⟩)
    rw [List.isEmpty_iff, List.filter_eq_nil_iff] at hempty
    exact hempty _ hdependent (by rw [hnot]; rfl)
  · cases hcheck

/-- Tables are dropped one by one, unreferenced by those that stay unless the drop cascades. -/
theorem DropTable.apply_eq_ok {s : DropTable} (h : s.apply b = .ok b') :
    ∃ dropped, tablesToDrop b s.ifExists [] s.names = .ok dropped
      ∧ (s.cascade = false → requireUnreferenced b dropped = .ok ())
      ∧ dropped.foldlM (fun b t => b.removeTable t.key) b = .ok b' := by
  simp only [DropTable.apply] at h
  obtain ⟨dropped, hdropped, h⟩ := bind_eq_ok.mp h
  refine ⟨dropped, hdropped, ?_⟩
  split at h
  · rename_i hcascade
    exact ⟨fun hfalse => absurd hcascade (by simp [hfalse]), h⟩
  · obtain ⟨_, hunreferenced, h⟩ := bind_eq_ok.mp h
    exact ⟨fun _ => hunreferenced, h⟩

/-- Altering a table changes nothing but its row security. -/
theorem AlterTable.apply_eq_ok {s : AlterTable} (h : s.apply b = .ok b') :
    b' = b ∨ ∃ t, b' = { b with
      entries := replaceFirst (·.key == Table.key t) (fun e => { e with table := t })
        b.entries } := by
  rw [AlterTable.apply] at h
  split at h
  · split at h <;> cases h
    exact Or.inl rfl
  · rw [Builder.replaceTable] at h
    exact Or.inr ⟨_, Builder.updateEntry_eq_ok h⟩

/-- An index is added to the metadata of the table that its statement names, or nothing happens. -/
theorem CreateIndex.updateMetadata_of_apply {s : CreateIndex} (h : s.apply b = .ok b') :
    b' = b ∨ ∃ t, b.resolve? s.table = some t
      ∧ b.updateMetadata t.key (s.addTo t.key) = .ok b' := by
  simp only [CreateIndex.apply, bind_eq_ok, Builder.requireTable_eq_ok] at h
  obtain ⟨t, ht, taken, -, h⟩ := h
  split at h
  · split at h
    · rw [pure_eq_ok] at h
      exact Or.inl h.symm
    · exact absurd h throw_ne_ok
  · simp only [bind_eq_ok] at h
    obtain ⟨_, -, _, -, h⟩ := h
    exact Or.inr ⟨t, ht, h⟩

theorem CreateIndex.apply_eq_ok {s : CreateIndex} (h : s.apply b = .ok b') :
    b' = b ∨ ∃ t, b.resolve? s.table = some t ∧ b' = { b with
      entries := replaceFirst (·.key == t.key)
        (fun e => { e with metadata := s.addTo t.key e.metadata }) b.entries } :=
  (CreateIndex.updateMetadata_of_apply h).imp_right fun ⟨t, ht, hupdate⟩ =>
    ⟨t, ht, Builder.updateEntry_eq_ok hupdate⟩

/-- The index that is dropped is not found at the place of one of a primary key. -/
theorem Builder.updateMetadata_of_dropIndex {n : ObjectName} {p : IndexPlace}
    (h : b.dropIndex n p = .ok b') :
    p.primaryKey = false
      ∧ b.updateMetadata p.table (·.eraseIndex n.name p.unique) = .ok b' := by
  rw [Builder.dropIndex] at h
  split at h
  · cases h
  · rename_i hkey
    exact ⟨Bool.not_eq_true _ ▸ hkey, h⟩

theorem Builder.dropIndex_eq_ok {n : ObjectName} {p : IndexPlace} (h : b.dropIndex n p = .ok b') :
    b' = { b with
      entries := replaceFirst (·.key == p.table)
        (fun e => { e with metadata := e.metadata.eraseIndex n.name p.unique }) b.entries } :=
  Builder.updateEntry_eq_ok (updateMetadata_of_dropIndex h).2

/-- Dropping the indexes of a name keeps what dropping one index does, whether it fails or not. -/
theorem Builder.dropIndices_invariant {P : Builder → Prop} {n : ObjectName}
    (step : ∀ b p b', P b → b.dropIndex n p = .ok b' → P b') (ifExists : Bool) (hb : P b) :
    P (b.dropIndices ifExists n).builder := by
  rw [dropIndices]
  split
  · exact hb
  · split <;> exact hb
  · exact Outcome.each_invariant
      (fun b p hb => Outcome.whole_invariant hb fun b' => step b p b' hb) _ hb

/-! ## 5. Triggers and policies -/

/-- A trigger is put on the table that its statement names, which has the columns it listens to, and
calls a function of the builder. -/
theorem CreateTrigger.apply_eq_ok {s : CreateTrigger} (h : s.apply b = .ok b') :
    ∃ t f e, b.resolve? s.table = some t ∧ b.function? s.function.name = some f
      ∧ b.entry? t.key = some e ∧ s.updateColumns ⊆ e.metadata.columnNames
      ∧ (b' = b.addTrigger (s.trigger t.key f)
        ∨ b' = { b with
            triggers := replaceFirst (Builder.isTrigger s.name t.key)
              (fun _ => s.trigger t.key f) b.triggers }) := by
  simp only [CreateTrigger.apply, bind_eq_ok, Builder.requireTable_eq_ok] at h
  obtain ⟨t, ht, h⟩ := h
  split at h
  · exact absurd h throw_ne_ok
  · rename_i f hf
    simp only [bind_eq_ok, Builder.requireEntry_eq_ok] at h
    obtain ⟨e, he, _, hcolumns, h⟩ := h
    refine ⟨t, f, e, ht, hf, he, requireColumns_eq_ok.mp hcolumns, ?_⟩
    split at h
    · rw [pure_eq_ok] at h
      exact Or.inl h.symm
    · split at h
      · rw [Builder.replaceTrigger] at h
        split at h <;> cases h
        exact Or.inr rfl
      · exact absurd h throw_ne_ok

/-- Going through the triggers to remove, each is the first of its name and table that is left, as
long as these two decide which ones go. -/
theorem Builder.foldlM_removeTrigger {p : Trigger → Bool}
    (hp : ∀ t u : Trigger, t.name = u.name → t.table = u.table → p t = p u) (kept : List Trigger)
    {rest : List Trigger} {b : Builder} (hb : b.triggers = kept ++ rest)
    (hkept : ∀ t ∈ kept, p t = false) :
    (rest.filter p).foldlM (fun b t => b.removeTrigger t.name t.table) b
      = .ok { b with triggers := kept ++ rest.filter fun t => !p t } := by
  induction rest generalizing b kept with
  | nil =>
    rw [List.filter_nil, List.filter_nil, ← hb]
    rfl
  | cons t rest ih =>
    by_cases ht : p t = true
    · have hself : isTrigger t.name t.table t = true := by simp [isTrigger]
      have hothers : ∀ u ∈ kept, ¬ isTrigger t.name t.table u = true := by
        intro u hu hsame
        simp only [isTrigger, Bool.and_eq_true, beq_iff_eq] at hsame
        have hgoes := hp u t hsame.1 hsame.2
        rw [hkept u hu, ht] at hgoes
        cases hgoes
      have hthere : b.triggers.any (isTrigger t.name t.table) = true :=
        List.any_eq_true.mpr ⟨t, by simp [hb], hself⟩
      have herased : b.triggers.eraseP (isTrigger t.name t.table) = kept ++ rest := by
        rw [hb, List.eraseP_append_right _ hothers, List.eraseP_cons_of_pos hself]
      rw [List.filter_cons_of_pos ht, List.filter_cons_of_neg (by simp [ht]), List.foldlM_cons,
        removeTrigger, if_pos hthere, herased]
      exact ih kept rfl hkept
    · have hstays : ∀ u ∈ kept ++ [t], p u = false :=
        List.forall_mem_append.mpr ⟨hkept, by simp [ht]⟩
      rw [List.filter_cons_of_neg ht, List.filter_cons_of_pos (by simp [ht])]
      refine (ih (kept ++ [t]) (by simp [hb]) hstays).trans ?_
      rw [List.append_assoc]
      rfl

/-- The triggers that are dropped are all that the statement selects. -/
theorem DropTrigger.removed_eq (s : DropTrigger) (b : Builder) (key : Option TableKey) :
    (b.triggers.filter (s.selects key)).foldlM (fun b t => b.removeTrigger t.name t.table) b
      = .ok { b with triggers := b.triggers.filter fun t => !s.selects key t } := by
  refine Builder.foldlM_removeTrigger (fun t u hname htable => ?_) [] rfl (by simp)
  rw [selects, selects, hname, htable]

theorem DropTrigger.apply_eq_ok {s : DropTrigger} (h : s.apply b = .ok b') :
    b' = b ∨ ∃ p, b' = { b with triggers := b.triggers.filter p } := by
  simp only [DropTrigger.apply] at h
  split at h
  · split at h <;> cases h
    exact Or.inl rfl
  · rw [removed_eq] at h
    exact Or.inr ⟨_, (Except.ok.inj h).symm⟩

/-- A policy is put on the table that its statement names, with the functions that it calls. -/
theorem CreatePolicy.apply_eq_ok {s : CreatePolicy} (h : s.apply b = .ok b') :
    ∃ t p, b.resolve? s.table = some t ∧ Policy.table p = t.key
      ∧ p.usingFunctionNames = b.functionsIn s.usingRows
      ∧ p.checkFunctionNames = b.functionsIn s.withCheck ∧ b' = b.addPolicy p := by
  simp only [CreatePolicy.apply, bind_eq_ok, Builder.requireTable_eq_ok] at h
  obtain ⟨t, ht, h⟩ := h
  rw [guard_eq_ok, pure_eq_ok] at h
  exact ⟨t, _, ht, rfl, rfl, rfl, h.2.symm⟩

theorem DropPolicy.apply_eq_ok {s : DropPolicy} (h : s.apply b = .ok b') :
    b' = b ∨ ∃ p, b' = { b with policies := b.policies.eraseP p } := by
  rw [DropPolicy.apply] at h
  split at h
  · rw [Builder.removePolicy] at h
    split at h <;> cases h
    exact Or.inr ⟨_, rfl⟩
  · split at h <;> cases h
    exact Or.inl rfl

/-! ## 6. Grants -/

/-- The objects of a grant stay as they are, except that tables are named by their keys. -/
theorem resolveObjects_eq_ok {objects found : GrantObjects} {referencedBy : String}
    (h : resolveObjects b objects referencedBy = .ok found) :
    found.kind = objects.kind
      ∧ (objects.kind = .tables →
          List.Forall₂ (fun n key => ∃ t, b.resolve? n = some t ∧ key = Table.key t)
            objects.names found.names) := by
  rw [resolveObjects] at h
  split at h
  · rename_i hkind
    obtain ⟨tables, htables, hpure⟩ := bind_eq_ok.mp h
    rw [pure_eq_ok] at hpure
    subst hpure
    refine ⟨rfl, fun _ => ?_⟩
    rw [List.forall₂_map_right_iff]
    refine (mapM_eq_ok.mp htables).imp fun n t ht => ?_
    exact ⟨t, Builder.requireTable_eq_ok.mp ht, rfl⟩
  all_goals
    rename_i hkind
    simp only [bind_eq_ok, pure_eq_ok] at h
    refine ⟨?_, fun htables => absurd (hkind.symm.trans htables) (by decide)⟩
  · obtain ⟨_, -, rfl⟩ := h; rfl
  · obtain ⟨_, -, rfl⟩ := h; rfl
  · obtain ⟨_, -, rfl⟩ := h; rfl
  · obtain ⟨_, -, rfl⟩ := h; rfl
  · rw [h]
  · rw [h]

theorem requirePrivilegeColumns_eq_ok {privileges : List Privilege} {key : TableKey}
    (h : requirePrivilegeColumns b privileges key = .ok ()) :
    ∃ e, b.entry? key = some e ∧ privileges.flatMap (·.columns) ⊆ e.metadata.columnNames := by
  simp only [requirePrivilegeColumns, bind_eq_ok, Builder.requireEntry_eq_ok] at h
  obtain ⟨e, he, hforM⟩ := h
  refine ⟨e, he, ?_⟩
  intro c hc
  obtain ⟨p, hp, hcp⟩ := List.mem_flatMap.mp hc
  exact requireColumns_eq_ok.mp (forM_eq_ok.mp hforM p hp) hcp

/-- What follows when the objects of a grant are resolved: on tables, its columns are checked. -/
theorem addGrant_eq_ok {objects : GrantObjects} {privileges : List Privilege} {g : Grant}
    (h : (if objects.kind == GrantObjectKind.tables then
        objects.names.forM (requirePrivilegeColumns b privileges) >>= fun _ => pure (b.addGrant g)
      else pure (b.addGrant g)) = Except.ok b') :
    (objects.kind = GrantObjectKind.tables →
        ∀ key ∈ objects.names, requirePrivilegeColumns b privileges key = .ok ())
      ∧ b' = b.addGrant g := by
  split at h
  · obtain ⟨_, hall, h⟩ := bind_eq_ok.mp h
    exact ⟨fun _ => forM_eq_ok.mp hall, (pure_eq_ok.mp h).symm⟩
  · rename_i hkind
    exact ⟨fun htables => absurd (by simp [htables]) hkind, (pure_eq_ok.mp h).symm⟩

/-- A grant is added with its objects resolved and, on tables, with columns that they have. -/
theorem GrantPrivileges.apply_eq_ok {s : GrantPrivileges} (h : s.apply b = .ok b') :
    ∃ (objects : GrantObjects) (referencedBy : String),
      resolveObjects b s.objects referencedBy = .ok objects
      ∧ (objects.kind = GrantObjectKind.tables →
          ∀ key ∈ objects.names, requirePrivilegeColumns b s.privileges key = .ok ())
      ∧ b' = b.addGrant { s.grant with objects } := by
  simp only [GrantPrivileges.apply] at h
  obtain ⟨_, -, h⟩ := bind_eq_ok.mp h
  -- With a grantor or without one, what follows is the same.
  split at h
  · obtain ⟨_, -, h⟩ := bind_eq_ok.mp h
    obtain ⟨objects, hobjects, h⟩ := bind_eq_ok.mp h
    exact ⟨objects, _, hobjects, addGrant_eq_ok h⟩
  · obtain ⟨objects, hobjects, h⟩ := bind_eq_ok.mp h
    exact ⟨objects, _, hobjects, addGrant_eq_ok h⟩

theorem RevokePrivileges.apply_eq_ok {s : RevokePrivileges} (h : s.apply b = .ok b') :
    ∃ p, b' = b.replaceGrants p fun g =>
      if s.grantOptionFor then some { g with withGrantOption := false } else none := by
  simp only [RevokePrivileges.apply] at h
  split at h <;> cases h
  exact ⟨_, rfl⟩

/-! ## 7. Schemas -/

/-- Dropping a schema removes the tables in it, of which there are none unless the drop cascades. -/
theorem Builder.dropSchema_eq_ok {ifExists cascade : Bool} {name : String}
    (h : b.dropSchema ifExists cascade name = .ok b') :
    b' = b ∨ ∃ c, (b.view.tablesIn name).foldlM (fun b t => b.removeTable t.key) b = .ok c
      ∧ (cascade = false → b.view.tablesIn name = [])
      ∧ b' = (c.replaceGrants (·.objects.nameSchema name) fun _ => none).removeSchema name := by
  rw [Builder.dropSchema] at h
  split at h
  · split at h <;> cases h
    exact Or.inl rfl
  · simp only [guard_eq_ok, bind_eq_ok, pure_eq_ok] at h
    obtain ⟨hguard, c, hc, hb'⟩ := h
    refine Or.inr ⟨c, hc, fun hcascade => ?_, hb'.symm⟩
    simpa [hcascade] using hguard

/-- Renaming a schema keeps what renaming a table, renaming the schema in grants and replacing the
schema do. -/
theorem Builder.renameSchema_invariant {P : Builder → Prop} {schema : Schema} {new : String}
    (hmove : ∀ b key key' b', P b → b.renameTable key key' = .ok b' → P b')
    (hgrants : ∀ b, P b → P (b.replaceGrants (·.objects.nameSchema schema.name) fun g =>
      some (g.renameSchema schema.name new)))
    (hreplace : ∀ b s b', P b → b.replaceSchema schema.name s = .ok b' → P b') (hb : P b)
    (h : b.renameSchema schema new = .ok b') : P b' := by
  simp only [renameSchema, guard_eq_ok, bind_eq_ok] at h
  obtain ⟨-, c, hmoved, hreplaced⟩ := h
  have hc : P c := foldlM_invariant (fun b t _ b' => hmove b t.key ⟨t.name, some new⟩ b') hb hmoved
  exact hreplace _ _ _ (hgrants c hc) hreplaced

/-- Altering a schema changes its owner, or renames it. -/
theorem AlterSchema.apply_eq_ok {s : AlterSchema} (h : s.apply b = .ok b') :
    b.SameRoutines b' ∨ ∃ schema new, s.change = .rename new ∧ b.schema? s.name = some schema
      ∧ b.renameSchema schema new = .ok b' := by
  rw [AlterSchema.apply] at h
  split at h
  · split at h <;> cases h
    exact Or.inl (Builder.SameRoutines.refl b)
  · rename_i schema hschema
    split at h
    · exact Or.inl (Builder.sameRoutines_of_replaceSchema h)
    · rename_i new hnew
      exact Or.inr ⟨schema, new, hnew, hschema, h⟩

end SchemaCatalog
