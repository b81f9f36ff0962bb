import SchemaCatalog.Proofs.Effect
import SchemaCatalog.Proofs.Renaming

/-!
# Referential integrity

A builder is `Consistent` when its tables are distinct and whatever carries the key of a table
belongs to one (`Builder.Closed`). Closure does not depend on distinctness: the table that goes
takes what is on its key along, even if another one has the same key, and so does one that is
renamed.

Every effect keeps a builder closed, and a consistent one consistent. The renaming of a schema keeps
it closed, but may bring two tables together; that it is applied into a schema without tables is
what a run must promise.
-/

namespace SchemaCatalog

namespace Builder

variable {b b' : Builder}

/-- Tables are distinct, and what carries the key of a table belongs to one. -/
structure Consistent (b : Builder) : Prop where
  distinct : b.DistinctTables
  closed : b.Closed

/-! ## 1. Adding and removing a table -/

theorem addTable_distinctTables (hb : b.DistinctTables) {e : TableEntry}
    (hfree : b.resolve? e.key = none) : (b.addTable e).DistinctTables := by
  rw [DistinctTables, addTable, List.map_append, List.map_singleton, List.nodup_append]
  refine ⟨hb, List.nodup_singleton _, fun d hd d' hd' heq => ?_⟩
  obtain ⟨e', he', rfl⟩ := List.mem_map.mp hd
  rw [List.mem_singleton.mp hd'] at heq
  exact resolve?_eq_none hfree e' he' heq

theorem addTable_closed (hb : b.Closed) {e : TableEntry} (he : e.metadata.FiledUnder e.key) :
    (b.addTable e).Closed := by
  refine hb.of_outlines ?_ ?_ rfl rfl rfl
  · rw [addTable, List.map_append]
    exact List.subset_append_left _ _
  · intro e' he'
    rcases List.mem_append.mp he' with hold | hlast
    · exact hb.entries e' hold
    · exact List.mem_singleton.mp hlast ▸ he

/-- Where keys are distinct, a table that is removed leaves exactly those of other keys. -/
theorem removeTable_entries {key : TableKey} (hb : (b.entries.map (·.key)).Nodup)
    (h : b.removeTable key = .ok b') : b'.entries = b.entries.filter (·.key != key) := by
  rw [removeTable_eq_ok h]
  exact eraseP_eq_filter (countP_key_le_one hb key)

theorem removeTable_distinctTables {key : TableKey} (hb : b.DistinctTables)
    (h : b.removeTable key = .ok b') : b'.DistinctTables := by
  rw [DistinctTables, removeTable_entries hb.nodup_keys h]
  exact hb.sublist (List.filter_sublist.map _)

/-- The columns of the tables that stay are still there. -/
theorem HasColumns.of_removeTable {key key' : TableKey} {names : List String}
    (h : b.HasColumns key' names) (hne : key' ≠ key) (hremoved : b.removeTable key = .ok b') :
    b'.HasColumns key' names := by
  obtain ⟨e, he, rfl, hnames⟩ := h
  refine ⟨e, ?_, rfl, hnames⟩
  rw [removeTable_eq_ok hremoved]
  have hother : ¬ (e.key == key) = true := by simpa using hne
  exact (List.mem_eraseP_of_neg (p := fun x : TableEntry => x.key == key) hother).mpr he

/-- A table is removed with all that is on it. -/
theorem removeTable_closed {key : TableKey} (hb : b.Closed) (h : b.removeTable key = .ok b') :
    b'.Closed := by
  have hb' := removeTable_eq_ok h
  refine { entries := ?_, triggers := ?_, policies := ?_, grants := ?_ }
  · intro e he
    rw [hb'] at he
    exact hb.entries e (List.mem_of_mem_eraseP he)
  · intro t ht
    rw [hb'] at ht
    obtain ⟨hmem, hne⟩ := List.mem_filter.mp ht
    exact (hb.triggers t hmem).of_removeTable (bne_iff_ne.mp hne) h
  · intro p hp
    rw [hb'] at hp
    obtain ⟨hmem, hne⟩ := List.mem_filter.mp hp
    exact (hb.policies p hmem).of_removeTable (bne_iff_ne.mp hne) h
  · intro g hg htables n hn
    rw [hb'] at hg
    obtain ⟨g₀, hg₀, rfl⟩ := List.mem_map.mp (List.mem_of_mem_filter hg)
    rw [Grant.withoutTable] at htables hn ⊢
    split at hn
    · rename_i hkind
      rw [if_pos hkind]
      obtain ⟨hmem, hne⟩ := List.mem_filter.mp hn
      exact (hb.grants g₀ hg₀ (beq_iff_eq.mp hkind) n hmem).of_removeTable
        (bne_iff_ne.mp hne) h
    · rename_i hkind
      rw [if_neg hkind] at htables
      exact absurd (beq_iff_eq.mpr htables) hkind

theorem removeTable_noVoidGrants {key : TableKey} (h : b.removeTable key = .ok b') :
    b'.NoVoidGrants := by
  intro g hg
  rw [removeTable_eq_ok h] at hg
  exact Bool.not_eq_true' _ ▸ (List.mem_filter.mp hg).2

/-- Removing tables one by one leaves exactly those of other keys. -/
theorem removeTables_entries {ts : List Table} (hb : (b.entries.map (·.key)).Nodup)
    (h : ts.foldlM (fun b t => b.removeTable t.key) b = .ok b') :
    b'.entries = b.entries.filter fun e => !(ts.map (·.key)).contains e.key := by
  induction ts generalizing b with
  | nil =>
    rw [List.foldlM_nil, pure_eq_ok] at h
    subst h
    exact (List.filter_eq_self.mpr fun _ _ => rfl).symm
  | cons t ts ih =>
    rw [List.foldlM_cons] at h
    obtain ⟨c, hc, hrest⟩ := bind_eq_ok.mp h
    have hentries := removeTable_entries hb hc
    have hnodup : (c.entries.map (·.key)).Nodup := by
      rw [hentries]
      exact hb.sublist (List.filter_sublist.map _)
    rw [ih hnodup hrest, hentries, List.filter_filter]
    refine List.filter_congr fun e _ => ?_
    rw [List.map_cons, List.contains_cons, Bool.not_or, Bool.and_comm]
    rfl

theorem replaceFirst_outlines {key : TableKey} {f : TableEntry → TableEntry}
    (hf : ∀ e, e.key = key → (f e).Revises e) (es : List TableEntry) :
    (replaceFirst (·.key == key) f es).map (·.outline) = es.map (·.outline) :=
  map_replaceFirst (fun e he => (hf e (beq_iff_eq.mp he)).outline) es

end Builder

/-! ## 2. Effects -/

namespace Effect

variable {s : Statement} {b b' : Builder}

/-- Every effect keeps the tables distinct. -/
theorem distinctTables (hb : b.DistinctTables) (h : Effect s b b') : b'.DistinctTables := by
  cases h with
  | owned entries => exact hb.of_keys (congrArg (List.map (·.key)) entries)
  | revise key f revises =>
    exact hb.of_keys (Builder.map_key_of_outlines (Builder.replaceFirst_outlines revises _))
  | declare d m free => exact Builder.addTable_distinctTables hb free
  | drop ts _ removed =>
    exact Builder.removeTables_invariant (fun _ _ _ => Builder.removeTable_distinctTables)
      hb removed

/-- Every effect keeps a builder closed. -/
theorem closed (hb : b.Closed) (h : Effect s b b') : b'.Closed := by
  cases h with
  | owned entries triggers policies grants =>
    have hsub : b.entries.map (·.outline) ⊆ b'.entries.map (·.outline) := by
      rw [entries]; exact List.Subset.refl _
    refine { entries := ?_, triggers := ?_, policies := ?_, grants := ?_ }
    · rw [entries]; exact hb.entries
    · exact fun t ht => ((triggers t ht).elim (hb.triggers t) id).of_outlines hsub
    · exact fun p hp => ((policies p hp).elim (hb.policies p) id).of_outlines hsub
    · intro g hg
      rcases grants g hg with ⟨g₀, hg₀, hobjects, hprivileges⟩ | ⟨hsupports, -⟩
      · have hsupports := (hb.grants g₀ hg₀).of_outlines hsub
        rw [Builder.Supports] at hsupports ⊢
        rwa [hobjects, hprivileges]
      · exact hsupports.of_outlines hsub
  | revise key f revises =>
    have houtlines := Builder.replaceFirst_outlines revises b.entries
    have hsub : b.entries.map (·.outline)
        ⊆ (replaceFirst (·.key == key) f b.entries).map (·.outline) := by
      rw [houtlines]; exact List.Subset.refl _
    refine hb.of_outlines hsub ?_ rfl rfl rfl
    intro e he
    rcases mem_replaceFirst he with hold | ⟨e₀, he₀, hkey, rfl⟩
    · exact hb.entries e hold
    · have hrevises := revises e₀ (beq_iff_eq.mp hkey)
      have hsame : (f e₀).key = e₀.key := congrArg Prod.fst hrevises.outline
      rw [hsame]
      exact hrevises.filed (hb.entries e₀ he₀)
  | declare d m free metadata =>
    exact Builder.addTable_closed hb (CreateTable.metadata_eq_ok metadata).1
  | drop ts _ removed =>
    exact Builder.removeTables_invariant (fun _ _ _ => Builder.removeTable_closed) hb removed

theorem consistent (hb : b.Consistent) (h : Effect s b b') : b'.Consistent :=
  { distinct := h.distinctTables hb.distinct, closed := h.closed hb.closed }

/-- An effect of a statement that does not grant privileges on nothing leaves no such grant. -/
theorem noVoidGrants (hs : s.grantsNothing = false) (hb : b.NoVoidGrants) (h : Effect s b b') :
    b'.NoVoidGrants := by
  cases h with
  | owned _ _ _ grants =>
    intro g hg
    rcases grants g hg with ⟨g₀, hg₀, hobjects, -⟩ | ⟨-, hvoid⟩
    · have hvoid := hb g₀ hg₀
      rw [Grant.isVoid] at hvoid ⊢
      rwa [hobjects]
    · exact hvoid hs
  | revise => exact hb
  | declare => exact hb
  | drop ts _ removed =>
    exact Builder.removeTables_invariant (fun _ _ _ _ => Builder.removeTable_noVoidGrants)
      hb removed

end Effect

/-! ## 3. Renaming a schema -/

/-- If the statement renames a schema, then no table is filed under the new name. -/
def Statement.RenamesIntoFree (b : Builder) (s : Statement) : Prop :=
  ∀ rename ∈ s.renames?, ∀ t ∈ b.tables, inSchema t.schema rename.2 = false

instance (b : Builder) (s : Statement) : Decidable (s.RenamesIntoFree b) :=
  inferInstanceAs (Decidable (∀ rename ∈ s.renames?, _))

namespace Builder

variable {b b' : Builder} {old new : String} {schema : Schema}

/-- A schema that is renamed takes a name that no schema has, and its tables with it. -/
theorem renameSchema_eq_ok (hb : b.Closed) (hold : b.schema? old = some schema)
    (h : b.renameSchema schema new = .ok b') :
    b.schema? new = none ∧ b' =
      { (b.mapKeys (.movedTo (b.keysIn old) new)).replaceGrants (·.objects.nameSchema old)
          (fun g => some (g.renameSchema old new)) with
        schemas := replaceFirst (·.name == old) (fun _ => { schema with name := new })
          b.schemas } := by
  cases hnew : b.schema? new with
  | some s =>
    rw [renameSchema, hnew] at h
    cases h
  | none =>
    rw [renameSchema_eq hold hnew hb.entries] at h
    exact ⟨rfl, (Except.ok.inj h).symm⟩

/-- A grant on tables names no schema. -/
theorem mem_replaceGrants_nameSchema {g : Grant}
    (hg : g ∈ (b.replaceGrants (·.objects.nameSchema old)
      fun g => some (g.renameSchema old new)).grants)
    (htables : g.objects.kind = GrantObjectKind.tables) : g ∈ b.grants := by
  obtain ⟨g₀, hg₀, heq⟩ := List.mem_filterMap.mp hg
  split at heq <;> cases heq
  · rename_i hnames
    simp only [Grant.renameSchema] at htables
    simp only [GrantObjects.nameSchema, htables, Bool.false_eq_true] at hnames
  · exact hg₀

/-- Renaming a schema takes along whatever belongs to its tables. -/
theorem renameSchema_closed (hb : b.Closed) (hold : b.schema? old = some schema)
    (h : b.renameSchema schema new = .ok b') : b'.Closed := by
  obtain ⟨-, rfl⟩ := renameSchema_eq_ok hb hold h
  have hclosed := hb.mapKeys (φ := .movedTo (b.keysIn old) new)
  exact {
    entries := hclosed.entries
    triggers := hclosed.triggers
    policies := hclosed.policies
    grants := fun g hg htables =>
      hclosed.grants g (mem_replaceGrants_nameSchema hg htables) htables }

theorem renameSchema_noVoidGrants (hb : b.Closed) (hvoid : b.NoVoidGrants)
    (hold : b.schema? old = some schema) (h : b.renameSchema schema new = .ok b') :
    b'.NoVoidGrants := by
  obtain ⟨-, rfl⟩ := renameSchema_eq_ok hb hold h
  intro g hg
  by_cases htables : g.objects.kind = GrantObjectKind.tables
  · obtain ⟨g₀, hg₀, rfl⟩ := List.mem_map.mp (mem_replaceGrants_nameSchema hg htables)
    rw [Grant.isVoid_mapKeys]
    exact hvoid g₀ hg₀
  · rw [Grant.isVoid, beq_eq_false_iff_ne.mpr htables, Bool.false_and]

end Builder

end SchemaCatalog
