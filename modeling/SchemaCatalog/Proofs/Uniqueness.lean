import SchemaCatalog.Proofs.States

/-!
# Names that are taken once

Schemas have different names, and so do the policies of a table. Both are checked when a schema or a
policy is created, and when a schema is renamed; what must be shown is that nothing else undoes it.
For schemas that is plain. Policies carry the key of their table, and two tables may come to have one
key when a schema is renamed, with a policy of one name on each. `Builder.DistinctPolicies` allows
for that: two policies of one name are on one key only if several tables are filed under it. Dropping
one of these tables takes the policies of all of them along, so the exception does not spread.

Most statements leave schemas, policies and keys as they are (`Builder.SameNames`). The others have
one lemma each, and `Statement.apply_distinctNames` puts all of them together.
-/

namespace SchemaCatalog

namespace Builder

/-- Two policies of one name are on different tables, or on one key of several tables. -/
def DistinctPolicies (b : Builder) : Prop :=
  b.policies.Pairwise fun p q => p.name = q.name → p.table = q.table →
    1 < (b.entries.map (·.key)).count p.table

/-- The names of schemas are distinct, and so are those of the policies of a table. -/
structure DistinctNames (b : Builder) : Prop where
  schemas : (b.schemas.map (·.name)).Nodup
  policies : b.DistinctPolicies

/-- Two builders have the same schemas and policies, and tables of the same keys. -/
structure SameNames (b b' : Builder) : Prop where
  schemas : b'.schemas = b.schemas
  policies : b'.policies = b.policies
  keys : b'.entries.map (·.key) = b.entries.map (·.key)

variable {b b' : Builder}

theorem SameNames.refl (b : Builder) : b.SameNames b := ⟨rfl, rfl, rfl⟩

theorem DistinctNames.of_sameNames (hb : b.DistinctNames) (h : b.SameNames b') :
    b'.DistinctNames where
  schemas := by
    rw [h.schemas]
    exact hb.schemas
  policies := by
    rw [DistinctPolicies, h.policies, h.keys]
    exact hb.policies

/-- Entries may be changed in place. -/
theorem sameNames_of_replaceFirst {p : TableEntry → Bool} {f : TableEntry → TableEntry}
    (h : ∀ e, p e = true → (f e).key = e.key) :
    b.SameNames { b with entries := replaceFirst p f b.entries } :=
  ⟨rfl, rfl, map_replaceFirst h b.entries⟩

/-! ## 1. Policies -/

/-- A policy that is created is the first one of its name on its table. -/
theorem createPolicy_isNew {s : CreatePolicy} (h : s.apply b = .ok b') :
    ∃ p, b' = b.addPolicy p ∧ b.policies.any (isPolicy p.name p.table) = false := by
  simp only [CreatePolicy.apply, bind_eq_ok, requireTable_eq_ok] at h
  obtain ⟨t, -, h⟩ := h
  rw [guard_eq_ok, pure_eq_ok] at h
  exact ⟨_, h.2.symm, Bool.not_eq_true _ ▸ h.1⟩

theorem createPolicy_distinctPolicies {s : CreatePolicy} (hb : b.DistinctPolicies)
    (h : s.apply b = .ok b') : b'.DistinctPolicies := by
  obtain ⟨p, rfl, hnew⟩ := createPolicy_isNew h
  refine List.pairwise_append.mpr ⟨hb, List.pairwise_singleton .., ?_⟩
  intro q hq p' hp' hname htable
  rw [List.mem_singleton.mp hp'] at hname htable
  have hsame : isPolicy p.name p.table q = true := by simp [isPolicy, hname, htable]
  rw [List.any_eq_false] at hnew
  exact absurd hsame (hnew q hq)

/-- A key that is not removed is filed as often as before. -/
theorem removeTable_distinctPolicies {key : TableKey} (hb : b.DistinctPolicies)
    (h : b.removeTable key = .ok b') : b'.DistinctPolicies := by
  have hkeys : (b.entries.eraseP (·.key == key)).map (·.key) = (b.entries.map (·.key)).erase key := by
    rw [List.erase_eq_eraseP', List.eraseP_map]
    rfl
  rw [removeTable_eq_ok h, DistinctPolicies, hkeys]
  refine List.Pairwise.imp_of_mem ?_ (hb.sublist List.filter_sublist)
  intro p q hp _ hpq hname htable
  have hother : p.table ≠ key := bne_iff_ne.mp (List.mem_filter.mp hp).2
  rw [List.count_erase_of_ne hother]
  exact hpq hname htable

/-- Where two elements are brought together, there are several of what they become. -/
theorem one_lt_count_map {φ : TableKey → TableKey} {keys : List TableKey} {k k' : TableKey}
    (hk : k ∈ keys) (hk' : k' ∈ keys) (hne : k ≠ k') (h : φ k = φ k') :
    1 < (keys.map φ).count (φ k) := by
  have hleft : k' ∈ keys.erase k := (List.mem_erase_of_ne hne.symm).mpr hk'
  have hperm : keys.Perm (k :: k' :: (keys.erase k).erase k') :=
    (List.perm_cons_erase hk).trans ((List.perm_cons_erase hleft).cons k)
  rw [(hperm.map φ).count_eq, List.map_cons, List.map_cons, ← h, List.count_cons_self,
    List.count_cons_self]
  omega

/-- A renaming of keys brings policies together only where it brings tables together. -/
theorem mapKeys_distinctPolicies (hb : b.DistinctPolicies) (hclosed : b.Closed)
    (φ : TableKey → TableKey) : (b.mapKeys φ).DistinctPolicies := by
  have hkeys : (b.entries.map (·.mapKeys φ)).map (·.key) = (b.entries.map (·.key)).map φ := by
    rw [List.map_map, List.map_map]
    rfl
  have hfiled : ∀ p ∈ b.policies, p.table ∈ b.entries.map (·.key) := by
    intro p hp
    obtain ⟨e, he, hkey, -⟩ := hclosed.policies p hp
    exact List.mem_map.mpr ⟨e, he, hkey⟩
  rw [DistinctPolicies, mapKeys, hkeys, List.pairwise_map]
  refine List.Pairwise.imp_of_mem ?_ hb
  intro p q hp hq hpq hname htable
  by_cases hsame : p.table = q.table
  · exact Nat.lt_of_lt_of_le (hpq hname hsame) List.count_le_count_map
  · exact one_lt_count_map (hfiled p hp) (hfiled q hq) hsame htable

/-! ## 2. Tables and schemas -/

theorem addTable_distinctNames (hb : b.DistinctNames) (e : TableEntry) :
    (b.addTable e).DistinctNames where
  schemas := hb.schemas
  policies := by
    refine List.Pairwise.imp ?_ hb.policies
    intro p q hpq hname htable
    refine Nat.lt_of_lt_of_le (hpq hname htable) ?_
    rw [addTable, List.map_append, List.count_append]
    exact Nat.le_add_right ..

theorem removeTable_distinctNames {key : TableKey} (hb : b.DistinctNames)
    (h : b.removeTable key = .ok b') : b'.DistinctNames where
  schemas := by
    rw [removeTable_eq_ok h]
    exact hb.schemas
  policies := removeTable_distinctPolicies hb.policies h

theorem removeTables_distinctNames {ts : List Table} (hb : b.DistinctNames)
    (h : ts.foldlM (fun b t => b.removeTable t.key) b = .ok b') : b'.DistinctNames :=
  removeTables_invariant (P := DistinctNames) (fun _ _ _ => removeTable_distinctNames) hb h

theorem schema?_eq_none {name : String} : b.schema? name = none ↔ name ∉ b.schemas.map (·.name) := by
  simp [schema?]

theorem createSchema_distinctNames {s : CreateSchema} (hb : b.DistinctNames)
    (h : s.apply b = .ok b') : b'.DistinctNames := by
  rw [CreateSchema.apply] at h
  split at h
  · split at h <;> cases h
    exact hb
  · rename_i hfree
    cases h
    rw [Option.isSome_iff_ne_none, not_not, schema?_eq_none] at hfree
    refine { schemas := ?_, policies := hb.policies }
    rw [addSchema, List.map_append, List.map_singleton]
    exact List.nodup_append_comm.mp (List.nodup_cons.mpr ⟨hfree, hb.schemas⟩)

theorem dropSchema_distinctNames {ifExists cascade : Bool} {name : String} (hb : b.DistinctNames)
    (h : b.dropSchema ifExists cascade name = .ok b') : b'.DistinctNames := by
  rcases dropSchema_eq_ok h with rfl | ⟨c, hremoved, -, rfl⟩
  · exact hb
  · have hc := removeTables_distinctNames hb hremoved
    exact { schemas := hc.schemas.sublist (List.filter_sublist.map _), policies := hc.policies }

/-- A schema may take a name that no schema has. -/
theorem nodup_replaceFirst {schemas : List Schema} {p : Schema → Bool} {s : Schema}
    (h : (schemas.map (·.name)).Nodup) (hnew : s.name ∉ schemas.map (·.name)) :
    ((replaceFirst p (fun _ => s) schemas).map (·.name)).Nodup := by
  induction schemas with
  | nil => exact h
  | cons x xs ih =>
    rw [List.map_cons, List.nodup_cons] at h
    rw [List.map_cons, List.mem_cons, not_or] at hnew
    rw [replaceFirst]
    split
    · exact List.nodup_cons.mpr ⟨hnew.2, h.2⟩
    · refine List.nodup_cons.mpr ⟨fun hmem => ?_, ih h.2 hnew.2⟩
      obtain ⟨y, hy, hname⟩ := List.mem_map.mp hmem
      rcases mem_replaceFirst hy with hold | ⟨_, -, -, rfl⟩
      · exact h.1 (List.mem_map.mpr ⟨y, hold, hname⟩)
      · exact hnew.1 hname

theorem alterSchema_distinctNames {s : AlterSchema} (hb : b.DistinctNames) (hclosed : b.Closed)
    (h : s.apply b = .ok b') : b'.DistinctNames := by
  rw [AlterSchema.apply] at h
  split at h
  · split at h <;> cases h
    exact hb
  · rename_i schema hschema
    split at h
    · rename_i owner _
      rw [replaceSchema_eq_ok h]
      have hnames : (replaceFirst (·.name == schema.name)
          (fun _ => { schema with authorization := some owner }) b.schemas).map (·.name)
          = b.schemas.map (·.name) := by
        refine map_replaceFirst (fun x hx => ?_) b.schemas
        exact (beq_iff_eq.mp hx).symm
      refine { schemas := ?_, policies := hb.policies }
      rw [hnames]
      exact hb.schemas
    · rename_i new hnew
      obtain ⟨hfree, rfl⟩ := renameSchema_eq_ok hclosed hschema h
      exact
        { schemas := nodup_replaceFirst hb.schemas (schema?_eq_none.mp hfree)
          policies := mapKeys_distinctPolicies hb.policies hclosed _ }

/-! ## 3. Statements -/

theorem sameNames_of_alterTable {s : AlterTable} (h : s.apply b = .ok b') : b.SameNames b' := by
  rcases AlterTable.apply_eq_ok h with rfl | ⟨t, rfl⟩
  · exact .refl b'
  · exact sameNames_of_replaceFirst fun e he => (beq_iff_eq.mp he).symm

theorem sameNames_of_createIndex {s : CreateIndex} (h : s.apply b = .ok b') : b.SameNames b' := by
  rcases CreateIndex.apply_eq_ok h with rfl | ⟨t, -, rfl⟩
  · exact .refl b'
  · exact sameNames_of_replaceFirst fun _ _ => rfl

theorem sameNames_of_dropIndex {n : ObjectName} {p : IndexPlace} (h : b.dropIndex n p = .ok b') :
    b.SameNames b' := by
  rw [dropIndex_eq_ok h]
  exact sameNames_of_replaceFirst fun _ _ => rfl

theorem sameNames_of_createFunction {s : CreateFunction} (h : s.apply b = .ok b') :
    b.SameNames b' := by
  rcases createFunction_eq_ok h with ⟨-, rfl⟩ | ⟨g, -, -, rfl⟩ <;> exact ⟨rfl, rfl, rfl⟩

theorem sameNames_of_dropFunctions {ifExists : Bool} {s : FunctionSignature}
    (h : b.dropFunctions ifExists s = .ok b') : b.SameNames b' := by
  rcases dropFunctions_eq_ok h with rfl | ⟨rfl, -⟩
  · exact .refl b'
  · exact ⟨rfl, rfl, rfl⟩

theorem sameNames_of_createTrigger {s : CreateTrigger} (h : s.apply b = .ok b') :
    b.SameNames b' := by
  obtain ⟨t, f, e, -, -, -, -, rfl | rfl⟩ := CreateTrigger.apply_eq_ok h <;> exact ⟨rfl, rfl, rfl⟩

theorem sameNames_of_dropTrigger {s : DropTrigger} (h : s.apply b = .ok b') : b.SameNames b' := by
  rcases DropTrigger.apply_eq_ok h with rfl | ⟨p, rfl⟩
  · exact .refl b'
  · exact ⟨rfl, rfl, rfl⟩

theorem sameNames_of_grantPrivileges {s : GrantPrivileges} (h : s.apply b = .ok b') :
    b.SameNames b' := by
  obtain ⟨_, _, -, -, rfl⟩ := GrantPrivileges.apply_eq_ok h
  exact ⟨rfl, rfl, rfl⟩

theorem sameNames_of_revokePrivileges {s : RevokePrivileges} (h : s.apply b = .ok b') :
    b.SameNames b' := by
  obtain ⟨_, rfl⟩ := RevokePrivileges.apply_eq_ok h
  exact ⟨rfl, rfl, rfl⟩

theorem OnlyRoles.sameNames (h : b.OnlyRoles b') : b.SameNames b' := by
  rw [h]
  exact ⟨rfl, rfl, rfl⟩

theorem createTable_distinctNames {s : CreateTable} (hb : b.DistinctNames)
    (h : s.apply b = .ok b') : b'.DistinctNames := by
  rcases CreateTable.apply_eq_ok h with rfl | ⟨m, -, -, rfl⟩
  · exact hb
  · exact addTable_distinctNames hb _

theorem dropTable_distinctNames {s : DropTable} (hb : b.DistinctNames) (h : s.apply b = .ok b') :
    b'.DistinctNames := by
  obtain ⟨dropped, -, -, hremoved⟩ := DropTable.apply_eq_ok h
  exact removeTables_distinctNames hb hremoved

theorem createPolicy_distinctNames {s : CreatePolicy} (hb : b.DistinctNames)
    (h : s.apply b = .ok b') : b'.DistinctNames where
  schemas := by
    obtain ⟨p, rfl, -⟩ := createPolicy_isNew h
    exact hb.schemas
  policies := createPolicy_distinctPolicies hb.policies h

theorem dropPolicy_distinctNames {s : DropPolicy} (hb : b.DistinctNames)
    (h : s.apply b = .ok b') : b'.DistinctNames := by
  rcases DropPolicy.apply_eq_ok h with rfl | ⟨p, rfl⟩
  · exact hb
  · exact { schemas := hb.schemas, policies := List.Pairwise.sublist List.eraseP_sublist hb.policies }

end Builder

namespace Outcome

variable {b : Builder}

/-- What keeps the names keeps them distinct, done as a whole. -/
theorem whole_distinctNames {r : Except CatalogError Builder} (hb : b.DistinctNames)
    (h : ∀ b', r = .ok b' → b.SameNames b') : (whole b r).builder.DistinctNames :=
  whole_invariant hb fun b' hb' => hb.of_sameNames (h b' hb')

/-- What keeps the names keeps them distinct, done for each of several targets. -/
theorem each_distinctNames {α : Type} {apply : Builder → α → Except CatalogError Builder}
    (hb : b.DistinctNames) (h : ∀ b a b', apply b a = .ok b' → b.SameNames b') (as : List α) :
    (each (fun b a => whole b (apply b a)) b as).builder.DistinctNames :=
  each_invariant (fun b a hb => whole_distinctNames hb (h b a)) as hb

end Outcome

open Builder in
/-- A statement leaves the names of schemas and of the policies of a table distinct. -/
theorem Statement.apply_distinctNames (s : Statement) {b : Builder} (hclosed : b.Closed)
    (hb : b.DistinctNames) : (s.apply b).builder.DistinctNames := by
  cases s with
  | createTable s => exact Outcome.whole_invariant hb fun _ => createTable_distinctNames hb
  | dropTable s => exact Outcome.whole_invariant hb fun _ => dropTable_distinctNames hb
  | alterTable s => exact Outcome.whole_distinctNames hb fun _ => sameNames_of_alterTable
  | createIndex s => exact Outcome.whole_distinctNames hb fun _ => sameNames_of_createIndex
  | dropIndex s =>
    refine Outcome.each_invariant (fun b n hb => ?_) s.names hb
    exact dropIndices_invariant (fun b p b' hb h => hb.of_sameNames (sameNames_of_dropIndex h))
      s.ifExists hb
  | createFunction s => exact Outcome.whole_distinctNames hb fun _ => sameNames_of_createFunction
  | dropFunction s =>
    exact Outcome.each_distinctNames hb (fun _ _ _ => sameNames_of_dropFunctions) s.targets
  | createTrigger s => exact Outcome.whole_distinctNames hb fun _ => sameNames_of_createTrigger
  | dropTrigger s => exact Outcome.whole_distinctNames hb fun _ => sameNames_of_dropTrigger
  | createPolicy s => exact Outcome.whole_invariant hb fun _ => createPolicy_distinctNames hb
  | dropPolicy s => exact Outcome.whole_invariant hb fun _ => dropPolicy_distinctNames hb
  | createRole s =>
    exact Outcome.whole_distinctNames hb fun _ h => (onlyRoles_of_createRole h).sameNames
  | dropRole s =>
    exact Outcome.each_distinctNames hb
      (fun _ _ _ h => (onlyRoles_of_dropRole h).sameNames) s.names
  | grantPrivileges s =>
    exact Outcome.whole_distinctNames hb fun _ => sameNames_of_grantPrivileges
  | revokePrivileges s =>
    exact Outcome.whole_distinctNames hb fun _ => sameNames_of_revokePrivileges
  | grantRole s =>
    rw [Statement.apply, GrantRole.apply]
    split
    · exact hb
    · exact Outcome.each_distinctNames hb
        (fun _ _ _ h => (onlyRoles_of_grantTo h).sameNames) s.grantees
  | revokeRole s => exact hb.of_sameNames (onlyRoles_revokeRole s b).sameNames
  | createSchema s => exact Outcome.whole_invariant hb fun _ => createSchema_distinctNames hb
  | dropSchema s =>
    exact Outcome.each_invariant
      (fun _ _ hb => Outcome.whole_invariant hb fun _ => dropSchema_distinctNames hb) s.names hb
  | alterSchema s =>
    exact Outcome.whole_invariant hb fun _ => alterSchema_distinctNames hb hclosed
  | setTimeZone value => exact hb.of_sameNames ⟨rfl, rfl, rfl⟩
  | commentOn _ => exact hb
  | other kind sql =>
    rw [Statement.apply]
    split <;> exact hb

namespace Builder

theorem initial_distinctNames (name : String) : (initial name).DistinctNames where
  schemas := List.nodup_nil
  policies := List.Pairwise.nil

/-- In every state of a run the names of schemas and of the policies of a table are distinct. -/
theorem run_distinctNames {b : Builder} (hclosed : b.Closed) (hb : b.DistinctNames)
    (statements : List Statement) : (b.run statements).DistinctNames := by
  refine (run_keeps (P := fun b => b.Closed ∧ b.DistinctNames) ?_ ⟨hclosed, hb⟩).2
  rintro s - b ⟨hclosed, hb⟩
  exact ⟨Statement.apply_closed hclosed, s.apply_distinctNames hclosed hb⟩

/-- Where tables are distinct, so are the policies of a name on them. -/
theorem DistinctNames.policies_pairwise {b : Builder} (hb : b.DistinctNames)
    (htables : b.DistinctTables) :
    b.policies.Pairwise fun p q => p.name = q.name → p.table ≠ q.table := by
  refine hb.policies.imp fun {p q} hpq hname htable => ?_
  have hcount := List.nodup_iff_count_le_one.mp htables.nodup_keys p.table
  exact absurd (hpq hname htable) (Nat.not_lt.mpr hcount)

end Builder

end SchemaCatalog
