import SchemaCatalog.Proofs.Renaming

/-!
# Renaming one table

A table that is moved to a key which nothing mentions is renamed and no more: the builder is the one
before with the key replaced wherever it stood, whatever pointed at a table points at its image, and
moving the table back gives the builder from before, every record of it included. This is
`Builder.renameTable_reversible`.

The operation is a renaming once each key is that of one table (`renameTable_eq_mapKeys`), so what
remains to be said is about renamings of keys in general. Two that agree on the keys which a builder
mentions do the same to it (`mapKeys_congr`), which is why the way back is the identity; and one
that keeps the mentioned keys apart takes lookups and cross references along (`entry?_mapKeys`,
`tableDependents_mapKeys`, `referencedTables_mapKeys`).

The metadata of a table has to carry the key of the table (`TableMetadata.Bears`), since moving the
table overwrites it. Nothing else is asked: what is mentioned may be on no table at all.
-/

namespace SchemaCatalog

/-- A table with a renaming applied to its key. -/
def Table.mapKey (φ : TableKey → TableKey) (t : Table) : Table :=
  { t with name := (φ t.key).name, schema := (φ t.key).schema }

/-- The keys that the builder mentions: those of its tables, of the targets of foreign keys, and of
what triggers, policies and grants on tables are on. -/
def Builder.mentioned (b : Builder) : List TableKey :=
  b.entries.map (·.key)
    ++ b.entries.flatMap (fun e => e.metadata.foreignKeys.map (·.referenced))
    ++ b.triggers.map (·.table)
    ++ b.policies.map (·.table)
    ++ (b.grants.filter (·.objects.kind == .tables)).flatMap (·.objects.names)

/-! ## 1. Where renamings agree -/

section Congr

variable {φ ψ : TableKey → TableKey} {m : TableMetadata} {key : TableKey}

/-- The parts of metadata that carries a key are renamed with it, and its foreign keys besides with
their targets. -/
theorem TableMetadata.Bears.mapKeys_congr (h : m.Bears key) (hkey : φ key = ψ key)
    (htargets : ∀ k ∈ m.foreignKeys, φ k.referenced = ψ k.referenced) :
    m.mapKeys φ = m.mapKeys ψ := by
  have hown {k : TableKey} (hk : k = key) : φ k = ψ k := hk ▸ hkey
  unfold TableMetadata.mapKeys
  rw [mk.injEq]
  refine ⟨?_, rfl, ?_, ?_, ?_, ?_, rfl, rfl⟩
  · exact List.map_congr_left fun c hc => by rw [hown (h.columns c hc)]
  · exact List.map_congr_left fun i hi => by rw [hown (h.indices i hi)]
  · exact List.map_congr_left fun i hi => by rw [hown (h.uniqueIndices i hi)]
  · refine List.map_congr_left fun k hk => ?_
    unfold ForeignKey.mapKeys
    rw [hown (h.foreignKeys k hk), htargets k hk]
  · exact List.map_congr_left fun k hk => by rw [hown (h.checks k hk)]

theorem Grant.mapKeys_congr {g : Grant}
    (h : g.objects.kind = .tables → ∀ n ∈ g.objects.names, φ n = ψ n) :
    g.mapKeys φ = g.mapKeys ψ := by
  by_cases hkind : g.objects.kind = .tables
  · have hnames : g.objects.names.map φ = g.objects.names.map ψ := List.map_congr_left (h hkind)
    simp [Grant.mapKeys, hkind, hnames]
  · simp [Grant.mapKeys, hkind]

namespace Builder

variable {b : Builder}

theorem mem_mentioned {key : TableKey} : key ∈ b.mentioned
    ↔ (∃ e ∈ b.entries, e.key = key)
      ∨ (∃ e ∈ b.entries, ∃ k ∈ e.metadata.foreignKeys, k.referenced = key)
      ∨ (∃ t ∈ b.triggers, t.table = key) ∨ (∃ p ∈ b.policies, p.table = key)
      ∨ ∃ g ∈ b.grants, g.objects.kind = .tables ∧ key ∈ g.objects.names := by
  simp [mentioned, and_assoc]

theorem key_mem_mentioned {e : TableEntry} (he : e ∈ b.entries) : e.key ∈ b.mentioned :=
  mem_mentioned.mpr (Or.inl ⟨e, he, rfl⟩)

theorem referenced_mem_mentioned {e : TableEntry} {k : ForeignKey} (he : e ∈ b.entries)
    (hk : k ∈ e.metadata.foreignKeys) : k.referenced ∈ b.mentioned :=
  mem_mentioned.mpr (Or.inr (Or.inl ⟨e, he, k, hk, rfl⟩))

/-- Only what becomes of the keys that are mentioned matters. -/
theorem mapKeys_congr (hbears : ∀ e ∈ b.entries, e.metadata.Bears e.key)
    (h : ∀ key ∈ b.mentioned, φ key = ψ key) : b.mapKeys φ = b.mapKeys ψ := by
  have hentries : b.entries.map (·.mapKeys φ) = b.entries.map (·.mapKeys ψ) := by
    refine List.map_congr_left fun e he => ?_
    have hkey : φ e.key = ψ e.key := h e.key (key_mem_mentioned he)
    have htargets : ∀ k ∈ e.metadata.foreignKeys, φ k.referenced = ψ k.referenced :=
      fun k hk => h k.referenced (referenced_mem_mentioned he hk)
    unfold TableEntry.mapKeys
    rw [hkey, (hbears e he).mapKeys_congr hkey htargets]
  have htriggers : b.triggers.map (fun t => { t with table := φ t.table })
      = b.triggers.map fun t => { t with table := ψ t.table } := by
    refine List.map_congr_left fun t ht => ?_
    rw [h t.table (mem_mentioned.mpr (Or.inr (Or.inr (Or.inl ⟨t, ht, rfl⟩))))]
  have hpolicies : b.policies.map (fun p => { p with table := φ p.table })
      = b.policies.map fun p => { p with table := ψ p.table } := by
    refine List.map_congr_left fun p hp => ?_
    rw [h p.table (mem_mentioned.mpr (Or.inr (Or.inr (Or.inr (Or.inl ⟨p, hp, rfl⟩)))))]
  have hgrants : b.grants.map (·.mapKeys φ) = b.grants.map (·.mapKeys ψ) := by
    refine List.map_congr_left fun g hg => Grant.mapKeys_congr fun hkind n hn => ?_
    exact h n (mem_mentioned.mpr (Or.inr (Or.inr (Or.inr (Or.inr ⟨g, hg, hkind, hn⟩)))))
  simp only [Builder.mapKeys, hentries, htriggers, hpolicies, hgrants]

theorem mapKeys_mapKeys (b : Builder) : (b.mapKeys φ).mapKeys ψ = b.mapKeys (ψ ∘ φ) := by
  have hentries : (b.entries.map (·.mapKeys φ)).map (·.mapKeys ψ)
      = b.entries.map (·.mapKeys (ψ ∘ φ)) := by
    rw [List.map_map]
    exact List.map_congr_left fun e _ => e.mapKeys_mapKeys
  have hgrants : (b.grants.map (·.mapKeys φ)).map (·.mapKeys ψ)
      = b.grants.map (·.mapKeys (ψ ∘ φ)) := by
    rw [List.map_map]
    exact List.map_congr_left fun g _ => g.mapKeys_mapKeys
  simp only [Builder.mapKeys, hentries, hgrants, List.map_map]
  rfl

end Builder

end Congr

/-! ## 2. Lookups and cross references -/

/-- Dropping repetitions goes along with a change that keeps elements apart. -/
theorem distinctFrom_map {α β : Type} [BEq α] [LawfulBEq α] [BEq β] [LawfulBEq β] {f : α → β}
    {seen as : List α} (h : ∀ a ∈ as, ∀ x ∈ seen ++ as, f a = f x → a = x) :
    distinctFrom (seen.map f) (as.map f) = (distinctFrom seen as).map f := by
  induction as generalizing seen with
  | nil => rfl
  | cons a as ih =>
    obtain ⟨ha, has⟩ := List.forall_mem_cons.mp h
    have hseen : (seen.map f).contains (f a) = seen.contains a := by
      rw [Bool.eq_iff_iff, List.contains_iff_mem, List.contains_iff_mem, List.mem_map]
      constructor
      · rintro ⟨x, hx, heq⟩
        exact ha x (List.mem_append_left _ hx) heq.symm ▸ hx
      · intro hmem
        exact ⟨a, hmem, rfl⟩
    simp only [List.map_cons, distinctFrom, hseen]
    split
    · refine ih fun x hx y hy => has x hx y ?_
      rcases List.mem_append.mp hy with hy | hy
      · exact List.mem_append_left _ hy
      · exact List.mem_append_right _ (List.mem_cons_of_mem a hy)
    · rw [List.map_cons, ← ih fun x hx y hy => has x hx y ?_, List.map_cons]
      simp only [List.cons_append, List.mem_cons, List.mem_append] at hy ⊢
      tauto

theorem distinct_map {α β : Type} [BEq α] [LawfulBEq α] [BEq β] [LawfulBEq β] {f : α → β}
    {as : List α} (h : ∀ a ∈ as, ∀ x ∈ as, f a = f x → a = x) :
    distinct (as.map f) = (distinct as).map f := by
  have hapart : ∀ a ∈ as, ∀ x ∈ [] ++ as, f a = f x → a = x := h
  exact distinctFrom_map hapart

section References

variable {φ : TableKey → TableKey} {b : Builder} {key : TableKey}

@[simp] theorem Table.key_mapKey (t : Table) : (t.mapKey φ).key = φ t.key := rfl

/-- A table is known by its image where keys are kept apart. -/
theorem Table.mapKey_inj {t u : Table} (h : φ t.key = φ u.key → t.key = u.key)
    (heq : t.mapKey φ = u.mapKey φ) : t = u := by
  have hkey : t.key = u.key := h (congrArg Table.key heq)
  simp only [Table.key, ObjectName.mk.injEq] at hkey
  simp only [Table.mapKey, Table.mk.injEq] at heq
  cases t
  cases u
  simp_all

namespace Builder

/-- What depends on a table goes on to depend on its image. -/
theorem tableDependents_mapKeys (hapart : ∀ x ∈ b.mentioned, φ x = φ key ↔ x = key) :
    (b.mapKeys φ).tableDependents (φ key) = (b.tableDependents key).map (·.mapKey φ) := by
  have hsame : ∀ e ∈ b.entries,
      ((e.mapKeys φ).key != φ key
          && (e.mapKeys φ).metadata.foreignKeys.any (·.referenced == φ key))
        = (e.key != key && e.metadata.foreignKeys.any (·.referenced == key)) := by
    intro e he
    have htargets : ∀ k ∈ e.metadata.foreignKeys, (φ k.referenced = φ key ↔ k.referenced = key) :=
      fun k hk => hapart k.referenced (referenced_mem_mentioned he hk)
    rw [Bool.eq_iff_iff]
    simp only [TableEntry.key_mapKeys, Bool.and_eq_true, bne_iff_ne, List.any_eq_true, beq_iff_eq,
      hapart e.key (key_mem_mentioned he), ne_eq]
    refine and_congr_right fun _ => ?_
    simp only [TableEntry.mapKeys, TableMetadata.mapKeys, ForeignKey.mapKeys, List.mem_map]
    constructor
    · rintro ⟨_, ⟨k, hk, rfl⟩, heq⟩
      exact ⟨k, hk, (htargets k hk).mp heq⟩
    · rintro ⟨k, hk, heq⟩
      exact ⟨_, ⟨k, hk, rfl⟩, (htargets k hk).mpr heq⟩
  unfold tableDependents
  simp only [Builder.mapKeys, List.filter_map, List.map_map, Function.comp_def]
  rw [List.filter_congr hsame]
  rfl

theorem table?_mapKeys (hapart : ∀ e ∈ b.entries, φ e.key = φ key ↔ e.key = key) :
    (b.mapKeys φ).view.table? (φ key) = (b.view.table? key).map (·.mapKey φ) := by
  have hentry := entry?_mapKeys hapart
  simp only [CatalogView.table?, view, hentry, Option.map_map]
  rfl

theorem metadataOf_mapKeys (hapart : ∀ e ∈ b.entries, φ e.key = φ key ↔ e.key = key) :
    (b.mapKeys φ).view.metadataOf (φ key) = (b.view.metadataOf key).mapKeys φ := by
  have hentry := entry?_mapKeys hapart
  simp only [CatalogView.metadataOf, view, hentry]
  cases b.entry? key <;> rfl

section ReferencedTables

variable (hkeys : (b.entries.map (·.key)).Nodup)
  (hbears : ∀ e ∈ b.entries, e.metadata.Bears e.key)
  (hapart : ∀ x ∈ b.mentioned, ∀ y ∈ b.mentioned, φ x = φ y → x = y)

include hkeys hbears hapart

/-- A foreign key into its own table stays one, and no other comes to be one. -/
theorem outgoingKeys_mapKeys {e : TableEntry} (he : e ∈ b.entries) :
    (b.mapKeys φ).view.outgoingKeys (e.table.mapKey φ)
      = (b.view.outgoingKeys e.table).map (·.mapKeys φ) := by
  have hkey : e.table.key ∈ b.mentioned := key_mem_mentioned he
  have hself : ∀ k ∈ e.metadata.foreignKeys,
      (!(k.mapKeys φ).isSelfReferential) = !k.isSelfReferential := by
    intro k hk
    have hhost : k.host ∈ b.mentioned := (hbears e he).foreignKeys k hk ▸ hkey
    congr 1
    rw [Bool.eq_iff_iff]
    simp only [ForeignKey.isSelfReferential, ForeignKey.mapKeys, beq_iff_eq]
    exact ⟨hapart _ hhost _ (referenced_mem_mentioned he hk), congrArg φ⟩
  have hmetadata : (b.mapKeys φ).view.metadataOf (φ e.table.key) = e.metadata.mapKeys φ := by
    rw [metadataOf_mapKeys fun x hx => ⟨hapart _ (key_mem_mentioned hx) _ hkey, congrArg φ⟩,
      metadataOf_of_mem hkeys he]
  unfold CatalogView.outgoingKeys
  rw [Table.key_mapKey, hmetadata, metadataOf_of_mem hkeys he, TableMetadata.mapKeys,
    List.filter_map, Function.comp_def, List.filter_congr hself]

/-- The tables that a table refers to become those that its image refers to. -/
theorem referencedTables_mapKeys {t : Table} (ht : t ∈ b.tables) :
    (b.mapKeys φ).view.referencedTables (t.mapKey φ)
      = (b.view.referencedTables t).map (·.mapKey φ) := by
  obtain ⟨e, he, rfl⟩ := List.mem_map.mp ht
  have houtgoing := outgoingKeys_mapKeys hkeys hbears hapart he
  have hfound : ((b.view.outgoingKeys e.table).map (·.mapKeys φ)).filterMap
        (fun k => (b.mapKeys φ).view.table? k.referenced)
      = ((b.view.outgoingKeys e.table).filterMap fun k => b.view.table? k.referenced).map
        (·.mapKey φ) := by
    rw [List.filterMap_map, List.map_filterMap]
    refine List.filterMap_congr fun k hk => ?_
    rw [CatalogView.outgoingKeys, metadataOf_of_mem hkeys he] at hk
    have hreferenced : k.referenced ∈ b.mentioned :=
      referenced_mem_mentioned he (List.mem_of_mem_filter hk)
    exact table?_mapKeys fun x hx =>
      ⟨hapart _ (key_mem_mentioned hx) _ hreferenced, congrArg φ⟩
  unfold CatalogView.referencedTables
  rw [houtgoing, hfound]
  refine distinct_map fun t ht u hu heq => ?_
  -- Both tables are of the builder, so their keys are kept apart.
  have hmentioned {v : Table}
      (hv : v ∈ (b.view.outgoingKeys e.table).filterMap fun k => b.view.table? k.referenced) :
      v.key ∈ b.mentioned := by
    obtain ⟨k, -, hv⟩ := List.mem_filterMap.mp hv
    obtain ⟨x, hx, rfl, -⟩ := table?_eq_some hv
    exact key_mem_mentioned hx
  exact Table.mapKey_inj (hapart _ (hmentioned ht) _ (hmentioned hu)) heq

end ReferencedTables

end Builder

end References

/-! ## 3. Moving a table -/

section Renamed

variable {old new x y : TableKey}

theorem ObjectName.renamed_inj (hx : x ≠ new) (hy : y ≠ new) :
    ObjectName.renamed old new x = .renamed old new y ↔ x = y := by
  by_cases hx' : x = old
  · by_cases hy' : y = old
    · simp [hx', hy']
    · rw [hx', renamed_self, renamed_of_ne hy']
      exact iff_of_false (Ne.symm hy) (Ne.symm hy')
  · by_cases hy' : y = old
    · rw [hy', renamed_self, renamed_of_ne hx']
      exact iff_of_false hx hx'
    · rw [renamed_of_ne hx', renamed_of_ne hy']

/-- A key other than the new one is renamed back to what it was. -/
theorem ObjectName.renamed_renamed (hx : x ≠ new) :
    ObjectName.renamed new old (.renamed old new x) = x := by
  by_cases hx' : x = old
  · rw [hx', renamed_self, renamed_self]
  · rw [renamed_of_ne hx', renamed_of_ne hx]

/-- No other key is renamed to the new one, and none to the old one. -/
theorem ObjectName.renamed_ne_old (hne : old ≠ new) : ObjectName.renamed old new x ≠ old := by
  by_cases hx : x = old
  · rw [hx, renamed_self]
    exact hne.symm
  · rw [renamed_of_ne hx]
    exact hx

end Renamed

/-- A renaming of targets is a renaming for a table whose own key stays. -/
theorem TableEntry.mapTargets_eq_mapKeys {φ : TableKey → TableKey} {e : TableEntry}
    (h : e.metadata.Bears e.key) (hkey : φ e.key = e.key) : e.mapTargets φ = e.mapKeys φ := by
  have hboth : (e.mapTargets φ).mapKeys id = e.mapKeys (id ∘ φ) := mapKeys_mapTargets h hkey
  rwa [mapKeys_id] at hboth

namespace Builder

variable {b : Builder} {old new : TableKey}

/-- Where keys are distinct, moving a table renames its key everywhere. -/
theorem renameTable_eq_mapKeys (hkeys : (b.entries.map (·.key)).Nodup)
    (hbears : ∀ e ∈ b.entries, e.metadata.Bears e.key) (hold : old ∈ b.entries.map (·.key)) :
    b.renameTable old new = .ok (b.mapKeys (.renamed old new)) := by
  obtain ⟨e, he, rfl⟩ := List.mem_map.mp hold
  obtain ⟨done, rest, hb⟩ := List.append_of_mem he
  rw [hb, List.map_append, List.map_cons, List.nodup_middle, List.nodup_cons] at hkeys
  have hothers : ∀ x ∈ done ++ rest, x.key ≠ e.key := by
    intro x hx hkey
    rw [← List.map_append] at hkeys
    exact hkeys.1 (hkey ▸ List.mem_map_of_mem hx)
  have hstay : ∀ x ∈ done ++ rest,
      x.mapTargets (.renamed e.key new) = x.mapKeys (.renamed e.key new) := by
    intro x hx
    have hmem : x ∈ b.entries := by
      rw [hb]
      rcases List.mem_append.mp hx with hx | hx <;> simp [hx]
    exact TableEntry.mapTargets_eq_mapKeys (hbears x hmem) (ObjectName.renamed_of_ne (hothers x hx))
  obtain ⟨hdone, hrest⟩ := List.forall_mem_append.mp hstay
  have hfirst : ∀ x ∈ done, x.key ≠ e.key := fun x hx => hothers x (List.mem_append_left _ hx)
  rw [renameTable_eq hb hfirst (hbears e he) new, List.map_congr_left hdone,
    List.map_congr_left hrest]
  simp only [Builder.mapKeys, hb, List.map_append, List.map_cons]

/-! ## 4. There and back -/

/-- No foreign key is left that refers to the old key. -/
theorem tableDependents_old (hne : old ≠ new) :
    (b.mapKeys (.renamed old new)).tableDependents old = [] := by
  unfold tableDependents
  rw [List.map_eq_nil_iff, List.filter_eq_nil_iff]
  intro e he hdepends
  obtain ⟨x, hx, rfl⟩ := List.mem_map.mp he
  simp only [TableEntry.mapKeys, TableMetadata.mapKeys, Bool.and_eq_true, List.any_map,
    List.any_eq_true, Function.comp, beq_iff_eq] at hdepends
  obtain ⟨-, k, -, htarget⟩ := hdepends
  exact ObjectName.renamed_ne_old hne htarget

theorem keys_mapKeys (φ : TableKey → TableKey) :
    (b.mapKeys φ).entries.map (·.key) = (b.entries.map (·.key)).map φ := by
  simp only [Builder.mapKeys, List.map_map]
  rfl

theorem nodup_keys_mapKeys {φ : TableKey → TableKey} (hkeys : (b.entries.map (·.key)).Nodup)
    (hapart : ∀ x ∈ b.mentioned, ∀ y ∈ b.mentioned, φ x = φ y → x = y) :
    ((b.mapKeys φ).entries.map (·.key)).Nodup := by
  rw [keys_mapKeys]
  refine List.Nodup.map_on (fun x hx y hy => ?_) hkeys
  obtain ⟨e, he, rfl⟩ := List.mem_map.mp hx
  obtain ⟨e', he', rfl⟩ := List.mem_map.mp hy
  exact hapart _ (key_mem_mentioned he) _ (key_mem_mentioned he')

/-- Take any builder whose tables have distinct keys which their metadata carries, the key of one of
them, and a key that nothing mentions. Moving the table there replaces its key everywhere and
changes nothing else; what depends on a table depends on its image, and what a table refers to are
the images of what it referred to. Moving it back gives the builder from before. -/
theorem renameTable_reversible (hkeys : (b.entries.map (·.key)).Nodup)
    (hbears : ∀ e ∈ b.entries, e.metadata.Bears e.key) (hold : old ∈ b.entries.map (·.key))
    (hnew : new ∉ b.mentioned) :
    let φ := ObjectName.renamed old new
    let b' := b.mapKeys φ
    b.renameTable old new = .ok b'
      ∧ (∀ key, key ≠ new →
          b'.tableDependents (φ key) = (b.tableDependents key).map (·.mapKey φ))
      ∧ b'.tableDependents old = []
      ∧ (∀ t ∈ b.tables,
          b'.view.referencedTables (t.mapKey φ) = (b.view.referencedTables t).map (·.mapKey φ))
      ∧ b'.renameTable new old = .ok b := by
  intro φ b'
  have hfresh : ∀ x ∈ b.mentioned, x ≠ new := fun x hx heq => hnew (heq ▸ hx)
  have hne : old ≠ new := by
    obtain ⟨e, he, rfl⟩ := List.mem_map.mp hold
    exact hfresh _ (key_mem_mentioned he)
  have hapart : ∀ x ∈ b.mentioned, ∀ y ∈ b.mentioned, φ x = φ y → x = y :=
    fun x hx y hy => (ObjectName.renamed_inj (hfresh x hx) (hfresh y hy)).mp
  refine ⟨renameTable_eq_mapKeys hkeys hbears hold, ?_, ?_, ?_, ?_⟩
  · intro key hkey
    exact tableDependents_mapKeys fun x hx => ObjectName.renamed_inj (hfresh x hx) hkey
  · exact tableDependents_old hne
  · intro t ht
    exact referencedTables_mapKeys hkeys hbears hapart ht
  · have hkeys' : (b'.entries.map (·.key)).Nodup := nodup_keys_mapKeys hkeys hapart
    have hbears' : ∀ e ∈ b'.entries, e.metadata.Bears e.key :=
      List.forall_mem_map.mpr fun e he => (hbears e he).mapKeys
    have hnew' : new ∈ b'.entries.map (·.key) := by
      rw [keys_mapKeys]
      exact List.mem_map.mpr ⟨old, hold, ObjectName.renamed_self old new⟩
    have hback : ∀ x ∈ b.mentioned, (ObjectName.renamed new old ∘ φ) x = id x :=
      fun x hx => ObjectName.renamed_renamed (hfresh x hx)
    rw [renameTable_eq_mapKeys hkeys' hbears' hnew', mapKeys_mapKeys, mapKeys_congr hbears hback,
      mapKeys_id]

/-- A table with a key into itself and one into another table, which refers back, is moved and moved
back. A trigger is on the table, and a grant names it twice. -/
theorem renameTable_reversible_of_mutual_reference :
    let t : TableKey := ⟨"t", none⟩
    let u : TableKey := ⟨"u", some "a"⟩
    let v : TableKey := ⟨"v", some "a"⟩
    let link : TableKey → TableKey → ForeignKey := fun host referenced =>
      { host, hostColumns := ["x"], referenced, referencedColumns := ["x"] }
    let column : TableKey → Column := fun table => { table, name := "x", dataType := "INTEGER" }
    let shop : TableKey → Builder := fun key =>
      { name := "shop"
        entries :=
          [{ table := { name := key.name, schema := key.schema }
             metadata := { columns := [column key], foreignKeys := [link key key, link key u] } },
            { table := { name := "u", schema := some "a", rlsEnabled := true }
              metadata := { columns := [column u], foreignKeys := [link u key] } }]
        triggers := [{ name := "g", table := key, events := [], timing := .after }]
        policies := [{ name := "p", table := u }]
        grants :=
          [{ privileges := [{ kind := "SELECT" }]
             objects := { kind := .tables, names := [key, u, key] }
             grantees := ["PUBLIC"] }] }
    (shop t).renameTable t v = .ok (shop v) ∧ (shop v).renameTable v t = .ok (shop t)
      ∧ (shop v).tableDependents v = [{ name := "u", schema := some "a", rlsEnabled := true }] := by
  intro t u v link column shop
  have hbears : ∀ e ∈ (shop t).entries, e.metadata.Bears e.key := by
    refine List.forall_mem_cons.mpr ⟨?_, List.forall_mem_singleton.mpr ?_⟩
    · constructor <;> simp [TableEntry.key, Table.key, link, column, t]
    · constructor <;> simp [TableEntry.key, Table.key, link, column, u]
  have hkeys : ((shop t).entries.map (·.key)).Nodup := by decide +kernel
  have hnew : v ∉ (shop t).mentioned := by decide +kernel
  have hold : t ∈ (shop t).entries.map (·.key) := by decide +kernel
  obtain ⟨hmoved, hdependents, -, -, hback⟩ := renameTable_reversible hkeys hbears hold hnew
  refine ⟨hmoved, hback, (hdependents t (by decide +kernel)).trans ?_⟩
  decide +kernel

end Builder

end SchemaCatalog
