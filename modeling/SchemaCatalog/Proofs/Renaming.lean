import Mathlib.Data.List.Find
import SchemaCatalog.Proofs.Ownership

/-!
# Renaming tables

Moving a table to another key touches the table, its metadata, the foreign keys of other tables
and whatever is on it. All of it is one operation: a renaming, a function on keys, is applied to
every key of a table that the builder holds (`Builder.mapKeys`). `renameSchema_eq` says that the
renaming of a schema, whose tables are moved one after the other, is that operation.

Several tables may share a key, and then moving one of them is no renaming: the first is moved,
the references to the key go with it, and the others stay. But the tables of a schema are moved in
the order in which they are filed, so each is the first of its key when its turn comes; what has
been moved stands before it, what is left after it. `foldlM_renameTable_eq` is an induction over
the entries that are left, and needs no keys to be distinct.

What belongs to tables follows any renaming: `Closed.mapKeys`.
-/

namespace SchemaCatalog

/-! ## 1. Applying a renaming -/

/-- A foreign key with a renaming applied to both of its ends. -/
def ForeignKey.mapKeys (φ : TableKey → TableKey) (k : ForeignKey) : ForeignKey :=
  { k with host := φ k.host, referenced := φ k.referenced }

/-- The metadata of a table with a renaming applied to every key. -/
def TableMetadata.mapKeys (φ : TableKey → TableKey) (m : TableMetadata) : TableMetadata :=
  { m with
    columns := m.columns.map fun c => { c with table := φ c.table }
    indices := m.indices.map fun i => { i with table := φ i.table }
    uniqueIndices := m.uniqueIndices.map fun i => { i with table := φ i.table }
    foreignKeys := m.foreignKeys.map (·.mapKeys φ)
    checks := m.checks.map fun k => { k with table := φ k.table } }

/-- An entry with a renaming applied to every key. -/
def TableEntry.mapKeys (φ : TableKey → TableKey) (e : TableEntry) : TableEntry :=
  { table := { e.table with name := (φ e.key).name, schema := (φ e.key).schema }
    metadata := e.metadata.mapKeys φ }

/-- A grant with a renaming applied to the tables it names. -/
def Grant.mapKeys (φ : TableKey → TableKey) (g : Grant) : Grant :=
  if g.objects.kind == .tables then
    { g with objects := { g.objects with names := g.objects.names.map φ } }
  else g

/-- A builder with a renaming applied to every key of a table. -/
def Builder.mapKeys (φ : TableKey → TableKey) (b : Builder) : Builder :=
  { b with
    entries := b.entries.map (·.mapKeys φ)
    triggers := b.triggers.map fun t => { t with table := φ t.table }
    policies := b.policies.map fun p => { p with table := φ p.table }
    grants := b.grants.map (·.mapKeys φ) }

section MapKeys

variable {φ ψ : TableKey → TableKey}

@[simp] theorem TableEntry.key_mapKeys (e : TableEntry) : (e.mapKeys φ).key = φ e.key := rfl

@[simp] theorem TableMetadata.columnNames_mapKeys (m : TableMetadata) :
    (m.mapKeys φ).columnNames = m.columnNames := by
  rw [columnNames, columnNames, mapKeys, List.map_map]; rfl

@[simp] theorem Grant.kind_mapKeys (g : Grant) : (g.mapKeys φ).objects.kind = g.objects.kind := by
  rw [mapKeys]; split <;> rfl

@[simp] theorem Grant.privileges_mapKeys (g : Grant) : (g.mapKeys φ).privileges = g.privileges := by
  rw [mapKeys]; split <;> rfl

theorem Grant.names_mapKeys {g : Grant} (h : g.objects.kind = GrantObjectKind.tables) :
    (g.mapKeys φ).objects.names = g.objects.names.map φ := by
  rw [mapKeys, if_pos (beq_iff_eq.mpr h)]

@[simp] theorem Grant.isVoid_mapKeys (g : Grant) : (g.mapKeys φ).isVoid = g.isVoid := by
  by_cases h : g.objects.kind = GrantObjectKind.tables
  · rw [isVoid, isVoid, kind_mapKeys, names_mapKeys h, List.isEmpty_map]
  · rw [mapKeys, if_neg fun htables => h (beq_iff_eq.mp htables)]

theorem Grant.mapKeys_id (g : Grant) : g.mapKeys id = g := by
  rw [mapKeys, List.map_id]; exact ite_self g

theorem Grant.mapKeys_mapKeys (g : Grant) : (g.mapKeys φ).mapKeys ψ = g.mapKeys (ψ ∘ φ) := by
  by_cases h : g.objects.kind = GrantObjectKind.tables
  · simp [mapKeys, h]
  · simp [mapKeys, h]

theorem TableMetadata.mapKeys_id (m : TableMetadata) : m.mapKeys id = m := by
  have hkeys : m.foreignKeys.map (·.mapKeys id) = m.foreignKeys := List.map_id m.foreignKeys
  simp only [mapKeys, hkeys, id, List.map_id']

theorem TableMetadata.mapKeys_mapKeys (m : TableMetadata) :
    (m.mapKeys φ).mapKeys ψ = m.mapKeys (ψ ∘ φ) := by
  simp only [mapKeys, List.map_map]; rfl

theorem TableEntry.mapKeys_mapKeys (e : TableEntry) :
    (e.mapKeys φ).mapKeys ψ = e.mapKeys (ψ ∘ φ) := by
  rw [mapKeys, key_mapKeys, mapKeys, TableMetadata.mapKeys_mapKeys]
  rfl

theorem TableEntry.mapKeys_id (e : TableEntry) : e.mapKeys id = e := by
  rw [mapKeys, TableMetadata.mapKeys_id]; rfl

/-- The renaming that changes nothing. -/
theorem Builder.mapKeys_id (b : Builder) : b.mapKeys id = b := by
  have hentries : b.entries.map (·.mapKeys id) = b.entries :=
    (List.map_congr_left fun e _ => e.mapKeys_id).trans (List.map_id _)
  have hgrants : b.grants.map (·.mapKeys id) = b.grants :=
    (List.map_congr_left fun g _ => g.mapKeys_id).trans (List.map_id _)
  simp only [mapKeys, hentries, hgrants, id, List.map_id']

/-! ## 2. What belongs to tables -/

/-- The parts of the metadata carry the key, whatever columns they name. -/
structure TableMetadata.Bears (m : TableMetadata) (key : TableKey) : Prop where
  columns : ∀ c ∈ m.columns, c.table = key
  indices : ∀ i ∈ m.indices, i.table = key
  uniqueIndices : ∀ i ∈ m.uniqueIndices, i.table = key
  foreignKeys : ∀ k ∈ m.foreignKeys, k.host = key
  checks : ∀ k ∈ m.checks, k.table = key

theorem TableMetadata.FiledUnder.bears {m : TableMetadata} {key : TableKey} (h : m.FiledUnder key) :
    m.Bears key :=
  { h with }

theorem TableMetadata.Bears.mapKeys {m : TableMetadata} {key : TableKey} (h : m.Bears key) :
    (m.mapKeys φ).Bears (φ key) where
  columns := List.forall_mem_map.mpr fun c hc => congrArg φ (h.columns c hc)
  indices := List.forall_mem_map.mpr fun i hi => congrArg φ (h.indices i hi)
  uniqueIndices := List.forall_mem_map.mpr fun i hi => congrArg φ (h.uniqueIndices i hi)
  foreignKeys := List.forall_mem_map.mpr fun k hk => congrArg φ (h.foreignKeys k hk)
  checks := List.forall_mem_map.mpr fun k hk => congrArg φ (h.checks k hk)

theorem TableMetadata.FiledUnder.mapKeys {m : TableMetadata} {key : TableKey}
    (h : m.FiledUnder key) : (m.mapKeys φ).FiledUnder (φ key) :=
  { h.bears.mapKeys with
    primaryKey := by rw [columnNames_mapKeys]; exact h.primaryKey
    hostColumns := List.forall_mem_map.mpr fun k hk => by
      rw [columnNames_mapKeys]; exact h.hostColumns k hk
    checkColumns := List.forall_mem_map.mpr fun k hk => by
      rw [columnNames_mapKeys]; exact h.checkColumns k hk }

theorem Builder.HasColumns.mapKeys {b : Builder} {key : TableKey} {names : List String}
    (h : b.HasColumns key names) : (b.mapKeys φ).HasColumns (φ key) names := by
  obtain ⟨e, he, rfl, hnames⟩ := h
  refine ⟨e.mapKeys φ, List.mem_map_of_mem he, rfl, ?_⟩
  rw [TableEntry.mapKeys, TableMetadata.columnNames_mapKeys]
  exact hnames

/-- Where a renaming keeps the key of a table apart from the others, the image of the key finds the
image of what the key found. -/
theorem Builder.entry?_mapKeys {b : Builder} {key : TableKey}
    (h : ∀ e ∈ b.entries, φ e.key = φ key ↔ e.key = key) :
    Builder.entry? (b.mapKeys φ) (φ key) = (b.entry? key).map (·.mapKeys φ) := by
  have hsame : ∀ e ∈ b.entries, ((e.mapKeys φ).key == φ key) = (e.key == key) := by
    intro e he
    rw [TableEntry.key_mapKeys, Bool.eq_iff_iff, beq_iff_eq, beq_iff_eq]
    exact h e he
  unfold entry? Builder.mapKeys
  rw [List.find?_map, Function.comp_def, List.find?_congr hsame]

/-- A renaming takes whatever belongs to a table along. -/
theorem Builder.Closed.mapKeys {b : Builder} (hb : b.Closed) : (b.mapKeys φ).Closed where
  entries := List.forall_mem_map.mpr fun e he => (hb.entries e he).mapKeys
  triggers := List.forall_mem_map.mpr fun t ht => (hb.triggers t ht).mapKeys
  policies := List.forall_mem_map.mpr fun p hp => (hb.policies p hp).mapKeys
  grants := List.forall_mem_map.mpr fun g hg htables => by
    rw [Grant.kind_mapKeys] at htables
    rw [Grant.names_mapKeys htables, Grant.privileges_mapKeys]
    exact List.forall_mem_map.mpr fun n hn => (hb.grants g hg htables n hn).mapKeys

end MapKeys

/-! ## 3. Moving a table -/

theorem ObjectName.renamed_self (old new : ObjectName) : ObjectName.renamed old new old = new :=
  if_pos BEq.rfl

theorem ObjectName.renamed_of_ne {old new n : ObjectName} (h : n ≠ old) :
    ObjectName.renamed old new n = n :=
  if_neg fun heq => h (beq_iff_eq.mp heq)

/-- Metadata with a renaming applied to the targets of the foreign keys. -/
def TableMetadata.mapTargets (φ : TableKey → TableKey) (m : TableMetadata) : TableMetadata :=
  { m with foreignKeys := m.foreignKeys.map fun k => { k with referenced := φ k.referenced } }

/-- An entry with a renaming applied to the targets of its foreign keys. -/
def TableEntry.mapTargets (φ : TableKey → TableKey) (e : TableEntry) : TableEntry :=
  { e with metadata := e.metadata.mapTargets φ }

section Move

variable {m : TableMetadata} {key old new : TableKey} {φ ψ : TableKey → TableKey}

@[simp] theorem TableEntry.key_mapTargets (e : TableEntry) : (e.mapTargets φ).key = e.key := rfl

theorem TableMetadata.FiledUnder.mapTargets (h : m.FiledUnder key) :
    (m.mapTargets φ).FiledUnder key :=
  { h with
    foreignKeys := List.forall_mem_map.mpr h.foreignKeys
    hostColumns := List.forall_mem_map.mpr h.hostColumns }

/-- A foreign key of the table to move: it moves, and so does its target if that is the table. -/
theorem ForeignKey.rekey_renamed {k : ForeignKey} (h : k.host = old) :
    { k.rekey new with referenced := .renamed old new (k.rekey new).referenced }
      = k.mapKeys (.renamed old new) := by
  rw [ForeignKey.rekey, ForeignKey.mapKeys, h, ObjectName.renamed_self]
  by_cases hself : k.isSelfReferential = true
  · have htarget : k.referenced = old := by rw [← h, beq_iff_eq.mp hself]
    have hnew : ObjectName.renamed old new new = new := ite_self new
    rw [if_pos hself, hnew, htarget, ObjectName.renamed_self]
  · rw [if_neg hself]

/-- The metadata of the table to move, with the targets of its foreign keys renamed after it
moved. -/
theorem TableMetadata.Bears.rekey_renamed (h : m.Bears old) (new : TableKey) :
    (m.rekey new).mapTargets (.renamed old new) = m.mapKeys (.renamed old new) := by
  have hown {k : TableKey} (hk : k = old) : new = ObjectName.renamed old new k := by
    rw [hk, ObjectName.renamed_self]
  rw [TableMetadata.mapTargets, TableMetadata.rekey, TableMetadata.mapKeys, TableMetadata.mk.injEq]
  refine ⟨?_, rfl, ?_, ?_, ?_, ?_, rfl, rfl⟩
  · exact List.map_congr_left fun c hc => by rw [← hown (h.columns c hc)]
  · exact List.map_congr_left fun i hi => by rw [← hown (h.indices i hi)]
  · exact List.map_congr_left fun i hi => by rw [← hown (h.uniqueIndices i hi)]
  · rw [List.map_map]
    exact List.map_congr_left fun k hk => ForeignKey.rekey_renamed (h.foreignKeys k hk)
  · exact List.map_congr_left fun k hk => by rw [← hown (h.checks k hk)]

theorem TableEntry.rekey_renamed {e : TableEntry} (h : e.metadata.Bears e.key) (new : TableKey) :
    (e.rekey new).mapTargets (.renamed e.key new) = e.mapKeys (.renamed e.key new) := by
  rw [mapTargets, rekey, mapKeys, h.rekey_renamed, ObjectName.renamed_self]

/-- Where two renamings agree on the key of the table, it does not matter which of them its own
parts are moved by. -/
theorem TableMetadata.Bears.mapKeys_mapTargets (h : m.Bears key)
    (heq : φ (ψ key) = φ key) : (m.mapTargets ψ).mapKeys φ = m.mapKeys (φ ∘ ψ) := by
  have hown {k : TableKey} (hk : k = key) : φ (ψ k) = φ k := hk ▸ heq
  rw [TableMetadata.mapTargets, TableMetadata.mapKeys, TableMetadata.mapKeys,
    TableMetadata.mk.injEq]
  refine ⟨?_, rfl, ?_, ?_, ?_, ?_, rfl, rfl⟩
  · exact List.map_congr_left fun c hc => by rw [Function.comp, hown (h.columns c hc)]
  · exact List.map_congr_left fun i hi => by rw [Function.comp, hown (h.indices i hi)]
  · exact List.map_congr_left fun i hi => by rw [Function.comp, hown (h.uniqueIndices i hi)]
  · rw [List.map_map]
    refine List.map_congr_left fun k hk => ?_
    rw [ForeignKey.mapKeys, Function.comp, Function.comp, hown (h.foreignKeys k hk)]
    rfl
  · exact List.map_congr_left fun k hk => by rw [Function.comp, hown (h.checks k hk)]

theorem TableEntry.mapKeys_mapTargets {e : TableEntry} (h : e.metadata.Bears e.key)
    (heq : φ (ψ e.key) = φ e.key) : (e.mapTargets ψ).mapKeys φ = e.mapKeys (φ ∘ ψ) := by
  rw [mapKeys, key_mapTargets, mapKeys, Function.comp, heq, mapTargets, h.mapKeys_mapTargets heq]

end Move

/-- Moving the first table of its key renames the key everywhere, except that other tables of the
key keep it. -/
theorem Builder.renameTable_eq {b : Builder} {done rest : List TableEntry} {e : TableEntry}
    (hb : b.entries = done ++ e :: rest) (hfirst : ∀ e' ∈ done, e'.key ≠ e.key)
    (hbears : e.metadata.Bears e.key) (new : TableKey) :
    b.renameTable e.key new = .ok { b.mapKeys (.renamed e.key new) with
      entries := done.map (·.mapTargets (.renamed e.key new))
        ++ e.mapKeys (.renamed e.key new) :: rest.map (·.mapTargets (.renamed e.key new)) } := by
  rw [renameTable]
  split
  · rename_i hnone
    exact absurd rfl (entry?_eq_none.mp hnone e (by simp [hb]))
  · have hmoved : replaceFirst (·.key == e.key) (·.rekey new) b.entries
        = done ++ e.rekey new :: rest := by
      rw [hb]
      exact replaceFirst_append (by simpa using hfirst) (beq_iff_eq.mpr rfl)
    rw [← TableEntry.rekey_renamed hbears, hmoved]
    simp only [List.map_append, List.map_cons]
    rfl

/-- The parts of every table carry its key as before when the first of its key has been moved. -/
theorem filedUnder_renameTable {done rest : List TableEntry} {e : TableEntry}
    (h : ∀ e' ∈ done ++ e :: rest, e'.metadata.FiledUnder e'.key) (φ : TableKey → TableKey) :
    ∀ e' ∈ (done.map (·.mapTargets φ) ++ [e.mapKeys φ]) ++ rest.map (·.mapTargets φ),
      e'.metadata.FiledUnder e'.key := by
  simp only [List.forall_mem_append, List.forall_mem_cons, List.forall_mem_map] at h ⊢
  obtain ⟨hdone, he, hrest⟩ := h
  refine ⟨⟨fun e' he' => (hdone e' he').mapTargets, he.mapKeys, by simp⟩, fun e' he' => ?_⟩
  exact (hrest e' he').mapTargets

/-! ## 4. Renaming a schema -/

/-- The renaming that moves tables of the given keys to a schema. -/
def ObjectName.movedTo (keys : List TableKey) (schema : String) (n : TableKey) : TableKey :=
  if n ∈ keys then ⟨n.name, some schema⟩ else n

/-- A key of the new schema is not moved. -/
theorem ObjectName.movedTo_new {keys : List TableKey} {old new : String} (hne : old ≠ new)
    (hkeys : ∀ k ∈ keys, k.schema = some old) (name : String) :
    ObjectName.movedTo keys new ⟨name, some new⟩ = ⟨name, some new⟩ :=
  if_neg fun hmem => hne (Option.some.inj (hkeys _ hmem)).symm

/-- Moving one table and then others, of a schema that is not the new one, is moving all. -/
theorem ObjectName.movedTo_cons {key : TableKey} {keys : List TableKey} {old new : String}
    (hne : old ≠ new) (hkeys : ∀ k ∈ keys, k.schema = some old) :
    ObjectName.movedTo keys new ∘ ObjectName.renamed key ⟨key.name, some new⟩
      = ObjectName.movedTo (key :: keys) new := by
  funext n
  rw [Function.comp]
  by_cases hn : n = key
  · rw [hn, renamed_self, movedTo_new hne hkeys, movedTo, if_pos (List.mem_cons_self ..)]
  · rw [renamed_of_ne hn, movedTo, movedTo]
    simp only [List.mem_cons, hn, false_or]

namespace Builder

variable {b : Builder} {old new : String}

/-- Moving the first table of its key and then renaming all that is left is one renaming. Another
table of the same key is left too, so the second renaming moves it to the same place. -/
theorem mapKeys_renameTable {done rest : List TableEntry} {e : TableEntry} {keys : List TableKey}
    (hb : b.entries = done ++ e :: rest) (hfiled : ∀ e ∈ b.entries, e.metadata.FiledUnder e.key)
    (hfirst : ∀ e' ∈ done, e'.key ≠ e.key) (hne : old ≠ new)
    (hkeys : ∀ k ∈ keys, k.schema = some old)
    (hrest : ∀ e' ∈ rest, e'.key = e.key → e.key ∈ keys) :
    mapKeys (.movedTo keys new)
        { b.mapKeys (.renamed e.key ⟨e.key.name, some new⟩) with
          entries := done.map (·.mapTargets (.renamed e.key ⟨e.key.name, some new⟩))
            ++ e.mapKeys (.renamed e.key ⟨e.key.name, some new⟩)
            :: rest.map (·.mapTargets (.renamed e.key ⟨e.key.name, some new⟩)) }
      = b.mapKeys (.movedTo (e.key :: keys) new) := by
  rw [← ObjectName.movedTo_cons hne hkeys]
  set r := ObjectName.renamed e.key ⟨e.key.name, some new⟩ with hr
  set φ := ObjectName.movedTo keys new with hφ
  have hstays {e' : TableEntry} (he' : e'.key ≠ e.key) : φ (r e'.key) = φ e'.key := by
    rw [hr, ObjectName.renamed_of_ne he']
  have hentries : (done.map (·.mapTargets r) ++ e.mapKeys r :: rest.map (·.mapTargets r)).map
      (·.mapKeys φ) = b.entries.map (·.mapKeys (φ ∘ r)) := by
    rw [hb, List.map_append, List.map_append, List.map_cons, List.map_cons, List.map_map,
      List.map_map, TableEntry.mapKeys_mapKeys]
    congr 1
    · refine List.map_congr_left fun e' he' => ?_
      exact TableEntry.mapKeys_mapTargets (hfiled e' (by simp [hb, he'])).bears
        (hstays (hfirst e' he'))
    · congr 1
      refine List.map_congr_left fun e' he' => ?_
      refine TableEntry.mapKeys_mapTargets (hfiled e' (by simp [hb, he'])).bears ?_
      by_cases hsame : e'.key = e.key
      · rw [hsame, hr, ObjectName.renamed_self, hφ, ObjectName.movedTo_new hne hkeys,
          ObjectName.movedTo, if_pos (hrest e' he' hsame)]
      · exact hstays hsame
  have hgrants : (b.grants.map (·.mapKeys r)).map (·.mapKeys φ) = b.grants.map (·.mapKeys (φ ∘ r)) := by
    rw [List.map_map]
    exact List.map_congr_left fun g _ => g.mapKeys_mapKeys
  simp only [mapKeys, hentries, hgrants, List.map_map]
  rfl

/-- The keys of the tables that are filed under a schema. -/
def keysIn (b : Builder) (schema : String) : List TableKey :=
  (b.tables.filter (·.schema == some schema)).map (·.key)

/-- Moving the tables of a schema to another one, one after the other, is one renaming. The tables
that were moved, or are of another schema, stand before those that are left. -/
theorem foldlM_renameTable_eq (hne : old ≠ new) (n : Nat) (done rest : List TableEntry)
    (hn : rest.length = n) (hb : b.entries = done ++ rest)
    (hfiled : ∀ e ∈ b.entries, e.metadata.FiledUnder e.key)
    (hdone : ∀ e ∈ done, e.key.schema ≠ some old) :
    ((rest.map (·.table)).filter (·.schema == some old)).foldlM
        (fun b t => b.renameTable t.key ⟨t.name, some new⟩) b
      = .ok (b.mapKeys
          (.movedTo (((rest.map (·.table)).filter (·.schema == some old)).map (·.key)) new)) := by
  -- The induction is on the number of tables left, since moving one renames targets in the others.
  induction n generalizing b done rest with
  | zero =>
    have hid : ObjectName.movedTo [] new = id := funext fun n => if_neg List.not_mem_nil
    rw [List.length_eq_zero_iff.mp hn, List.map_nil, List.filter_nil, List.map_nil, hid, mapKeys_id]
    rfl
  | succ n ih =>
    obtain ⟨e, rest, rfl⟩ := List.exists_cons_of_length_eq_add_one hn
    have hlength : rest.length = n := Nat.succ.inj hn
    by_cases hmoves : e.table.schema = some old
    · have hfirst : ∀ e' ∈ done, e'.key ≠ e.key := fun e' he' heq =>
        hdone e' he' ((congrArg ObjectName.schema heq).trans hmoves)
      have hmoved : b.renameTable e.table.key ⟨e.table.name, some new⟩ = _ :=
        renameTable_eq hb hfirst (hfiled e (by simp [hb])).bears ⟨e.table.name, some new⟩
      set r := ObjectName.renamed e.key ⟨e.table.name, some new⟩ with hr
      have hleft := ih (b := { b.mapKeys r with
          entries := done.map (·.mapTargets r) ++ e.mapKeys r :: rest.map (·.mapTargets r) })
        (done.map (·.mapTargets r) ++ [e.mapKeys r]) (rest.map (·.mapTargets r))
        (by rw [List.length_map, hlength]) (by simp) ?filed ?done
      case filed =>
        rw [List.append_cons]
        exact filedUnder_renameTable (hb ▸ hfiled) r
      case done =>
        refine List.forall_mem_append.mpr ⟨List.forall_mem_map.mpr hdone, ?_⟩
        rw [List.forall_mem_singleton, TableEntry.key_mapKeys, hr, ObjectName.renamed_self]
        exact fun heq => hne (Option.some.inj heq).symm
      have htables : (rest.map (·.mapTargets r)).map (·.table) = rest.map (·.table) := by
        rw [List.map_map]; rfl
      rw [htables] at hleft
      rw [List.map_cons, List.filter_cons_of_pos (by simp [hmoves]), List.foldlM_cons, hmoved]
      refine hleft.trans (congrArg Except.ok ?_)
      refine mapKeys_renameTable hb hfiled hfirst hne (fun k hk => ?_) fun e' he' hsame => ?_
      · obtain ⟨t, ht, rfl⟩ := List.mem_map.mp hk
        exact beq_iff_eq.mp (List.mem_filter.mp ht).2
      · rw [← hsame]
        refine List.mem_map_of_mem (List.mem_filter.mpr ⟨List.mem_map_of_mem he', ?_⟩)
        exact beq_iff_eq.mpr ((congrArg ObjectName.schema hsame).trans hmoves)
    · rw [List.map_cons, List.filter_cons_of_neg (by simp [hmoves])]
      refine ih (done ++ [e]) rest hlength (by simp [hb]) hfiled ?_
      exact List.forall_mem_append.mpr ⟨hdone, List.forall_mem_singleton.mpr hmoves⟩

/-- Renaming a schema renames the keys of its tables everywhere; besides, it changes the grants that
name the schema and the schema itself. -/
theorem renameSchema_eq {schema : Schema} (hold : b.schema? old = some schema)
    (hnew : b.schema? new = none) (hfiled : ∀ e ∈ b.entries, e.metadata.FiledUnder e.key) :
    b.renameSchema schema new = .ok
      { (b.mapKeys (.movedTo (b.keysIn old) new)).replaceGrants (·.objects.nameSchema old)
          (fun g => some (g.renameSchema old new)) with
        schemas := replaceFirst (·.name == old) (fun _ => { schema with name := new })
          b.schemas } := by
  have hname : schema.name = old := by simpa using List.find?_some hold
  have hne : old ≠ new := by
    rintro rfl
    rw [hold] at hnew
    cases hnew
  have hmoved := foldlM_renameTable_eq (b := b) hne _ [] b.entries rfl rfl hfiled (by simp)
  have hthere : b.schemas.any (·.name == old) = true :=
    List.any_eq_true.mpr ⟨schema, List.mem_of_find?_eq_some hold, beq_iff_eq.mpr hname⟩
  simp only [renameSchema, hnew, Option.isSome_none, Bool.false_eq_true, if_false, hname, tables]
  rw [hmoved]
  exact if_pos hthere

end Builder

end SchemaCatalog
