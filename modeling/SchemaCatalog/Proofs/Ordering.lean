import SchemaCatalog.Proofs.Kahn
import SchemaCatalog.Proofs.SortedSearch
import SchemaCatalog.Proofs.States

/-!
# Tables in dependency order

A foreign key can only be declared into a table that exists or into its own table. So the tables
of a builder stand in an order in which each comes after those that it references, as long as no
table is dropped that others reference: `InDependencyOrder`. The order never appears in the
program, and there is no check for cycles when a table is created; that a catalog can be ordered
at all rests on it.

The entries of a builder change in four ways: one is added at the end, one is revised, some are
taken out, or the keys of all are renamed. There is a lemma for each, and
`Statement.apply_inDependencyOrder` puts them together. The rank that the ordering needs is the
position of a table in the builder, also for the finished catalog, where tables stand elsewhere
but have the same keys.
-/

namespace SchemaCatalog

/-- Each foreign key of an entry leads to the entry itself or to one before it. -/
def InDependencyOrder (entries : List TableEntry) : Prop :=
  ∀ earlier e later, entries = earlier ++ e :: later → ∀ k ∈ e.metadata.foreignKeys,
    ∃ target, (k.isSelfReferential = true ∧ target = e ∨ target ∈ earlier) ∧ k.Grounded e target

namespace InDependencyOrder

variable {entries : List TableEntry}

theorem nil : InDependencyOrder [] := fun _ _ _ h => absurd h (by simp)

/-- A table whose foreign keys lead to itself or to others may be added. -/
theorem append {e : TableEntry} (h : InDependencyOrder entries)
    (he : ∀ k ∈ e.metadata.foreignKeys,
      ∃ target, (target = e ∨ target ∈ entries) ∧ k.Grounded e target) :
    InDependencyOrder (entries ++ [e]) := by
  intro earlier e' later hsplit k hk
  rcases List.eq_nil_or_concat later with rfl | ⟨middle, last, rfl⟩
  · obtain ⟨rfl, heq⟩ := List.append_inj' hsplit rfl
    obtain rfl : e = e' := by simpa using heq
    obtain ⟨target, hplace, hgrounded⟩ := he k hk
    refine ⟨target, hplace.imp_left fun htarget => ⟨?_, htarget⟩, hgrounded⟩
    rw [ForeignKey.isSelfReferential, beq_iff_eq, hgrounded.host, hgrounded.referenced, htarget]
  · rw [List.concat_eq_append, ← List.cons_append, ← List.append_assoc] at hsplit
    exact h earlier e' middle (List.append_inj' hsplit rfl).1 k hk

/-- A change of every entry that takes the foreign keys along keeps the order. -/
theorem map {g : TableEntry → TableEntry} (h : InDependencyOrder entries)
    (hg : ∀ e ∈ entries, ∀ k' ∈ (g e).metadata.foreignKeys, ∃ k ∈ e.metadata.foreignKeys,
      (k.isSelfReferential = true → k'.isSelfReferential = true)
        ∧ ∀ target ∈ entries, k.Grounded e target → k'.Grounded (g e) (g target)) :
    InDependencyOrder (entries.map g) := by
  intro earlier' e' later' hsplit k' hk'
  obtain ⟨earlier, rest, rfl, rfl, hrest⟩ := List.map_eq_append_iff.mp hsplit
  obtain ⟨e, later, rfl, rfl, rfl⟩ := List.map_eq_cons_iff.mp hrest
  have he : e ∈ earlier ++ e :: later := List.mem_append_right _ (List.mem_cons_self ..)
  obtain ⟨k, hk, hself, hgrounded⟩ := hg e he k' hk'
  obtain ⟨target, hplace, htarget⟩ := h earlier e later rfl k hk
  rcases hplace with ⟨hkself, rfl⟩ | hbefore
  · exact ⟨g target, Or.inl ⟨hself hkself, rfl⟩, hgrounded target he htarget⟩
  · exact ⟨g target, Or.inr (List.mem_map_of_mem hbefore),
      hgrounded target (List.mem_append_left _ hbefore) htarget⟩

/-- Tables may be taken out that no other one references. -/
theorem filter {p : TableEntry → Bool} (h : InDependencyOrder entries)
    (hp : ∀ e ∈ entries, p e = true → ∀ k ∈ e.metadata.foreignKeys, ∀ target ∈ entries,
      k.Grounded e target → p target = true) : InDependencyOrder (entries.filter p) := by
  intro earlier' e later' hsplit k hk
  obtain ⟨earlier, rest, rfl, rfl, hrest⟩ := List.filter_eq_append_iff.mp hsplit
  obtain ⟨skipped, later, rfl, hskipped, he, rfl⟩ := List.filter_eq_cons_iff.mp hrest
  obtain ⟨target, hplace, hgrounded⟩ :=
    h (earlier ++ skipped) e later (List.append_assoc ..).symm k hk
  refine ⟨target, hplace.imp_right fun hbefore => ?_, hgrounded⟩
  have htarget : p target = true :=
    hp e (by simp) he k hk target (by simp only [List.mem_append] at hbefore ⊢; tauto) hgrounded
  rcases List.mem_append.mp hbefore with hearlier | hmiddle
  · exact List.mem_filter.mpr ⟨hearlier, htarget⟩
  · exact absurd htarget (hskipped target hmiddle)

end InDependencyOrder

/-! ## 1. What statements keep -/

/-- Only the outlines of two tables decide whether a foreign key leads from one to the other. -/
theorem ForeignKey.Grounded.of_outlines {k : ForeignKey} {e e' target target' : TableEntry}
    (h : k.Grounded e target) (he : e'.outline = e.outline)
    (ht : target'.outline = target.outline) :
    k.Grounded e' target' := by
  obtain ⟨hkey, hcolumns⟩ := Prod.mk.inj he
  obtain ⟨htargetKey, htargetColumns⟩ := Prod.mk.inj ht
  exact {
    host := h.host.trans hkey.symm
    referenced := h.referenced.trans htargetKey.symm
    hostColumns := by rw [hcolumns]; exact h.hostColumns
    referencedColumns := by rw [htargetColumns]; exact h.referencedColumns
    length := h.length
    nonempty := h.nonempty }

/-- A renaming takes both ends of a foreign key along. -/
theorem ForeignKey.Grounded.mapKeys {k : ForeignKey} {e target : TableEntry}
    (h : k.Grounded e target) (φ : TableKey → TableKey) :
    (k.mapKeys φ).Grounded (e.mapKeys φ) (target.mapKeys φ) where
  host := congrArg φ h.host
  referenced := congrArg φ h.referenced
  hostColumns := by rw [TableEntry.mapKeys, TableMetadata.columnNames_mapKeys]; exact h.hostColumns
  referencedColumns := by
    rw [TableEntry.mapKeys, TableMetadata.columnNames_mapKeys]; exact h.referencedColumns
  length := h.length
  nonempty := h.nonempty

namespace InDependencyOrder

/-- Revising one entry keeps the order. -/
theorem revise {entries : List TableEntry} (hnodup : (entries.map (·.key)).Nodup)
    (h : InDependencyOrder entries) {key : TableKey} {f : TableEntry → TableEntry}
    (hf : ∀ e, e.key = key → (f e).Revises e) :
    InDependencyOrder (replaceFirst (·.key == key) f entries) := by
  rw [replaceFirst_eq_map (Builder.countP_key_le_one hnodup key)]
  have hsame (e : TableEntry) : (if e.key == key then f e else e).outline = e.outline
      ∧ (if e.key == key then f e else e).metadata.foreignKeys = e.metadata.foreignKeys := by
    split
    · rename_i hkey
      have hrevises := hf e (beq_iff_eq.mp hkey)
      exact ⟨hrevises.outline, hrevises.foreignKeys⟩
    · exact ⟨rfl, rfl⟩
  refine h.map fun e he k hk => ⟨k, (hsame e).2 ▸ hk, id, fun target _ hgrounded => ?_⟩
  exact hgrounded.of_outlines (hsame e).1 (hsame target).1

/-- Renaming keys keeps the order. -/
theorem mapKeys {entries : List TableEntry} (h : InDependencyOrder entries)
    (φ : TableKey → TableKey) : InDependencyOrder (entries.map (·.mapKeys φ)) := by
  refine h.map fun e he k' hk' => ?_
  obtain ⟨k, hk, rfl⟩ := List.mem_map.mp hk'
  refine ⟨k, hk, fun hself => ?_, fun target _ hgrounded => hgrounded.mapKeys φ⟩
  exact beq_iff_eq.mpr (congrArg φ (beq_iff_eq.mp hself))

end InDependencyOrder

/-- An effect of a statement that does not cascade keeps the order. -/
theorem Effect.inDependencyOrder {s : Statement} {b b' : Builder} (hs : s.cascades = false)
    (hb : b.Consistent) (h : InDependencyOrder b.entries) (heffect : Effect s b b') :
    InDependencyOrder b'.entries := by
  cases heffect with
  | owned entries => rwa [entries]
  | revise key f revises => exact h.revise hb.distinct.nodup_keys revises
  | declare d m free metadata => exact h.append (CreateTable.metadata_eq_ok metadata).2
  | drop ts unreferenced removed =>
    rw [Builder.removeTables_entries hb.distinct.nodup_keys removed]
    refine h.filter fun e he hstays k hk target _ hgrounded => ?_
    rw [Bool.not_eq_true', List.contains_eq_mem, decide_eq_false_iff_not] at hstays ⊢
    exact hgrounded.referenced ▸ unreferenced hs e he hstays k hk

/-- A statement that does not cascade keeps the order. -/
theorem Statement.apply_inDependencyOrder {s : Statement} {b : Builder} (hs : s.cascades = false)
    (hb : b.Consistent) (h : InDependencyOrder b.entries) :
    InDependencyOrder (s.apply b).builder.entries := by
  rcases s.apply_effects b with heffects | ⟨old, new, schema, -, hold, hrename⟩
  · have hboth := Effect.invariant (P := fun b => b.Consistent ∧ InDependencyOrder b.entries)
      (fun b b' hb heffect =>
        ⟨heffect.consistent hb.1, heffect.inDependencyOrder hs hb.1 hb.2⟩) ⟨hb, h⟩ heffects
    exact hboth.2
  · obtain ⟨-, hb'⟩ := Builder.renameSchema_eq_ok hb.closed hold hrename
    rw [hb']
    exact h.mapKeys _

/-! ## 2. The ordering succeeds -/

namespace Builder

variable {b : Builder}

/-- In a list without repetitions, what comes before an element has a lower position. -/
theorem idxOf_lt_idxOf_of_mem {earlier later : List TableKey} {key key' : TableKey}
    (hnodup : (earlier ++ key :: later).Nodup) (h : key' ∈ earlier) :
    (earlier ++ key :: later).idxOf key' < (earlier ++ key :: later).idxOf key := by
  have hnew : key ∉ earlier := fun hin =>
    (List.disjoint_of_nodup_append hnodup) hin (List.mem_cons_self ..)
  rw [List.idxOf_append_of_mem h, List.idxOf_append_of_notMem hnew, List.idxOf_cons_self,
    Nat.add_zero]
  exact List.idxOf_lt_length_of_mem h

/-- Where tables are distinct and in order, they can be ordered in every view of them, whatever
their order there. -/
theorem exists_dependencyOrder_of_perm (hb : b.DistinctTables) (h : InDependencyOrder b.entries)
    {v : CatalogView} (hentries : v.contents.entries.Perm b.entries)
    (hfound : ∀ key, v.entry? key = b.entry? key) : ∃ ordered, v.dependencyOrder = .ok ordered := by
  have hnodup := hb.nodup_keys
  refine v.exists_dependencyOrder (b.entries.map (·.key)).idxOf fun t ht k hk => ?_
  obtain ⟨e, he, rfl⟩ := List.mem_map.mp ht
  have hmem := hentries.mem_iff.mp he
  have hmetadata : v.metadataOf e.table.key = e.metadata := by
    rw [CatalogView.metadataOf, hfound]
    have hentry := entry?_of_mem hnodup hmem
    rw [TableEntry.key] at hentry
    rw [hentry]
  rw [CatalogView.outgoingKeys, hmetadata] at hk
  obtain ⟨hk, hother⟩ := List.mem_filter.mp hk
  obtain ⟨earlier, later, hsplit⟩ := List.append_of_mem hmem
  obtain ⟨target, hplace, hgrounded⟩ := h earlier e later hsplit k hk
  have hbefore : target ∈ earlier := by
    refine hplace.resolve_left fun hself => ?_
    rw [hself.1] at hother
    cases hother
  rw [hgrounded.referenced]
  constructor
  · have htarget : target ∈ v.contents.entries :=
      hentries.mem_iff.mpr (hsplit ▸ List.mem_append_left _ hbefore)
    exact List.mem_map.mpr ⟨target.table, List.mem_map_of_mem htarget, rfl⟩
  · rw [hsplit, List.map_append, List.map_cons] at hnodup ⊢
    exact idxOf_lt_idxOf_of_mem hnodup (List.mem_map_of_mem hbefore)

/-- In every state of a run without cascading drops, in which schemas are renamed to names without
tables only, each foreign key leads from columns of its table to as many columns, and at least
one, of the table itself or of one that was created before; and the tables of the state can be
ordered, and those of the finished catalog. -/
theorem states_inDependencyOrder (name : String) {statements : List Statement}
    (hcascades : ∀ s ∈ statements, s.cascades = false)
    (hrenames : (initial name).Admits (fun b s => s.RenamesIntoFree b) statements)
    {done : List Statement} (hdone : done <+: statements) :
    InDependencyOrder ((initial name).run done).entries
      ∧ (∃ ordered, ((initial name).run done).view.dependencyOrder = .ok ordered)
      ∧ ∃ ordered, ((initial name).run done).freeze.view.dependencyOrder = .ok ordered := by
  have hstate : ((initial name).run done).Consistent
      ∧ InDependencyOrder ((initial name).run done).entries := by
    refine run_invariant (P := fun b => b.Consistent ∧ InDependencyOrder b.entries) ?_
      ⟨initial_consistent name, .nil⟩ (hrenames.of_isPrefix hdone)
    rintro s hs b ⟨hb, horder⟩ hfree
    exact ⟨Statement.apply_consistent hb hfree.not_collides,
      Statement.apply_inDependencyOrder (hcascades s (hdone.subset hs)) hb horder⟩
  generalize (initial name).run done = b at hstate
  obtain ⟨hb, horder⟩ := hstate
  refine ⟨horder, ?_, ?_⟩
  · exact exists_dependencyOrder_of_perm hb.distinct horder (.refl _) fun _ => rfl
  · exact exists_dependencyOrder_of_perm hb.distinct horder b.entries_freeze_perm b.entry?_freeze

/-- A run that creates a table and one that references it and itself, fails to drop the first, and
moves both to another schema. -/
theorem states_inDependencyOrder_of_moved_schema :
    let t : ObjectName := ⟨"t", some "a"⟩
    let u : ObjectName := ⟨"u", some "a"⟩
    let statements : List Statement :=
      [.createSchema { name := "a" },
        .createTable
          { name := t
            columns := [{ name := "x", dataType := "int" }]
            constraints := [.primaryKey ["x"] none] },
        .createTable
          { name := u
            columns := [{ name := "y", dataType := "int" }]
            constraints :=
              [.foreignKey { columns := ["y"], referencedTable := t },
                .foreignKey
                  { columns := ["y"], referencedTable := u, referencedColumns := ["y"] }] },
        .dropTable { names := [t] },
        .alterSchema { name := "a", change := .rename "b" }]
    (∀ s ∈ statements, s.cascades = false)
      ∧ (initial "shop").Admits (fun b s => s.RenamesIntoFree b) statements
      ∧ ((initial "shop").run statements).entries.map (·.key)
          = [⟨"t", some "b"⟩, ⟨"u", some "b"⟩]
      ∧ InDependencyOrder ((initial "shop").run statements).entries
      ∧ (∃ ordered, ((initial "shop").run statements).view.dependencyOrder = .ok ordered)
      ∧ ∃ ordered, ((initial "shop").run statements).freeze.view.dependencyOrder = .ok ordered := by
  intro t u statements
  have hcascades : ∀ s ∈ statements, s.cascades = false := by decide +kernel
  have hrenames : (initial "shop").Admits (fun b s => s.RenamesIntoFree b) statements := by
    decide +kernel
  exact ⟨hcascades, hrenames, by decide +kernel,
    states_inDependencyOrder "shop" hcascades hrenames (List.prefix_refl statements)⟩

end Builder

end SchemaCatalog
