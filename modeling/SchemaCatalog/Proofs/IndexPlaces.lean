import SchemaCatalog.Proofs.Failures

/-!
# The indexes of a name

An index is known by its name and, unless the name has no schema, by the schema of its table, so
several indexes may be found by one name: in different schemas, or even in one table.
`Builder.placesOf` goes through the entries of a builder and collects their places, which is what
`Builder.indexPlaces` finds where keys are distinct (`Builder.indexPlaces_eq`).

Indexes are dropped one after the other, by the places found before the first one went. Each place
is reached only by its table and by which of two lists it is in, and what is dropped is the first
index of the name there. That this is the index that was found, and that all of them are gone in the
end, is `Builder.placesOf_dropIndex` for one index and `Builder.dropIndices_done` for those of a name.
-/

namespace SchemaCatalog

/-! ## 1. Lists -/

theorem filter_eraseP {α : Type} (p : α → Bool) (l : List α) :
    (l.eraseP p).filter p = (l.filter p).tail := by
  induction l with
  | nil => rfl
  | cons a as ih =>
    by_cases ha : p a = true
    · rw [List.eraseP_cons_of_pos ha, List.filter_cons_of_pos ha, List.tail_cons]
    · rw [List.eraseP_cons_of_neg ha, List.filter_cons_of_neg ha, List.filter_cons_of_neg ha, ih]

/-- An element that is taken away is not missed among those that it is none of. -/
theorem filter_eraseP_of_find? {α : Type} {p q : α → Bool} {l : List α}
    (h : ∀ a, l.find? p = some a → q a = false) : (l.eraseP p).filter q = l.filter q := by
  induction l with
  | nil => rfl
  | cons x xs ih =>
    by_cases hx : p x = true
    · have hother := h x (List.find?_cons_of_pos hx)
      rw [List.eraseP_cons_of_pos hx, List.filter_cons_of_neg (by simp [hother])]
    · rw [List.find?_cons_of_neg hx] at h
      rw [List.eraseP_cons_of_neg hx, List.filter_cons, List.filter_cons, ih h]

theorem flatMap_eq_cons {α β : Type} {f : α → List β} {l : List α} {b : β} {bs : List β}
    (h : l.flatMap f = b :: bs) :
    ∃ done a rest more, l = done ++ a :: rest ∧ (∀ x ∈ done, f x = []) ∧ f a = b :: more
      ∧ bs = more ++ rest.flatMap f := by
  rw [List.flatMap_def, List.flatten_eq_cons_iff] at h
  obtain ⟨empty, more, _, hl, hempty, rfl⟩ := h
  obtain ⟨done, _, rfl, rfl, htail⟩ := List.map_eq_append_iff.mp hl
  obtain ⟨a, rest, rfl, ha, rfl⟩ := List.map_eq_cons_iff.mp htail
  exact ⟨done, a, rest, more, rfl, fun x hx => hempty _ (List.mem_map_of_mem hx), ha, rfl⟩

/-! ## 2. The metadata of a table -/

namespace TableMetadata

variable {m : TableMetadata} {name : String} {p : IndexPlace} {more : List IndexPlace}

/-- Of the indexes of a name the first one found is the one that is dropped. -/
theorem indexPlaces_eraseIndex (h : m.indexPlaces name = p :: more) :
    (m.eraseIndex name p.unique).indexPlaces name = more := by
  rw [indexPlaces] at h
  cases hindices : m.indices.filter (·.name == some name) with
  | cons i indices =>
    rw [hindices, List.map_cons, List.cons_append] at h
    obtain ⟨rfl, rfl⟩ := List.cons.inj h
    rw [indexPlaces, eraseIndex]
    simp only [Bool.false_eq_true, if_false]
    rw [filter_eraseP, hindices, List.tail_cons]
  | nil =>
    rw [hindices, List.map_nil, List.nil_append] at h
    obtain ⟨i, unique, hunique, rfl, rfl⟩ := List.map_eq_cons_iff.mp h
    rw [indexPlaces, eraseIndex]
    simp only [if_true]
    rw [hindices, List.map_nil, List.nil_append, filter_eraseP, hunique, List.tail_cons]

/-- Dropping an index brings none about. -/
theorem indexPlaces_eraseIndex_sublist (m : TableMetadata) (name dropped : String)
    (unique : Bool) : ((m.eraseIndex dropped unique).indexPlaces name).Sublist (m.indexPlaces name) := by
  rw [eraseIndex]
  split
  · exact (List.Sublist.refl _).append ((List.eraseP_sublist.filter _).map _)
  · exact ((List.eraseP_sublist.filter _).map _).append (List.Sublist.refl _)

/-- A named index is found where it was added. -/
theorem indexPlaces_addTo_ne_nil {s : CreateIndex} (hs : s.name = some name) (table : TableKey) :
    (s.addTo table m).indexPlaces name ≠ [] := by
  rw [CreateIndex.addTo]
  split <;> simp [indexPlaces, hs]

end TableMetadata

/-! ## 3. Tables -/

/-- The places of the indexes of a name in an entry, none if the name is looked for in another
schema. -/
def TableEntry.indexPlaces (n : ObjectName) (e : TableEntry) : List IndexPlace :=
  if n.admitsSchemaOf e.table then e.metadata.indexPlaces n.name else []

/-- The places of the indexes of a name, entry after entry. -/
def Builder.placesOf (b : Builder) (n : ObjectName) : List IndexPlace :=
  b.entries.flatMap (·.indexPlaces n)

variable {b b' : Builder}

namespace Builder

/-- Where keys are distinct, the indexes of a name are those that its entries have. -/
theorem indexPlaces_eq (hb : (b.entries.map (·.key)).Nodup) (n : ObjectName) :
    b.indexPlaces n = .ok (b.placesOf n) := by
  rw [indexPlaces_eq_flatMap, tables, placesOf, List.filter_map, List.flatMap_map]
  refine congrArg Except.ok ?_
  have hplaces (es : List TableEntry) (hes : es ⊆ b.entries) :
      (es.filter (n.admitsSchemaOf ∘ (·.table))).flatMap (fun e =>
          (b.view.metadataOf e.table.key).indexPlaces n.name)
        = es.flatMap (·.indexPlaces n) := by
    induction es with
    | nil => rfl
    | cons e es ih =>
      obtain ⟨he, hes⟩ := List.cons_subset.mp hes
      rw [List.flatMap_cons, TableEntry.indexPlaces, List.filter_cons, Function.comp_apply]
      split
      · rw [List.flatMap_cons, metadataOf_of_mem hb he, ih hes]
      · rw [ih hes, List.nil_append]
  exact hplaces b.entries (List.Subset.refl _)

theorem placesOf_eq_nil {n : ObjectName} :
    b.placesOf n = [] ↔ ∀ e ∈ b.entries, e.indexPlaces n = [] := List.flatMap_eq_nil_iff

/-! ### Dropping -/

/-- The index that is dropped is the first one of its name, and the others stay where they are. -/
theorem placesOf_dropIndex (hb : b.Consistent) {n : ObjectName} {p : IndexPlace}
    {rest : List IndexPlace} (hplaces : b.placesOf n = p :: rest) (h : b.dropIndex n p = .ok b') :
    b'.placesOf n = rest := by
  obtain ⟨done, e, later, more, hentries, hdone, he, rfl⟩ := flatMap_eq_cons hplaces
  have hadmits : n.admitsSchemaOf e.table = true := by
    by_contra hother
    rw [TableEntry.indexPlaces, if_neg hother] at he
    cases he
  have hmetadata : e.metadata.indexPlaces n.name = p :: more := by
    rwa [TableEntry.indexPlaces, if_pos hadmits] at he
  have hkey : p.table = e.key := by
    have hfound : p ∈ e.metadata.indexPlaces n.name := hmetadata ▸ List.mem_cons_self ..
    exact (hb.closed.entries e (by simp [hentries])).table_of_mem_indexPlaces hfound
  have hothers : ∀ x ∈ done, (x.key == p.table) = false := by
    have hnodup := hb.distinct.nodup_keys
    rw [hentries, List.map_append, List.map_cons, List.nodup_middle, List.nodup_cons] at hnodup
    intro x hx
    rw [hkey, beq_eq_false_iff_ne]
    exact fun hsame => hnodup.1 (hsame ▸ List.mem_append_left _ (List.mem_map_of_mem hx))
  have hnil : done.flatMap (·.indexPlaces n) = [] := List.flatMap_eq_nil_iff.mpr hdone
  rw [dropIndex_eq_ok h, placesOf, hentries,
    replaceFirst_append hothers (beq_iff_eq.mpr hkey.symm), List.flatMap_append, List.flatMap_cons,
    hnil, List.nil_append, TableEntry.indexPlaces, if_pos hadmits,
    TableMetadata.indexPlaces_eraseIndex hmetadata]

/-- Where a name has no index, it has none after one was dropped. -/
theorem placesOf_dropIndex_eq_nil {n n' : ObjectName} {p : IndexPlace} (hb : b.placesOf n' = [])
    (h : b.dropIndex n p = .ok b') : b'.placesOf n' = [] := by
  rw [placesOf_eq_nil] at hb ⊢
  rw [dropIndex_eq_ok h]
  intro e he
  rcases mem_replaceFirst he with hold | ⟨e₀, he₀, -, rfl⟩
  · exact hb e hold
  · have hnone := hb e₀ he₀
    rw [TableEntry.indexPlaces] at hnone ⊢
    split
    · rename_i hadmits
      rw [if_pos hadmits] at hnone
      exact List.sublist_nil.mp
        (hnone ▸ TableMetadata.indexPlaces_eraseIndex_sublist e₀.metadata n'.name n.name p.unique)
    · rfl

/-- Dropping an index keeps a builder consistent. -/
theorem dropIndex_consistent {n : ObjectName} {p : IndexPlace} (hb : b.Consistent)
    (h : b.dropIndex n p = .ok b') : b'.Consistent :=
  (Effect.of_dropIndex (s := .dropIndex { names := [n] }) h).consistent hb

/-- Indexes that are all dropped are gone. -/
theorem placesOf_each_dropIndex (hb : b.Consistent) {n : ObjectName} {places : List IndexPlace}
    (hplaces : b.placesOf n = places)
    (h : Outcome.each (fun b p => .whole b (b.dropIndex n p)) b places = { builder := b' }) :
    b'.placesOf n = [] := by
  induction places generalizing b with
  | nil =>
    rw [Outcome.each] at h
    cases h
    exact hplaces
  | cons p rest ih =>
    obtain ⟨c, hstep, hrest⟩ := Outcome.each_cons_eq_done.mp h
    rw [Outcome.whole_eq_done] at hstep
    exact ih (dropIndex_consistent hb hstep) (placesOf_dropIndex hb hplaces hstep) hrest

/-- When the indexes of a name were dropped the name has none, and no name has new ones. -/
theorem dropIndices_done (hb : b.Consistent) {ifExists : Bool} {n : ObjectName}
    (h : b.dropIndices ifExists n = { builder := b' }) :
    b'.Consistent ∧ b'.placesOf n = [] ∧ ∀ n', b.placesOf n' = [] → b'.placesOf n' = [] := by
  rw [dropIndices, indexPlaces_eq hb.distinct.nodup_keys] at h
  cases hplaces : b.placesOf n with
  | nil =>
    rw [hplaces] at h
    dsimp only at h
    split at h <;> cases h
    exact ⟨hb, hplaces, fun _ => id⟩
  | cons p rest =>
    rw [hplaces] at h
    dsimp only at h
    have hb' : (Outcome.each (fun b p => .whole b (b.dropIndex n p)) b (p :: rest)).builder = b' := by
      rw [h]
    refine ⟨?_, placesOf_each_dropIndex hb hplaces h, fun n' hn' => ?_⟩
    · rw [← hb']
      exact Outcome.each_invariant (P := Consistent)
        (fun b p hb => Outcome.whole_invariant hb fun _ => dropIndex_consistent hb) _ hb
    · rw [← hb']
      exact Outcome.each_invariant (P := fun b => b.placesOf n' = [])
        (fun b p hb => Outcome.whole_invariant hb fun _ => placesOf_dropIndex_eq_nil hb) _ hn'

end Builder

/-! ### Adding -/

/-- A table is in its own schema, whatever name is looked for there. -/
theorem ObjectName.admitsSchemaOf_self (name : String) (t : Table) :
    (⟨name, t.schema⟩ : ObjectName).admitsSchemaOf t = true := by
  cases h : t.schema with
  | none => rfl
  | some schema => simp [admitsSchemaOf, h, inSchema]

/-- A named index that was added is found by its name, in the schema of its table. -/
theorem Builder.placesOf_addTo_ne_nil {s : CreateIndex} {name : String} (hs : s.name = some name)
    {e : TableEntry} (he : b.entry? e.key = some e)
    (hb' : b'.entries = replaceFirst (·.key == e.key)
      (fun x => { x with metadata := s.addTo e.key x.metadata }) b.entries) :
    b'.placesOf ⟨name, e.table.schema⟩ ≠ [] := by
  have hmem : { e with metadata := s.addTo e.key e.metadata } ∈ b'.entries := by
    have hfound := find?_replaceFirst_self (p := fun x : TableEntry => x.key == e.key)
      (f := fun x => { x with metadata := s.addTo e.key x.metadata }) (fun _ hx => hx) b.entries
    have hentry : b.entries.find? (·.key == e.key) = some e := he
    rw [hentry] at hfound
    rw [hb']
    exact List.mem_of_find?_eq_some hfound
  intro hnil
  have hnone := placesOf_eq_nil.mp hnil _ hmem
  rw [TableEntry.indexPlaces, if_pos (ObjectName.admitsSchemaOf_self name e.table)] at hnone
  exact TableMetadata.indexPlaces_addTo_ne_nil hs e.key hnone

/-- When a named index was added, its name is taken. -/
theorem CreateIndex.takenName?_addTo {s : CreateIndex} (hb : b.DistinctTables) {name : String}
    (hs : s.name = some name) {t : Table} (ht : b.resolve? s.table = some t)
    (hb' : b'.entries = replaceFirst (·.key == t.key)
      (fun e => { e with metadata := s.addTo t.key e.metadata }) b.entries) :
    s.takenName? b' t = .ok (some name) := by
  have hkeys : b'.entries.map (·.key) = b.entries.map (·.key) := by
    rw [hb']
    refine map_replaceFirst (fun e _ => ?_) b.entries
    rfl
  have hnodup : (b'.entries.map (·.key)).Nodup := hkeys ▸ hb.nodup_keys
  obtain ⟨e, he, rfl, -⟩ := Builder.resolve?_eq_some ht
  have hplaces : b'.placesOf ⟨name, e.table.schema⟩ ≠ [] :=
    Builder.placesOf_addTo_ne_nil hs (Builder.entry?_of_mem hb.nodup_keys he) hb'
  have hfound : (b'.placesOf ⟨name, e.table.schema⟩).isEmpty = false :=
    List.isEmpty_eq_false_iff.mpr hplaces
  rw [takenName?, hs]
  dsimp only
  rw [Builder.indexPlaces_eq hnodup]
  change Except.ok _ = _
  rw [hfound]
  rfl

end SchemaCatalog
