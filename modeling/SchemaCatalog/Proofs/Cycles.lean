import Mathlib.Data.List.Permutation
import Mathlib.Data.Set.Finite.Basic
import Mathlib.Logic.Relation
import Mathlib.Order.WellFounded
import SchemaCatalog.Catalog.Documentation
import SchemaCatalog.Proofs.Kahn
import SchemaCatalog.Proofs.SortedSearch
import SchemaCatalog.Proofs.Tables

/-!
# Which tables can be ordered

The ordering of the tables of a catalog succeeds exactly when each foreign key into another table
leads to a table of the catalog and no chain of them leads back to where it started. It is then an
ordering: of the same tables, each after those that it references. Otherwise it fails, and where no
foreign key dangles it names the tables that are on a cycle or lead to one:
`CatalogView.dependencyOrder_orders`.

The positions that are taken need only such as were taken before them (`AfterNeeds`), so none of
them leads to a cycle. Each of those that are left over needs another one that is left over, and
among finitely many that must go round in the end (`exists_cycle_of_needs`).
-/

namespace SchemaCatalog

open Relation (ReflTransGen TransGen)

/-! ## 1. What is needed comes first -/

section AfterNeeds

variable {α β : Type} {needs : α → α → Prop} {needs' : β → β → Prop}

/-- Each element of a list comes after those that it needs, in a list that is given last first. -/
def AfterNeeds (needs : α → α → Prop) : List α → Prop
  | [] => True
  | a :: earlier => (∀ b, needs a b → b ∈ earlier) ∧ AfterNeeds needs earlier

namespace AfterNeeds

theorem mem_of_append {later earlier : List α} {a b : α}
    (h : AfterNeeds needs (later ++ a :: earlier)) (hab : needs a b) : b ∈ earlier := by
  induction later with
  | nil => exact h.1 b hab
  | cons x later ih => exact ih h.2

/-- Elements may be renamed, and some left out, as long as what is needed has a name. -/
theorem filterMap {f : α → Option β} {l : List α} (h : AfterNeeds needs l)
    (hf : ∀ a x, f a = some x → ∀ y, needs' x y → ∃ b, needs a b ∧ f b = some y) :
    AfterNeeds needs' (l.filterMap f) := by
  induction l with
  | nil => trivial
  | cons a earlier ih =>
    obtain ⟨hneeds, hearlier⟩ := h
    cases hfa : f a with
    | none =>
      rw [List.filterMap_cons_none hfa]
      exact ih hearlier
    | some x =>
      rw [List.filterMap_cons_some hfa]
      refine ⟨fun y hxy => ?_, ih hearlier⟩
      obtain ⟨b, hab, hfb⟩ := hf a x hfa y hxy
      exact List.mem_filterMap.mpr ⟨b, hneeds b hab, hfb⟩

/-- What comes after all that it needs leads to no cycle. -/
theorem not_cycle {l : List α} (h : AfterNeeds needs l) {a c : α} (ha : a ∈ l)
    (hac : ReflTransGen needs a c) : ¬ TransGen needs c c := by
  induction l generalizing a c with
  | nil => cases ha
  | cons x earlier ih =>
    obtain ⟨hneeds, hearlier⟩ := h
    rcases List.mem_cons.mp ha with rfl | hmem
    · intro hcc
      rcases hac.cases_head with rfl | ⟨b, hab, hbc⟩
      · obtain ⟨b, hab, hba⟩ := TransGen.head'_iff.mp hcc
        exact ih hearlier (hneeds b hab) hba hcc
      · exact ih hearlier (hneeds b hab) hbc hcc
    · exact ih hearlier hmem hac

end AfterNeeds

/-- Among finitely many, of which each needs another one, each leads to a cycle. -/
theorem exists_cycle_of_needs {S : Set α} (hfinite : S.Finite)
    (hneeds : ∀ a ∈ S, ∃ b ∈ S, needs a b) {a : α} (ha : a ∈ S) :
    ∃ c, ReflTransGen needs a c ∧ TransGen needs c c := by
  by_contra hnone
  push Not at hnone
  -- What is reached from the start has an order without cycles, and an end in it.
  let reached : Set α := {b ∈ S | ReflTransGen needs a b}
  have hreached : Finite reached := (hfinite.subset fun _ hb => hb.1).to_subtype
  let below (b c : reached) : Prop := TransGen needs c.1 b.1
  have htrans : IsTrans reached below := ⟨fun _ _ _ hbc hcd => hcd.trans hbc⟩
  have hirrefl : Std.Irrefl below := ⟨fun b => hnone b.1 b.2.2⟩
  have hwf : WellFounded below := Finite.wellFounded_of_trans_of_irrefl below
  obtain ⟨⟨last, hlast, hpath⟩, -, hend⟩ :=
    hwf.has_min Set.univ ⟨⟨a, ha, .refl⟩, Set.mem_univ _⟩
  obtain ⟨next, hnext, hneed⟩ := hneeds last hlast
  exact hend ⟨next, hnext, hpath.tail hneed⟩ (Set.mem_univ _) (.single hneed)

end AfterNeeds

/-! ## 2. Positions -/

namespace Dependency

variable {edges : List Dependency} {count : Nat}

/-- There is a reference between two positions, from the one that holds it to the one it leads to.
-/
def Links (edges : List Dependency) (target source : Nat) : Prop := ⟨source, target⟩ ∈ edges

/-- A position is taken after all that it is linked to. -/
theorem run_afterNeeds (hedges : ∀ d ∈ edges, d.target < count) (n : Nat) {p : Progress}
    (h : p.Sound edges count []) (hp : AfterNeeds (Links edges) p.taken) :
    AfterNeeds (Links edges) (run edges n p).taken := by
  induction n generalizing p with
  | zero => exact hp
  | succ n ih =>
    rw [run]
    split
    · exact hp
    · rename_i current queue hqueue
      have hsound := (h.take hqueue).foldl_release fun v hv => by
        obtain ⟨d, hd, rfl⟩ := List.mem_map.mp hv
        exact hedges d (List.mem_of_mem_filter hd)
      refine ih hsound ?_
      rw [taken_foldl_release]
      exact ⟨fun source hlinks =>
        h.source_mem_taken (hqueue ▸ List.mem_cons_self ..) hlinks rfl, hp⟩

/-- In the end a position waits exactly when it was not taken. -/
theorem waiting_run_eq_zero (hedges : ∀ d ∈ edges, d.target < count) {v : Nat} (hv : v < count) :
    (run edges count (start edges count)).waiting.getD v 0 = 0
      ↔ v ∈ (run edges count (start edges count)).taken := by
  have hready := (run_sound hedges count (start_sound edges count)).ready v
  rw [queue_run_eq_nil hedges] at hready
  simp only [List.not_mem_nil, or_false, hv, true_and] at hready
  exact hready.symm

/-- As many positions are taken as there are exactly when all are. -/
theorem length_taken_run_iff (hedges : ∀ d ∈ edges, d.target < count) :
    (run edges count (start edges count)).taken.length = count
      ↔ (run edges count (start edges count)).taken.Perm (List.range count) := by
  have hsound := run_sound hedges count (start_sound edges count)
  have hnodup : (run edges count (start edges count)).taken.Nodup :=
    hsound.nodup.sublist (List.sublist_append_left _ _)
  constructor
  · intro hlength
    have hsub : (run edges count (start edges count)).taken ⊆ List.range count := fun v hv =>
      List.mem_range.mpr ((hsound.ready v).mp (Or.inl hv)).1
    refine (hnodup.subperm hsub).perm_of_length_le ?_
    rw [List.length_range, hlength]
  · intro hperm
    rw [hperm.length_eq, List.length_range]

end Dependency

/-! ## 3. Tables -/

/-- A finished catalog: one made of a builder, with comments attached any number of times. -/
inductive Catalog.Finished : Catalog → Prop
  | freeze (b : Builder) : Finished b.freeze
  | document {c : Catalog} (h : Finished c) (docs : Documentation) : Finished (c.document docs)

/-- The tables of a finished catalog are sorted. -/
theorem Catalog.Finished.sortedBy {c : Catalog} (h : c.Finished) :
    SortedBy (fun e : TableEntry => e.key.sortKey) tableBefore c.entries := by
  induction h with
  | freeze b => exact sortedBy_sortBy tableBefore_strictTotal b.entries
  | document h docs ih =>
    -- Comments change no key.
    refine List.pairwise_map.mpr (ih.imp fun hsorted => ?_)
    dsimp only
    split <;> split <;> exact hsorted

namespace CatalogView

/-- A view of a builder or of a finished catalog. -/
inductive OfCatalog : CatalogView → Prop
  | builder (b : Builder) : OfCatalog b.view
  | finished {c : Catalog} (h : c.Finished) : OfCatalog c.view

/-- A foreign key of the table of the first key leads to that of the second, and is not
self-referential. -/
def References (v : CatalogView) (key key' : TableKey) : Prop :=
  ∃ e ∈ v.contents.entries, e.key = key
    ∧ ∃ k ∈ e.metadata.foreignKeys, k.isSelfReferential = false ∧ k.referenced = key'

/-- Every table that is referenced by another one is in the catalog. -/
def NoneDangling (v : CatalogView) : Prop :=
  ∀ key key', v.References key key' → key' ∈ v.tables.map (·.key)

variable {v : CatalogView} {edges : List Dependency}

/-- Where keys are distinct a view finds every entry under its key. -/
theorem OfCatalog.entry?_of_mem (hv : v.OfCatalog) (hnodup : (v.tables.map (·.key)).Nodup)
    {e : TableEntry} (he : e ∈ v.contents.entries) : v.entry? e.key = some e := by
  rw [tables, List.map_map] at hnodup
  cases hv with
  | builder b => exact Builder.entry?_of_mem hnodup he
  | @finished c h =>
    have hfind := sortedFind?_eq_find? tableBefore_strictTotal h.sortedBy e.key.sortKey
    simp only [ObjectName.sortKey_beq] at hfind
    let b : Builder := { toContents := c.toContents }
    exact hfind.trans (Builder.entry?_of_mem (b := b) hnodup he)

/-- What a table references are the targets of its foreign keys into other tables. -/
theorem references_iff (hv : v.OfCatalog) (hnodup : (v.tables.map (·.key)).Nodup) {t : Table}
    (ht : t ∈ v.tables) {key : TableKey} :
    v.References t.key key ↔ ∃ k ∈ v.outgoingKeys t, k.referenced = key := by
  obtain ⟨e, he, rfl⟩ := List.mem_map.mp ht
  have hentry : v.entry? e.table.key = some e := hv.entry?_of_mem hnodup he
  have houtgoing : v.outgoingKeys e.table
      = e.metadata.foreignKeys.filter fun k => !k.isSelfReferential := by
    rw [outgoingKeys, metadataOf, hentry]
  rw [houtgoing]
  constructor
  · rintro ⟨e', he', hkey, k, hk, hself, href⟩
    have hsame := hv.entry?_of_mem hnodup he'
    rw [hkey, hentry] at hsame
    cases hsame
    exact ⟨k, List.mem_filter.mpr ⟨hk, by rw [hself]; rfl⟩, href⟩
  · rintro ⟨k, hk, href⟩
    obtain ⟨hmem, hself⟩ := List.mem_filter.mp hk
    exact ⟨e, he, rfl, k, hmem, (Bool.not_eq_true' _).mp hself, href⟩

theorem mem_keys_of_references {key key' : TableKey} (h : v.References key key') :
    key ∈ v.tables.map (·.key) := by
  obtain ⟨e, he, rfl, -⟩ := h
  exact List.mem_map.mpr ⟨e.table, List.mem_map_of_mem he, rfl⟩

/-- The references are found exactly where none dangles. -/
theorem exists_all_iff (hv : v.OfCatalog) (hnodup : (v.tables.map (·.key)).Nodup) :
    (∃ edges, Dependency.all v = .ok edges) ↔ v.NoneDangling := by
  constructor
  · rintro ⟨edges, hall⟩ key key' href
    obtain ⟨t, ht, rfl⟩ := List.mem_map.mp (mem_keys_of_references href)
    obtain ⟨k, hk, rfl⟩ := (references_iff hv hnodup ht).mp href
    exact Dependency.referenced_mem_of_all hall ht hk
  · intro hnone
    refine Dependency.exists_all fun t ht k hk => hnone t.key _ ?_
    exact (references_iff hv hnodup ht).mpr ⟨k, hk, rfl⟩

/-- Positions are linked where the table of one references that of the other. -/
theorem links_iff (hv : v.OfCatalog) (hnodup : (v.tables.map (·.key)).Nodup)
    (hall : Dependency.all v = .ok edges) {i j : Nat} {key : TableKey}
    (hi : (v.tables.map (·.key))[i]? = some key) :
    Dependency.Links edges i j
      ↔ ∃ key', (v.tables.map (·.key))[j]? = some key' ∧ v.References key key' := by
  rw [List.getElem?_map, Option.map_eq_some_iff] at hi
  obtain ⟨t, hi, rfl⟩ := hi
  have ht : t ∈ v.tables := List.mem_of_getElem? hi
  rw [Dependency.Links, Dependency.mem_all hall]
  constructor
  · rintro ⟨t', hi', k, hk, hposition⟩
    obtain rfl : t = t' := Option.some.inj (hi.symm.trans hi')
    exact ⟨k.referenced, Dependency.position?_eq_some hposition,
      (references_iff hv hnodup ht).mpr ⟨k, hk, rfl⟩⟩
  · rintro ⟨key', hj, href⟩
    obtain ⟨k, hk, rfl⟩ := (references_iff hv hnodup ht).mp href
    refine ⟨t, hi, k, hk, ?_⟩
    obtain ⟨j', hj'⟩ := Dependency.exists_position? (List.mem_of_getElem? hj)
    obtain ⟨hlt, -⟩ := List.getElem?_eq_some_iff.mp hj
    have hsame := hj.trans (Dependency.position?_eq_some hj').symm
    rw [(List.getElem?_inj hlt hnodup).mp hsame, hj']

/-! ## 4. What is taken and what is left -/

/-- A table lies on a cycle of references, or references lead from it to one. -/
def Entangled (v : CatalogView) (key : TableKey) : Prop :=
  ∃ key', ReflTransGen v.References key key' ∧ TransGen v.References key' key'

/-- The positions that are taken in the end, the last one first. -/
def taken (v : CatalogView) (edges : List Dependency) : List Nat :=
  (Dependency.run edges v.tables.length (Dependency.start edges v.tables.length)).taken

/-- The keys of the tables at these positions. -/
def takenKeys (v : CatalogView) (edges : List Dependency) : List TableKey :=
  (v.taken edges).filterMap fun i => (v.tables.map (·.key))[i]?

theorem target_lt (hall : Dependency.all v = .ok edges) :
    ∀ d ∈ edges, d.target < v.tables.length := by
  intro d hd
  obtain ⟨t, ht, -⟩ := (Dependency.mem_all hall).mp hd
  exact (List.getElem?_eq_some_iff.mp ht).1

/-- Where keys are distinct, a key is taken with its position. -/
theorem mem_takenKeys (hnodup : (v.tables.map (·.key)).Nodup) {i : Nat} {key : TableKey}
    (hi : (v.tables.map (·.key))[i]? = some key) : key ∈ v.takenKeys edges ↔ i ∈ v.taken edges := by
  rw [takenKeys, List.mem_filterMap]
  constructor
  · rintro ⟨j, hj, hkey⟩
    obtain ⟨hlt, -⟩ := List.getElem?_eq_some_iff.mp hi
    rwa [(List.getElem?_inj hlt hnodup).mp (hi.trans hkey.symm)]
  · exact fun hmem => ⟨i, hmem, hi⟩

/-- The tables that are taken come after those that they reference. -/
theorem takenKeys_afterNeeds (hv : v.OfCatalog) (hnodup : (v.tables.map (·.key)).Nodup)
    (hall : Dependency.all v = .ok edges) : AfterNeeds v.References (v.takenKeys edges) := by
  have hpositions : AfterNeeds (Dependency.Links edges) (v.taken edges) :=
    Dependency.run_afterNeeds (target_lt hall) _ (Dependency.start_sound _ _) trivial
  refine hpositions.filterMap fun i key hi key' href => ?_
  have hmem := (exists_all_iff hv hnodup).mp ⟨edges, hall⟩ key key' href
  obtain ⟨j, hj⟩ := List.mem_iff_getElem?.mp hmem
  exact ⟨j, (links_iff hv hnodup hall hi).mpr ⟨key', hj, href⟩, hj⟩

/-- A table that is left references one that is left. -/
theorem exists_references_of_left (hv : v.OfCatalog) (hnodup : (v.tables.map (·.key)).Nodup)
    (hall : Dependency.all v = .ok edges) {key : TableKey} (hkey : key ∈ v.tables.map (·.key))
    (hleft : key ∉ v.takenKeys edges) :
    ∃ key' ∈ v.tables.map (·.key), key' ∉ v.takenKeys edges ∧ v.References key key' := by
  obtain ⟨i, hi⟩ := List.mem_iff_getElem?.mp hkey
  obtain ⟨hlt, -⟩ := List.getElem?_eq_some_iff.mp hi
  rw [List.length_map] at hlt
  rw [mem_takenKeys hnodup hi, taken, Dependency.mem_taken_run (target_lt hall)] at hleft
  push Not at hleft
  obtain ⟨⟨source, target⟩, hd, rfl, hsource⟩ := hleft hlt
  obtain ⟨key', hj, href⟩ := (links_iff hv hnodup hall hi).mp hd
  refine ⟨key', List.mem_of_getElem? hj, ?_, href⟩
  rwa [mem_takenKeys hnodup hj]

/-- The tables that are left are those that are entangled in cycles. -/
theorem notMem_takenKeys_iff (hv : v.OfCatalog) (hnodup : (v.tables.map (·.key)).Nodup)
    (hall : Dependency.all v = .ok edges) {key : TableKey} (hkey : key ∈ v.tables.map (·.key)) :
    key ∉ v.takenKeys edges ↔ v.Entangled key := by
  constructor
  · intro hleft
    let left : Set TableKey := {key | key ∈ v.tables.map (·.key) ∧ key ∉ v.takenKeys edges}
    have hfinite : left.Finite :=
      (List.finite_toSet (v.tables.map Table.key)).subset fun _ hmem => hmem.1
    refine exists_cycle_of_needs (S := left) hfinite ?_ ⟨hkey, hleft⟩
    rintro a ⟨ha, haleft⟩
    obtain ⟨a', ha', haleft', href⟩ := exists_references_of_left hv hnodup hall ha haleft
    exact ⟨a', ⟨ha', haleft'⟩, href⟩
  · rintro ⟨key', hpath, hcycle⟩ hmem
    exact (takenKeys_afterNeeds hv hnodup hall).not_cycle hmem hpath hcycle

/-- All positions are taken exactly where no table is entangled. -/
theorem taken_perm_iff (hv : v.OfCatalog) (hnodup : (v.tables.map (·.key)).Nodup)
    (hall : Dependency.all v = .ok edges) :
    (v.taken edges).Perm (List.range v.tables.length)
      ↔ ∀ key ∈ v.tables.map (·.key), ¬ v.Entangled key := by
  have hsound := Dependency.run_sound (target_lt hall) v.tables.length
    (Dependency.start_sound edges v.tables.length)
  have htaken : (v.taken edges).Nodup := hsound.nodup.sublist (List.sublist_append_left _ _)
  rw [List.perm_ext_iff_of_nodup htaken List.nodup_range]
  constructor
  · intro hsame key hkey
    rw [← notMem_takenKeys_iff hv hnodup hall hkey, not_not]
    obtain ⟨i, hi⟩ := List.mem_iff_getElem?.mp hkey
    obtain ⟨hlt, -⟩ := List.getElem?_eq_some_iff.mp hi
    rw [List.length_map] at hlt
    exact (mem_takenKeys hnodup hi).mpr ((hsame i).mpr (List.mem_range.mpr hlt))
  · intro hfree i
    rw [List.mem_range]
    constructor
    · exact fun hi => ((hsound.ready i).mp (Or.inl hi)).1
    · intro hlt
      have hi : (v.tables.map (·.key))[i]? = some v.tables[i].key := by simp [hlt]
      have hkey := List.mem_of_getElem? hi
      rw [← mem_takenKeys hnodup hi]
      exact not_not.mp fun hleft =>
        hfree _ hkey ((notMem_takenKeys_iff hv hnodup hall hkey).mp hleft)

/-- The tables that are still waiting in the end, in the order of the catalog. -/
def left (v : CatalogView) (edges : List Dependency) : List Table :=
  let final := Dependency.run edges v.tables.length (Dependency.start edges v.tables.length)
  (v.tables.zipIdx.filter fun (_, i) => final.waiting.getD i 0 != 0).map (·.1)

theorem left_sublist (v : CatalogView) (edges : List Dependency) :
    (v.left edges).Sublist v.tables := by
  have hsublist := (List.filter_sublist (l := v.tables.zipIdx) (p := fun (_, i) =>
    (Dependency.run edges v.tables.length
      (Dependency.start edges v.tables.length)).waiting.getD i 0 != 0)).map Prod.fst
  rwa [List.zipIdx_map_fst] at hsublist

/-- The tables that are still waiting are those that are entangled. -/
theorem mem_left (hv : v.OfCatalog) (hnodup : (v.tables.map (·.key)).Nodup)
    (hall : Dependency.all v = .ok edges) {t : Table} (ht : t ∈ v.tables) :
    t ∈ v.left edges ↔ v.Entangled t.key := by
  have hwaits {i : Nat} (hi : v.tables[i]? = some t) :
      (Dependency.run edges v.tables.length
        (Dependency.start edges v.tables.length)).waiting.getD i 0 ≠ 0 ↔ v.Entangled t.key := by
    obtain ⟨hlt, -⟩ := List.getElem?_eq_some_iff.mp hi
    have hkey : (v.tables.map (·.key))[i]? = some t.key := by simp [hi]
    rw [← notMem_takenKeys_iff hv hnodup hall (List.mem_of_getElem? hkey), mem_takenKeys hnodup hkey,
      ne_eq, Dependency.waiting_run_eq_zero (target_lt hall) hlt]
    rfl
  rw [left, List.mem_map]
  constructor
  · rintro ⟨⟨t', i⟩, hplaced, rfl⟩
    obtain ⟨hmem, hwaiting⟩ := List.mem_filter.mp hplaced
    exact (hwaits (List.mem_zipIdx_iff_getElem?.mp hmem)).mp (bne_iff_ne.mp hwaiting)
  · intro hentangled
    obtain ⟨i, hi⟩ := List.mem_iff_getElem?.mp ht
    have hmem : (t, i) ∈ v.tables.zipIdx := List.mem_zipIdx_iff_getElem?.mpr hi
    exact ⟨(t, i), List.mem_filter.mpr ⟨hmem, bne_iff_ne.mpr ((hwaits hi).mpr hentangled)⟩, rfl⟩

/-! ## 5. What the ordering answers -/

/-- The ordering of the tables answers where it can, and says what is in the way where it cannot. -/
structure Orders (v : CatalogView) : Prop where
  ok_iff : (∃ ordered, v.dependencyOrder = .ok ordered)
    ↔ v.NoneDangling ∧ ∀ key, ¬ TransGen v.References key key
  perm : ∀ ordered, v.dependencyOrder = .ok ordered → ordered.Perm v.tables
  follows : ∀ ordered, v.dependencyOrder = .ok ordered →
    ∀ earlier t later, ordered = earlier ++ t :: later →
      ∀ key, v.References t.key key → key ∈ earlier.map (·.key)
  error : ∀ e, v.dependencyOrder = .error e →
    (∃ table referenced, e = .danglingReference table referenced)
      ∨ ∃ tables, e = .referenceCycle tables
  cycle : v.NoneDangling → ∀ e, v.dependencyOrder = .error e →
    ∃ stuck : List Table, stuck.Sublist v.tables ∧ (∀ t ∈ v.tables, t ∈ stuck ↔ v.Entangled t.key)
      ∧ e = .referenceCycle (stuck.map (·.qualifiedName))

/-- The tables that were taken, in their order. -/
def ordered (v : CatalogView) (edges : List Dependency) : List Table :=
  (v.taken edges).reverse.filterMap fun i => v.tables[i]?

theorem map_key_ordered (v : CatalogView) (edges : List Dependency) :
    (v.ordered edges).map (·.key) = (v.takenKeys edges).reverse := by
  rw [ordered, takenKeys, List.filterMap_reverse, List.map_reverse, List.map_filterMap]
  simp only [List.getElem?_map]

/-- The tables that were taken are all of the catalog where all positions were. -/
theorem ordered_perm (hnodup : (v.tables.map (·.key)).Nodup)
    (htaken : (v.taken edges).Perm (List.range v.tables.length)) :
    (v.ordered edges).Perm v.tables := by
  have htables : v.tables.Nodup := List.Nodup.of_map _ hnodup
  have hordered : (v.ordered edges).Nodup := by
    refine List.Nodup.filterMap ?_ (List.nodup_reverse.mpr (htaken.nodup_iff.mpr List.nodup_range))
    intro i j t hi hj
    obtain ⟨hlt, -⟩ := List.getElem?_eq_some_iff.mp (Option.mem_def.mp hi)
    exact (List.getElem?_inj hlt htables).mp (hi.trans hj.symm)
  rw [List.perm_ext_iff_of_nodup hordered htables]
  intro t
  rw [ordered, List.mem_filterMap]
  constructor
  · rintro ⟨i, -, hi⟩
    exact List.mem_of_getElem? hi
  · intro ht
    obtain ⟨i, hi⟩ := List.mem_iff_getElem?.mp ht
    obtain ⟨hlt, -⟩ := List.getElem?_eq_some_iff.mp hi
    exact ⟨i, List.mem_reverse.mpr (htaken.mem_iff.mpr (List.mem_range.mpr hlt)), hi⟩

/-- A table that was taken comes after those that it references. -/
theorem mem_earlier_of_references (hv : v.OfCatalog) (hnodup : (v.tables.map (·.key)).Nodup)
    (hall : Dependency.all v = .ok edges) {earlier later : List Table} {t : Table}
    (hsplit : v.ordered edges = earlier ++ t :: later) {key : TableKey}
    (href : v.References t.key key) : key ∈ earlier.map (·.key) := by
  have hkeys := List.reverse_eq_iff.mp (map_key_ordered v edges).symm
  rw [hsplit, List.map_append, List.map_cons, List.reverse_append, List.reverse_cons,
    List.append_assoc, List.singleton_append] at hkeys
  have hafter := takenKeys_afterNeeds hv hnodup hall
  rw [hkeys] at hafter
  exact List.mem_reverse.mp (hafter.mem_of_append href)

/-- No table is entangled in cycles where there is none. -/
theorem not_entangled_iff :
    (∀ key ∈ v.tables.map (·.key), ¬ v.Entangled key) ↔ ∀ key, ¬ TransGen v.References key key := by
  constructor
  · intro hfree key hcycle
    obtain ⟨_, href, -⟩ := TransGen.head'_iff.mp hcycle
    exact hfree key (mem_keys_of_references href) ⟨key, .refl, hcycle⟩
  · rintro hnone key - ⟨key', -, hcycle⟩
    exact hnone key' hcycle

theorem dependencyOrder_eq (hall : Dependency.all v = .ok edges) :
    v.dependencyOrder
      = if (v.taken edges).length = v.tables.length then .ok (v.ordered edges)
        else .error (.referenceCycle ((v.left edges).map (·.qualifiedName))) := by
  rw [dependencyOrder, hall, left, List.map_map]
  simp only [beq_iff_eq]
  rfl

/-- An order is an answer if there is nothing in the way of one. -/
theorem Orders.of_ok {found : List Table} (heq : v.dependencyOrder = .ok found)
    (hnone : v.NoneDangling) (hacyclic : ∀ key, ¬ TransGen v.References key key)
    (hperm : found.Perm v.tables)
    (hafter : ∀ earlier t later, found = earlier ++ t :: later →
      ∀ key, v.References t.key key → key ∈ earlier.map (·.key)) : v.Orders := by
  refine
    { ok_iff := iff_of_true ⟨found, heq⟩ ⟨hnone, hacyclic⟩
      perm := fun found' h => ?_
      follows := fun found' h => ?_
      error := fun e h => ?_
      cycle := fun _ e h => ?_ }
  all_goals
    rw [heq] at h
    cases h
  · exact hperm
  · exact hafter

/-- An error is an answer if something is in the way, and the error says what. -/
theorem Orders.of_error {e : CatalogError} (heq : v.dependencyOrder = .error e)
    (hblocked : ¬ (v.NoneDangling ∧ ∀ key, ¬ TransGen v.References key key))
    (herror : (∃ table referenced, e = .danglingReference table referenced)
      ∨ ∃ tables, e = .referenceCycle tables)
    (hcycle : v.NoneDangling → ∃ stuck : List Table, stuck.Sublist v.tables
      ∧ (∀ t ∈ v.tables, t ∈ stuck ↔ v.Entangled t.key)
      ∧ e = .referenceCycle (stuck.map (·.qualifiedName))) : v.Orders := by
  refine
    { ok_iff := iff_of_false (fun ⟨_, h⟩ => ?_) hblocked
      perm := fun found' h => ?_
      follows := fun found' h => ?_
      error := fun e h => ?_
      cycle := fun hnone e h => ?_ }
  all_goals
    rw [heq] at h
    cases h
  · exact herror
  · exact hcycle hnone

/-- The tables of a builder or of a finished catalog, if their keys are distinct, are ordered by
their foreign keys into other tables where none dangles and none leads back, and nowhere else. -/
theorem dependencyOrder_orders (hv : v.OfCatalog) (hnodup : (v.tables.map (·.key)).Nodup) :
    v.Orders := by
  cases hall : Dependency.all v with
  | error e =>
    have heq : v.dependencyOrder = .error e := by rw [dependencyOrder, hall]; rfl
    have hdangling : ¬ v.NoneDangling := by
      rw [← exists_all_iff hv hnodup]
      rintro ⟨edges, hedges⟩
      rw [hall] at hedges
      cases hedges
    exact .of_error heq (fun h => hdangling h.1) (Or.inl (Dependency.all_eq_error hall))
      fun hnone => absurd hnone hdangling
  | ok edges =>
    have heq := dependencyOrder_eq hall
    have hnone : v.NoneDangling := (exists_all_iff hv hnodup).mp ⟨edges, hall⟩
    have htaken : (v.taken edges).length = v.tables.length
        ↔ ∀ key, ¬ TransGen v.References key key := by
      rw [← not_entangled_iff, ← taken_perm_iff hv hnodup hall]
      exact Dependency.length_taken_run_iff (target_lt hall)
    by_cases hlength : (v.taken edges).length = v.tables.length
    · rw [if_pos hlength] at heq
      have hperm := (Dependency.length_taken_run_iff (target_lt hall)).mp hlength
      exact .of_ok heq hnone (htaken.mp hlength) (ordered_perm hnodup hperm)
        fun _ _ _ hsplit _ href => mem_earlier_of_references hv hnodup hall hsplit href
    · rw [if_neg hlength] at heq
      exact .of_error heq (fun h => hlength (htaken.mpr h.2)) (Or.inr ⟨_, rfl⟩)
        fun _ => ⟨v.left edges, v.left_sublist edges, fun _ => mem_left hv hnodup hall, rfl⟩

/-- Two tables reference each other and one of them itself, a third one references the first, and a
fourth one is free. -/
theorem dependencyOrder_orders_of_cycle :
    let entry (name : String) (targets : List String) : TableEntry :=
      { table := { name }
        metadata :=
          { foreignKeys := targets.map fun target =>
              { host := ⟨name, none⟩, hostColumns := ["x"]
                referenced := ⟨target, none⟩, referencedColumns := ["x"] } } }
    let b : Builder :=
      { name := "shop"
        entries := [entry "d" [], entry "c" ["a"], entry "b" ["a", "b"], entry "a" ["b"]] }
    b.freeze.view.OfCatalog ∧ (b.freeze.view.tables.map (·.key)).Nodup ∧ b.freeze.view.Orders
      ∧ b.freeze.view.dependencyOrder = .error (.referenceCycle ["a", "b", "c"]) := by
  intro entry b
  have hcatalog : b.freeze.view.OfCatalog := .finished (.freeze b)
  have hnodup : (b.freeze.view.tables.map (·.key)).Nodup := by
    have hperm : (b.freeze.view.tables.map (·.key)).Perm (b.tables.map (·.key)) :=
      (b.entries_freeze_perm.map _).map _
    exact hperm.nodup_iff.mpr (by decide)
  exact ⟨hcatalog, hnodup, dependencyOrder_orders hcatalog hnodup, by cbv⟩

end CatalogView

end SchemaCatalog
