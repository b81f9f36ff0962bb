import Mathlib.Order.Lattice.Nat
import SchemaCatalog.Proofs.Cycles

/-!
# The order of tables by depth

The depth of a table is the length of the longest chain of foreign keys into other tables that
starts at it. The ordering lists tables by their depth, and those of depth zero, which are the
tables without such a foreign key, in the order of the catalog:
`CatalogView.dependencyOrder_by_depth`.

This comes from the queue, not from the fact that a table is taken after those it references: with a
stack in its place the order would still be one by dependency. The invariant is on the positions
that were taken together with those in the queue, in the order in which they entered it
(`Dependency.Progress.Layered`). They are sorted by depth. A position that enters the queue is
deeper than the one that was taken last, and no position in the queue is deeper than that one by
more than one, because all that it depends on was taken before.
-/

namespace SchemaCatalog

/-! ## 1. Chains -/

section Chains

variable {α : Type} {needs : α → α → Prop} {a b : α} {n : Nat}

/-- A chain of so many needs starts at an element. -/
inductive HasChain (needs : α → α → Prop) : α → Nat → Prop
  | nil (a : α) : HasChain needs a 0
  | cons {a b : α} {n : Nat} : needs a b → HasChain needs b n → HasChain needs a (n + 1)

/-- The length of the longest chain that starts at an element, if there is one. -/
noncomputable def depthOf (needs : α → α → Prop) (a : α) : Nat := sSup {n | HasChain needs a n}

/-- A chain from an element of a list goes through elements before it. -/
theorem AfterNeeds.lt_length_of_hasChain {l : List α} (h : AfterNeeds needs l) (ha : a ∈ l)
    (hchain : HasChain needs a n) : n < l.length := by
  induction l generalizing a n with
  | nil => cases ha
  | cons x earlier ih =>
    obtain ⟨hneeds, hearlier⟩ := h
    rw [List.length_cons]
    rcases List.mem_cons.mp ha with rfl | hmem
    · cases hchain with
      | nil => exact Nat.zero_lt_succ _
      | cons hab hrest => exact Nat.succ_lt_succ (ih hearlier (hneeds _ hab) hrest)
    · exact Nat.lt_succ_of_lt (ih hearlier hmem hchain)

/-- No chain from an element of a list is longer than the list, so there is a longest one. -/
theorem AfterNeeds.isGreatest_depthOf {l : List α} (h : AfterNeeds needs l) (ha : a ∈ l) :
    IsGreatest {n | HasChain needs a n} (depthOf needs a) := by
  have hbounded : BddAbove {n | HasChain needs a n} :=
    ⟨l.length, fun _ hchain => (h.lt_length_of_hasChain ha hchain).le⟩
  exact ⟨Nat.sSup_mem ⟨0, .nil a⟩ hbounded, fun _ hchain => le_csSup hbounded hchain⟩

variable (ha : IsGreatest {n | HasChain needs a n} (depthOf needs a))
include ha

/-- What is needed is less deep. -/
theorem depthOf_lt (hb : IsGreatest {n | HasChain needs b n} (depthOf needs b)) (h : needs a b) :
    depthOf needs b < depthOf needs a :=
  ha.2 (.cons h hb.1)

/-- What needs something needs something that is less deep by one. -/
theorem exists_needs_of_depthOf (hzero : depthOf needs a ≠ 0) :
    ∃ b, needs a b ∧ HasChain needs b (depthOf needs a - 1) := by
  have hchain : HasChain needs a (depthOf needs a) := ha.1
  generalize depthOf needs a = depth at hchain hzero
  cases hchain with
  | nil => exact absurd rfl hzero
  | cons hab hrest => exact ⟨_, hab, hrest⟩

theorem depthOf_eq_zero_iff : depthOf needs a = 0 ↔ ∀ b, ¬ needs a b := by
  constructor
  · intro hzero b hab
    have hone := ha.2 (.cons hab (.nil b))
    omega
  · intro hnone
    by_contra hzero
    obtain ⟨b, hab, -⟩ := exists_needs_of_depthOf ha hzero
    exact hnone b hab

end Chains

/-! ## 2. Positions in the queue -/

namespace Dependency

variable {edges : List Dependency} {count : Nat} {depth : Nat → Nat}

/-- A depth of positions: a position is deeper than what it depends on, and by no more than one than
some of it. -/
structure Depth (edges : List Dependency) (count : Nat) (depth : Nat → Nat) : Prop where
  lt : ∀ d ∈ edges, depth d.source < depth d.target
  exists_le : ∀ v < count, depth v ≠ 0 → ∃ d ∈ edges, d.target = v ∧ depth v ≤ depth d.source + 1

/-- The positions that have entered the queue, in the order in which they did. -/
def Progress.entered (p : Progress) : List Nat := p.taken.reverse ++ p.queue

/-- The positions that have entered the queue are sorted by depth, and those of depth zero have
entered it in their order. -/
structure Progress.Layered (count : Nat) (depth : Nat → Nat) (p : Progress) : Prop where
  sorted : p.entered.Pairwise fun u v => depth u ≤ depth v
  shallow : p.entered.filter (depth · == 0) = (List.range count).filter (depth · == 0)

namespace Progress.Layered

variable {p : Progress} {current : Nat} {earlier rest : List Nat}

/-- What has entered the queue is deeper than the position taken last by at most one. -/
theorem le_succ (hdepth : Depth edges count depth) {releasing : List Nat}
    (hsound : p.Sound edges count releasing) (h : p.Layered count depth)
    (htaken : p.taken = current :: earlier) {v : Nat} (hv : v ∈ p.entered) :
    depth v ≤ depth current + 1 := by
  have hsorted := h.sorted
  rw [entered, htaken, List.reverse_cons, List.append_assoc] at hsorted
  have htakenLe {u : Nat} (hu : u ∈ p.taken) : depth u ≤ depth current := by
    rw [htaken] at hu
    rcases List.mem_cons.mp hu with rfl | hmem
    · exact le_refl _
    · exact (List.pairwise_append.mp hsorted).2.2 u (List.mem_reverse.mpr hmem) current (by simp)
  rcases List.mem_append.mp hv with hmem | hmem
  · exact (htakenLe (List.mem_reverse.mp hmem)).trans (Nat.le_succ _)
  · by_cases hzero : depth v = 0
    · rw [hzero]
      exact Nat.zero_le _
    · have hlt := ((hsound.ready v).mp (Or.inr hmem)).1
      obtain ⟨d, hd, htarget, hle⟩ := hdepth.exists_le v hlt hzero
      have hsource := htakenLe (hsound.source_mem_taken hmem hd htarget)
      omega

/-- A position that is released is deeper than the one that was taken, so it may come last. -/
theorem release (hdepth : Depth edges count depth) {v : Nat}
    (hsound : p.Sound edges count (v :: rest)) (h : p.Layered count depth)
    (htaken : p.taken = current :: earlier) (hv : v ∈ successors edges current) :
    (p.release v).Layered count depth := by
  obtain ⟨⟨source, target⟩, hd, rfl⟩ := List.mem_map.mp hv
  obtain ⟨hmem, hsource⟩ := List.mem_filter.mp hd
  obtain rfl : source = current := beq_iff_eq.mp hsource
  have hlt : depth source < depth target := hdepth.lt _ hmem
  have hentered : (p.release target).entered = p.entered
      ∨ (p.release target).entered = p.entered ++ [target] := by
    simp only [entered, Progress.release]
    split
    · exact Or.inr (List.append_assoc ..).symm
    · exact Or.inl rfl
  rcases hentered with heq | heq
  · exact { sorted := heq ▸ h.sorted, shallow := heq ▸ h.shallow }
  · refine { sorted := ?_, shallow := ?_ }
    · rw [heq, List.pairwise_append]
      refine ⟨h.sorted, List.pairwise_singleton .., fun u hu w hw => ?_⟩
      rw [List.mem_singleton.mp hw]
      exact (h.le_succ hdepth hsound htaken hu).trans hlt
    · have hdeep : (depth target == 0) = false := beq_eq_false_iff_ne.mpr (by omega)
      rw [heq, List.filter_append, h.shallow, List.filter_singleton, hdeep]
      exact List.append_nil _

theorem foldl_release (hdepth : Depth edges count depth)
    (hedges : ∀ d ∈ edges, d.target < count) {vs : List Nat} (hsound : p.Sound edges count vs)
    (h : p.Layered count depth) (htaken : p.taken = current :: earlier)
    (hvs : vs ⊆ successors edges current) :
    (vs.foldl Progress.release p).Layered count depth := by
  induction vs generalizing p with
  | nil => exact h
  | cons v vs ih =>
    obtain ⟨hv, hrest⟩ := List.cons_subset.mp hvs
    have hlt : v < count := by
      obtain ⟨d, hd, rfl⟩ := List.mem_map.mp hv
      exact hedges d (List.mem_of_mem_filter hd)
    exact ih (hsound.release hlt) (h.release hdepth hsound htaken hv) htaken hrest

end Progress.Layered

/-- The positions into which there is no reference are those of depth zero. -/
theorem Depth.inDegree_eq_zero_iff (hdepth : Depth edges count depth) {v : Nat} (hv : v < count) :
    inDegree edges v = 0 ↔ depth v = 0 := by
  rw [inDegree, List.countP_eq_zero]
  constructor
  · intro hnone
    by_contra hzero
    obtain ⟨d, hd, rfl, -⟩ := hdepth.exists_le v hv hzero
    exact hnone d hd (beq_self_eq_true d.target)
  · intro hzero d hd htarget
    have hlt := hdepth.lt d hd
    rw [beq_iff_eq.mp htarget, hzero] at hlt
    exact Nat.not_lt_zero _ hlt

/-- The positions of depth zero have entered the queue at the start, and no others. -/
theorem start_layered (hdepth : Depth edges count depth) :
    (start edges count).Layered count depth := by
  have hentered : (start edges count).entered = (List.range count).filter (depth · == 0) := by
    refine List.filter_congr fun v hv => ?_
    have hlt := List.mem_range.mp hv
    rw [Bool.eq_iff_iff, beq_iff_eq, beq_iff_eq, ← hdepth.inDegree_eq_zero_iff hlt]
    exact iff_of_eq (congrArg (· = 0) (getD_waiting_start edges hlt))
  refine { sorted := ?_, shallow := ?_ }
  · rw [hentered]
    refine List.pairwise_of_forall_mem_list fun u hu v _ => ?_
    rw [beq_iff_eq.mp (List.mem_filter.mp hu).2]
    exact Nat.zero_le _
  · rw [hentered, List.filter_filter]
    simp only [Bool.and_self]

/-- A position enters the queue after all that are less deep. -/
theorem run_layered (hdepth : Depth edges count depth) (hedges : ∀ d ∈ edges, d.target < count)
    (n : Nat) {p : Progress} (hsound : p.Sound edges count []) (h : p.Layered count depth) :
    (run edges n p).Layered count depth := by
  induction n generalizing p with
  | zero => exact h
  | succ n ih =>
    rw [run]
    split
    · exact h
    · rename_i current queue hqueue
      have hsame : Progress.entered { p with queue, taken := current :: p.taken } = p.entered := by
        simp [Progress.entered, hqueue]
      have htaken : Progress.Layered count depth { p with queue, taken := current :: p.taken } :=
        { sorted := hsame ▸ h.sorted, shallow := hsame ▸ h.shallow }
      refine ih ((hsound.take hqueue).foldl_release fun v hv => ?_)
        (htaken.foldl_release hdepth hedges (hsound.take hqueue) rfl (List.Subset.refl _))
      obtain ⟨d, hd, rfl⟩ := List.mem_map.mp hv
      exact hedges d (List.mem_of_mem_filter hd)

end Dependency

/-! ## 3. Tables -/

/-- What a list has at all of its positions is the list. -/
theorem filterMap_getElem?_range {α : Type} (l : List α) :
    (List.range l.length).filterMap (l[·]?) = l := by
  induction l with
  | nil => rfl
  | cons a l ih =>
    rw [List.length_cons, List.range_succ_eq_map, List.filterMap_cons, List.filterMap_map]
    exact congrArg (a :: ·) ih

/-- A choice among what is found can be made before it is looked up. -/
theorem filter_filterMap_of_found {α β : Type} {f : α → Option β} {p : β → Bool} {q : α → Bool}
    (h : ∀ a b, f a = some b → p b = q a) (l : List α) :
    (l.filterMap f).filter p = (l.filter q).filterMap f := by
  rw [List.filter_filterMap, List.filterMap_filter]
  refine List.filterMap_congr fun a _ => ?_
  cases hfa : f a with
  | none => simp
  | some b => rw [← h a b hfa, Option.filter_some]

namespace CatalogView

variable {v : CatalogView} {edges : List Dependency}

/-- The length of the longest chain of foreign keys into other tables that starts at a table. -/
noncomputable def depth (v : CatalogView) (key : TableKey) : Nat := depthOf v.References key

/-- The depth of the table at a position. -/
noncomputable def depthAt (v : CatalogView) (i : Nat) : Nat :=
  ((v.tables[i]?).map fun t => v.depth t.key).getD 0

theorem depthAt_eq {i : Nat} {t : Table} (hi : v.tables[i]? = some t) :
    v.depthAt i = v.depth t.key := by
  rw [depthAt, hi]
  rfl

section Taken

variable (hv : v.OfCatalog) (hnodup : (v.tables.map (·.key)).Nodup)
  (hall : Dependency.all v = .ok edges) (htaken : (v.taken edges).Perm (List.range v.tables.length))
include hv hnodup hall htaken

/-- Where all tables are taken, there is a longest chain from each. -/
theorem isGreatest_depth {key : TableKey} (hkey : key ∈ v.tables.map (·.key)) :
    IsGreatest {n | HasChain v.References key n} (v.depth key) := by
  obtain ⟨i, hi⟩ := List.mem_iff_getElem?.mp hkey
  obtain ⟨hlt, -⟩ := List.getElem?_eq_some_iff.mp hi
  rw [List.length_map] at hlt
  refine (takenKeys_afterNeeds hv hnodup hall).isGreatest_depthOf ?_
  exact (mem_takenKeys hnodup hi).mpr (htaken.mem_iff.mpr (List.mem_range.mpr hlt))

/-- The tables without a foreign key into another table are those of depth zero. -/
theorem depth_eq_zero_iff {t : Table} (ht : t ∈ v.tables) :
    v.depth t.key = 0 ↔ v.isRoot t = true := by
  have hgreatest := isGreatest_depth hv hnodup hall htaken (List.mem_map_of_mem ht)
  rw [depth, depthOf_eq_zero_iff hgreatest, isRoot, List.isEmpty_iff,
    List.eq_nil_iff_forall_not_mem]
  simp only [references_iff hv hnodup ht]
  constructor
  · exact fun hnone k hk => hnone k.referenced ⟨k, hk, rfl⟩
  · rintro hnone _ ⟨k, hk, rfl⟩
    exact hnone k hk

/-- The depths of the tables are depths of their positions. -/
theorem depth_depthAt : Dependency.Depth edges v.tables.length v.depthAt := by
  have hkeys {i : Nat} {t : Table} (hi : v.tables[i]? = some t) :
      (v.tables.map (·.key))[i]? = some t.key := by rw [List.getElem?_map, hi]; rfl
  have hgreatest {t : Table} (ht : t ∈ v.tables) :=
    isGreatest_depth hv hnodup hall htaken (List.mem_map_of_mem ht)
  refine { lt := fun d hd => ?_, exists_le := fun i hi hzero => ?_ }
  · obtain ⟨t, hi, -⟩ := (Dependency.mem_all hall).mp hd
    obtain ⟨key, hj, href⟩ := (links_iff hv hnodup hall (hkeys hi)).mp hd
    rw [List.getElem?_map, Option.map_eq_some_iff] at hj
    obtain ⟨t', hj, rfl⟩ := hj
    rw [depthAt_eq hi, depthAt_eq hj]
    exact depthOf_lt (hgreatest (List.mem_of_getElem? hi))
      (hgreatest (List.mem_of_getElem? hj)) href
  · have hi : v.tables[i]? = some v.tables[i] := List.getElem?_eq_getElem hi
    rw [depthAt_eq hi] at hzero ⊢
    obtain ⟨key, href, hchain⟩ :=
      exists_needs_of_depthOf (hgreatest (List.mem_of_getElem? hi)) hzero
    have hmem := (exists_all_iff hv hnodup).mp ⟨edges, hall⟩ _ key href
    obtain ⟨t', ht', rfl⟩ := List.mem_map.mp hmem
    obtain ⟨j, hj⟩ := List.mem_iff_getElem?.mp ht'
    refine ⟨⟨j, i⟩, (links_iff hv hnodup hall (hkeys hi)).mpr ⟨_, hkeys hj, href⟩, rfl, ?_⟩
    rw [depthAt_eq hj]
    have hle : v.depth v.tables[i].key - 1 ≤ v.depth t'.key := (hgreatest ht').2 hchain
    omega

/-- The tables are taken in the order of their depth, those of depth zero in their order. -/
theorem taken_layered :
    (v.taken edges).reverse.Pairwise (fun i j => v.depthAt i ≤ v.depthAt j)
      ∧ (v.taken edges).reverse.filter (v.depthAt · == 0)
        = (List.range v.tables.length).filter (v.depthAt · == 0) := by
  have hdepth := depth_depthAt hv hnodup hall htaken
  have htargets := target_lt hall
  obtain ⟨hsorted, hshallow⟩ := Dependency.run_layered hdepth htargets v.tables.length
    (Dependency.start_sound _ _) (Dependency.start_layered hdepth)
  -- In the end nothing is left in the queue.
  rw [Dependency.Progress.entered, Dependency.queue_run_eq_nil htargets, List.append_nil]
    at hsorted hshallow
  exact ⟨hsorted, hshallow⟩

end Taken

/-- The tables of a builder or of a finished catalog, if their keys are distinct, are ordered by
their depth, and those of depth zero are the root tables in their order. -/
theorem dependencyOrder_by_depth (hv : v.OfCatalog) (hnodup : (v.tables.map (·.key)).Nodup)
    {ordered : List Table} (h : v.dependencyOrder = .ok ordered) :
    (∀ t ∈ v.tables, IsGreatest {n | HasChain v.References t.key n} (v.depth t.key))
      ∧ ordered.Pairwise (fun t t' => v.depth t.key ≤ v.depth t'.key)
      ∧ ordered.filter (fun t => v.depth t.key == 0) = v.rootTables := by
  obtain ⟨edges, hall⟩ : ∃ edges, Dependency.all v = .ok edges := by
    rw [dependencyOrder] at h
    obtain ⟨edges, hall, -⟩ := bind_eq_ok.mp h
    exact ⟨edges, hall⟩
  rw [dependencyOrder_eq hall] at h
  split at h
  case isFalse => cases h
  case isTrue hlength =>
  cases h
  have htaken := (Dependency.length_taken_run_iff (target_lt hall)).mp hlength
  obtain ⟨hsorted, hshallow⟩ := taken_layered hv hnodup hall htaken
  refine ⟨fun t ht => ?_, ?_, ?_⟩
  · exact isGreatest_depth hv hnodup hall htaken (List.mem_map_of_mem ht)
  · rw [CatalogView.ordered, List.pairwise_filterMap]
    refine hsorted.imp fun hle t hi t' hj => ?_
    rwa [depthAt_eq hi, depthAt_eq hj] at hle
  · have hfound (i : Nat) (t : Table) (hi : v.tables[i]? = some t) :
        (v.depth t.key == 0) = (v.depthAt i == 0) := by rw [depthAt_eq hi]
    rw [CatalogView.ordered, filter_filterMap_of_found hfound, hshallow,
      ← filter_filterMap_of_found hfound, filterMap_getElem?_range, rootTables]
    refine List.filter_congr fun t ht => ?_
    rw [Bool.eq_iff_iff, beq_iff_eq, depth_eq_zero_iff hv hnodup hall htaken ht]

/-- A table references two tables, of which one references the other, and there is another one that
references only itself: a table comes after all that it leads to, also where a shorter way leads
there, and the two without a foreign key into another table come first. -/
theorem dependencyOrder_by_depth_of_shortcut :
    let entry (name : String) (targets : List String) : TableEntry :=
      { table := { name }
        metadata :=
          { foreignKeys := targets.map fun target =>
              { host := ⟨name, none⟩, hostColumns := ["x"]
                referenced := ⟨target, none⟩, referencedColumns := ["x"] } } }
    let b : Builder :=
      { name := "shop"
        entries := [entry "a" ["c", "d"], entry "b" ["b"], entry "c" ["d"], entry "d" []] }
    let ordered : List Table := [{ name := "b" }, { name := "d" }, { name := "c" }, { name := "a" }]
    b.view.OfCatalog ∧ (b.view.tables.map (·.key)).Nodup ∧ b.view.dependencyOrder = .ok ordered
      ∧ b.view.rootTables = [{ name := "b" }, { name := "d" }]
      ∧ (∀ t ∈ b.view.tables,
          IsGreatest {n | HasChain b.view.References t.key n} (b.view.depth t.key))
      ∧ ordered.Pairwise (fun t t' => b.view.depth t.key ≤ b.view.depth t'.key)
      ∧ ordered.filter (fun t => b.view.depth t.key == 0) = b.view.rootTables := by
  intro entry b ordered
  have hcatalog : b.view.OfCatalog := .builder b
  have hnodup : (b.view.tables.map (·.key)).Nodup := by decide
  have hordered : b.view.dependencyOrder = .ok ordered := by cbv
  exact ⟨hcatalog, hnodup, hordered, by cbv, dependencyOrder_by_depth hcatalog hnodup hordered⟩

end CatalogView

end SchemaCatalog
