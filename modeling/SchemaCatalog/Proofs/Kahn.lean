import Mathlib.Data.List.Nodup
import Mathlib.Data.List.Perm.Subperm
import SchemaCatalog.Catalog.DependencyOrder
import SchemaCatalog.Proofs.Run

/-!
# Taking tables from a queue

The ordering takes positions from a queue, each when no reference into it is pending: when all the
positions that it depends on were taken. `Progress.Sound` is the invariant that says so. It is
stated with a list of positions still to be released, since taking a position and releasing those
that wait for it are separate steps; between two turns that list is empty.

A turn takes a position that was not taken before, so after as many turns as there are positions
the queue is empty, and exactly those positions were taken into which no reference is pending.
Where references lead upwards in some rank, those are all: `length_taken_run`.
-/

namespace SchemaCatalog

namespace Dependency

variable {edges : List Dependency} {count : Nat}

/-- The number of references into a position from positions that were not taken. -/
def pending (edges : List Dependency) (taken : List Nat) (position : Nat) : Nat :=
  edges.countP fun d => d.target == position && !taken.contains d.source

/-- Taking a position settles the references that it is the source of. -/
theorem pending_eq_add {taken : List Nat} {current : Nat} (h : current ∉ taken) (position : Nat) :
    pending edges taken position
      = pending edges (current :: taken) position + (successors edges current).count position := by
  induction edges with
  | nil => rfl
  | cons d edges ih =>
    simp only [pending, successors, List.countP_cons, List.filter_cons] at ih ⊢
    rw [ih]
    by_cases hsource : d.source = current
    · have hold : taken.contains current = false := by simpa using h
      have hnew : (current :: taken).contains current = true := by simp
      simp only [hsource, hold, hnew, BEq.rfl, if_true, List.map_cons, List.count_cons,
        Bool.not_true, Bool.not_false, Bool.and_true, Bool.and_false, Bool.false_eq_true, if_false]
      omega
    · have hsame : (current :: taken).contains d.source = taken.contains d.source := by
        simp [hsource]
      rw [hsame, if_neg fun heq => hsource (beq_iff_eq.mp heq)]
      omega

/-! ## 1. The invariant -/

/-- A position that is released waits for one reference less, and no other does. -/
theorem Progress.getD_waiting_release (p : Progress) {v : Nat} (hv : v < p.waiting.length)
    (u : Nat) :
    (p.release v).waiting.getD u 0
      = if u = v then p.waiting.getD v 0 - 1 else p.waiting.getD u 0 := by
  rw [release, List.getD_eq_getElem?_getD, List.getElem?_set]
  by_cases huv : u = v
  · rw [if_pos huv, if_pos huv.symm, if_pos hv]
    rfl
  · rw [if_neg huv, if_neg (Ne.symm huv), List.getD_eq_getElem?_getD]

/-- A position that is released joins the queue when it waits for nothing more. -/
theorem Progress.mem_queue_release (p : Progress) (v u : Nat) :
    u ∈ (p.release v).queue ↔ u ∈ p.queue ∨ (u = v ∧ p.waiting.getD v 0 - 1 = 0) := by
  rw [release]
  dsimp only
  split
  · rename_i hzero
    rw [List.mem_append, List.mem_singleton]
    exact or_congr_right ⟨fun huv => ⟨huv, beq_iff_eq.mp hzero⟩, And.left⟩
  · rename_i hsome
    exact ⟨Or.inl, fun hin => hin.resolve_right fun hzero => hsome (beq_iff_eq.mpr hzero.2)⟩

/-- What holds while positions are taken, with a list of those still to be released. -/
structure Progress.Sound (edges : List Dependency) (count : Nat) (p : Progress)
    (releasing : List Nat) : Prop where
  length : p.waiting.length = count
  waiting : ∀ v, v < count → p.waiting.getD v 0 = pending edges p.taken v + releasing.count v
  ready : ∀ v, v ∈ p.taken ∨ v ∈ p.queue ↔ v < count ∧ p.waiting.getD v 0 = 0
  nodup : (p.taken ++ p.queue).Nodup

namespace Progress.Sound

variable {p : Progress}

/-- Releasing a position settles one reference into it. -/
theorem release {v : Nat} {rest : List Nat} (h : p.Sound edges count (v :: rest)) (hv : v < count) :
    (p.release v).Sound edges count rest := by
  have hwaiting := h.waiting v hv
  rw [List.count_cons_self] at hwaiting
  have hget := p.getD_waiting_release (v := v) (h.length ▸ hv)
  have hnew : v ∉ p.taken ++ p.queue := by
    intro hmem
    have hzero := ((h.ready v).mp (List.mem_append.mp hmem)).2
    omega
  refine { length := ?_, waiting := fun u hu => ?_, ready := fun u => ?_, nodup := ?_ }
  · rw [Progress.release, List.length_set, h.length]
  · rw [hget]
    by_cases huv : u = v
    · rw [if_pos huv, huv, hwaiting]
      rfl
    · rw [if_neg huv, h.waiting u hu, List.count_cons_of_ne (Ne.symm huv)]
      rfl
  · rw [hget, p.mem_queue_release]
    by_cases huv : u = v
    · rw [if_pos huv, huv]
      have hout := not_or.mp (fun hor => hnew (List.mem_append.mpr hor))
      exact ⟨fun hin => ⟨hv, (hin.resolve_left hout.1).resolve_left hout.2 |>.2⟩,
        fun hzero => Or.inr (Or.inr ⟨rfl, hzero.2⟩)⟩
    · rw [if_neg huv, ← h.ready u]
      simp [Progress.release, huv]
  · rw [Progress.release]
    dsimp only
    split
    · rw [← List.append_assoc, List.nodup_append]
      refine ⟨h.nodup, List.nodup_singleton v, fun u hu w hw huw => hnew ?_⟩
      rwa [← List.mem_singleton.mp hw, ← huw]
    · exact h.nodup

theorem foldl_release {vs : List Nat} (h : p.Sound edges count vs) (hvs : ∀ v ∈ vs, v < count) :
    (vs.foldl Progress.release p).Sound edges count [] := by
  induction vs generalizing p with
  | nil => exact h
  | cons v vs ih =>
    obtain ⟨hv, hvs⟩ := List.forall_mem_cons.mp hvs
    exact ih (h.release hv) hvs

/-- A position is taken from the queue before those that wait for it are released. -/
theorem take {current : Nat} {queue : List Nat} (h : p.Sound edges count [])
    (hqueue : p.queue = current :: queue) :
    Sound edges count { p with queue, taken := current :: p.taken } (successors edges current) := by
  have hnodup := h.nodup
  rw [hqueue] at hnodup
  have hnew : current ∉ p.taken := fun hmem =>
    (List.disjoint_of_nodup_append hnodup) hmem (List.mem_cons_self ..)
  refine { length := h.length, waiting := fun v hv => ?_, ready := fun v => ?_, nodup := ?_ }
  · have hwaiting := h.waiting v hv
    rw [List.count_nil, Nat.add_zero, pending_eq_add hnew] at hwaiting
    exact hwaiting
  · rw [← h.ready v, hqueue, List.mem_cons, List.mem_cons]
    tauto
  · exact (List.perm_middle.nodup_iff).mp hnodup

/-- A position in the queue waits for nothing: what it depends on was taken. -/
theorem source_mem_taken {releasing : List Nat} (h : p.Sound edges count releasing) {v : Nat}
    (hv : v ∈ p.queue) {d : Dependency} (hd : d ∈ edges) (htarget : d.target = v) :
    d.source ∈ p.taken := by
  have hready := (h.ready v).mp (Or.inr hv)
  have hwaiting := h.waiting v hready.1
  rw [hready.2, eq_comm, Nat.add_eq_zero_iff, pending, List.countP_eq_zero] at hwaiting
  simpa [htarget] using hwaiting.1 d hd

end Progress.Sound

/-- At the start a position waits for all references into it. -/
theorem getD_waiting_start (edges : List Dependency) {v : Nat} (hv : v < count) :
    (start edges count).waiting.getD v 0 = inDegree edges v := by
  simp [start, List.getD_eq_getElem?_getD, hv]

/-- Nothing is taken at the start, and those positions may be that hold no reference. -/
theorem start_sound (edges : List Dependency) (count : Nat) :
    (start edges count).Sound edges count [] := by
  refine { length := ?_, waiting := fun v hv => ?_, ready := fun v => ?_, nodup := ?_ }
  · simp [start]
  · rw [getD_waiting_start edges hv]
    simp [start, pending, inDegree]
  · by_cases hv : v < count
    · have hmem := getD_waiting_start edges hv
      simp only [start, List.mem_filter, List.mem_range, beq_iff_eq, List.not_mem_nil, false_or]
    · simp [start, hv]
  · exact List.nodup_range.filter _

/-! ## 2. Runs -/

/-- The invariant holds after any number of turns. -/
theorem run_sound (hedges : ∀ d ∈ edges, d.target < count) (n : Nat) {p : Progress}
    (h : p.Sound edges count []) : (run edges n p).Sound edges count [] := by
  induction n generalizing p with
  | zero => exact h
  | succ n ih =>
    rw [run]
    split
    · exact h
    · rename_i current queue hqueue
      refine ih ((h.take hqueue).foldl_release fun v hv => ?_)
      obtain ⟨d, hd, rfl⟩ := List.mem_map.mp hv
      exact hedges d (List.mem_of_mem_filter hd)

theorem taken_foldl_release (vs : List Nat) (p : Progress) :
    (vs.foldl Progress.release p).taken = p.taken := by
  induction vs generalizing p with
  | nil => rfl
  | cons v vs ih => rw [List.foldl_cons, ih]; rfl

/-- Each turn takes one position, until the queue is empty. -/
theorem run_progress (n : Nat) (p : Progress) :
    (run edges n p).queue = [] ∨ (run edges n p).taken.length = p.taken.length + n := by
  induction n generalizing p with
  | zero => exact Or.inr rfl
  | succ n ih =>
    rw [run]
    split
    · rename_i hqueue
      exact Or.inl hqueue
    · refine (ih _).imp id fun hlength => ?_
      rw [hlength, taken_foldl_release, List.length_cons]
      omega

/-- Positions in the queue or taken are as many as there are at most. -/
theorem Progress.Sound.length_le {p : Progress} (h : p.Sound edges count []) :
    p.taken.length + p.queue.length ≤ count := by
  have hsub : p.taken ++ p.queue ⊆ List.range count := fun v hv =>
    List.mem_range.mpr ((h.ready v).mp (List.mem_append.mp hv)).1
  have hle := (h.nodup.subperm hsub).length_le
  rwa [List.length_append, List.length_range] at hle

/-- After as many turns as there are positions the queue is empty. -/
theorem queue_run_eq_nil (hedges : ∀ d ∈ edges, d.target < count) :
    (run edges count (start edges count)).queue = [] := by
  have hsound := run_sound hedges count (start_sound edges count)
  rcases run_progress count (start edges count) with hqueue | hlength
  · exact hqueue
  · have hle := hsound.length_le
    have hnone : (start edges count).taken.length = 0 := rfl
    exact List.length_eq_zero_iff.mp (by omega)

/-- In the end those positions are taken that wait for no reference from one that is not. -/
theorem mem_taken_run (hedges : ∀ d ∈ edges, d.target < count) (v : Nat) :
    v ∈ (run edges count (start edges count)).taken
      ↔ v < count ∧ ∀ d ∈ edges, d.target = v →
          d.source ∈ (run edges count (start edges count)).taken := by
  have hsound := run_sound hedges count (start_sound edges count)
  have hready := hsound.ready v
  rw [queue_run_eq_nil hedges] at hready
  simp only [List.not_mem_nil, or_false] at hready
  rw [hready]
  refine and_congr_right fun hv => ?_
  rw [hsound.waiting v hv, List.count_nil, Nat.add_zero, pending, List.countP_eq_zero]
  refine forall₂_congr fun d _ => ?_
  simp

/-- Where references lead upwards in a rank, every position is taken. -/
theorem length_taken_run (edges : List Dependency) (count : Nat) (rank : Nat → Nat)
    (hedges : ∀ d ∈ edges, d.source < count ∧ d.target < count ∧ rank d.source < rank d.target) :
    (run edges count (start edges count)).taken.length = count := by
  have htargets : ∀ d ∈ edges, d.target < count := fun d hd => (hedges d hd).2.1
  have htaken (r : Nat) : ∀ v, v < count → rank v < r →
      v ∈ (run edges count (start edges count)).taken := by
    induction r with
    | zero => exact fun v _ hr => absurd hr (Nat.not_lt_zero _)
    | succ r ih =>
      intro v hv hr
      refine (mem_taken_run htargets v).mpr ⟨hv, ?_⟩
      rintro d hd rfl
      obtain ⟨hsource, -, hrank⟩ := hedges d hd
      exact ih d.source hsource (by omega)
  have hsound := run_sound htargets count (start_sound edges count)
  have hsub : List.range count ⊆ (run edges count (start edges count)).taken := fun v hv =>
    htaken (rank v + 1) v (List.mem_range.mp hv) (Nat.lt_succ_self _)
  have hge := (List.nodup_range.subperm hsub).length_le
  have hle := hsound.length_le
  rw [List.length_range] at hge
  omega

/-! ## 3. References between tables -/

theorem position?_eq_some {keys : List TableKey} {key : TableKey} {i : Nat}
    (h : position? keys key = some i) : keys[i]? = some key := by
  obtain ⟨⟨found, j⟩, hlast, rfl⟩ := Option.map_eq_some_iff.mp h
  obtain ⟨hmem, hkey⟩ := List.mem_filter.mp (List.mem_of_getLast? hlast)
  rw [← beq_iff_eq.mp hkey]
  exact List.mem_zipIdx_iff_getElem?.mp hmem

theorem exists_position? {keys : List TableKey} {key : TableKey} (h : key ∈ keys) :
    ∃ i, position? keys key = some i := by
  obtain ⟨i, hi, rfl⟩ := List.mem_iff_getElem.mp h
  have hmem : (keys[i], i) ∈ keys.zipIdx.filter (·.1 == keys[i]) :=
    List.mem_filter.mpr ⟨List.mem_zipIdx_iff_getElem?.mpr (List.getElem?_eq_getElem hi), BEq.rfl⟩
  have hlast := List.getLast?_eq_some_getLast (List.ne_nil_of_mem hmem)
  exact ⟨_, Option.map_eq_some_iff.mpr ⟨_, hlast, rfl⟩⟩

variable {view : CatalogView}

/-- The references that a table holds are those of its foreign keys into other tables. -/
theorem mem_ofTable {keys : List TableKey} {host : Nat} {t : Table} {found : List Dependency}
    (h : ofTable keys view host t = .ok found) {d : Dependency} :
    d ∈ found ↔ d.target = host
      ∧ ∃ k ∈ view.outgoingKeys t, position? keys k.referenced = some d.source := by
  have hkeys := mapM_eq_ok.mp h
  constructor
  · intro hd
    obtain ⟨k, hk, heq⟩ := exists_of_forall₂_right hkeys hd
    split at heq
    · rename_i source hsource
      cases heq
      exact ⟨rfl, k, hk, hsource⟩
    · cases heq
  · rintro ⟨rfl, k, hk, hsource⟩
    obtain ⟨d', hd', heq⟩ := exists_of_forall₂_left hkeys hk
    rw [hsource] at heq
    cases heq
    exact hd'

/-- The references between the tables are found where no foreign key dangles. -/
theorem exists_all (h : ∀ t ∈ view.tables, ∀ k ∈ view.outgoingKeys t,
      k.referenced ∈ view.tables.map (·.key)) : ∃ edges, all view = .ok edges := by
  have hsome : ∃ perTable, (view.tables.zipIdx.mapM fun placed =>
      ofTable (view.tables.map Table.key) view placed.2 placed.1) = .ok perTable := by
    refine exists_mapM_eq_ok fun placed hplaced => exists_mapM_eq_ok fun k hk => ?_
    have ht := List.mem_of_getElem? (List.mem_zipIdx_iff_getElem?.mp hplaced)
    obtain ⟨source, hsource⟩ := exists_position? (h placed.1 ht k hk)
    rw [hsource]
    exact ⟨_, rfl⟩
  obtain ⟨perTable, hperTable⟩ := hsome
  exact ⟨_, bind_eq_ok.mpr ⟨perTable, hperTable, rfl⟩⟩

/-- The references that are found are those of the foreign keys into other tables. -/
theorem mem_all {edges : List Dependency} (h : all view = .ok edges) {d : Dependency} :
    d ∈ edges ↔ ∃ t, view.tables[d.target]? = some t ∧ ∃ k ∈ view.outgoingKeys t,
      position? (view.tables.map (·.key)) k.referenced = some d.source := by
  obtain ⟨perTable, hperTable, hedges⟩ := bind_eq_ok.mp h
  rw [pure_eq_ok] at hedges
  rw [← hedges, List.mem_mergeSort, mem_distinct, List.mem_flatten]
  have htables := mapM_eq_ok.mp hperTable
  constructor
  · rintro ⟨found, hfound, hd⟩
    obtain ⟨⟨t, host⟩, hplaced, hof⟩ := exists_of_forall₂_right htables hfound
    obtain ⟨rfl, hk⟩ := (mem_ofTable hof).mp hd
    exact ⟨t, List.mem_zipIdx_iff_getElem?.mp hplaced, hk⟩
  · rintro ⟨t, ht, hk⟩
    have hplaced : (t, d.target) ∈ view.tables.zipIdx := List.mem_zipIdx_iff_getElem?.mpr ht
    obtain ⟨found, hfound, hof⟩ := exists_of_forall₂_left htables hplaced
    exact ⟨found, hfound, (mem_ofTable hof).mpr ⟨rfl, hk⟩⟩

/-- Where the references are found, no foreign key dangles. -/
theorem referenced_mem_of_all {edges : List Dependency} (h : all view = .ok edges) {t : Table}
    (ht : t ∈ view.tables) {k : ForeignKey} (hk : k ∈ view.outgoingKeys t) :
    k.referenced ∈ view.tables.map (·.key) := by
  obtain ⟨perTable, hperTable, -⟩ := bind_eq_ok.mp h
  obtain ⟨host, hhost⟩ := List.mem_iff_getElem?.mp ht
  have hplaced : (t, host) ∈ view.tables.zipIdx := List.mem_zipIdx_iff_getElem?.mpr hhost
  obtain ⟨found, -, hof⟩ := exists_of_forall₂_left (mapM_eq_ok.mp hperTable) hplaced
  obtain ⟨d, -, heq⟩ := exists_of_forall₂_left (mapM_eq_ok.mp hof) hk
  split at heq
  · rename_i source hsource
    exact List.mem_of_getElem? (position?_eq_some hsource)
  · cases heq

/-- Where they are not found, some foreign key dangles. -/
theorem all_eq_error {e : CatalogError} (h : all view = .error e) :
    ∃ table referenced, e = .danglingReference table referenced := by
  rw [all] at h
  rcases bind_eq_error.mp h with htables | ⟨perTable, -, hpure⟩
  · obtain ⟨⟨t, host⟩, -, hof⟩ := mapM_eq_error htables
    obtain ⟨k, -, heq⟩ := mapM_eq_error hof
    split at heq
    · cases heq
    · cases heq
      exact ⟨_, _, rfl⟩
  · cases hpure

end Dependency

/-- Tables can be ordered where each foreign key into another table leads to one of the catalog
that is lower in some rank. -/
theorem CatalogView.exists_dependencyOrder {view : CatalogView} (rank : TableKey → Nat)
    (h : ∀ t ∈ view.tables, ∀ k ∈ view.outgoingKeys t,
      k.referenced ∈ view.tables.map (·.key) ∧ rank k.referenced < rank t.key) :
    ∃ ordered, view.dependencyOrder = .ok ordered := by
  obtain ⟨edges, hall⟩ := Dependency.exists_all fun t ht k hk => (h t ht k hk).1
  have hlength := Dependency.length_taken_run edges view.tables.length
    (fun i => ((view.tables.map (·.key))[i]?.map rank).getD 0) fun d hd => ?_
  · rw [dependencyOrder, hall]
    exact ⟨_, if_pos (beq_iff_eq.mpr hlength)⟩
  · obtain ⟨t, htarget, k, hk, hposition⟩ := (Dependency.mem_all hall).mp hd
    have hsource := Dependency.position?_eq_some hposition
    have ht := List.mem_of_getElem? htarget
    have htargetKey : (view.tables.map (·.key))[d.target]? = some t.key := by
      rw [List.getElem?_map, htarget]; rfl
    obtain ⟨hsourceLt, -⟩ := List.getElem?_eq_some_iff.mp hsource
    obtain ⟨htargetLt, -⟩ := List.getElem?_eq_some_iff.mp htarget
    rw [List.length_map] at hsourceLt
    refine ⟨hsourceLt, htargetLt, ?_⟩
    rw [hsource, htargetKey]
    exact (h t ht k hk).2

end SchemaCatalog
