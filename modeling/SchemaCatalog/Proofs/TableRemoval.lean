import SchemaCatalog.Proofs.Reading
import SchemaCatalog.Proofs.States

/-!
# Removing tables

Several tables are removed one by one, each with what is on it. What is left does not show the order:
`removeTables_owned` says that the triggers, policies and grants are those before without the keys
that have gone, all at once. So it is for the entries, if the tables that go are all the tables of
some keys (`removeTables_entries_of_keys`); in a closed builder the keys that have gone can then be
told by those keys alone (`removeTables_eq`), though a key be that of several tables.

What makes a sequence of removals one is that a grant which loses some objects and then others loses
them all, and goes with the last (`Grant.bind_without`). A grant on no table would go with whatever
table is removed; after statements that can be read there is none (`run_noVoidGrants`).
-/

namespace SchemaCatalog

/-! ## 1. Grants without some of their objects -/

namespace Grant

variable {p q : ObjectName → Bool} {g : Grant}

/-- A grant without the objects that are gone; it goes with the last of them. -/
def without (gone : ObjectName → Bool) (g : Grant) : Option Grant :=
  let left := g.objects.names.filter (!gone ·)
  if left.isEmpty && !g.objects.names.isEmpty then none
  else some { g with objects := { g.objects with names := left } }

/-- A grant without the tables that are gone. -/
def withoutTables (gone : TableKey → Bool) (g : Grant) : Option Grant :=
  if g.objects.kind == .tables then g.without gone else some g

theorem without_congr (h : ∀ n ∈ g.objects.names, p n = q n) : g.without p = g.without q := by
  have hleft : g.objects.names.filter (!p ·) = g.objects.names.filter (!q ·) :=
    List.filter_congr fun n hn => by rw [h n hn]
  rw [without, without, hleft]

theorem without_none : g.without (fun _ => false) = some g := by
  have hleft : g.objects.names.filter (fun _ => !false) = g.objects.names :=
    List.filter_eq_self.mpr fun _ _ => rfl
  rw [without, hleft, Bool.and_not_self]
  rfl

/-- Losing some objects and then others is losing all of them. -/
theorem bind_without : (g.without p).bind (·.without q) = g.without fun n => p n || q n := by
  have hleft : (g.objects.names.filter (!p ·)).filter (!q ·)
      = g.objects.names.filter fun n => !(p n || q n) := by
    simp only [List.filter_filter, Bool.not_or, Bool.and_comm]
  by_cases hp : (g.objects.names.filter (!p ·)).isEmpty = true
  · -- Nothing is left for the others to take.
    rw [List.isEmpty_iff] at hp
    rw [hp, List.filter_nil] at hleft
    simp only [without, hp, ← hleft]
    split <;> rfl
  · have hsome : g.objects.names.isEmpty = false := by
      cases hnames : g.objects.names with
      | nil => rw [hnames] at hp; exact absurd rfl hp
      | cons n ns => rfl
    rw [Bool.not_eq_true] at hp
    simp only [without, hp, hsome, hleft, Bool.false_and, Bool.false_eq_true, if_false,
      Option.bind_some]

theorem kind_of_without {g' : Grant} (h : g.without p = some g') :
    g'.objects.kind = g.objects.kind := by
  simp only [without] at h
  split at h <;> cases h
  rfl

theorem withoutTables_of_kind (h : g.objects.kind ≠ .tables) : g.withoutTables p = some g :=
  if_neg (by simpa using h)

theorem withoutTables_none : g.withoutTables (fun _ => false) = some g := by
  rw [withoutTables, without_none, ite_self]

theorem withoutTables_congr
    (h : g.objects.kind = .tables → ∀ n ∈ g.objects.names, p n = q n) :
    g.withoutTables p = g.withoutTables q := by
  by_cases hkind : g.objects.kind = .tables
  · rw [withoutTables, withoutTables, without_congr (h hkind)]
  · rw [withoutTables_of_kind hkind, withoutTables_of_kind hkind]

theorem kind_of_withoutTables {g' : Grant} (h : g.withoutTables p = some g') :
    g'.objects.kind = g.objects.kind := by
  rw [withoutTables] at h
  split at h
  · exact kind_of_without h
  · cases h; rfl

theorem bind_withoutTables :
    (g.withoutTables p).bind (·.withoutTables q) = g.withoutTables fun n => p n || q n := by
  by_cases hkind : g.objects.kind = .tables
  · have hboth : (g.without p).bind (·.withoutTables q) = (g.without p).bind (·.without q) := by
      refine Option.bind_congr fun g' hg' => ?_
      rw [withoutTables, (kind_of_without hg').trans hkind, if_pos BEq.rfl]
    rw [withoutTables, withoutTables, if_pos (beq_iff_eq.mpr hkind), if_pos (beq_iff_eq.mpr hkind),
      hboth, bind_without]
  · rw [withoutTables_of_kind hkind, Option.bind_some, withoutTables_of_kind hkind,
      withoutTables_of_kind hkind]

/-- A grant that loses a table goes if it is on none then. -/
theorem guard_withoutTable {key : TableKey} (hg : g.isVoid = false) :
    Option.guard (fun g : Grant => !g.isVoid) (g.withoutTable key)
      = g.withoutTables (· == key) := by
  by_cases hkind : g.objects.kind = .tables
  · have hsome : g.objects.names.isEmpty = false := by simpa [isVoid, hkind] using hg
    simp only [withoutTable, withoutTables, without, isVoid, hkind, hsome, BEq.rfl, if_true,
      Bool.true_and, Bool.not_false, Bool.and_true, Option.guard, bne]
    cases (g.objects.names.filter (!· == key)).isEmpty <;> rfl
  · rw [withoutTables_of_kind hkind, withoutTable, if_neg (by simpa using hkind), Option.guard, hg]
    rfl

end Grant

/-! ## 2. Tables one by one -/

namespace Builder

variable {b b' : Builder}

/-- What is on a table goes with it. -/
theorem removeTable_owned {key : TableKey} (hvoid : b.NoVoidGrants)
    (h : b.removeTable key = .ok b') :
    b' = { b with
      entries := b'.entries
      triggers := b.triggers.filter fun t => !t.table == key
      policies := b.policies.filter fun p => !p.table == key
      grants := b.grants.filterMap (·.withoutTables (· == key)) } := by
  have hgrants : (b.grants.map (·.withoutTable key)).filter (fun g => !g.isVoid)
      = b.grants.filterMap (·.withoutTables (· == key)) := by
    rw [← List.filterMap_eq_filter, List.filterMap_map]
    exact List.filterMap_congr fun g hg => Grant.guard_withoutTable (hvoid g hg)
  have hb' := removeTable_eq_ok h
  rw [hgrants] at hb'
  rw [hb']
  rfl

/-- What is on several tables goes with them, in one go. -/
theorem removeTables_owned {ts : List Table} (hvoid : b.NoVoidGrants)
    (h : ts.foldlM (fun b t => b.removeTable t.key) b = .ok b') :
    b' = { b with
      entries := b'.entries
      triggers := b.triggers.filter fun t => !(ts.map (·.key)).contains t.table
      policies := b.policies.filter fun p => !(ts.map (·.key)).contains p.table
      grants := b.grants.filterMap (·.withoutTables fun n => (ts.map (·.key)).contains n) } := by
  induction ts generalizing b with
  | nil =>
    rw [List.foldlM_nil, pure_eq_ok] at h
    subst h
    simp only [List.map_nil, List.contains_nil, Bool.not_false, List.filter_true,
      Grant.withoutTables_none, List.filterMap_some]
  | cons t ts ih =>
    rw [List.foldlM_cons] at h
    obtain ⟨c, hc, hrest⟩ := bind_eq_ok.mp h
    rw [ih (removeTable_noVoidGrants hc) hrest, removeTable_owned hvoid hc]
    simp only [List.filter_filter, List.filterMap_filterMap, Grant.bind_withoutTables,
      List.map_cons, List.contains_cons, Bool.not_or, Bool.and_comm]

/-- Going through the tables of some keys, each is the first of its key that is left. -/
theorem removeTables_entries_of_keys {p : TableKey → Bool} (kept : List TableEntry)
    {rest : List TableEntry} (hb : b.entries = kept ++ rest) (hkept : ∀ e ∈ kept, p e.key = false)
    (h : ((rest.filter (p ·.key)).map (·.table)).foldlM (fun b t => b.removeTable t.key) b
      = .ok b') :
    b'.entries = kept ++ rest.filter (!p ·.key) := by
  induction rest generalizing b kept with
  | nil =>
    rw [List.filter_nil, List.map_nil, List.foldlM_nil, pure_eq_ok] at h
    rw [← h, hb, List.filter_nil]
  | cons e rest ih =>
    by_cases he : p e.key = true
    · rw [List.filter_cons_of_pos (p := fun x : TableEntry => p x.key) he, List.map_cons,
        List.foldlM_cons] at h
      obtain ⟨c, hc, hrest⟩ := bind_eq_ok.mp h
      have hothers : ∀ x ∈ kept, ¬ (x.key == e.key) = true := by
        intro x hx hkey
        have hgoes := hkept x hx
        rw [beq_iff_eq.mp hkey, he] at hgoes
        cases hgoes
      have hself : (e.key == e.table.key) = true := BEq.rfl
      have herased : c.entries = kept ++ rest := by
        rw [removeTable_eq_ok hc, hb]
        exact (List.eraseP_append_right _ hothers).trans
          (congrArg _ (List.eraseP_cons_of_pos hself))
      rw [ih kept herased hkept hrest, List.filter_cons_of_neg (by simp [he])]
    · have hstays : ∀ x ∈ kept ++ [e], p x.key = false :=
        List.forall_mem_append.mpr ⟨hkept, by simp [he]⟩
      rw [List.filter_cons_of_neg (p := fun x : TableEntry => p x.key) he] at h
      rw [ih (kept ++ [e]) (by simp [hb]) hstays h, List.filter_cons_of_pos (by simp [he]),
        List.append_assoc]
      rfl

/-- The builder without the tables of some keys, and without what is on them. -/
def withoutTables (b : Builder) (gone : TableKey → Bool) : Builder :=
  { b with
    entries := b.entries.filter (!gone ·.key)
    triggers := b.triggers.filter (!gone ·.table)
    policies := b.policies.filter (!gone ·.table)
    grants := b.grants.filterMap (·.withoutTables gone) }

/-- In a closed builder all that is on tables of some keys goes with these tables. -/
theorem removeTables_eq {p : TableKey → Bool} (hb : b.Closed) (hvoid : b.NoVoidGrants)
    (h : (b.tables.filter (p ·.key)).foldlM (fun b t => b.removeTable t.key) b = .ok b') :
    b' = b.withoutTables p := by
  have hts : b.tables.filter (p ·.key) = (b.entries.filter (p ·.key)).map (·.table) := by
    rw [tables, List.filter_map]
    rfl
  rw [hts] at h
  have hentries : b'.entries = b.entries.filter (!p ·.key) :=
    removeTables_entries_of_keys [] rfl (by simp) h
  -- A key of a table is gone exactly when it is one of the keys.
  have hgone {key : TableKey} {names : List String} (hkey : b.HasColumns key names) :
      (((b.entries.filter (p ·.key)).map (·.table)).map (·.key)).contains key = p key := by
    obtain ⟨e, he, rfl, -⟩ := hkey
    rw [Bool.eq_iff_iff, List.contains_iff_mem, List.map_map]
    constructor
    · intro hmem
      obtain ⟨e', he', hkey⟩ := List.mem_map.mp hmem
      exact hkey ▸ (List.mem_filter.mp he').2
    · exact fun hp => List.mem_map.mpr ⟨e, List.mem_filter.mpr ⟨he, hp⟩, rfl⟩
  have htriggers := List.filter_congr fun t ht => congrArg (!·) (hgone (hb.triggers t ht))
  have hpolicies := List.filter_congr fun q hq => congrArg (!·) (hgone (hb.policies q hq))
  have hgrants := List.filterMap_congr fun g hg =>
    Grant.withoutTables_congr fun hkind n hn => hgone (hb.grants g hg hkind n hn)
  rw [removeTables_owned hvoid h, hentries, htriggers, hpolicies, hgrants]
  rfl

/-! ## 3. Runs -/

/-- After statements that can be read no grant on tables is on none, so that one goes only with the
last of its tables. -/
theorem run_noVoidGrants (hb : b.Closed) (hvoid : b.NoVoidGrants) {statements : List Statement}
    (hparsed : ∀ s ∈ statements, s.Parsed) : (b.run statements).NoVoidGrants := by
  refine (run_keeps (P := fun b => b.Closed ∧ b.NoVoidGrants) ?_ ⟨hb, hvoid⟩).2
  rintro s hs b ⟨hb, hvoid⟩
  exact ⟨Statement.apply_closed hb,
    Statement.apply_noVoidGrants hb hvoid (hparsed s hs).grantsNothing⟩

end Builder

end SchemaCatalog
