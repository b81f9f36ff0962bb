import SchemaCatalog.Proofs.Failures
import SchemaCatalog.Proofs.Repetition
import SchemaCatalog.Proofs.TableRemoval

/-!
# Dropping tables

A statement that drops tables names them in any order and spelling, repeatedly or in vain. What it
does is told by the set of keys that its names denote, `DropTable.targets`: it fails if a name is
missing, or else if a table that would stay refers to one that would go, and otherwise takes exactly
these tables away with what is on them. `Builder.dropTable_ends` says which of the three happens and
what the builder is then.

The tables are collected one name after the other and removed one after the other. Collecting them
gives every target once (`mem_keys_of_tablesToDrop`), and the references are looked at while all of
them are still there (`requireUnreferenced_eq_error`), so the order of the names shows in nothing
but the wording of a failure. Removing them needs distinct tables: the second one of a key would
stay.

Nothing here asks that triggers, policies and grants be on tables of the builder.
-/

namespace SchemaCatalog

/-! ## 1. What a statement is about -/

/-- The keys of the tables that the names of the statement denote. -/
def DropTable.targets (s : DropTable) (b : Builder) : List TableKey :=
  s.names.filterMap fun n => (b.resolve? n).map (·.key)

/-- A name of the statement denotes no table, though it should. -/
def DropTable.Misses (s : DropTable) (b : Builder) : Prop :=
  s.ifExists = false ∧ ∃ n ∈ s.names, b.resolve? n = none

/-- A table of none of the keys has a foreign key into a table of one of them. -/
def Builder.RefersInto (b : Builder) (keys : List TableKey) : Prop :=
  ∃ e ∈ b.entries, e.key ∉ keys ∧ ∃ k ∈ e.metadata.foreignKeys, k.referenced ∈ keys

instance (s : DropTable) (b : Builder) : Decidable (s.Misses b) :=
  inferInstanceAs (Decidable (_ ∧ _))

instance (b : Builder) (keys : List TableKey) : Decidable (b.RefersInto keys) :=
  inferInstanceAs (Decidable (∃ e ∈ b.entries, _))

instance (b : Builder) : Decidable b.NoVoidGrants :=
  inferInstanceAs (Decidable (∀ g ∈ b.grants, _))

/-! ## 2. Collecting the tables -/

variable {b b' : Builder} {ifExists : Bool} {names : List ObjectName} {found ts : List Table}

/-- Only a missing name stops the collection, and only if names may not be missing. -/
theorem tablesToDrop_eq_error {e : CatalogError}
    (h : tablesToDrop b ifExists found names = .error e) :
    ifExists = false ∧ ∃ n ∈ names, b.resolve? n = none ∧ e = .notFound "table" n.qualified := by
  induction names generalizing found with
  | nil => simp [tablesToDrop] at h
  | cons n names ih =>
    unfold tablesToDrop at h
    cases hn : b.resolve? n with
    | some t =>
      simp only [hn] at h
      obtain ⟨hexists, m, hm, hmissing⟩ := ih h
      exact ⟨hexists, m, List.mem_cons_of_mem n hm, hmissing⟩
    | none =>
      simp only [hn] at h
      split at h
      · obtain ⟨hexists, m, hm, hmissing⟩ := ih h
        exact ⟨hexists, m, List.mem_cons_of_mem n hm, hmissing⟩
      · rename_i hexists
        exact ⟨by simpa using hexists, n, List.mem_cons_self, hn, (Except.error.inj h).symm⟩

/-- Where names may not be missing, none of those collected is. -/
theorem isSome_resolve?_of_tablesToDrop (h : tablesToDrop b false found names = .ok ts) :
    ∀ n ∈ names, (b.resolve? n).isSome := by
  induction names generalizing found with
  | nil => simp
  | cons n names ih =>
    unfold tablesToDrop at h
    cases hn : b.resolve? n with
    | none => simp [hn] at h
    | some t =>
      simp only [hn] at h
      intro m hm
      rcases List.mem_cons.mp hm with rfl | hm
      · simp [hn]
      · exact ih h m hm

/-- A table is collected because a name denotes it. -/
theorem exists_of_mem_tablesToDrop (h : tablesToDrop b ifExists found names = .ok ts) {t : Table}
    (ht : t ∈ ts) : t ∈ found ∨ ∃ n ∈ names, b.resolve? n = some t := by
  induction names generalizing found with
  | nil =>
    simp only [tablesToDrop, Except.ok.injEq] at h
    exact Or.inl (h ▸ ht)
  | cons n names ih =>
    -- Whether the first name adds a table or not, the others add those that they denote.
    have hothers {found' : List Table} (h' : tablesToDrop b ifExists found' names = .ok ts)
        (hfound' : ∀ u ∈ found', u ∈ found ∨ b.resolve? n = some u) :
        t ∈ found ∨ ∃ m ∈ n :: names, b.resolve? m = some t := by
      rcases ih h' with hmem | ⟨m, hm, hdenotes⟩
      · exact (hfound' t hmem).imp_right fun hn => ⟨n, List.mem_cons_self, hn⟩
      · exact Or.inr ⟨m, List.mem_cons_of_mem n hm, hdenotes⟩
    unfold tablesToDrop at h
    cases hn : b.resolve? n with
    | none =>
      simp only [hn] at h
      split at h
      · exact hothers h fun u hu => Or.inl hu
      · simp at h
    | some u =>
      simp only [hn] at h
      refine hothers h fun w hw => ?_
      split at hw
      · exact Or.inl hw
      · simpa [hn, eq_comm] using hw

/-- The tables collected are those that the names denote. -/
theorem mem_keys_of_tablesToDrop {s : DropTable} (h : tablesToDrop b s.ifExists [] s.names = .ok ts)
    (key : TableKey) : key ∈ ts.map (·.key) ↔ key ∈ s.targets b := by
  simp only [DropTable.targets, List.mem_filterMap, Option.map_eq_some_iff]
  constructor
  · intro hkey
    obtain ⟨t, ht, rfl⟩ := List.mem_map.mp hkey
    rcases exists_of_mem_tablesToDrop h ht with hnone | ⟨n, hn, hdenotes⟩
    · simp at hnone
    · exact ⟨n, hn, t, hdenotes, rfl⟩
  · rintro ⟨n, hn, t, hdenotes, rfl⟩
    exact (mem_of_tablesToDrop h).2 n hn t hdenotes

/-! ## 3. References into what is dropped -/

/-- Tables that depend on a table and are not dropped are what a failure names. -/
theorem requireUnreferenced_eq_error {e : CatalogError}
    (h : requireUnreferenced b ts = .error e) :
    b.RefersInto (ts.map (·.key)) ∧ ∃ t ∈ ts, ∃ dependents,
      e = .dropConflict "table" t.qualifiedName dependents := by
  obtain ⟨t, ht, hfails⟩ := forM_eq_error h
  simp only at hfails
  split at hfails
  · simp at hfails
  rename_i hsome
  refine ⟨?_, t, ht, _, (Except.error.inj hfails).symm⟩
  rw [List.isEmpty_iff, List.filter_eq_nil_iff] at hsome
  push Not at hsome
  obtain ⟨u, hu, hstays⟩ := hsome
  obtain ⟨x, hx, rfl⟩ := List.mem_map.mp hu
  obtain ⟨hx, hdepends⟩ := List.mem_filter.mp hx
  simp only [Bool.and_eq_true, List.any_eq_true, beq_iff_eq] at hdepends
  obtain ⟨-, k, hk, hreferenced⟩ := hdepends
  refine ⟨x, hx, fun hmem => ?_, k, hk, hreferenced ▸ List.mem_map_of_mem ht⟩
  obtain ⟨w, hw, hkey⟩ := List.mem_map.mp hmem
  have hgoes : (ts.any fun v => v.key == x.table.key) = true :=
    List.any_eq_true.mpr ⟨w, hw, beq_iff_eq.mpr hkey⟩
  simp [hgoes] at hstays

/-- Tables may be dropped without the others exactly when none of the others refers to them. -/
theorem requireUnreferenced_eq_ok_iff :
    requireUnreferenced b ts = .ok () ↔ ¬ b.RefersInto (ts.map (·.key)) := by
  constructor
  · rintro h ⟨e, he, hstays, k, hk, hreferenced⟩
    exact requireUnreferenced_eq_ok h he hstays hk hreferenced
  · intro h
    cases hcheck : requireUnreferenced b ts with
    | ok _ => rfl
    | error e => exact absurd (requireUnreferenced_eq_error hcheck).1 h

/-! ## 4. What is left -/

/-- Only the keys that are in a list tell what is taken away with them. -/
theorem Builder.withoutTables_congr {keys keys' : List TableKey}
    (h : ∀ key, key ∈ keys ↔ key ∈ keys') :
    b.withoutTables keys.contains = b.withoutTables keys'.contains := by
  have hcontains : keys.contains = keys'.contains := by
    funext key
    simp [h]
  rw [hcontains]

/-- Where tables are distinct and grants are on something, the tables collected can be removed, and
take what is on them along. -/
theorem removeTables_eq_withoutTables (hb : b.DistinctTables) (hvoid : b.NoVoidGrants)
    (hnodup : (ts.map (·.key)).Nodup) (hsub : ts ⊆ b.tables) :
    ts.foldlM (fun b t => b.removeTable t.key) b
      = .ok (b.withoutTables (ts.map (·.key)).contains) := by
  have hkeys : ts.map (·.key) ⊆ b.entries.map (·.key) := by
    intro key hkey
    obtain ⟨t, ht, rfl⟩ := List.mem_map.mp hkey
    obtain ⟨e, he, rfl⟩ := List.mem_map.mp (hsub ht)
    exact List.mem_map_of_mem he
  obtain ⟨c, hc⟩ := Builder.exists_removeTables_eq_ok (List.subperm_of_subset hnodup hkeys)
  rw [hc, Builder.removeTables_owned hvoid hc, Builder.removeTables_entries hb.nodup_keys hc]
  rfl

/-- The statement on the tables it collects: it fails at a reference into them unless it cascades,
and otherwise they go. -/
theorem DropTable.apply_of_collected {s : DropTable} (hb : b.DistinctTables)
    (hvoid : b.NoVoidGrants)
    (hcollected : tablesToDrop b s.ifExists [] s.names = .ok ts) :
    s.apply b = if s.cascade then .ok (b.withoutTables (s.targets b).contains)
      else requireUnreferenced b ts >>= fun _ =>
        .ok (b.withoutTables (s.targets b).contains) := by
  obtain ⟨hnodup, hsub⟩ := tablesToDrop_eq_ok (by simp) (List.nil_subset _) hcollected
  have hremoved : ts.foldlM (fun b t => b.removeTable t.key) b
      = .ok (b.withoutTables (s.targets b).contains) := by
    rw [removeTables_eq_withoutTables hb hvoid hnodup hsub]
    rw [Builder.withoutTables_congr (mem_keys_of_tablesToDrop hcollected)]
  unfold DropTable.apply
  rw [hcollected]
  cases s.cascade with
  | true => exact hremoved
  | false =>
    simp only [Bool.false_eq_true, if_false, ← hremoved]
    rfl

/-- The references that matter are those into the targets. -/
theorem Builder.refersInto_congr {keys keys' : List TableKey}
    (h : ∀ key, key ∈ keys ↔ key ∈ keys') : b.RefersInto keys ↔ b.RefersInto keys' := by
  simp only [RefersInto, h]

namespace DropTable

variable {s : DropTable}

/-- Where a name is missing, the statement says so, and nothing happens. -/
theorem apply_of_misses (h : s.Misses b) :
    ∃ n ∈ s.names, b.resolve? n = none ∧ s.apply b = .error (.notFound "table" n.qualified) := by
  obtain ⟨hexists, n, hn, hnone⟩ := h
  cases hcollected : tablesToDrop b s.ifExists [] s.names with
  | ok ts =>
    rw [hexists] at hcollected
    have hsome := isSome_resolve?_of_tablesToDrop hcollected n hn
    simp [hnone] at hsome
  | error e =>
    obtain ⟨-, m, hm, hmissing, rfl⟩ := tablesToDrop_eq_error hcollected
    refine ⟨m, hm, hmissing, ?_⟩
    unfold DropTable.apply
    rw [hcollected]
    rfl

/-- Where none is missing the tables are collected. -/
theorem exists_collected (h : ¬ s.Misses b) :
    ∃ ts, tablesToDrop b s.ifExists [] s.names = .ok ts := by
  cases hcollected : tablesToDrop b s.ifExists [] s.names with
  | ok ts => exact ⟨ts, rfl⟩
  | error e =>
    obtain ⟨hexists, n, hn, hmissing, -⟩ := tablesToDrop_eq_error hcollected
    exact absurd ⟨hexists, n, hn, hmissing⟩ h

/-- Where a table that would stay refers to a target, the statement names a target and what depends
on it, unless it cascades. -/
theorem apply_of_refersInto (hb : b.DistinctTables) (hvoid : b.NoVoidGrants) (hfound : ¬ s.Misses b)
    (hcascade : s.cascade = false) (h : b.RefersInto (s.targets b)) :
    ∃ name dependents, s.apply b = .error (.dropConflict "table" name dependents) := by
  obtain ⟨ts, hcollected⟩ := exists_collected hfound
  have hkeys := mem_keys_of_tablesToDrop hcollected
  cases hcheck : requireUnreferenced b ts with
  | ok _ =>
    have hfree := requireUnreferenced_eq_ok_iff.mp hcheck
    exact absurd ((Builder.refersInto_congr hkeys).mpr h) hfree
  | error e =>
    obtain ⟨-, t, -, dependents, rfl⟩ := requireUnreferenced_eq_error hcheck
    refine ⟨t.qualifiedName, dependents, ?_⟩
    rw [apply_of_collected hb hvoid hcollected, hcascade, hcheck]
    rfl

/-- Otherwise the targets go, with what is on them. -/
theorem apply_of_free (hb : b.DistinctTables) (hvoid : b.NoVoidGrants) (hfound : ¬ s.Misses b)
    (h : ¬ (s.cascade = false ∧ b.RefersInto (s.targets b))) :
    s.apply b = .ok (b.withoutTables (s.targets b).contains) := by
  obtain ⟨ts, hcollected⟩ := exists_collected hfound
  rw [apply_of_collected hb hvoid hcollected]
  cases hcascade : s.cascade with
  | true => rfl
  | false =>
    have hfree : ¬ b.RefersInto (ts.map (·.key)) := fun hrefers =>
      h ⟨hcascade, (Builder.refersInto_congr (mem_keys_of_tablesToDrop hcollected)).mp hrefers⟩
    rw [requireUnreferenced_eq_ok_iff.mpr hfree]
    rfl

end DropTable

namespace Builder

/-- Take any builder in which no two tables denote the same one and every grant on tables is on
some. A statement that drops tables fails because a name is missing exactly if one is that may not
be; otherwise it fails because of a reference exactly if it does not cascade and a table that would
stay refers to a target. In both cases the builder is what it was. In any other the targets are
gone, with the triggers and policies on them and their place in grants, and nothing else is. -/
theorem dropTable_ends (hb : b.DistinctTables) (hvoid : b.NoVoidGrants) (s : DropTable) :
    let o := (Statement.dropTable s).apply b
    (o.failure.map (·.kind) = some .notFound ↔ s.Misses b)
      ∧ (¬ s.Misses b → (o.failure.map (·.kind) = some .dropConflict
          ↔ s.cascade = false ∧ b.RefersInto (s.targets b)))
      ∧ (o.failure.isSome → o.builder = b)
      ∧ (¬ s.Misses b → ¬ (s.cascade = false ∧ b.RefersInto (s.targets b)) →
          o = { builder := b.withoutTables (s.targets b).contains }) := by
  intro o
  have ho : o = .whole b (s.apply b) := rfl
  by_cases hmisses : s.Misses b
  · obtain ⟨n, -, -, hfails⟩ := DropTable.apply_of_misses hmisses
    rw [hfails] at ho
    simp [ho, hmisses, Outcome.whole, CatalogError.kind]
  by_cases hconflict : s.cascade = false ∧ b.RefersInto (s.targets b)
  · obtain ⟨name, dependents, hfails⟩ :=
      DropTable.apply_of_refersInto hb hvoid hmisses hconflict.1 hconflict.2
    rw [hfails] at ho
    simp [ho, hmisses, hconflict, Outcome.whole, CatalogError.kind]
  · rw [DropTable.apply_of_free hb hvoid hmisses hconflict] at ho
    simp only [ho, hmisses, hconflict, Outcome.whole]
    simp

/-- A table is dropped under two spellings, with one of two tables that refer to it. The other one
is in the way, or else is left with its foreign key if the statement cascades. -/
theorem dropTable_ends_of_cascade :
    let t : TableKey := ⟨"t", none⟩
    let u : TableKey := ⟨"u", none⟩
    let w : TableKey := ⟨"w", some "a"⟩
    let toT : TableKey → ForeignKey := fun host =>
      { host, hostColumns := ["x"], referenced := t, referencedColumns := ["x"] }
    let grantOn : List TableKey → Grant := fun names =>
      { privileges := [{ kind := "SELECT" }]
        objects := { kind := .tables, names }
        grantees := ["PUBLIC"] }
    let b : Builder :=
      { name := "shop"
        entries :=
          [{ table := { name := "t" }, metadata := { foreignKeys := [toT t] } },
            { table := { name := "u" }, metadata := { foreignKeys := [toT u] } },
            { table := { name := "w", schema := some "a" }
              metadata := { foreignKeys := [toT w] } }]
        policies := [{ name := "p", table := t }, { name := "q", table := w }]
        grants := [grantOn [t, w], grantOn [u]] }
    let s : DropTable := { names := [⟨"t", some "public"⟩, u, t] }
    let b' := ((Statement.dropTable { s with cascade := true }).apply b).builder
    b.DistinctTables ∧ b.NoVoidGrants ∧ s.targets b = [t, u, t]
      ∧ ((Statement.dropTable s).apply b).failure.map (·.kind) = some .dropConflict
      ∧ b' = b.withoutTables (s.targets b).contains
      ∧ b'.entries.map (·.key) = [w] ∧ b'.policies.map (·.name) = ["q"]
      ∧ b'.grants = [grantOn [w]] := by
  intro t u w toT grantOn b s b'
  have hdistinct : b.DistinctTables := by decide +kernel
  have hvoid : b.NoVoidGrants := by decide +kernel
  obtain ⟨-, hconflict, -, -⟩ := dropTable_ends hdistinct hvoid s
  obtain ⟨-, -, -, hdone⟩ := dropTable_ends hdistinct hvoid { s with cascade := true }
  refine ⟨hdistinct, hvoid, by decide +kernel, ?_, ?_, by decide +kernel⟩
  · exact (hconflict (by decide +kernel)).mpr ⟨rfl, by decide +kernel⟩
  · exact congrArg Outcome.builder (hdone (by decide +kernel) (by simp))

end Builder

end SchemaCatalog
