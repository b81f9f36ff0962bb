import SchemaCatalog.Proofs.Integrity
import SchemaCatalog.Proofs.Reading

/-!
# The states of a run

Two tables of a builder may come to denote the same one in one way only: a schema is renamed to a
name under which a table is filed already, although no schema of that name was declared, and both
have a table of one name. `Statement.Collides` is that condition,
`Statement.apply_distinctTables_iff` that it is exact for one statement, and
`Builder.states_distinct_iff` that it is exact for runs.

A run that renames schemas to names without tables never meets it, so its states are referentially
closed: `Builder.states_closed`.
-/

namespace SchemaCatalog

/-- Renaming a schema brings a table of it to the name of another table. -/
def Builder.Collides (b : Builder) (old new : String) : Prop :=
  (b.schema? old).isSome ∧ b.schema? new = none
    ∧ ∃ t ∈ b.tables, ∃ u ∈ b.tables,
        t.schema = some old ∧ inSchema u.schema new = true ∧ t.name = u.name

/-- The statement brings two tables together. -/
def Statement.Collides (b : Builder) (s : Statement) : Prop :=
  ∃ rename ∈ s.renames?, b.Collides rename.1 rename.2

/-- Where no table is filed under the new name of a schema, none is met there. -/
theorem Statement.RenamesIntoFree.not_collides {b : Builder} {s : Statement}
    (h : s.RenamesIntoFree b) : ¬ s.Collides b := by
  rintro ⟨rename, hrename, -, -, _, -, u, hu, -, hin, -⟩
  rw [h rename hrename u hu] at hin
  cases hin

/-! ## 1. Renaming a schema -/

namespace Builder

variable {b b' : Builder} {old new : String} {schema : Schema}

/-- The key of a table after a schema was renamed. -/
theorem movedTo_key {e : TableEntry} (he : e ∈ b.entries) :
    ObjectName.movedTo (b.keysIn old) new e.key
      = if e.key.schema = some old then ⟨e.key.name, some new⟩ else e.key := by
  rw [ObjectName.movedTo]
  refine if_congr ?_ rfl rfl
  rw [keysIn, List.mem_map]
  constructor
  · rintro ⟨t, ht, hkey⟩
    rw [← hkey]
    exact beq_iff_eq.mp (List.mem_filter.mp ht).2
  · intro hschema
    exact ⟨e.table, List.mem_filter.mpr ⟨List.mem_map_of_mem he, beq_iff_eq.mpr hschema⟩, rfl⟩

/-- What a table denotes after a schema was renamed. -/
theorem denoted_movedTo {e : TableEntry} (he : e ∈ b.entries) :
    (ObjectName.movedTo (b.keysIn old) new e.key).denoted
      = if e.key.schema = some old then (new, e.key.name) else e.key.denoted := by
  rw [movedTo_key he]
  split <;> rfl

/-- A table of the schema meets the table that denotes its name under the new one. -/
theorem collides_of_denoted_eq (hold : b.schema? old = some schema) (hnew : b.schema? new = none)
    {e e' : TableEntry} (he : e ∈ b.entries) (he' : e' ∈ b.entries)
    (hschema : e.key.schema = some old) (heq : (new, e.key.name) = e'.key.denoted) :
    b.Collides old new := by
  have hin : inSchema e'.table.schema new = true :=
    inSchema_iff.mpr (congrArg Prod.fst heq).symm
  exact ⟨Option.isSome_of_eq_some hold, hnew, e.table, List.mem_map_of_mem he, e'.table,
    List.mem_map_of_mem he', hschema, hin, congrArg Prod.snd heq⟩

/-- After the renaming of a schema the tables are distinct when no two of them denote one name. -/
theorem renameSchema_distinctTables_iff_injective (hb : b.Consistent)
    (hold : b.schema? old = some schema) (h : b.renameSchema schema new = .ok b') :
    b'.DistinctTables ↔ ∀ e ∈ b.entries, ∀ e' ∈ b.entries,
      (ObjectName.movedTo (b.keysIn old) new e.key).denoted
        = (ObjectName.movedTo (b.keysIn old) new e'.key).denoted → e = e' := by
  obtain ⟨-, rfl⟩ := renameSchema_eq_ok hb.closed hold h
  have hdistinct : b.entries.Nodup := List.Nodup.of_map _ hb.distinct
  rw [← List.nodup_map_iff_inj_on hdistinct, DistinctTables, replaceGrants, Builder.mapKeys,
    List.map_map]
  rfl

/-- Renaming a schema keeps the tables distinct exactly when it makes none collide. -/
theorem renameSchema_distinctTables_iff (hb : b.Consistent) (hold : b.schema? old = some schema)
    (h : b.renameSchema schema new = .ok b') : b'.DistinctTables ↔ ¬ b.Collides old new := by
  obtain ⟨hnew, -⟩ := renameSchema_eq_ok hb.closed hold h
  have hne : old ≠ new := by
    rintro rfl
    rw [hold] at hnew
    cases hnew
  rw [renameSchema_distinctTables_iff_injective hb hold h]
  constructor
  · rintro hinj ⟨-, -, _, ht, _, hu, hschema, hin, hname⟩
    obtain ⟨e, he, rfl⟩ := List.mem_map.mp ht
    obtain ⟨e', he', rfl⟩ := List.mem_map.mp hu
    rw [inSchema_iff] at hin
    have hmoves : e.key.schema = some old := hschema
    have hstays : e'.key.schema ≠ some old := by
      intro hsame
      exact hne ((congrArg (·.getD defaultSchema) hsame).symm.trans hin)
    refine hstays (hinj e he e' he' ?_ ▸ hmoves)
    rw [denoted_movedTo he, denoted_movedTo he', if_pos hmoves, if_neg hstays]
    exact Prod.ext hin.symm hname
  · intro hfree e he e' he' heq
    rw [denoted_movedTo he, denoted_movedTo he'] at heq
    split at heq <;> rename_i hschema <;> split at heq <;> rename_i hschema'
    · have hname : e.key.name = e'.key.name := congrArg Prod.snd heq
      refine hb.distinct.entry_eq he he' (Prod.ext ?_ hname)
      exact congrArg (·.getD defaultSchema) (hschema.trans hschema'.symm)
    · exact (hfree (collides_of_denoted_eq hold hnew he he' hschema heq)).elim
    · exact (hfree (collides_of_denoted_eq hold hnew he' he hschema' heq.symm)).elim
    · exact hb.distinct.entry_eq he he' heq

end Builder

/-! ## 2. Statements -/

namespace Statement

variable {b : Builder} {s : Statement}

/-- What a statement does that renames a schema of the builder. -/
theorem apply_of_renames {old new : String} {schema : Schema} (h : s.renames? = some (old, new))
    (hold : b.schema? old = some schema) : s.apply b = .whole b (b.renameSchema schema new) := by
  cases s with
  | alterSchema s =>
    rw [renames?] at h
    split at h
    · rename_i hchange
      cases h
      rw [Statement.apply, AlterSchema.apply, hold, hchange]
    · cases h
  | _ => cases h

/-- A statement keeps a builder closed, whether or not it brings tables together. -/
theorem apply_closed (hb : b.Closed) : (s.apply b).builder.Closed := by
  rcases s.apply_effects b with heffects | ⟨old, new, schema, -, hold, hrename⟩
  · exact Effect.invariant (fun _ _ => Effect.closed) hb heffects
  · exact Builder.renameSchema_closed hb hold hrename

/-- A statement keeps the tables distinct exactly when it does not bring two together. -/
theorem apply_distinctTables_iff (hb : b.Consistent) :
    (s.apply b).builder.DistinctTables ↔ ¬ s.Collides b := by
  constructor
  · rintro hdistinct ⟨⟨old, new⟩, hrenames, hcollides⟩
    obtain ⟨schema, hold⟩ := Option.isSome_iff_exists.mp hcollides.1
    have hrename := Builder.renameSchema_eq hold hcollides.2.1 hb.closed.entries
    rw [apply_of_renames hrenames hold, hrename] at hdistinct
    exact (Builder.renameSchema_distinctTables_iff hb hold hrename).mp hdistinct hcollides
  · intro hfree
    rcases s.apply_effects b with heffects | ⟨old, new, schema, hrenames, hold, hrename⟩
    · exact (Effect.invariant (fun _ _ => Effect.consistent) hb heffects).distinct
    · rw [Builder.renameSchema_distinctTables_iff hb hold hrename]
      exact fun hcollides => hfree ⟨(old, new), hrenames, hcollides⟩

/-- A statement that brings no two tables together keeps a builder consistent. -/
theorem apply_consistent (hb : b.Consistent) (hs : ¬ s.Collides b) :
    (s.apply b).builder.Consistent :=
  { distinct := (apply_distinctTables_iff hb).mpr hs, closed := apply_closed hb.closed }

/-- A statement that grants privileges on something leaves no grant on nothing. -/
theorem apply_noVoidGrants (hb : b.Closed) (hvoid : b.NoVoidGrants)
    (hs : s.grantsNothing = false) : (s.apply b).builder.NoVoidGrants := by
  rcases s.apply_effects b with heffects | ⟨old, new, schema, -, hold, hrename⟩
  · exact Effect.invariant (fun _ _ => Effect.noVoidGrants hs) hvoid heffects
  · exact Builder.renameSchema_noVoidGrants hb hvoid hold hrename

end Statement

/-! ## 3. Runs -/

namespace Builder

/-- A builder without tables is consistent. -/
theorem initial_consistent (name : String) : (initial name).Consistent where
  distinct := List.nodup_nil
  closed :=
    { entries := by simp [initial]
      triggers := by simp [initial]
      policies := by simp [initial]
      grants := by simp [initial] }

theorem initial_noVoidGrants (name : String) : (initial name).NoVoidGrants := by
  simp [NoVoidGrants, initial]

/-- Every state of a run is closed, also after a statement that failed and after one that brought
two tables together. -/
theorem run_closed {b : Builder} (hb : b.Closed) (statements : List Statement) :
    (b.run statements).Closed :=
  run_keeps (fun _ _ _ => Statement.apply_closed) hb

/-- The states of a run that starts consistently have distinct tables exactly when no statement of
the run brings two together in the state that it is applied to. -/
theorem run_distinctTables_iff {b : Builder} (hb : b.Consistent) (statements : List Statement) :
    (∀ done, done <+: statements → (b.run done).DistinctTables)
      ↔ b.Admits (fun b s => ¬ s.Collides b) statements := by
  induction statements generalizing b with
  | nil =>
    refine iff_of_true (fun done hdone => ?_) trivial
    rw [List.prefix_nil.mp hdone]
    exact hb.distinct
  | cons s rest ih =>
    constructor
    · intro hdistinct
      have hone : (b.run [s]).DistinctTables := hdistinct [s] ⟨rest, rfl⟩
      have hfree := (Statement.apply_distinctTables_iff hb).mp hone
      refine ⟨hfree, (ih (Statement.apply_consistent hb hfree)).mp fun done hdone => ?_⟩
      exact hdistinct (s :: done) (List.cons_prefix_cons.mpr ⟨rfl, hdone⟩)
    · rintro ⟨hfree, hrest⟩ done hdone
      cases done with
      | nil => exact hb.distinct
      | cons s' done =>
        obtain ⟨rfl, hprefix⟩ := List.cons_prefix_cons.mp hdone
        exact (ih (Statement.apply_consistent hb hfree)).mpr hrest done hprefix

/-! ### Distinct tables -/

/-- No state of a run that starts without tables has two tables that denote the same one, exactly
when no statement of the run renames a schema to a name under which a table of it meets another
one. -/
theorem states_distinct_iff (name : String) (statements : List Statement) :
    (∀ done, done <+: statements → ((initial name).run done).DistinctTables)
      ↔ (initial name).Admits (fun b s => ¬ s.Collides b) statements :=
  run_distinctTables_iff (initial_consistent name) statements

/-- A schema may take a name that no schema was declared under, but a table was. -/
theorem rename_meets_table :
    ¬ ∀ (name : String) (statements : List Statement), (∀ s ∈ statements, s.Parsed) →
      ∀ done, done <+: statements → ((initial name).run done).DistinctTables := by
  intro h
  have hstates := h "shop" (Script.statements
    "CREATE SCHEMA a; CREATE TABLE a.t (x int); CREATE TABLE b.t (y int);
     ALTER SCHEMA a RENAME TO b")
    (fun _ => Statement.Parsed.of_text) _ (List.prefix_refl _)
  exact absurd hstates (by decide +kernel)

/-! ### Referential closure -/

/-- In every state of a run of statements that can be read, and that renames schemas to names
without tables only, what carries the key of a table belongs to one of the state, and a grant on
tables names one. -/
theorem states_closed (name : String) {statements : List Statement}
    (hparsed : ∀ s ∈ statements, s.Parsed)
    (hrenames : (initial name).Admits (fun b s => s.RenamesIntoFree b) statements)
    {done : List Statement} (hdone : done <+: statements) :
    ((initial name).run done).Consistent ∧ ((initial name).run done).NoVoidGrants := by
  refine run_invariant (P := fun b => b.Consistent ∧ b.NoVoidGrants) ?_
    ⟨initial_consistent name, initial_noVoidGrants name⟩ (hrenames.of_isPrefix hdone)
  rintro s hs b ⟨hb, hvoid⟩ hfree
  have hgrants := (hparsed s (hdone.subset hs)).grantsNothing
  exact ⟨Statement.apply_consistent hb hfree.not_collides,
    Statement.apply_noVoidGrants hb.closed hvoid hgrants⟩

/-- A run in which a table is moved to another schema together with a grant on it. -/
theorem states_closed_of_moved_schema :
    let statements := Script.statements
      "CREATE SCHEMA a; CREATE TABLE a.t (x int); GRANT INSERT ON a.t TO PUBLIC;
       ALTER SCHEMA a RENAME TO b"
    (∀ s ∈ statements, s.Parsed)
      ∧ (initial "shop").Admits (fun b s => s.RenamesIntoFree b) statements
      ∧ ((initial "shop").run statements).Consistent
      ∧ ((initial "shop").run statements).NoVoidGrants := by
  intro statements
  have hparsed : ∀ s ∈ statements, s.Parsed := fun _ => Statement.Parsed.of_text
  have hrenames : (initial "shop").Admits (fun b s => s.RenamesIntoFree b) statements := by
    decide +kernel
  exact ⟨hparsed, hrenames, states_closed "shop" hparsed hrenames (List.prefix_refl statements)⟩

end Builder

end SchemaCatalog
