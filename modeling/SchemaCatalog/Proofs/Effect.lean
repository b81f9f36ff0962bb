import Mathlib.Logic.Relation
import SchemaCatalog.Proofs.NewTable

/-!
# What statements do to tables

There are more than twenty kinds of statements, but to the tables and what is on them they do one of
five things. A statement changes what is on tables, revises the details of one, declares one, drops
some, or moves those of a schema; the first four are the constructors of `Effect`, and the last is
renaming a schema. `Statement.apply_effects` says that every statement, whether it fails or not,
leaves a builder that is reached by such effects, so what they keep every statement keeps.
-/

namespace SchemaCatalog

namespace Statement

/-- The statement drops what depends on its targets too. -/
def cascades : Statement → Bool
  | dropTable s => s.cascade
  | dropSchema s => s.cascade
  | _ => false

/-- The schema that the statement renames, and its new name. -/
def renames? : Statement → Option (String × String)
  | alterSchema s =>
    match s.change with
    | .rename new => some (s.name, new)
    | .owner _ => none
  | _ => none

/-- The statement grants privileges on tables, but on none. -/
def grantsNothing : Statement → Bool
  | grantPrivileges s => s.grant.isVoid
  | _ => false

end Statement

/-- An entry with other details than an earlier one of its table: the same key, columns and foreign
keys, and its parts filed under the key if those of the earlier one were. -/
structure TableEntry.Revises (e' e : TableEntry) : Prop where
  outline : e'.outline = e.outline
  foreignKeys : e'.metadata.foreignKeys = e.metadata.foreignKeys
  filed : e.metadata.FiledUnder e.key → e'.metadata.FiledUnder e.key

/-- A change of the tables of a builder, or of what is on them, by a statement that does not
rename a schema. -/
inductive Effect (s : Statement) (b : Builder) : Builder → Prop
  | owned {b' : Builder} (entries : b'.entries = b.entries)
      (triggers : ∀ t ∈ b'.triggers, t ∈ b.triggers ∨ b.HasColumns t.table t.updateColumns)
      (policies : ∀ p ∈ b'.policies, p ∈ b.policies ∨ b.HasColumns p.table [])
      (grants : ∀ g ∈ b'.grants,
        (∃ g₀ ∈ b.grants, g.objects = g₀.objects ∧ g.privileges = g₀.privileges)
          ∨ (b.Supports g ∧ (s.grantsNothing = false → g.isVoid = false))) :
      Effect s b b'
  | revise (key : TableKey) (f : TableEntry → TableEntry)
      (revises : ∀ e, e.key = key → (f e).Revises e) :
      Effect s b { b with entries := replaceFirst (·.key == key) f b.entries }
  | declare (d : CreateTable) (m : TableMetadata) (free : b.resolve? d.name = none)
      (metadata : d.metadata b = .ok m) : Effect s b (b.addTable (d.entry m))
  | drop (ts : List Table) {b' : Builder}
      (unreferenced : s.cascades = false → ∀ e ∈ b.entries, e.key ∉ ts.map (·.key) →
        ∀ k ∈ e.metadata.foreignKeys, k.referenced ∉ ts.map (·.key))
      (removed : ts.foldlM (fun b t => b.removeTable t.key) b = .ok b') :
      Effect s b b'

open Relation (ReflTransGen)

namespace Effect

variable {s : Statement} {b b' : Builder}

/-- What each effect of a statement keeps, any number of them keeps. -/
theorem invariant {P : Builder → Prop} (step : ∀ b b', P b → Effect s b b' → P b') (hb : P b)
    (h : ReflTransGen (Effect s) b b') : P b' := by
  induction h with
  | refl => exact hb
  | tail _ heffect ih => exact step _ _ ih heffect

theorem of_sameOwned (h : b.SameOwned b') : Effect s b b' :=
  .owned h.entries (fun _ ht => Or.inl (h.triggers ▸ ht)) (fun _ hp => Or.inl (h.policies ▸ hp))
    fun g hg => Or.inl ⟨g, h.grants ▸ hg, rfl, rfl⟩

/-- Triggers come and go, on tables with the columns that they listen to. -/
theorem of_triggers {triggers : List Trigger}
    (h : ∀ t ∈ triggers, t ∈ b.triggers ∨ b.HasColumns t.table t.updateColumns) :
    Effect s b { b with triggers } :=
  .owned rfl h (fun _ hp => Or.inl hp) fun g hg => Or.inl ⟨g, hg, rfl, rfl⟩

/-- Policies come and go, on tables of the builder. -/
theorem of_policies {policies : List Policy}
    (h : ∀ p ∈ policies, p ∈ b.policies ∨ b.HasColumns p.table []) :
    Effect s b { b with policies } :=
  .owned rfl (fun _ ht => Or.inl ht) h fun g hg => Or.inl ⟨g, hg, rfl, rfl⟩

/-! ## 1. Statements with one effect -/

theorem of_createTable {d : CreateTable} (h : d.apply b = .ok b') :
    ReflTransGen (Effect s) b b' := by
  rcases CreateTable.apply_eq_ok h with rfl | ⟨m, hfree, hm, rfl⟩
  · exact .refl
  · exact .single (.declare d m hfree hm)

theorem of_alterTable {d : AlterTable} (h : d.apply b = .ok b') : ReflTransGen (Effect s) b b' := by
  rcases AlterTable.apply_eq_ok h with rfl | ⟨t, rfl⟩
  · exact .refl
  · refine .single (.revise t.key _ fun e (he : e.table.key = t.key) => ?_)
    refine { outline := ?_, foreignKeys := rfl, filed := id }
    rw [TableEntry.outline, TableEntry.outline, TableEntry.key, TableEntry.key, he]

theorem of_createIndex {d : CreateIndex} (h : d.apply b = .ok b') :
    ReflTransGen (Effect s) b b' := by
  rcases CreateIndex.apply_eq_ok h with rfl | ⟨t, -, rfl⟩
  · exact .refl
  · refine .single (.revise t.key _ fun e he => ?_)
    refine { outline := ?_, foreignKeys := TableMetadata.foreignKeys_addTo d, filed := fun h => ?_ }
    · exact congrArg (e.key, ·) (TableMetadata.columnNames_addTo d)
    · exact he ▸ h.addTo d

theorem of_dropIndex {n : ObjectName} {p : IndexPlace} (h : b.dropIndex n p = .ok b') :
    Effect s b b' := by
  rw [Builder.dropIndex_eq_ok h]
  refine .revise p.table _ fun e _ => ?_
  refine { outline := ?_, foreignKeys := ?_, filed := fun h => h.eraseIndex n.name p.unique }
  · exact congrArg (e.key, ·) (TableMetadata.columnNames_eraseIndex n.name p.unique)
  · exact TableMetadata.foreignKeys_eraseIndex n.name p.unique

theorem of_createTrigger {d : CreateTrigger} (h : d.apply b = .ok b') : Effect s b b' := by
  obtain ⟨t, f, e, -, -, he, hcolumns, hb'⟩ := CreateTrigger.apply_eq_ok h
  have hnew : b.HasColumns t.key d.updateColumns := .of_entry he hcolumns
  rcases hb' with rfl | rfl
  · refine of_triggers fun u hu => ?_
    rcases List.mem_append.mp hu with hold | hlast
    · exact Or.inl hold
    · rw [List.mem_singleton.mp hlast]
      exact Or.inr hnew
  · refine of_triggers fun u hu => ?_
    rcases mem_replaceFirst hu with hold | ⟨_, -, -, rfl⟩
    · exact Or.inl hold
    · exact Or.inr hnew

theorem of_dropTrigger {d : DropTrigger} (h : d.apply b = .ok b') :
    ReflTransGen (Effect s) b b' := by
  rcases DropTrigger.apply_eq_ok h with rfl | ⟨p, rfl⟩
  · exact .refl
  · exact .single (of_triggers fun t ht => Or.inl (List.mem_of_mem_filter ht))

theorem of_createPolicy {d : CreatePolicy} (h : d.apply b = .ok b') : Effect s b b' := by
  obtain ⟨t, p, ht, hp, -, -, rfl⟩ := CreatePolicy.apply_eq_ok h
  refine of_policies fun q hq => ?_
  rcases List.mem_append.mp hq with hold | hlast
  · exact Or.inl hold
  · rw [List.mem_singleton.mp hlast, hp]
    exact Or.inr (.of_resolve ht)

theorem of_dropPolicy {d : DropPolicy} (h : d.apply b = .ok b') :
    ReflTransGen (Effect s) b b' := by
  rcases DropPolicy.apply_eq_ok h with rfl | ⟨p, rfl⟩
  · exact .refl
  · exact .single (of_policies fun q hq => Or.inl (List.mem_of_mem_eraseP hq))

theorem of_dropTable {d : DropTable} (h : d.apply b = .ok b') :
    Effect (.dropTable d) b b' := by
  obtain ⟨dropped, -, hunreferenced, hremoved⟩ := DropTable.apply_eq_ok h
  exact .drop dropped
    (fun hcascade _ he hstays _ hk =>
      requireUnreferenced_eq_ok (hunreferenced hcascade) he hstays hk)
    hremoved

/-- A grant on tables names those that its statement names, by their keys. -/
theorem of_grantPrivileges {d : GrantPrivileges} (h : d.apply b = .ok b') :
    Effect (.grantPrivileges d) b b' := by
  obtain ⟨objects, _, hobjects, hcolumns, rfl⟩ := GrantPrivileges.apply_eq_ok h
  obtain ⟨hkind, hnames⟩ := resolveObjects_eq_ok hobjects
  refine .owned rfl (fun _ ht => Or.inl ht) (fun _ hp => Or.inl hp) fun g hg => ?_
  rcases List.mem_append.mp hg with hold | hlast
  · exact Or.inl ⟨g, hold, rfl, rfl⟩
  · rw [List.mem_singleton.mp hlast]
    refine Or.inr ⟨fun htables n hn => ?_, fun hsome => ?_⟩
    · obtain ⟨e, he, hsub⟩ := requirePrivilegeColumns_eq_ok (hcolumns htables n hn)
      exact .of_entry he hsub
    · by_cases htables : d.objects.kind = GrantObjectKind.tables
      · have hlength := (hnames htables).length_eq
        simp only [Statement.grantsNothing, GrantPrivileges.grant, Grant.isVoid, htables, BEq.rfl,
          Bool.true_and] at hsome
        simp only [Grant.isVoid, hkind, htables, BEq.rfl, Bool.true_and]
        rw [List.isEmpty_eq_false_iff] at hsome ⊢
        exact List.ne_nil_of_length_pos (hlength ▸ List.length_pos_of_ne_nil hsome)
      · simp [Grant.isVoid, hkind, htables]

theorem of_revokePrivileges {d : RevokePrivileges} (h : d.apply b = .ok b') : Effect s b b' := by
  obtain ⟨p, rfl⟩ := RevokePrivileges.apply_eq_ok h
  refine .owned rfl (fun _ ht => Or.inl ht) (fun _ hp => Or.inl hp) fun g hg => Or.inl ?_
  obtain ⟨g₀, hg₀, heq⟩ := List.mem_filterMap.mp hg
  refine ⟨g₀, hg₀, ?_⟩
  split at heq
  · split at heq <;> cases heq
    exact ⟨rfl, rfl⟩
  · cases heq
    exact ⟨rfl, rfl⟩

/-! ## 2. Statements with several targets -/

theorem of_dropSchema {d : DropSchema} {name : String}
    (h : b.dropSchema d.ifExists d.cascade name = .ok b') :
    ReflTransGen (Effect (.dropSchema d)) b b' := by
  rcases Builder.dropSchema_eq_ok h with rfl | ⟨c, hremoved, hempty, rfl⟩
  · exact .refl
  · have hdrop : Effect (.dropSchema d) b c := by
      refine .drop _ (fun hcascade _ _ _ _ _ => ?_) hremoved
      rw [hempty hcascade]
      exact List.not_mem_nil
    refine .tail (.single hdrop) (.owned rfl (fun _ ht => Or.inl ht) (fun _ hp => Or.inl hp) ?_)
    intro g hg
    obtain ⟨g₀, hg₀, heq⟩ := List.mem_filterMap.mp hg
    split at heq <;> cases heq
    exact Or.inl ⟨g, hg₀, rfl, rfl⟩

/-- Effects for each of several targets are effects of the whole. -/
theorem each_effects {α : Type} {step : Builder → α → Outcome}
    (h : ∀ b a, ReflTransGen (Effect s) b (step b a).builder) (b : Builder) (as : List α) :
    ReflTransGen (Effect s) b (Outcome.each step b as).builder :=
  Outcome.each_invariant (P := ReflTransGen (Effect s) b) (fun c a hc => hc.trans (h c a)) as .refl

/-- A success with effects gives an outcome with them, a failure none. -/
theorem whole_effects {r : Except CatalogError Builder}
    (h : ∀ b', r = .ok b' → ReflTransGen (Effect s) b b') :
    ReflTransGen (Effect s) b (Outcome.whole b r).builder :=
  Outcome.whole_invariant (P := ReflTransGen (Effect s) b) .refl h

/-- A success that leaves the tables, and what is on them, has no more than one effect. -/
theorem whole_sameOwned {r : Except CatalogError Builder}
    (h : ∀ b', r = .ok b' → b.SameOwned b') :
    ReflTransGen (Effect s) b (Outcome.whole b r).builder :=
  whole_effects fun b' hb' => .single (of_sameOwned (h b' hb'))

end Effect

/-! ## 3. All statements -/

open Effect in
/-- What a statement leaves is reached by its effects, unless it has renamed a schema. -/
theorem Statement.apply_effects (s : Statement) (b : Builder) :
    ReflTransGen (Effect s) b (s.apply b).builder
      ∨ ∃ old new schema, s.renames? = some (old, new) ∧ b.schema? old = some schema
        ∧ b.renameSchema schema new = .ok (s.apply b).builder := by
  cases s with
  | alterSchema s =>
    rw [Statement.apply]
    cases h : s.apply b with
    | error => exact Or.inl .refl
    | ok b' =>
      rcases AlterSchema.apply_eq_ok h with hsame | ⟨schema, new, hchange, hschema, hrename⟩
      · exact Or.inl (.single (of_sameOwned hsame.toSameOwned))
      · refine Or.inr ⟨s.name, new, schema, ?_, hschema, hrename⟩
        rw [renames?, hchange]
  | createTable s => exact Or.inl (whole_effects fun _ => of_createTable)
  | dropTable s => exact Or.inl (whole_effects fun _ h => .single (of_dropTable h))
  | alterTable s => exact Or.inl (whole_effects fun _ => of_alterTable)
  | createIndex s => exact Or.inl (whole_effects fun _ => of_createIndex)
  | dropIndex s =>
    refine Or.inl (each_effects (fun b n => ?_) b s.names)
    rw [Builder.dropIndices]
    split
    · exact .refl
    · split <;> exact .refl
    · exact each_effects (fun b p => whole_effects fun _ h => .single (of_dropIndex h)) b _
  | createFunction s =>
    exact Or.inl (whole_sameOwned fun _ => Builder.sameOwned_of_createFunction)
  | dropFunction s =>
    exact Or.inl (each_effects (fun b target => whole_sameOwned fun _ =>
      Builder.sameOwned_of_dropFunctions) b s.targets)
  | createTrigger s => exact Or.inl (whole_effects fun _ h => .single (of_createTrigger h))
  | dropTrigger s => exact Or.inl (whole_effects fun _ => of_dropTrigger)
  | createPolicy s => exact Or.inl (whole_effects fun _ h => .single (of_createPolicy h))
  | dropPolicy s => exact Or.inl (whole_effects fun _ => of_dropPolicy)
  | createRole s =>
    exact Or.inl (whole_sameOwned fun _ h =>
      (Builder.onlyRoles_of_createRole h).sameRoutines.toSameOwned)
  | dropRole s =>
    exact Or.inl (each_effects (fun b name => whole_sameOwned fun _ h =>
      (Builder.onlyRoles_of_dropRole h).sameRoutines.toSameOwned) b s.names)
  | grantPrivileges s => exact Or.inl (whole_effects fun _ h => .single (of_grantPrivileges h))
  | revokePrivileges s => exact Or.inl (whole_effects fun _ h => .single (of_revokePrivileges h))
  | grantRole s =>
    rw [Statement.apply, GrantRole.apply]
    split
    · exact Or.inl .refl
    · exact Or.inl (each_effects (fun b grantee => whole_sameOwned fun _ h =>
        (Builder.onlyRoles_of_grantTo h).sameRoutines.toSameOwned) b s.grantees)
  | revokeRole s =>
    have hroles := Builder.onlyRoles_revokeRole s b
    exact Or.inl (.single (of_sameOwned hroles.sameRoutines.toSameOwned))
  | createSchema s =>
    exact Or.inl (whole_sameOwned fun _ h => (Builder.sameRoutines_of_createSchema h).toSameOwned)
  | dropSchema s =>
    exact Or.inl (each_effects (fun b name => whole_effects fun _ h => of_dropSchema h) b s.names)
  | setTimeZone value => exact Or.inl (.single (of_sameOwned ⟨rfl, rfl, rfl, rfl⟩))
  | commentOn _ => exact Or.inl .refl
  | other kind sql =>
    rw [Statement.apply]
    split <;> exact Or.inl .refl

end SchemaCatalog
