import SchemaCatalog.Proofs.Freezing
import SchemaCatalog.Proofs.States

/-!
# Renaming a schema to a free name

Renaming a schema is meant to change a name and nothing else: whatever was found in the schema is
found in it under its new name, and what pointed at a table points at what the table has become.
`Builder.RenamesPurely` says so, for a new name that nothing was filed under.

What points at tables always follows them (`Builder.MovesTables`): a key that is moved leads to the
table that is moved with it, since no other table has its new key. But tables are not all there is
to a schema, and they are not all found. `Builder.RenamesWhole` lists what must be so for the
renaming to be pure, and `Builder.states_rename_iff` says that this is exactly what it takes:

* no function was declared in the schema, since functions stay where they are;
* no table is in the schema without naming it, since such a table of the default schema stays too;
* a grant on all functions in the schema is about none, since it goes on to look for them under the
  new name;
* a grant on the new schema, which is the default one then, is also one on the old schema, since it
  comes to be about what is moved there.
-/

namespace SchemaCatalog

/-! ## 1. Images -/

/-- What a schema is called after one of them was renamed. -/
def movedSchema (old new schema : String) : String := if schema = old then new else schema

/-- A table after a schema was renamed. -/
def Table.moved (old new : String) (t : Table) : Table :=
  { t with schema := t.schema.map (movedSchema old new) }

/-- A function after a schema was renamed. -/
def Function.moved (old new : String) (f : Function) : Function :=
  { f with schema := f.schema.map (movedSchema old new) }

/-- A schema after one of them was renamed. -/
def Schema.moved (old new : String) (s : Schema) : Schema :=
  { s with name := movedSchema old new s.name }

/-- A key leads to the image of the table that an earlier key led to, if it led to one. -/
def Builder.LeadsOn (b b' : Builder) (old new : String) (key key' : TableKey) : Prop :=
  ∀ t, b.view.table? key = some t → b'.view.table? key' = some (t.moved old new)

/-- The tables are moved, and what points at a table points at its image. -/
structure Builder.MovesTables (b b' : Builder) (old new : String) : Prop where
  tables : b'.tables = b.tables.map (·.moved old new)
  foreignKeys : List.Forall₂
    (fun e e' : TableEntry => List.Forall₂
      (fun k k' : ForeignKey => k' = { k with host := k'.host, referenced := k'.referenced }
        ∧ b.LeadsOn b' old new k.host k'.host
        ∧ b.LeadsOn b' old new k.referenced k'.referenced)
      e.metadata.foreignKeys e'.metadata.foreignKeys)
    b.entries b'.entries
  triggers : List.Forall₂
    (fun t t' : Trigger =>
      t' = { t with table := t'.table } ∧ b.LeadsOn b' old new t.table t'.table)
    b.triggers b'.triggers
  policies : List.Forall₂
    (fun p p' : Policy => p' = { p with table := p'.table } ∧ b.LeadsOn b' old new p.table p'.table)
    b.policies b'.policies

/-- What a grant is about are the images of what an earlier one was about. -/
structure Builder.GrantsOn (b b' : Builder) (old new : String) (g g' : Grant) : Prop where
  tables : ∀ t, t ∈ b'.view.grantTables g' ↔ t ∈ (b.view.grantTables g).map (·.moved old new)
  schemas : ∀ s, s ∈ b'.view.grantSchemas g' ↔ s ∈ (b.view.grantSchemas g).map (·.moved old new)
  functions :
    ∀ f, f ∈ b'.view.grantFunctions g' ↔ f ∈ (b.view.grantFunctions g).map (·.moved old new)

/-- The schema has another name, and that is all that has changed. -/
structure Builder.RenamesPurely (b b' : Builder) (old new : String) : Prop
    extends b.MovesTables b' old new where
  tablesIn : b'.view.tablesIn new = (b.view.tablesIn old).map (·.moved old new)
  functions : b'.functions = b.functions.map (·.moved old new)
  grants : List.Forall₂ (b.GrantsOn b' old new) b.grants b'.grants

/-- All that is in a schema goes with it when it is renamed, and nothing comes to be in it. -/
structure Builder.RenamesWhole (b : Builder) (old new : String) : Prop where
  functions : ∀ f ∈ b.functions, f.schema ≠ some old
  tables : ∀ t ∈ b.tables, inSchema t.schema old = true → t.schema = some old
  functionGrants : ∀ g ∈ b.grants, g.objects.kind = .allFunctionsInSchema →
    g.objects.nameSchema old = true →
      ∀ f ∈ b.functions, f.builtin = false → inSchema f.schema old = false
  newGrants : ∀ g ∈ b.grants, g.objects.nameSchema new = true → g.objects.nameSchema old = true

instance (b : Builder) (old new : String) : Decidable (b.RenamesWhole old new) :=
  decidable_of_iff
    ((∀ f ∈ b.functions, f.schema ≠ some old)
      ∧ (∀ t ∈ b.tables, inSchema t.schema old = true → t.schema = some old)
      ∧ (∀ g ∈ b.grants, g.objects.kind = .allFunctionsInSchema →
          g.objects.nameSchema old = true →
            ∀ f ∈ b.functions, f.builtin = false → inSchema f.schema old = false)
      ∧ ∀ g ∈ b.grants, g.objects.nameSchema new = true → g.objects.nameSchema old = true)
    ⟨fun ⟨functions, tables, functionGrants, newGrants⟩ =>
        ⟨functions, tables, functionGrants, newGrants⟩,
      fun h => ⟨h.functions, h.tables, h.functionGrants, h.newGrants⟩⟩

theorem movedSchema_self (old new : String) : movedSchema old new old = new := if_pos rfl

theorem movedSchema_of_ne {old new schema : String} (h : schema ≠ old) :
    movedSchema old new schema = schema := if_neg h

theorem map_movedSchema_of_ne {old new : String} {schema : Option String} (h : schema ≠ some old) :
    schema.map (movedSchema old new) = schema := by
  cases schema with
  | none => rfl
  | some s => exact congrArg some (movedSchema_of_ne fun hs => h (congrArg some hs))

theorem Function.moved_of_ne {old new : String} {f : Function} (h : f.schema ≠ some old) :
    f.moved old new = f := by
  rw [moved, map_movedSchema_of_ne h]

theorem Schema.moved_of_ne {old new : String} {s : Schema} (h : s.name ≠ old) :
    s.moved old new = s := by
  rw [moved, movedSchema_of_ne h]

/-- What is under neither name of the schema is in a schema of the same name before and after. -/
theorem inSchema_movedSchema {old new name : String} {schema : Option String}
    (hnew : inSchema schema new = false) (hold : name = old → inSchema schema old = false) :
    inSchema schema (movedSchema old new name) = inSchema schema name := by
  by_cases hname : name = old
  · rw [hname, movedSchema_self, hnew, hold hname]
  · rw [movedSchema_of_ne hname]

/-! ## 2. The builder after the renaming -/

/-- A grant after a schema was renamed. -/
def Grant.moved (φ : TableKey → TableKey) (old new : String) (g : Grant) : Grant :=
  if (g.mapKeys φ).objects.nameSchema old then (g.mapKeys φ).renameSchema old new else g.mapKeys φ

namespace Builder

/-- How a builder comes from the one before a schema was renamed to a free name. -/
structure Renamed (b b' : Builder) (old new : String) (schema : Schema) : Prop where
  found : b.schema? old = some schema
  free : b.schema? new = none
  entries : b'.entries = b.entries.map (·.mapKeys (.movedTo (b.keysIn old) new))
  triggers : b'.triggers
    = b.triggers.map fun t => { t with table := .movedTo (b.keysIn old) new t.table }
  policies : b'.policies
    = b.policies.map fun p => { p with table := .movedTo (b.keysIn old) new p.table }
  functions : b'.functions = b.functions
  grants : b'.grants = b.grants.map (·.moved (.movedTo (b.keysIn old) new) old new)
  schemas : b'.schemas
    = replaceFirst (·.name == old) (fun _ => { schema with name := new }) b.schemas

variable {b b' : Builder} {old new : String} {schema : Schema}

theorem renamed_of_renameSchema (hb : b.Closed) (hold : b.schema? old = some schema)
    (h : b.renameSchema schema new = .ok b') : b.Renamed b' old new schema := by
  obtain ⟨hnew, rfl⟩ := renameSchema_eq_ok hb hold h
  refine ⟨hold, hnew, rfl, rfl, rfl, rfl, ?_, rfl⟩
  have hsome (p : Grant → Bool) (f : Grant → Grant) (gs : List Grant) :
      gs.filterMap (fun g => if p g then some (f g) else some g)
        = gs.map fun g => if p g then f g else g := by
    rw [← List.filterMap_eq_map]
    refine List.filterMap_congr fun g _ => ?_
    rw [Function.comp, apply_ite some]
  rw [replaceGrants, Builder.mapKeys, hsome, List.map_map]
  rfl

namespace Renamed

theorem table_mapKeys {e : TableEntry} (he : e ∈ b.entries) :
    (e.mapKeys (.movedTo (b.keysIn old) new)).table = e.table.moved old new := by
  rw [TableEntry.mapKeys, movedTo_key he, Table.moved]
  split
  · rename_i hschema
    have hold : e.table.schema = some old := hschema
    rw [hold, Option.map_some, movedSchema_self]
    rfl
  · rename_i hschema
    have hother : e.table.schema ≠ some old := hschema
    rw [map_movedSchema_of_ne hother]
    rfl

/-- Tables that had different keys still have: no table had the key of one that is moved. -/
theorem movedTo_injective (hfree : ∀ t ∈ b.tables, inSchema t.schema new = false)
    {e e' : TableEntry} (he : e ∈ b.entries) (he' : e' ∈ b.entries)
    (heq : ObjectName.movedTo (b.keysIn old) new e.key = .movedTo (b.keysIn old) new e'.key) :
    e.key = e'.key := by
  have hunder {e : TableEntry} (he : e ∈ b.entries) (name : String) : e.key ≠ ⟨name, some new⟩ := by
    intro hkey
    have hschema : e.table.schema = some new := congrArg ObjectName.schema hkey
    have hin := hfree e.table (List.mem_map_of_mem he)
    simp [hschema, inSchema] at hin
  rw [movedTo_key he, movedTo_key he'] at heq
  split at heq <;> rename_i hschema <;> split at heq <;> rename_i hschema'
  · have hname : e.table.name = e'.table.name := congrArg ObjectName.name heq
    rw [TableEntry.key, TableEntry.key, Table.key, Table.key, ObjectName.mk.injEq]
    exact ⟨hname, hschema.trans hschema'.symm⟩
  · exact (hunder he' _ heq.symm).elim
  · exact (hunder he _ heq).elim
  · exact heq

variable (h : b.Renamed b' old new schema)
include h

theorem differ : old ≠ new := by
  rintro rfl
  have hfree := h.free
  rw [h.found] at hfree
  cases hfree

theorem name_eq : schema.name = old := by simpa using List.find?_some h.found

/-! ### Tables -/

theorem tables_eq : b'.tables = b.tables.map (·.moved old new) := by
  rw [tables, tables, h.entries, List.map_map, List.map_map]
  exact List.map_congr_left fun e he => table_mapKeys he

/-- The tables in the new schema are those that named the old one. -/
theorem tablesIn_eq (hfree : ∀ t ∈ b.tables, inSchema t.schema new = false) :
    b'.view.tablesIn new = (b.tables.filter (·.schema == some old)).map (·.moved old new) := by
  have htables : b'.view.tables = b.tables.map (·.moved old new) := h.tables_eq
  rw [CatalogView.tablesIn, htables, List.filter_map]
  congr 1
  refine List.filter_congr fun t ht => ?_
  rw [Function.comp, Table.moved]
  by_cases hschema : t.schema = some old
  · simp [hschema, movedSchema_self, inSchema]
  · rw [map_movedSchema_of_ne hschema, hfree t ht]
    exact (beq_eq_false_iff_ne.mpr hschema).symm

/-- The key of a table leads to its image when it is moved. -/
theorem leadsOn (hfree : ∀ t ∈ b.tables, inSchema t.schema new = false) (key : TableKey) :
    b.LeadsOn b' old new key (.movedTo (b.keysIn old) new key) := by
  intro t ht
  obtain ⟨e, hfind, rfl⟩ := Option.map_eq_some_iff.mp ht
  obtain ⟨he, rfl⟩ := entry?_eq_some hfind
  have hapart : ∀ x ∈ b.entries, .movedTo (b.keysIn old) new x.key
      = ObjectName.movedTo (b.keysIn old) new e.key ↔ x.key = e.key :=
    fun x hx => ⟨movedTo_injective hfree hx he, congrArg _⟩
  have hfind' : b'.entry? (.movedTo (b.keysIn old) new e.key)
      = some (e.mapKeys (.movedTo (b.keysIn old) new)) := by
    have hmapped := entry?_mapKeys hapart
    have hentry : b.entry? e.key = some e := hfind
    rw [hentry, Option.map_some] at hmapped
    rw [← hmapped, entry?, entry?, h.entries]
    rfl
  have htable : (e.mapKeys (.movedTo (b.keysIn old) new)).table = e.table.moved old new :=
    table_mapKeys he
  rw [CatalogView.table?, ← htable]
  exact congrArg (Option.map (·.table)) hfind'

/-- Whatever points at tables follows them. -/
theorem movesTables (hfree : ∀ t ∈ b.tables, inSchema t.schema new = false) :
    b.MovesTables b' old new where
  tables := h.tables_eq
  foreignKeys := by
    rw [h.entries, List.forall₂_map_right_iff, List.forall₂_same]
    intro e _
    rw [TableEntry.mapKeys, TableMetadata.mapKeys, List.forall₂_map_right_iff, List.forall₂_same]
    exact fun k _ => ⟨rfl, h.leadsOn hfree k.host, h.leadsOn hfree k.referenced⟩
  triggers := by
    rw [h.triggers, List.forall₂_map_right_iff, List.forall₂_same]
    exact fun t _ => ⟨rfl, h.leadsOn hfree t.table⟩
  policies := by
    rw [h.policies, List.forall₂_map_right_iff, List.forall₂_same]
    exact fun p _ => ⟨rfl, h.leadsOn hfree p.table⟩

/-! ### Schemas -/

/-- A name that some schema may have had finds its image. -/
theorem schema?_eq {name : String} (hname : name ≠ new) :
    b'.schema? (movedSchema old new name) = (b.schema? name).map (·.moved old new) := by
  have hother := h.differ
  rw [schema?, h.schemas]
  by_cases heq : name = old
  · have hnone : ∀ s ∈ b.schemas, (s.name == new) = false := by
      simpa using List.find?_eq_none.mp h.free
    rw [heq, movedSchema_self, find?_replaceFirst h.found hnone BEq.rfl, h.found, Option.map_some,
      Schema.moved, h.name_eq, movedSchema_self]
  · rw [movedSchema_of_ne heq, find?_replaceFirst_of_ne]
    · cases hfind : b.schema? name with
      | none => exact hfind
      | some s =>
        have hs : s.name = name := by simpa using List.find?_some hfind
        rw [Option.map_some, Schema.moved_of_ne (by rwa [hs])]
        exact hfind
    · intro s hs
      rw [beq_eq_false_iff_ne, beq_iff_eq.mp hs]
      exact Ne.symm heq
    · intro s _
      exact beq_eq_false_iff_ne.mpr (Ne.symm hname)

/-- Where no schema was, the renamed one is now. -/
theorem schema?_new : b'.schema? new = some { schema with name := new } := by
  have hfound := h.schema?_eq h.differ
  rwa [movedSchema_self, h.found, Option.map_some, Schema.moved, h.name_eq, movedSchema_self]
    at hfound

end Renamed

end Builder

/-! ## 3. Grants -/

/-- A grant is about schemas, or about all that is in them. -/
def GrantObjects.AreSchemas (objects : GrantObjects) : Prop :=
  objects.kind = .schemas ∨ objects.kind = .allTablesInSchema
    ∨ objects.kind = .allFunctionsInSchema

section Grants

variable {φ : TableKey → TableKey} {old new : String} {g : Grant}

theorem GrantObjects.nameSchema_iff {objects : GrantObjects} (h : objects.AreSchemas)
    {name : String} : objects.nameSchema name = true ↔ ∃ n ∈ objects.names, n.name = name := by
  rcases h with h | h | h <;> simp [nameSchema, h]

theorem GrantObjects.areSchemas_of_nameSchema {objects : GrantObjects} {name : String}
    (h : objects.nameSchema name = true) : objects.AreSchemas := by
  rw [nameSchema] at h
  split at h
  · rename_i hkind; exact Or.inl hkind
  · rename_i hkind; exact Or.inr (Or.inl hkind)
  · rename_i hkind; exact Or.inr (Or.inr hkind)
  · cases h

/-- A grant on something else than schemas is moved with the tables that it names. -/
theorem Grant.moved_of_not_areSchemas (h : ¬ g.objects.AreSchemas) :
    g.moved φ old new = g.mapKeys φ := by
  rw [moved, if_neg]
  intro hnames
  refine h ?_
  have hkind := GrantObjects.areSchemas_of_nameSchema hnames
  rwa [GrantObjects.AreSchemas, kind_mapKeys] at hkind

@[simp] theorem Grant.kind_moved : (g.moved φ old new).objects.kind = g.objects.kind := by
  rw [moved]
  split
  · exact kind_mapKeys g
  · exact kind_mapKeys g

theorem Grant.mapKeys_of_areSchemas (h : g.objects.AreSchemas) : g.mapKeys φ = g := by
  rw [mapKeys, if_neg]
  intro hkind
  rcases h with h | h | h <;> rw [h] at hkind <;> cases hkind

/-- A grant on schemas names them as they are called after the renaming. -/
theorem Grant.names_moved (h : g.objects.AreSchemas) :
    (g.moved φ old new).objects.names.map (·.name)
      = g.objects.names.map fun n => movedSchema old new n.name := by
  rw [moved, mapKeys_of_areSchemas h]
  split
  · rw [renameSchema, List.map_map]
    refine List.map_congr_left fun n _ => ?_
    rw [Function.comp, movedSchema]
    simp only [beq_iff_eq]
    split <;> rfl
  · rename_i hnone
    refine List.map_congr_left fun n hn => ?_
    rw [movedSchema_of_ne fun hname => hnone ((GrantObjects.nameSchema_iff h).mpr ⟨n, hn, hname⟩)]

theorem Grant.any_names_moved (h : g.objects.AreSchemas) (p : String → Bool) :
    (g.moved φ old new).objects.names.any (fun n => p n.name)
      = g.objects.names.any fun n => p (movedSchema old new n.name) := by
  have hmoved : (g.moved φ old new).objects.names.any (fun n => p n.name)
      = ((g.moved φ old new).objects.names.map (·.name)).any p := List.any_map.symm
  rw [hmoved, names_moved h, List.any_map]
  rfl

end Grants

namespace Builder

variable {b : Builder}

theorem resolve?_of_table? {n : ObjectName} {t : Table} (h : b.view.table? n = some t) :
    b.view.resolve? n = some t := by
  rw [CatalogView.resolve?, h]

/-- A grant on tables names keys, so it is about a table for each. -/
theorem exists_table?_of_grant (hb : b.Closed) {g : Grant} (hg : g ∈ b.grants)
    (hkind : g.objects.kind = .tables) {n : ObjectName} (hn : n ∈ g.objects.names) :
    ∃ t, b.view.table? n = some t := by
  obtain ⟨e, he, rfl, -⟩ := hb.grants g hg hkind n hn
  obtain ⟨e', he'⟩ := exists_entry? he
  exact ⟨e'.table, Option.map_eq_some_iff.mpr ⟨e', he', rfl⟩⟩

theorem grantFunctions_subset {g : Grant} : b.view.grantFunctions g ⊆ b.functions := by
  intro f hf
  rw [CatalogView.grantFunctions] at hf
  split at hf
  · obtain ⟨n, -, hfound⟩ := List.mem_filterMap.mp hf
    have hnamed : f ∈ b.functionsNamed n.name :=
      (leastBy_firstLeast textsBefore_strictTotal hfound).mem
    exact List.mem_of_mem_filter hnamed
  · exact List.mem_of_mem_filter (List.mem_of_mem_filter hf)
  · cases hf

variable {b' : Builder} {old new : String} {schema : Schema}

namespace Renamed

variable {g : Grant}

/-- A grant on tables is about their images. -/
theorem grantTables_of_tables (h : b.Renamed b' old new schema) (hb : b.Closed)
    (hfree : ∀ t ∈ b.tables, inSchema t.schema new = false) (hg : g ∈ b.grants)
    (hkind : g.objects.kind = .tables) :
    b'.view.grantTables (g.moved (.movedTo (b.keysIn old) new) old new)
      = (b.view.grantTables g).map (·.moved old new) := by
  have hother : ¬ g.objects.AreSchemas := by
    rw [GrantObjects.AreSchemas, hkind]
    simp
  rw [Grant.moved_of_not_areSchemas hother]
  simp only [CatalogView.grantTables, Grant.kind_mapKeys, hkind]
  rw [Grant.names_mapKeys hkind, List.filterMap_map, List.map_filterMap]
  refine List.filterMap_congr fun n hn => ?_
  obtain ⟨t, ht⟩ := exists_table?_of_grant hb hg hkind hn
  rw [resolve?_of_table? ht, Function.comp, resolve?_of_table? (h.leadsOn hfree n t ht),
    Option.map_some]

/-- A grant on all tables in schemas is about the images of those it was about. -/
theorem grantTables_of_schemas (h : b.Renamed b' old new schema)
    (hfree : ∀ t ∈ b.tables, inSchema t.schema new = false) (hwhole : b.RenamesWhole old new)
    (hg : g ∈ b.grants) (hkind : g.objects.kind = .allTablesInSchema) :
    b'.view.grantTables (g.moved (.movedTo (b.keysIn old) new) old new)
      = (b.view.grantTables g).map (·.moved old new) := by
  have hschemas : g.objects.AreSchemas := Or.inr (Or.inl hkind)
  have htables : b'.view.tables = b.view.tables.map (·.moved old new) := h.tables_eq
  simp only [CatalogView.grantTables, Grant.kind_moved, hkind]
  rw [htables, List.filter_map]
  congr 1
  refine List.filter_congr fun t ht => ?_
  rw [Function.comp, Grant.any_names_moved hschemas]
  by_cases hschema : t.schema = some old
  · -- The table moves, and a grant on the new schema is one on the old schema too.
    have hnew := hwhole.newGrants g hg
    rw [GrantObjects.nameSchema_iff hschemas, GrantObjects.nameSchema_iff hschemas] at hnew
    rw [Table.moved, hschema, Option.map_some, movedSchema_self, Bool.eq_iff_iff, List.any_eq_true,
      List.any_eq_true]
    simp only [inSchema_iff, Option.getD_some]
    constructor
    · rintro ⟨n, hn, heq⟩
      by_cases hname : n.name = old
      · exact ⟨n, hn, hname.symm⟩
      · rw [movedSchema_of_ne hname] at heq
        obtain ⟨m, hm, hmname⟩ := hnew ⟨n, hn, heq.symm⟩
        exact ⟨m, hm, hmname.symm⟩
    · rintro ⟨n, hn, heq⟩
      exact ⟨n, hn, by rw [← heq, movedSchema_self]⟩
  · have hold : inSchema t.schema old = false := by
      rw [← Bool.not_eq_true]
      exact fun hin => hschema (hwhole.tables t ht hin)
    rw [Table.moved, map_movedSchema_of_ne hschema]
    refine congrArg (g.objects.names.any ·) (funext fun n => ?_)
    exact inSchema_movedSchema (hfree t ht) fun _ => hold

theorem mem_grantSchemas {v : CatalogView} (hschemas : g.objects.AreSchemas) (s : Schema) :
    s ∈ v.grantSchemas g ↔ ∃ n ∈ g.objects.names.map (·.name), v.schema? n = some s := by
  have heq : v.grantSchemas g = (g.objects.names.map (·.name)).filterMap v.schema? := by
    rw [List.filterMap_map]
    rcases hschemas with hkind | hkind | hkind <;>
      simp only [CatalogView.grantSchemas, hkind] <;> rfl
  rw [heq, List.mem_filterMap]

/-- A grant that names schemas names the images of those it named. -/
theorem grantSchemas_of_schemas (h : b.Renamed b' old new schema) (hwhole : b.RenamesWhole old new)
    (hg : g ∈ b.grants) (hschemas : g.objects.AreSchemas) (s : Schema) :
    s ∈ b'.view.grantSchemas (g.moved (.movedTo (b.keysIn old) new) old new)
      ↔ s ∈ (b.view.grantSchemas g).map (·.moved old new) := by
  have hschemas' : (g.moved (.movedTo (b.keysIn old) new) old new).objects.AreSchemas := by
    rwa [GrantObjects.AreSchemas, Grant.kind_moved]
  simp only [mem_grantSchemas hschemas', Grant.names_moved hschemas, List.mem_map,
    mem_grantSchemas hschemas]
  constructor
  · rintro ⟨_, ⟨n, hn, rfl⟩, hs⟩
    by_cases hname : n.name = new
    · -- A grant on the new schema is also one on the old schema, whose image is found there.
      obtain ⟨m, hm, hmname⟩ := (GrantObjects.nameSchema_iff hschemas).mp (hwhole.newGrants g hg
        ((GrantObjects.nameSchema_iff hschemas).mpr ⟨n, hn, hname⟩))
      have hfound : b'.schema? new = some s := by
        rwa [hname, movedSchema_of_ne (Ne.symm h.differ)] at hs
      rw [h.schema?_new] at hfound
      refine ⟨schema, ⟨old, ⟨m, hm, hmname⟩, h.found⟩, ?_⟩
      rw [Schema.moved, h.name_eq, movedSchema_self, Option.some.inj hfound]
    · obtain ⟨s₀, hs₀, heq⟩ := Option.map_eq_some_iff.mp ((h.schema?_eq hname).symm.trans hs)
      exact ⟨s₀, ⟨n.name, ⟨n, hn, rfl⟩, hs₀⟩, heq⟩
  · rintro ⟨s₀, ⟨_, ⟨n, hn, rfl⟩, hs₀⟩, rfl⟩
    have hname : n.name ≠ new := by
      intro hname
      have hfree : b.schema? n.name = none := hname ▸ h.free
      exact absurd (hfree.symm.trans hs₀) (by simp)
    refine ⟨_, ⟨n, hn, rfl⟩, (h.schema?_eq hname).trans ?_⟩
    exact congrArg (Option.map (·.moved old new)) hs₀

/-- A grant on all functions in schemas is about those it was about, which stay. -/
theorem grantFunctions_of_schemas (h : b.Renamed b' old new schema)
    (hfree : ∀ f ∈ b.functions, f.builtin = false → inSchema f.schema new = false)
    (hwhole : b.RenamesWhole old new) (hg : g ∈ b.grants)
    (hkind : g.objects.kind = .allFunctionsInSchema) :
    b'.view.grantFunctions (g.moved (.movedTo (b.keysIn old) new) old new)
      = b.view.grantFunctions g := by
  have hschemas : g.objects.AreSchemas := Or.inr (Or.inr hkind)
  have hsame : b'.view.declaredFunctions = b.view.declaredFunctions :=
    congrArg (List.filter fun f : Function => !f.builtin) h.functions
  simp only [CatalogView.grantFunctions, Grant.kind_moved, hkind]
  rw [hsame]
  refine List.filter_congr fun f hf => ?_
  obtain ⟨hmem, hdeclared⟩ := List.mem_filter.mp hf
  have hdeclared : f.builtin = false := by simpa using hdeclared
  rw [Grant.any_names_moved hschemas]
  rw [Bool.eq_iff_iff, List.any_eq_true, List.any_eq_true]
  refine exists_congr fun n => and_congr_right fun hn => Bool.eq_iff_iff.mp ?_
  refine inSchema_movedSchema (hfree f hmem hdeclared) fun hname => ?_
  exact hwhole.functionGrants g hg hkind ((GrantObjects.nameSchema_iff hschemas).mpr ⟨n, hn, hname⟩)
    f hmem hdeclared

/-- A grant on functions is about those it was about: they are found by name alone. -/
theorem grantFunctions_of_functions (h : b.Renamed b' old new schema)
    (hkind : g.objects.kind = .functions) :
    b'.view.grantFunctions (g.moved (.movedTo (b.keysIn old) new) old new)
      = b.view.grantFunctions g := by
  have hother : ¬ g.objects.AreSchemas := by
    rw [GrantObjects.AreSchemas, hkind]
    simp
  have hsame : g.mapKeys (.movedTo (b.keysIn old) new) = g := by
    rw [Grant.mapKeys, hkind]
    rfl
  have hfound : b'.view.function? = b.view.function? := by
    funext n
    have heq : b'.function? n = b.function? n := by
      rw [function?, function?, functionsNamed, functionsNamed, h.functions]
    exact heq
  rw [Grant.moved_of_not_areSchemas hother, hsame]
  simp only [CatalogView.grantFunctions, hkind, hfound]

/-- What a grant is about is moved with the schema, if the renaming leaves nothing behind. -/
theorem grantsOn (h : b.Renamed b' old new schema) (hb : b.Closed)
    (htables : ∀ t ∈ b.tables, inSchema t.schema new = false)
    (hfunctions : ∀ f ∈ b.functions, f.builtin = false → inSchema f.schema new = false)
    (hwhole : b.RenamesWhole old new) (hg : g ∈ b.grants) :
    b.GrantsOn b' old new g (g.moved (.movedTo (b.keysIn old) new) old new) where
  tables := by
    suffices heq : b'.view.grantTables (g.moved (.movedTo (b.keysIn old) new) old new)
        = (b.view.grantTables g).map (·.moved old new) by
      intro t
      rw [heq]
    cases hkind : g.objects.kind with
    | tables => exact h.grantTables_of_tables hb htables hg hkind
    | allTablesInSchema => exact h.grantTables_of_schemas htables hwhole hg hkind
    | _ => simp only [CatalogView.grantTables, Grant.kind_moved, hkind, List.map_nil]
  schemas := by
    by_cases hschemas : g.objects.AreSchemas
    · exact h.grantSchemas_of_schemas hwhole hg hschemas
    · have hnone (v : CatalogView) {g' : Grant} (heq : g'.objects.kind = g.objects.kind) :
          v.grantSchemas g' = [] := by
        rw [CatalogView.grantSchemas]
        rw [GrantObjects.AreSchemas] at hschemas
        split <;> simp_all
      intro s
      rw [hnone _ Grant.kind_moved, hnone _ rfl, List.map_nil]
  functions := by
    suffices heq : b'.view.grantFunctions (g.moved (.movedTo (b.keysIn old) new) old new)
        = b.view.grantFunctions g by
      have hstay : (b.view.grantFunctions g).map (·.moved old new) = b.view.grantFunctions g :=
        map_eq_self fun f hf => Function.moved_of_ne (hwhole.functions f (grantFunctions_subset hf))
      intro f
      rw [heq, hstay]
    cases hkind : g.objects.kind with
    | functions => exact h.grantFunctions_of_functions hkind
    | allFunctionsInSchema => exact h.grantFunctions_of_schemas hfunctions hwhole hg hkind
    | _ => simp only [CatalogView.grantFunctions, Grant.kind_moved, hkind]

end Renamed

/-! ## 4. Renaming purely -/

/-- A renaming that leaves nothing behind is pure. -/
theorem RenamesWhole.renamesPurely (hwhole : b.RenamesWhole old new)
    (h : b.Renamed b' old new schema) (hb : b.Closed)
    (htables : ∀ t ∈ b.tables, inSchema t.schema new = false)
    (hfunctions : ∀ f ∈ b.functions, f.builtin = false → inSchema f.schema new = false) :
    b.RenamesPurely b' old new where
  toMovesTables := h.movesTables htables
  tablesIn := by
    rw [h.tablesIn_eq htables, CatalogView.tablesIn]
    congr 1
    refine List.filter_congr fun t ht => ?_
    rw [Bool.eq_iff_iff, beq_iff_eq]
    exact ⟨fun hschema => inSchema_iff.mpr (by rw [hschema, Option.getD_some]), hwhole.tables t ht⟩
  functions := by
    rw [h.functions]
    exact (map_eq_self fun f hf => Function.moved_of_ne (hwhole.functions f hf)).symm
  grants := by
    rw [h.grants, List.forall₂_map_right_iff, List.forall₂_same]
    exact fun g hg => h.grantsOn hb htables hfunctions hwhole hg

namespace RenamesPurely

/-- No function names a schema that is renamed purely, since functions are not renamed with it. -/
theorem functions_ne (hpure : b.RenamesPurely b' old new) (h : b.Renamed b' old new schema) :
    ∀ f ∈ b.functions, f.schema ≠ some old := by
  intro f hf hschema
  have hsame : f.moved old new = f := by
    have heq := hpure.functions.symm.trans h.functions
    exact List.map_eq_map_iff.mp (heq.trans (List.map_id _).symm) f hf
  rw [Function.moved, hschema, Option.map_some, movedSchema_self] at hsame
  have hnew : some new = some old := (congrArg Function.schema hsame).trans hschema
  exact h.differ (Option.some.inj hnew).symm

/-- As many tables as there were are in the new schema, which are those that named the old one. -/
theorem tables_named (hpure : b.RenamesPurely b' old new) (h : b.Renamed b' old new schema)
    (htables : ∀ t ∈ b.tables, inSchema t.schema new = false) :
    ∀ t ∈ b.tables, inSchema t.schema old = true → t.schema = some old := by
  intro t ht hin
  have hlength := congrArg List.length ((h.tablesIn_eq htables).symm.trans hpure.tablesIn)
  rw [List.length_map, List.length_map] at hlength
  have hsub : (b.tables.filter (·.schema == some old)).Sublist (b.view.tablesIn old) := by
    refine List.monotone_filter_right _ fun u hu => ?_
    rw [inSchema_iff, beq_iff_eq.mp hu, Option.getD_some]
  have hmem : t ∈ b.view.tablesIn old := List.mem_filter.mpr ⟨ht, hin⟩
  rw [← hsub.eq_of_length hlength] at hmem
  exact beq_iff_eq.mp (List.mem_filter.mp hmem).2

theorem grantsOn (hpure : b.RenamesPurely b' old new) (h : b.Renamed b' old new schema) :
    ∀ g ∈ b.grants, b.GrantsOn b' old new g (g.moved (.movedTo (b.keysIn old) new) old new) := by
  have hall := hpure.grants
  rwa [h.grants, List.forall₂_map_right_iff, List.forall₂_same] at hall

/-- A function that does not name the old schema is not found under the new name, so no grant on all
functions of the schema was about it. -/
theorem functionGrants (hpure : b.RenamesPurely b' old new) (h : b.Renamed b' old new schema) :
    ∀ g ∈ b.grants, g.objects.kind = .allFunctionsInSchema → g.objects.nameSchema old = true →
      ∀ f ∈ b.functions, f.builtin = false → inSchema f.schema old = false := by
  intro g hg hkind hnames f hf hdeclared
  rw [← Bool.not_eq_true]
  intro hin
  have hschemas : g.objects.AreSchemas := Or.inr (Or.inr hkind)
  have hdefault : f.schema.getD defaultSchema = old := inSchema_iff.mp hin
  have hmem : f ∈ b.view.grantFunctions g := by
    simp only [CatalogView.grantFunctions, hkind]
    refine List.mem_filter.mpr ⟨List.mem_filter.mpr ⟨hf, by simp [hdeclared]⟩, ?_⟩
    obtain ⟨n, hn, hname⟩ := (GrantObjects.nameSchema_iff hschemas).mp hnames
    exact List.any_eq_true.mpr ⟨n, hn, hname ▸ hin⟩
  have hstays : f.moved old new = f := Function.moved_of_ne (hpure.functions_ne h f hf)
  have hmem' := ((hpure.grantsOn h g hg).functions f).mpr (List.mem_map.mpr ⟨f, hmem, hstays⟩)
  simp only [CatalogView.grantFunctions, Grant.kind_moved, hkind] at hmem'
  have hany := (List.mem_filter.mp hmem').2
  rw [Grant.any_names_moved hschemas, List.any_eq_true] at hany
  obtain ⟨n, -, hn⟩ := hany
  rw [inSchema_iff, hdefault, movedSchema] at hn
  split at hn
  · exact h.differ hn
  · rename_i hother
    exact hother hn.symm

/-- The renamed schema is found under the new name, so it was found under the old one. -/
theorem newGrants (hpure : b.RenamesPurely b' old new) (h : b.Renamed b' old new schema) :
    ∀ g ∈ b.grants, g.objects.nameSchema new = true → g.objects.nameSchema old = true := by
  intro g hg hnames
  have hschemas := GrantObjects.areSchemas_of_nameSchema hnames
  obtain ⟨n, hn, hname⟩ := (GrantObjects.nameSchema_iff hschemas).mp hnames
  have hmem' : { schema with name := new } ∈ b'.view.grantSchemas
      (g.moved (.movedTo (b.keysIn old) new) old new) := by
    rw [Renamed.mem_grantSchemas (by rwa [GrantObjects.AreSchemas, Grant.kind_moved]),
      Grant.names_moved hschemas]
    refine ⟨new, List.mem_map.mpr ⟨n, hn, ?_⟩, h.schema?_new⟩
    rw [hname, movedSchema_of_ne (Ne.symm h.differ)]
  obtain ⟨s, hs, heq⟩ := List.mem_map.mp (((hpure.grantsOn h g hg).schemas _).mp hmem')
  obtain ⟨_, hnamed, hfound⟩ := (Renamed.mem_grantSchemas hschemas s).mp hs
  obtain ⟨m, hm, rfl⟩ := List.mem_map.mp hnamed
  have hsname : s.name = m.name := by simpa using List.find?_some hfound
  have himage : movedSchema old new s.name = new := congrArg Schema.name heq
  refine (GrantObjects.nameSchema_iff hschemas).mpr ⟨m, hm, ?_⟩
  by_contra hother
  rw [hsname, movedSchema_of_ne hother] at himage
  exact absurd (h.free.symm.trans (himage ▸ hfound)) (by simp)

/-- A renaming that is pure has left nothing behind. -/
theorem renamesWhole (hpure : b.RenamesPurely b' old new) (h : b.Renamed b' old new schema)
    (htables : ∀ t ∈ b.tables, inSchema t.schema new = false) : b.RenamesWhole old new where
  functions := hpure.functions_ne h
  tables := hpure.tables_named h htables
  functionGrants := hpure.functionGrants h
  newGrants := hpure.newGrants h

end RenamesPurely

/-- In whatever state of a run a schema is renamed to a name that nothing is filed under, what
points at tables follows them, and the renaming is pure exactly when it leaves nothing behind. -/
theorem states_rename_iff (name : String) (statements : List Statement) {old new : String}
    (ifExists : Bool) (hold : (((initial name).run statements).schema? old).isSome)
    (hnew : ((initial name).run statements).schema? new = none)
    (htables : ∀ t ∈ ((initial name).run statements).tables, inSchema t.schema new = false)
    (hfunctions : ∀ f ∈ ((initial name).run statements).functions,
      f.builtin = false → inSchema f.schema new = false) :
    ∃ b', Statement.apply ((initial name).run statements)
        (.alterSchema { name := old, change := .rename new, ifExists }) = { builder := b' }
      ∧ ((initial name).run statements).MovesTables b' old new
      ∧ (((initial name).run statements).RenamesPurely b' old new
        ↔ ((initial name).run statements).RenamesWhole old new) := by
  set b := (initial name).run statements with hrun
  have hb : b.Closed := run_closed (initial_consistent name).closed statements
  obtain ⟨schema, hschema⟩ := Option.isSome_iff_exists.mp hold
  obtain ⟨b', hb'⟩ : ∃ b', b.renameSchema schema new = .ok b' :=
    ⟨_, renameSchema_eq hschema hnew hb.entries⟩
  have h := renamed_of_renameSchema hb hschema hb'
  refine ⟨b', ?_, h.movesTables htables, ?_⟩
  · rw [Statement.apply_of_renames rfl hschema, hb']
    rfl
  · exact ⟨fun hpure => hpure.renamesWhole h htables,
      fun hwhole => hwhole.renamesPurely h hb htables hfunctions⟩

/-- A schema with two tables, one of them referring to the other, and grants is renamed purely. -/
theorem states_rename_iff_of_tables :
    let accounts : ObjectName := ⟨"accounts", some "app"⟩
    let reference : ForeignKeyDefinition :=
      { columns := ["account_id"], referencedTable := accounts }
    let statements : List Statement :=
      [.createSchema { name := "app" },
        .createTable
          { name := accounts
            columns := [{ name := "id", dataType := "int" }]
            constraints := [.primaryKey ["id"] none] },
        .createTable
          { name := ⟨"sessions", some "app"⟩
            columns := [{ name := "account_id", dataType := "int" }]
            constraints := [.foreignKey reference] },
        .grantPrivileges
          { privileges := [⟨"USAGE", []⟩], objects := ⟨.schemas, [⟨"app", none⟩]⟩
            grantees := ["PUBLIC"] },
        .grantPrivileges
          { privileges := [⟨"SELECT", []⟩], objects := ⟨.tables, [accounts]⟩
            grantees := ["PUBLIC"] }]
    let b := (initial "shop").run statements
    (b.schema? "app").isSome ∧ b.schema? "core" = none
      ∧ (∀ t ∈ b.tables, inSchema t.schema "core" = false)
      ∧ (∀ f ∈ b.functions, f.builtin = false → inSchema f.schema "core" = false)
      ∧ b.RenamesWhole "app" "core"
      ∧ ∃ b', Statement.apply b (.alterSchema { name := "app", change := .rename "core" })
          = { builder := b' }
        ∧ b.RenamesPurely b' "app" "core" := by
  intro accounts reference statements b
  obtain ⟨hold, hnew, htables, hfunctions, hwhole⟩ :
      (b.schema? "app").isSome ∧ b.schema? "core" = none
        ∧ (∀ t ∈ b.tables, inSchema t.schema "core" = false)
        ∧ (∀ f ∈ b.functions, f.builtin = false → inSchema f.schema "core" = false)
        ∧ b.RenamesWhole "app" "core" := by decide +kernel
  obtain ⟨b', hb', -, hpure⟩ :=
    states_rename_iff "shop" statements false hold hnew htables hfunctions
  exact ⟨hold, hnew, htables, hfunctions, hwhole, b', hb', hpure.mpr hwhole⟩

/-- The functions of a schema do not go with it when it is renamed. -/
theorem rename_leaves_functions :
    ¬ ∀ (name : String) (statements : List Statement), (∀ s ∈ statements, s.Parsed) →
      ∀ (s : Statement) (old new : String), s.Parsed → s.renames? = some (old, new) →
        (((initial name).run statements).schema? old).isSome →
        ((initial name).run statements).schema? new = none →
        (∀ t ∈ ((initial name).run statements).tables, inSchema t.schema new = false) →
        (∀ f ∈ ((initial name).run statements).functions,
          f.builtin = false → inSchema f.schema new = false) →
        ((initial name).run statements).RenamesPurely
          (s.apply ((initial name).run statements)).builder old new := by
  intro h
  let statements := Script.statements "CREATE SCHEMA a; CREATE FUNCTION a.f() RETURNS int AS 'x'"
  obtain ⟨s, hs, hrenames, hold, hnew, htables, hfunctions, hleft⟩ :
      ∃ s ∈ Script.statements "ALTER SCHEMA a RENAME TO b",
        s.renames? = some ("a", "b")
          ∧ (((initial "shop").run statements).schema? "a").isSome
          ∧ ((initial "shop").run statements).schema? "b" = none
          ∧ (∀ t ∈ ((initial "shop").run statements).tables, inSchema t.schema "b" = false)
          ∧ (∀ f ∈ ((initial "shop").run statements).functions,
              f.builtin = false → inSchema f.schema "b" = false)
          ∧ (s.apply ((initial "shop").run statements)).builder.functions
            ≠ ((initial "shop").run statements).functions.map (·.moved "a" "b") := by
    decide +kernel
  exact hleft (h "shop" statements (fun _ => Statement.Parsed.of_text) s "a" "b" (.of_text hs)
    hrenames hold hnew htables hfunctions).functions

end Builder

end SchemaCatalog
