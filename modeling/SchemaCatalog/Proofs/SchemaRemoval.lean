import SchemaCatalog.Proofs.SchemaRenaming
import SchemaCatalog.Proofs.TableRemoval

/-!
# Dropping schemas

A schema that is dropped takes the tables in it along, with what is on them, and the grants that name
it. Dropping several schemas one by one is dropping all that exist at once: `dropSchemas_eq` says
that the builder left is `Builder.withoutSchemas`, whatever the order, and `Builder.DropsSchemas`
says what this comes to.

Tables, triggers, policies and grants on tables lose what was dropped and nothing else. A grant on
schemas should lose those that were dropped (`Grant.reduced`), but it is lost as a whole as soon as
one of them is, so the schemas that stay lose it too. `Builder.dropSchema_leaves` says that what
should be left is left exactly when no grant is on schemas of both sorts.
-/

namespace SchemaCatalog

/-! ## 1. What is left -/

instance (objects : GrantObjects) : Decidable objects.AreSchemas :=
  inferInstanceAs (Decidable (_ ∨ _ ∨ _))

/-- The objects are schemas, or all that is in them, and one of them satisfies `p`. -/
def GrantObjects.namesAny (objects : GrantObjects) (p : String → Bool) : Bool :=
  objects.AreSchemas && objects.names.any (p ·.name)

/-- A grant without what was dropped of its objects: tables that are not left, or schemas. It is gone
when none of its objects is left. -/
def Grant.reduced (left : List TableKey) (dropped : List String) (g : Grant) : Option Grant :=
  if g.objects.kind = .tables then g.without fun n => !left.contains n
  else if g.objects.AreSchemas then g.without (dropped.contains ·.name)
  else some g

namespace Builder

/-- The keys of the tables. -/
def keys (b : Builder) : List TableKey := b.entries.map (·.key)

/-- The builder after schemas have been dropped: the tables that are in none of them are left, in
their order, with the triggers and policies on them; grants have lost the tables that are not left,
and are gone if they named one of the schemas; there is no other change. -/
structure DropsSchemas (b b' : Builder) (dropped : List String) : Prop where
  entries : b'.entries = b.entries.filter fun e => !dropped.contains e.key.denoted.1
  triggers : b'.triggers = b.triggers.filter fun t => b'.keys.contains t.table
  policies : b'.policies = b.policies.filter fun p => b'.keys.contains p.table
  grants : b'.grants = b.grants.filterMap fun g =>
    if g.objects.namesAny dropped.contains then none else g.reduced b'.keys dropped
  schemas : b'.schemas = b.schemas.filter fun s => !dropped.contains s.name
  others : b' = { b with
    entries := b'.entries
    triggers := b'.triggers
    policies := b'.policies
    grants := b'.grants
    schemas := b'.schemas }

end Builder

/-! ## 2. Grants -/

section Grants

variable {p q : String → Bool} {g : Grant}

theorem GrantObjects.nameSchema_eq_namesAny (objects : GrantObjects) (name : String) :
    objects.nameSchema name = objects.namesAny (· == name) := by
  rw [Bool.eq_iff_iff, namesAny, Bool.and_eq_true, decide_eq_true_iff]
  constructor
  · intro h
    have hschemas := areSchemas_of_nameSchema h
    exact ⟨hschemas, by simpa using (nameSchema_iff hschemas).mp h⟩
  · rintro ⟨hschemas, h⟩
    exact (nameSchema_iff hschemas).mpr (by simpa using h)

theorem GrantObjects.namesAny_or (objects : GrantObjects) :
    objects.namesAny (fun n => p n || q n) = (objects.namesAny p || objects.namesAny q) := by
  rw [Bool.eq_iff_iff]
  simp [namesAny, and_or_left, exists_or]

theorem GrantObjects.namesAny_of_tables {objects : GrantObjects} (h : objects.kind = .tables) :
    objects.namesAny p = false := by
  simp [namesAny, AreSchemas, h]

/-- Nothing should be left of a grant on schemas when all of them are dropped. -/
theorem Grant.reduced_eq_none {left : List TableKey} {dropped : List String}
    (h : g.objects.namesAny dropped.contains = true) :
    g.reduced left dropped = none ↔ ∀ n ∈ g.objects.names, n.name ∈ dropped := by
  obtain ⟨hschemas, hany⟩ := Bool.and_eq_true_iff.mp h
  obtain ⟨n, hn, -⟩ := List.any_eq_true.mp hany
  have htables : g.objects.kind ≠ .tables := fun htables => by
    rw [GrantObjects.namesAny_of_tables htables] at h
    cases h
  have hsome : g.objects.names.isEmpty = false :=
    List.isEmpty_eq_false_iff.mpr (List.ne_nil_of_mem hn)
  rw [reduced, if_neg htables, if_pos (of_decide_eq_true hschemas)]
  simp [without, hsome]

/-- A grant without the tables in the schemas that are gone; it goes if it is about one of these. -/
def Grant.withoutSchemas (gone : String → Bool) (g : Grant) : Option Grant :=
  if g.objects.namesAny gone then none else g.withoutTables (gone ·.denoted.1)

theorem Grant.withoutSchemas_none : g.withoutSchemas (fun _ => false) = some g := by
  have hnone : g.objects.namesAny (fun _ => false) = false := by simp [GrantObjects.namesAny]
  rw [withoutSchemas, hnone]
  exact withoutTables_none

/-- A grant that has lost tables is about the schemas that it was about. -/
theorem Grant.bind_unless_namesAny {gone : TableKey → Bool} {f : Grant → Option Grant} :
    (g.withoutTables gone).bind (fun g' => if g'.objects.namesAny q then none else f g')
      = if g.objects.namesAny q then none else (g.withoutTables gone).bind f := by
  by_cases hkind : g.objects.kind = .tables
  · rw [GrantObjects.namesAny_of_tables hkind]
    refine Option.bind_congr fun g' hg' => ?_
    rw [GrantObjects.namesAny_of_tables ((kind_of_withoutTables hg').trans hkind)]
    rfl
  · rw [withoutTables_of_kind hkind]
    rfl

/-- What a grant loses with some schemas and then with others, it loses with all of them. -/
theorem Grant.bind_withoutSchemas :
    (g.withoutSchemas p).bind (·.withoutSchemas q) = g.withoutSchemas fun n => p n || q n := by
  have hlater : (g.withoutTables (p ·.denoted.1)).bind (·.withoutSchemas q)
      = if g.objects.namesAny q then none
        else g.withoutTables fun n => p n.denoted.1 || q n.denoted.1 :=
    bind_unless_namesAny.trans (by rw [bind_withoutTables])
  rw [withoutSchemas, withoutSchemas, GrantObjects.namesAny_or]
  cases g.objects.namesAny p with
  | true => rfl
  | false => exact hlater

end Grants

/-! ## 3. Schemas one by one -/

namespace Builder

variable {b b' : Builder}

/-- The builder without some schemas, the tables in them and what is on these. -/
def withoutSchemas (b : Builder) (gone : String → Bool) : Builder :=
  { b.withoutTables (gone ·.denoted.1) with
    grants := b.grants.filterMap (·.withoutSchemas gone)
    schemas := b.schemas.filter (!gone ·.name) }

theorem withoutSchemas_none : b.withoutSchemas (fun _ => false) = b := by
  simp [withoutSchemas, withoutTables, Grant.withoutSchemas_none]

theorem withoutSchemas_withoutSchemas (p q : String → Bool) :
    (b.withoutSchemas p).withoutSchemas q = b.withoutSchemas fun n => p n || q n := by
  simp only [withoutSchemas, withoutTables, List.filter_filter, List.filterMap_filterMap,
    Grant.bind_withoutSchemas, Bool.not_or, Bool.and_comm]

theorem isSome_schema?_withoutSchemas (gone : String → Bool) (name : String) :
    ((b.withoutSchemas gone).schema? name).isSome = (!gone name && (b.schema? name).isSome) := by
  rw [Bool.eq_iff_iff]
  simp only [schema?, withoutSchemas, List.find?_isSome, List.mem_filter, Bool.and_eq_true,
    beq_iff_eq]
  constructor
  · rintro ⟨s, ⟨hs, hstays⟩, rfl⟩
    exact ⟨hstays, s, hs, rfl⟩
  · rintro ⟨hstays, s, hs, rfl⟩
    exact ⟨s, ⟨hs, hstays⟩, rfl⟩

/-- The tables of a schema are those whose key denotes one in it. -/
theorem tablesIn_eq_filter (name : String) :
    b.view.tablesIn name = b.tables.filter (·.key.denoted.1 == name) := by
  refine List.filter_congr fun t _ => ?_
  rw [Bool.eq_iff_iff, inSchema_iff, beq_iff_eq]
  rfl

/-- A schema goes, if there is one, with all that is in it. -/
theorem dropSchema_eq {ifExists cascade : Bool} {name : String} (hb : b.Closed)
    (hvoid : b.NoVoidGrants) (h : b.dropSchema ifExists cascade name = .ok b') :
    b' = b.withoutSchemas fun n => n == name && (b.schema? n).isSome := by
  rw [dropSchema] at h
  split at h
  · rename_i hnone
    split at h <;> cases h
    have hgone : (fun n => n == name && (b.schema? n).isSome) = fun _ => false := by
      funext n
      by_cases hn : n = name <;> simp [hn, hnone]
    rw [hgone, withoutSchemas_none]
  · rename_i schema hsome
    simp only [guard_eq_ok, bind_eq_ok, pure_eq_ok] at h
    obtain ⟨-, c, hremoved, rfl⟩ := h
    have hgone : (fun n => n == name && (b.schema? n).isSome) = (· == name) := by
      funext n
      by_cases hn : n = name <;> simp [hn, hsome]
    rw [tablesIn_eq_filter] at hremoved
    have hgrants : (b.grants.filterMap (·.withoutTables (·.denoted.1 == name))).filterMap
          (fun g => if g.objects.nameSchema name then none else some g)
        = b.grants.filterMap (·.withoutSchemas (· == name)) := by
      rw [List.filterMap_filterMap]
      refine List.filterMap_congr fun g _ => ?_
      simp only [GrantObjects.nameSchema_eq_namesAny, Grant.bind_unless_namesAny,
        Option.bind_fun_some, Grant.withoutSchemas]
    rw [removeTables_eq (p := (·.denoted.1 == name)) hb hvoid hremoved, hgone, replaceGrants,
      withoutTables, hgrants]
    rfl

/-- The schemas that there are go, with all that is in them, whatever the order. -/
theorem dropSchemas_eq {s : DropSchema} {names : List String} (hb : b.Closed)
    (hvoid : b.NoVoidGrants)
    (h : Outcome.each (fun b name => .whole b (b.dropSchema s.ifExists s.cascade name)) b names
      = { builder := b' }) :
    b' = b.withoutSchemas fun n => names.contains n && (b.schema? n).isSome := by
  induction names generalizing b with
  | nil =>
    cases h
    simp [withoutSchemas_none]
  | cons name names ih =>
    obtain ⟨c, hfirst, hrest⟩ := Outcome.each_cons_eq_done.mp h
    have hdropped := Outcome.whole_eq_done.mp hfirst
    have heffects := Effect.of_dropSchema (d := s) hdropped
    have hclosed : c.Closed := Effect.invariant (fun _ _ => Effect.closed) hb heffects
    have hcvoid : c.NoVoidGrants :=
      Effect.invariant (fun _ _ => Effect.noVoidGrants rfl) hvoid heffects
    have hc := dropSchema_eq hb hvoid hdropped
    rw [ih hclosed hcvoid hrest, hc, withoutSchemas_withoutSchemas]
    congr 1
    funext n
    rw [isSome_schema?_withoutSchemas, List.contains_cons]
    cases n == name <;> cases names.contains n <;> cases (b.schema? n).isSome <;> rfl

/-! ## 4. What should be left, and what is -/

/-- A table is left unless it is in one of the schemas. -/
theorem keys_withoutSchemas {gone : String → Bool} {key : TableKey} {names : List String}
    (h : b.HasColumns key names) :
    (b.withoutSchemas gone).keys.contains key = !gone key.denoted.1 := by
  obtain ⟨e, he, rfl, -⟩ := h
  rw [Bool.eq_iff_iff, List.contains_iff_mem, keys]
  constructor
  · intro hmem
    obtain ⟨e', he', hkey⟩ := List.mem_map.mp hmem
    exact hkey ▸ (List.mem_filter.mp he').2
  · exact fun hstays => List.mem_map.mpr ⟨e, List.mem_filter.mpr ⟨he, hstays⟩, rfl⟩

/-- A grant that is about none of the schemas loses what it should. -/
theorem withoutSchemas_eq_reduced {dropped : List String} {g : Grant} (hg : b.Supports g) :
    g.withoutSchemas dropped.contains
      = if g.objects.namesAny dropped.contains then none
        else g.reduced (b.withoutSchemas dropped.contains).keys dropped := by
  rw [Grant.withoutSchemas, Grant.reduced]
  split
  · rfl
  · rename_i hnames
    split
    · rename_i htables
      rw [Grant.withoutTables, if_pos (beq_iff_eq.mpr htables)]
      refine Grant.without_congr fun n hn => ?_
      rw [keys_withoutSchemas (hg htables n hn), Bool.not_not]
    · rename_i htables
      rw [Grant.withoutTables_of_kind htables]
      split
      · rename_i hschemas
        have hothers : ∀ n ∈ g.objects.names, dropped.contains n.name = false := by
          simpa [GrantObjects.namesAny, hschemas] using hnames
        exact Grant.without_none.symm.trans (Grant.without_congr fun n hn => (hothers n hn).symm)
      · rfl

/-- The builder without the schemas is what it should be, but for the grants on them. -/
theorem dropsSchemas_withoutSchemas (hb : b.Closed) (dropped : List String) :
    b.DropsSchemas (b.withoutSchemas dropped.contains) dropped where
  entries := rfl
  triggers := List.filter_congr fun t ht => (keys_withoutSchemas (hb.triggers t ht)).symm
  policies := List.filter_congr fun p hp => (keys_withoutSchemas (hb.policies p hp)).symm
  grants := List.filterMap_congr fun g hg => withoutSchemas_eq_reduced (hb.grants g hg)
  schemas := rfl
  others := rfl

end Builder

section FilterMap

variable {α β : Type} {f g : α → Option β} {l : List α}

/-- A selection that leaves out more than another one is a part of it. -/
theorem filterMap_sublist (h : ∀ a ∈ l, f a = none ∨ f a = g a) :
    (l.filterMap f).Sublist (l.filterMap g) := by
  induction l with
  | nil => exact .slnil
  | cons a l ih =>
    obtain ⟨ha, hl⟩ := List.forall_mem_cons.mp h
    rw [List.filterMap_cons, List.filterMap_cons]
    rcases ha with hnone | hsame
    · rw [hnone]
      cases g a with
      | none => exact ih hl
      | some x => exact (ih hl).cons x
    · rw [hsame]
      cases g a with
      | none => exact ih hl
      | some x => exact (ih hl).cons_cons x

/-- A selection that leaves out more than another one is the same only if it leaves out no more. -/
theorem filterMap_eq_iff (h : ∀ a ∈ l, f a = none ∨ f a = g a) :
    l.filterMap f = l.filterMap g ↔ ∀ a ∈ l, f a = g a := by
  refine ⟨fun heq => ?_, List.filterMap_congr⟩
  induction l with
  | nil => simp
  | cons a l ih =>
    obtain ⟨ha, hl⟩ := List.forall_mem_cons.mp h
    cases hg : g a with
    | none =>
      have hf : f a = none := ha.elim id (·.trans hg)
      rw [List.filterMap_cons_none hf, List.filterMap_cons_none hg] at heq
      exact List.forall_mem_cons.mpr ⟨hf.trans hg.symm, ih hl heq⟩
    | some x =>
      rcases ha with hnone | hsame
      · -- The other selection would be longer.
        rw [List.filterMap_cons_none hnone, List.filterMap_cons_some hg] at heq
        have hlonger : (x :: l.filterMap g).Sublist (l.filterMap g) := heq ▸ filterMap_sublist hl
        exact absurd hlonger.length_le (Nat.not_succ_le_self _)
      · rw [List.filterMap_cons_some (hsame.trans hg), List.filterMap_cons_some hg] at heq
        exact List.forall_mem_cons.mpr ⟨hsame, ih hl (List.cons.inj heq).2⟩

end FilterMap

namespace Builder

/-- Take any state of a run in which no grant on tables is on none, and schemas that are dropped with
success. Those of them that there were are dropped, with their tables and what is on these, and nothing
else; the grants have lost what they should exactly if none that named one of them named another
schema. (Statements that can be read leave no grant on none: `run_noVoidGrants`.) -/
theorem dropSchema_leaves (name : String) {statements : List Statement}
    (hvoid : ((initial name).run statements).NoVoidGrants) {s : DropSchema} {b' : Builder}
    (h : (Statement.dropSchema s).apply ((initial name).run statements) = { builder := b' }) :
    let b := (initial name).run statements
    let dropped := s.names.filter fun n => (b.schema? n).isSome
    b.DropsSchemas b' dropped
      ∧ (b'.grants = b.grants.filterMap (·.reduced b'.keys dropped)
        ↔ ∀ g ∈ b.grants, g.objects.namesAny dropped.contains = true →
            ∀ n ∈ g.objects.names, n.name ∈ dropped) := by
  intro b dropped
  have hclosed : b.Closed := run_closed (initial_consistent name).closed statements
  have hgone : (fun n => s.names.contains n && (b.schema? n).isSome) = dropped.contains := by
    funext n
    rw [Bool.eq_iff_iff]
    simp [dropped]
  have hb' : b' = b.withoutSchemas dropped.contains := hgone ▸ dropSchemas_eq hclosed hvoid h
  have hdrops : b.DropsSchemas b' dropped := hb' ▸ dropsSchemas_withoutSchemas hclosed dropped
  refine ⟨hdrops, ?_⟩
  rw [hdrops.grants, filterMap_eq_iff fun g _ => ?_]
  · refine forall₂_congr fun g _ => ?_
    by_cases hnames : g.objects.namesAny dropped.contains = true
    · rw [if_pos hnames, eq_comm, Grant.reduced_eq_none hnames]
      exact (imp_iff_right hnames).symm
    · simp [hnames]
  · split
    · exact Or.inl rfl
    · exact Or.inr rfl

/-- A schema is dropped with a table of its own; another one that is named does not exist. The grant
on the two tables is one on the table that is left, the grant on the schema is gone. -/
theorem dropSchema_leaves_of_missing_schema :
    let statements := Script.statements
      "CREATE SCHEMA a; CREATE TABLE a.t (x int); CREATE TABLE u (x int);
      GRANT SELECT ON u, a.t TO PUBLIC; GRANT USAGE ON SCHEMA a TO PUBLIC"
    let b := (initial "shop").run statements
    let s : DropSchema := { names := ["a", "c", "a"], ifExists := true, cascade := true }
    let b' := ((Statement.dropSchema s).apply b).builder
    let dropped := s.names.filter fun n => (b.schema? n).isSome
    dropped = ["a", "a"] ∧ b'.keys = [⟨"u", none⟩]
      ∧ b'.grants.map (·.objects.names) = [[⟨"u", none⟩]]
      ∧ b.DropsSchemas b' dropped ∧ b'.grants = b.grants.filterMap (·.reduced b'.keys dropped) := by
  intro statements b s b' dropped
  have hparsed : ∀ s ∈ statements, s.Parsed := fun _ => Statement.Parsed.of_text
  have hvoid : b.NoVoidGrants :=
    run_noVoidGrants (initial_consistent "shop").closed (initial_noVoidGrants "shop") hparsed
  obtain ⟨hdropped, hkeys, hgrants, hsuccess, hwhole⟩ : dropped = ["a", "a"]
      ∧ b'.keys = [⟨"u", none⟩] ∧ b'.grants.map (·.objects.names) = [[⟨"u", none⟩]]
      ∧ ((Statement.dropSchema s).apply b).failure = none
      ∧ ∀ g ∈ b.grants, g.objects.namesAny dropped.contains = true →
          ∀ n ∈ g.objects.names, n.name ∈ dropped := by
    decide +kernel
  obtain ⟨hdrops, hreduced⟩ :=
    dropSchema_leaves "shop" hvoid (Outcome.eq_done_of_failure hsuccess)
  exact ⟨hdropped, hkeys, hgrants, hdrops, hreduced.mpr hwhole⟩

/-- Of a grant on two schemas nothing is left when one of them is dropped, though the other one stays
and should have the grant. -/
theorem dropSchema_takes_grant :
    let b := (initial "shop").run
      (Script.statements "CREATE SCHEMA a; CREATE SCHEMA b; GRANT USAGE ON SCHEMA a, b TO PUBLIC")
    let o := (Statement.dropSchema { names := ["a"] }).apply b
    o.failure = none ∧ o.builder.schemas.map (·.name) = ["b"]
      ∧ (b.grants.filterMap (·.reduced o.builder.keys ["a"])).map (·.objects.names)
          = [[⟨"b", none⟩]]
      ∧ o.builder.grants = [] := by
  decide +kernel

end Builder

end SchemaCatalog
