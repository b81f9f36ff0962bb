import SchemaCatalog.Proofs.Failures
import SchemaCatalog.Proofs.Repetition
import SchemaCatalog.Proofs.TableRemoval

/-!
# Dropping a table undoes its life

A table is created, altered, indexed; triggers, policies and grants come and go on it; then it is
dropped. All that happened is filed under its key, at the end of the lists of the builder, since
nothing was filed under that key before. `TableLoad` is what has come so far, and the builder is the
one from before with a load added: each statement about the table changes the load alone
(`Statement.apply_withLoad`). Dropping the table takes the load off again (`removeTable_withLoad`),
so that the builder is what it was, the order of every list included: `Builder.dropTable_undoes`.

That nothing carries the key of a table which is not there is what makes this work, and it is why the
builder has to be closed.
-/

namespace SchemaCatalog

/-! ## 1. A table with what is on it -/

/-- An entry of a key, with triggers, policies and grants that are on it and on no other table. -/
structure TableLoad (key : TableKey) where
  entry : TableEntry
  triggers : List Trigger := []
  policies : List Policy := []
  grants : List Grant := []
  entry_key : entry.key = key
  triggers_on : ∀ t ∈ triggers, t.table = key
  policies_on : ∀ p ∈ policies, p.table = key
  grants_on : ∀ g ∈ grants, g.objects.kind = .tables ∧ ∀ n ∈ g.objects.names, n = key

namespace Builder

/-- The builder with a table and what is on it added at the end of its lists. -/
def withLoad {key : TableKey} (b : Builder) (l : TableLoad key) : Builder :=
  { b with
    entries := b.entries ++ [l.entry]
    triggers := b.triggers ++ l.triggers
    policies := b.policies ++ l.policies
    grants := b.grants ++ l.grants }

/-- No table of the builder is denoted by the name. -/
def Lacks (b : Builder) (n : ObjectName) : Prop := ∀ e ∈ b.entries, e.key.denoted ≠ n.denoted

variable {b c : Builder} {key : TableKey}

theorem Lacks.entry_key (h : b.Lacks key) {e : TableEntry} (he : e ∈ b.entries) : e.key ≠ key :=
  fun heq => h e he (congrArg ObjectName.denoted heq)

/-- What needs columns of a table is not on one that is not there. -/
theorem HasColumns.ne_of_lacks {key' : TableKey} {names : List String} (h : b.HasColumns key' names)
    (hfree : b.Lacks key) : key' ≠ key := by
  obtain ⟨e, he, rfl, -⟩ := h
  exact hfree.entry_key he

variable {l : TableLoad key}

/-- A name of the table is resolved to it. -/
theorem resolve?_withLoad (hfree : b.Lacks key) {n : ObjectName} (hn : n.denoted = key.denoted) :
    (b.withLoad l).resolve? n = some l.entry.table := by
  have hentry : l.entry ∈ (b.withLoad l).entries :=
    List.mem_append_right _ (List.mem_singleton_self _)
  obtain ⟨t, ht⟩ := exists_resolve?_of_denoted hentry (l.entry_key ▸ hn.symm)
  obtain ⟨e, he, rfl, hdenoted⟩ := resolve?_eq_some ht
  rcases List.mem_append.mp he with hold | hlast
  · exact absurd (hdenoted.trans hn) (hfree e hold)
  · rw [ht, List.mem_singleton.mp hlast]

/-- A change of the entry of the table leaves the other entries. -/
theorem replaceFirst_withLoad (hfree : b.Lacks key) {f : TableEntry → TableEntry} :
    replaceFirst (·.key == key) f (b.withLoad l).entries = b.entries ++ [f l.entry] := by
  refine replaceFirst_append (fun e he => ?_) (beq_iff_eq.mpr l.entry_key)
  exact beq_eq_false_iff_ne.mpr (hfree.entry_key he)

end Builder

/-- Changing the first element passes over elements that are not to be changed. -/
theorem replaceFirst_append_right {α : Type} {p : α → Bool} {f : α → α} {done rest : List α}
    (h : ∀ a ∈ done, p a = false) :
    replaceFirst p f (done ++ rest) = done ++ replaceFirst p f rest := by
  induction done with
  | nil => rfl
  | cons a done ih =>
    obtain ⟨ha, hdone⟩ := List.forall_mem_cons.mp h
    rw [List.cons_append, replaceFirst, if_neg (by simp [ha]), ih hdone, List.cons_append]

/-! ## 2. Statements about the table -/

variable {b c : Builder} {key : TableKey} {l : TableLoad key}

theorem AlterTable.apply_withLoad {s : AlterTable} (hfree : b.Lacks key)
    (hon : s.name.denoted = key.denoted) (h : s.apply (b.withLoad l) = .ok c) :
    ∃ l' : TableLoad key, c = b.withLoad l' := by
  simp only [apply, Builder.resolve?_withLoad hfree hon] at h
  rw [Builder.replaceTable] at h
  have hkey : (s.actions.foldl RowSecurityAction.act l.entry.table).key = key :=
    (AlterTable.key_act l.entry.table s.actions).trans l.entry_key
  rw [Builder.updateEntry_eq_ok h, hkey, Builder.replaceFirst_withLoad hfree]
  exact ⟨{ l with
    entry := { l.entry with table := s.actions.foldl RowSecurityAction.act l.entry.table }
    entry_key := hkey }, rfl⟩

theorem CreateIndex.apply_withLoad {s : CreateIndex} (hfree : b.Lacks key)
    (hon : s.table.denoted = key.denoted) (h : s.apply (b.withLoad l) = .ok c) :
    ∃ l' : TableLoad key, c = b.withLoad l' := by
  rcases CreateIndex.apply_eq_ok h with rfl | ⟨t, ht, rfl⟩
  · exact ⟨l, rfl⟩
  · rw [Builder.resolve?_withLoad hfree hon] at ht
    cases ht
    have hkey : l.entry.table.key = key := l.entry_key
    rw [hkey, Builder.replaceFirst_withLoad hfree]
    exact ⟨{ l with entry := { l.entry with metadata := s.addTo key l.entry.metadata } }, rfl⟩

/-- Triggers of the builder are not on the table. -/
theorem Builder.Closed.trigger_table_ne (hb : b.Closed) (hfree : b.Lacks key) {t : Trigger}
    (ht : t ∈ b.triggers) : t.table ≠ key :=
  (hb.triggers t ht).ne_of_lacks hfree

theorem Builder.Closed.policy_table_ne (hb : b.Closed) (hfree : b.Lacks key) {p : Policy}
    (hp : p ∈ b.policies) : p.table ≠ key :=
  (hb.policies p hp).ne_of_lacks hfree

theorem CreateTrigger.apply_withLoad {s : CreateTrigger} (hb : b.Closed) (hfree : b.Lacks key)
    (hon : s.table.denoted = key.denoted) (h : s.apply (b.withLoad l) = .ok c) :
    ∃ l' : TableLoad key, c = b.withLoad l' := by
  obtain ⟨t, f, e, ht, -, -, -, hc⟩ := CreateTrigger.apply_eq_ok h
  rw [Builder.resolve?_withLoad hfree hon] at ht
  cases ht
  have hentry : l.entry.table.key = key := l.entry_key
  rw [hentry] at hc
  rcases hc with rfl | rfl
  · refine ⟨{ l with
      triggers := l.triggers ++ [s.trigger key f]
      triggers_on := List.forall_mem_append.mpr ⟨l.triggers_on, by simp [trigger]⟩ }, ?_⟩
    simp only [Builder.addTrigger, Builder.withLoad, List.append_assoc]
  · refine ⟨{ l with
      triggers := replaceFirst (Builder.isTrigger s.name key) (fun _ => s.trigger key f) l.triggers
      triggers_on := fun t ht => ?_ }, ?_⟩
    · rcases mem_replaceFirst ht with hold | ⟨_, -, -, rfl⟩
      · exact l.triggers_on t hold
      · rfl
    · have hpassed : ∀ t ∈ b.triggers, Builder.isTrigger s.name key t = false := by
        intro t ht
        simp [Builder.isTrigger, hb.trigger_table_ne hfree ht]
      simp only [Builder.withLoad, replaceFirst_append_right hpassed]

/-- The triggers that a statement selects go, if there are any. -/
theorem DropTrigger.apply_eq_filter {s : DropTrigger} (h : s.apply b = .ok c) :
    c = { b with triggers := b.triggers.filter fun t => !s.selects (s.key? b) t } := by
  simp only [apply] at h
  split at h
  · rename_i hnone
    split at h <;> cases h
    rw [List.isEmpty_iff, List.filter_eq_nil_iff] at hnone
    rw [List.filter_eq_self.mpr fun t ht => by simp [hnone t ht]]
  · rw [removed_eq] at h
    exact (Except.ok.inj h).symm

theorem DropTrigger.apply_withLoad {s : DropTrigger} {n : ObjectName} (hb : b.Closed)
    (hfree : b.Lacks key) (hs : s.table = some n) (hon : n.denoted = key.denoted)
    (h : s.apply (b.withLoad l) = .ok c) : ∃ l' : TableLoad key, c = b.withLoad l' := by
  have hkey : s.key? (b.withLoad l) = some key := by
    rw [key?, hs, Option.map_some, Builder.resolve?_withLoad hfree hon]
    exact congrArg some l.entry_key
  rw [apply_eq_filter h, hkey]
  refine ⟨{ l with
    triggers := l.triggers.filter fun t => !s.selects (some key) t
    triggers_on := fun t ht => l.triggers_on t (List.mem_of_mem_filter ht) }, ?_⟩
  have hkept : b.triggers.filter (fun t => !s.selects (some key) t) = b.triggers := by
    refine List.filter_eq_self.mpr fun t ht => ?_
    simp [selects, (hb.trigger_table_ne hfree ht).symm]
  simp only [Builder.withLoad, List.filter_append, hkept]

theorem CreatePolicy.apply_withLoad {s : CreatePolicy} (hfree : b.Lacks key)
    (hon : s.table.denoted = key.denoted) (h : s.apply (b.withLoad l) = .ok c) :
    ∃ l' : TableLoad key, c = b.withLoad l' := by
  obtain ⟨t, p, ht, hp, -, -, rfl⟩ := CreatePolicy.apply_eq_ok h
  rw [Builder.resolve?_withLoad hfree hon] at ht
  cases ht
  have htable : p.table = key := hp.trans l.entry_key
  refine ⟨{ l with
    policies := l.policies ++ [p]
    policies_on := List.forall_mem_append.mpr ⟨l.policies_on, by simp [htable]⟩ }, ?_⟩
  simp only [Builder.addPolicy, Builder.withLoad, List.append_assoc]

theorem DropPolicy.apply_withLoad {s : DropPolicy} (hb : b.Closed) (hfree : b.Lacks key)
    (hon : s.table.denoted = key.denoted) (h : s.apply (b.withLoad l) = .ok c) :
    ∃ l' : TableLoad key, c = b.withLoad l' := by
  rw [apply] at h
  split at h
  · rename_i key' hkey
    rw [key?, Builder.resolve?_withLoad hfree hon] at hkey
    have hsame : l.entry.table.key = key' :=
      Option.some.inj (Option.eq_some_of_filter_eq_some hkey)
    have hentry : l.entry.table.key = key := l.entry_key
    obtain rfl : key = key' := hentry.symm.trans hsame
    rw [Builder.removePolicy] at h
    split at h <;> cases h
    refine ⟨{ l with
      policies := l.policies.eraseP (Builder.isPolicy s.name key)
      policies_on := fun p hp => l.policies_on p (List.mem_of_mem_eraseP hp) }, ?_⟩
    have hpassed : ∀ p ∈ b.policies, ¬ Builder.isPolicy s.name key p = true := by
      intro p hp
      simp [Builder.isPolicy, hb.policy_table_ne hfree hp]
    simp only [Builder.withLoad, List.eraseP_append_right _ hpassed]
  · split at h <;> cases h
    exact ⟨l, rfl⟩

theorem GrantPrivileges.apply_withLoad {s : GrantPrivileges} (hfree : b.Lacks key)
    (hkind : s.objects.kind = .tables) (hon : ∀ n ∈ s.objects.names, n.denoted = key.denoted)
    (h : s.apply (b.withLoad l) = .ok c) : ∃ l' : TableLoad key, c = b.withLoad l' := by
  obtain ⟨objects, _, hobjects, -, rfl⟩ := GrantPrivileges.apply_eq_ok h
  obtain ⟨hsame, hnames⟩ := resolveObjects_eq_ok hobjects
  refine ⟨{ l with
    grants := l.grants ++ [{ s.grant with objects }]
    grants_on := List.forall_mem_append.mpr ⟨l.grants_on, fun g hg => ?_⟩ }, ?_⟩
  · rw [List.mem_singleton.mp hg]
    refine ⟨hsame.trans hkind, fun key' hkey' => ?_⟩
    obtain ⟨n, hn, t, ht, rfl⟩ := exists_of_forall₂_right (hnames hkind) hkey'
    rw [Builder.resolve?_withLoad hfree (hon n hn)] at ht
    cases ht
    exact l.entry_key
  · simp only [Builder.addGrant, Builder.withLoad, List.append_assoc]

/-- The statement alters the table that a name denotes, in whatever spelling, or is about an index, a
trigger or a policy on it, or grants privileges on it and on no other table. -/
def Statement.HangsOn (table : ObjectName) : Statement → Prop
  | alterTable s => s.name.denoted = table.denoted
  | createIndex s => s.table.denoted = table.denoted
  | createTrigger s => s.table.denoted = table.denoted
  | dropTrigger s => ∃ n ∈ s.table, n.denoted = table.denoted
  | createPolicy s => s.table.denoted = table.denoted
  | dropPolicy s => s.table.denoted = table.denoted
  | grantPrivileges s =>
    s.objects.kind = .tables ∧ ∀ n ∈ s.objects.names, n.denoted = table.denoted
  | _ => False

instance Statement.HangsOn.instDecidable (table : ObjectName) :
    (s : Statement) → Decidable (s.HangsOn table)
  | alterTable s => inferInstanceAs (Decidable (s.name.denoted = table.denoted))
  | createIndex s => inferInstanceAs (Decidable (s.table.denoted = table.denoted))
  | createTrigger s => inferInstanceAs (Decidable (s.table.denoted = table.denoted))
  | dropTrigger s => inferInstanceAs (Decidable (∃ n ∈ s.table, n.denoted = table.denoted))
  | createPolicy s => inferInstanceAs (Decidable (s.table.denoted = table.denoted))
  | dropPolicy s => inferInstanceAs (Decidable (s.table.denoted = table.denoted))
  | grantPrivileges s =>
    inferInstanceAs (Decidable (s.objects.kind = .tables
      ∧ ∀ n ∈ s.objects.names, n.denoted = table.denoted))
  | createTable _ | dropTable _ | dropIndex _ | createFunction _ | dropFunction _ | createRole _
  | dropRole _ | revokePrivileges _ | grantRole _ | revokeRole _ | createSchema _ | dropSchema _
  | alterSchema _ | setTimeZone _ | commentOn _ | other _ _ => .isFalse id

/-- A statement about the table changes what is on it, and nothing else. -/
theorem Statement.apply_withLoad {s : Statement} (hb : b.Closed) (hfree : b.Lacks key)
    (hs : s.HangsOn key) (h : s.apply (b.withLoad l) = { builder := c }) :
    ∃ l' : TableLoad key, c = b.withLoad l' := by
  cases s with
  | alterTable s => exact AlterTable.apply_withLoad hfree hs (Outcome.whole_eq_done.mp h)
  | createIndex s => exact CreateIndex.apply_withLoad hfree hs (Outcome.whole_eq_done.mp h)
  | createTrigger s => exact CreateTrigger.apply_withLoad hb hfree hs (Outcome.whole_eq_done.mp h)
  | dropTrigger s =>
    obtain ⟨n, hn, hon⟩ := hs
    exact DropTrigger.apply_withLoad hb hfree hn hon (Outcome.whole_eq_done.mp h)
  | createPolicy s => exact CreatePolicy.apply_withLoad hfree hs (Outcome.whole_eq_done.mp h)
  | dropPolicy s => exact DropPolicy.apply_withLoad hb hfree hs (Outcome.whole_eq_done.mp h)
  | grantPrivileges s =>
    exact GrantPrivileges.apply_withLoad hfree hs.1 hs.2 (Outcome.whole_eq_done.mp h)
  | _ => exact hs.elim

/-- Any number of statements about the table changes what is on it, and nothing else. -/
theorem Builder.applyAll_withLoad {hung : List Statement} (hb : b.Closed) (hfree : b.Lacks key)
    (hhung : ∀ s ∈ hung, s.HangsOn key) (h : (b.withLoad l).applyAll hung = { builder := c }) :
    ∃ l' : TableLoad key, c = b.withLoad l' := by
  induction hung generalizing l with
  | nil => cases h; exact ⟨l, rfl⟩
  | cons s rest ih =>
    obtain ⟨hs, hrest⟩ := List.forall_mem_cons.mp hhung
    obtain ⟨d, hd, h⟩ := Outcome.each_cons_eq_done.mp h
    obtain ⟨l', rfl⟩ := Statement.apply_withLoad hb hfree hs hd
    exact ih hrest h

/-! ## 3. Dropping the table -/

theorem filter_append_eq_left {α : Type} {p : α → Bool} {as bs : List α}
    (h : ∀ a ∈ as, p a = true) (h' : ∀ b ∈ bs, ¬ p b = true) : (as ++ bs).filter p = as := by
  rw [List.filter_append, List.filter_eq_self.mpr h, List.filter_eq_nil_iff.mpr h', List.append_nil]

theorem Grant.withoutTable_eq_self {g : Grant}
    (h : g.objects.kind = .tables → key ∉ g.objects.names) : g.withoutTable key = g := by
  rw [withoutTable]
  split
  · rename_i hkind
    have hkept : g.objects.names.filter (· != key) = g.objects.names := by
      refine List.filter_eq_self.mpr fun n hn => bne_iff_ne.mpr ?_
      rintro rfl
      exact h (beq_iff_eq.mp hkind) hn
    rw [hkept]
  · rfl

/-- A grant on a table alone is on none without it. -/
theorem Grant.isVoid_withoutTable {g : Grant} (hkind : g.objects.kind = .tables)
    (h : ∀ n ∈ g.objects.names, n = key) : (g.withoutTable key).isVoid = true := by
  have hnone : g.objects.names.filter (· != key) = [] :=
    List.filter_eq_nil_iff.mpr fun n hn => by simp [h n hn]
  simp [withoutTable, isVoid, hkind, hnone]

namespace Builder

/-- Removing the table takes off what is on it, and leaves the builder from before. -/
theorem removeTable_withLoad (hb : b.Closed) (hvoid : b.NoVoidGrants) (hfree : b.Lacks key) :
    (b.withLoad l).removeTable key = .ok b := by
  have hentry : l.entry ∈ (b.withLoad l).entries :=
    List.mem_append_right _ (List.mem_singleton_self _)
  obtain ⟨e, he⟩ := exists_entry? hentry
  rw [l.entry_key] at he
  have hentries : (b.withLoad l).entries.eraseP (·.key == key) = b.entries := by
    have hothers : ∀ e ∈ b.entries, ¬ (e.key == key) = true := fun e he => by
      simpa using hfree.entry_key he
    have hself : (l.entry.key == key) = true := beq_iff_eq.mpr l.entry_key
    rw [withLoad, List.eraseP_append_right _ hothers]
    simp [hself]
  have htriggers : (b.withLoad l).triggers.filter (·.table != key) = b.triggers :=
    filter_append_eq_left (fun t ht => bne_iff_ne.mpr (hb.trigger_table_ne hfree ht))
      fun t ht => by simp [l.triggers_on t ht]
  have hpolicies : (b.withLoad l).policies.filter (·.table != key) = b.policies :=
    filter_append_eq_left (fun p hp => bne_iff_ne.mpr (hb.policy_table_ne hfree hp))
      fun p hp => by simp [l.policies_on p hp]
  have hgrants : ((b.withLoad l).grants.map (·.withoutTable key)).filter (fun g => !g.isVoid)
      = b.grants := by
    have hsame : b.grants.map (·.withoutTable key) = b.grants := by
      refine map_eq_self fun g hg => Grant.withoutTable_eq_self fun hkind hmem => ?_
      exact (hb.grants g hg hkind key hmem).ne_of_lacks hfree rfl
    rw [withLoad, List.map_append, hsame]
    refine filter_append_eq_left (fun g hg => by simp [hvoid g hg]) fun g hg => ?_
    obtain ⟨g₀, hg₀, rfl⟩ := List.mem_map.mp hg
    obtain ⟨hkind, hnames⟩ := l.grants_on g₀ hg₀
    simp [Grant.isVoid_withoutTable hkind hnames]
  rw [removeTable, he]
  simp only [hentries, htriggers, hpolicies, hgrants]
  rfl

/-- However often it is named, the table is dropped once. -/
theorem tablesToDrop_withLoad {ifExists : Bool} {names : List ObjectName} (hfree : b.Lacks key)
    (hon : ∀ n ∈ names, n.denoted = key.denoted) :
    tablesToDrop (b.withLoad l) ifExists [l.entry.table] names = .ok [l.entry.table] := by
  induction names with
  | nil => rfl
  | cons n names ih =>
    obtain ⟨hn, hnames⟩ := List.forall_mem_cons.mp hon
    rw [tablesToDrop, resolve?_withLoad hfree hn]
    simpa using ih hnames

/-- Nothing refers to the table but itself. -/
theorem requireUnreferenced_withLoad
    (hunreferenced : ∀ e ∈ b.entries, ∀ k ∈ e.metadata.foreignKeys, k.referenced ≠ key) :
    requireUnreferenced (b.withLoad l) [l.entry.table] = .ok () := by
  have hkey : l.entry.table.key = key := l.entry_key
  have hnone : (b.withLoad l).tableDependents l.entry.table.key = [] := by
    rw [tableDependents, List.map_eq_nil_iff, List.filter_eq_nil_iff]
    intro e he hdepends
    obtain ⟨hother, hrefers⟩ := Bool.and_eq_true_iff.mp hdepends
    rcases List.mem_append.mp he with hold | hlast
    · obtain ⟨k, hk, hreferenced⟩ := List.any_eq_true.mp hrefers
      exact hunreferenced e hold k hk ((beq_iff_eq.mp hreferenced).trans hkey)
    · rw [List.mem_singleton.mp hlast] at hother
      exact bne_iff_ne.mp hother rfl
  refine forM_eq_ok.mpr fun t ht => ?_
  rw [List.mem_singleton.mp ht, hnone]
  rfl

/-- Dropping the table, by one or several of its names, leaves the builder from before. -/
theorem dropTable_withLoad {d : DropTable} (hb : b.Closed) (hvoid : b.NoVoidGrants)
    (hfree : b.Lacks key)
    (hunreferenced : ∀ e ∈ b.entries, ∀ k ∈ e.metadata.foreignKeys, k.referenced ≠ key)
    (hnames : d.names ≠ []) (hon : ∀ n ∈ d.names, n.denoted = key.denoted) :
    d.apply (b.withLoad l) = .ok b := by
  have htables : tablesToDrop (b.withLoad l) d.ifExists [] d.names = .ok [l.entry.table] := by
    obtain ⟨n, ns, hd⟩ := List.exists_cons_of_ne_nil hnames
    obtain ⟨hn, hns⟩ := List.forall_mem_cons.mp (hd ▸ hon)
    rw [hd, tablesToDrop, resolve?_withLoad hfree hn]
    exact tablesToDrop_withLoad hfree hns
  have hremoved : [l.entry.table].foldlM (fun b t => b.removeTable t.key) (b.withLoad l)
      = .ok b := by
    have hkey : l.entry.table.key = key := l.entry_key
    rw [List.foldlM_cons, hkey, removeTable_withLoad hb hvoid hfree]
    rfl
  rw [DropTable.apply, htables]
  refine bind_eq_ok.mpr ⟨_, rfl, ?_⟩
  dsimp only
  split
  · exact hremoved
  · exact bind_eq_ok.mpr ⟨(), requireUnreferenced_withLoad hunreferenced, hremoved⟩

/-! ## 4. Runs -/

/-- A table that is created where its name denotes none is there, with nothing on it. -/
theorem createTable_withLoad {t : CreateTable} (hfree : b.resolve? t.name = none)
    (h : t.apply b = .ok c) : ∃ l : TableLoad t.name, c = b.withLoad l := by
  rw [CreateTable.apply, hfree] at h
  obtain ⟨m, -, hc⟩ := bind_eq_ok.mp h
  rw [pure_eq_ok] at hc
  refine ⟨{
    entry := t.entry m
    entry_key := rfl
    triggers_on := by simp
    policies_on := by simp
    grants_on := by simp }, ?_⟩
  rw [← hc, withLoad, addTable, List.append_nil, List.append_nil, List.append_nil]
  rfl

/-- Take any state of a run in which no grant on tables is on none, and a name that denotes no table
in it and that no foreign key refers to. When a table of the name is created, statements about this
table follow, and all of them succeed, then dropping the table succeeds, without cascading, and leaves
the state as it was. (Statements that can be read leave no grant on none: `run_noVoidGrants`.) -/
theorem dropTable_undoes (name : String) {statements : List Statement}
    (hvoid : ((initial name).run statements).NoVoidGrants) {t : CreateTable}
    (hfree : ((initial name).run statements).resolve? t.name = none)
    (hunreferenced : ∀ e ∈ ((initial name).run statements).entries,
      ∀ k ∈ e.metadata.foreignKeys, k.referenced ≠ t.name)
    {hung : List Statement} (hhung : ∀ s ∈ hung, s.HangsOn t.name) {c : Builder}
    (hdone : ((initial name).run statements).applyAll (.createTable t :: hung) = { builder := c })
    {d : DropTable} (hnames : d.names ≠ []) (hon : ∀ n ∈ d.names, n.denoted = t.name.denoted) :
    (Statement.dropTable d).apply c = { builder := (initial name).run statements } := by
  have hclosed : ((initial name).run statements).Closed :=
    run_closed (initial_consistent name).closed statements
  have hlacks : ((initial name).run statements).Lacks t.name := resolve?_eq_none hfree
  obtain ⟨c₀, hcreated, hrest⟩ := Outcome.each_cons_eq_done.mp hdone
  obtain ⟨l, rfl⟩ := createTable_withLoad hfree (Outcome.whole_eq_done.mp hcreated)
  obtain ⟨l', rfl⟩ := applyAll_withLoad hclosed hlacks hhung hrest
  exact Outcome.whole_eq_done.mpr
    (dropTable_withLoad hclosed hvoid hlacks hunreferenced hnames hon)

/-- A table beside another one that has grants; it is altered and indexed, gets triggers, a policy and
a grant, and is dropped under its other name. -/
theorem dropTable_undoes_of_granted_table :
    let statements := Script.statements "CREATE TABLE u (x int); GRANT SELECT ON u TO PUBLIC"
    let b := (initial "shop").run statements
    let t : CreateTable :=
      { name := ⟨"t", none⟩, columns := [{ name := "x", dataType := "int" }] }
    let trigger : CreateTrigger :=
      { name := "g"
        table := ⟨"t", none⟩
        events := [.insert]
        timing := .before
        function := ⟨"now", none⟩ }
    let hung : List Statement :=
      [.alterTable { name := ⟨"t", some "public"⟩, actions := [.enable] },
        .createIndex { table := ⟨"t", none⟩, items := [.ofColumn "x"], name := some "i" },
        .createTrigger trigger,
        .createTrigger { trigger with name := "h" },
        .createTrigger { trigger with timing := .after, orReplace := true },
        .dropTrigger { name := "h", table := some ⟨"t", some "public"⟩ },
        .createPolicy { name := "p", table := ⟨"t", none⟩ },
        .grantPrivileges
          { privileges := [{ kind := "SELECT" }]
            objects := { kind := .tables, names := [⟨"t", none⟩, ⟨"t", some "public"⟩] }
            grantees := ["PUBLIC"] }]
    let d : DropTable := { names := [⟨"t", some "public"⟩] }
    let c := (b.applyAll (.createTable t :: hung)).builder
    b.resolve? t.name = none
      ∧ (∀ e ∈ b.entries, ∀ k ∈ e.metadata.foreignKeys, k.referenced ≠ t.name)
      ∧ b.NoVoidGrants ∧ (∀ s ∈ hung, s.HangsOn t.name)
      ∧ b.applyAll (.createTable t :: hung) = { builder := c }
      ∧ c.triggers.map (·.name) = ["g"] ∧ c.policies.map (·.name) = ["p"] ∧ c.grants.length = 2
      ∧ (Statement.dropTable d).apply c = { builder := b } := by
  intro statements b t trigger hung d c
  have hparsed : ∀ s ∈ statements, s.Parsed := fun _ => Statement.Parsed.of_text
  have hvoid : b.NoVoidGrants :=
    run_noVoidGrants (initial_consistent "shop").closed (initial_noVoidGrants "shop") hparsed
  have hhung : ∀ s ∈ hung, s.HangsOn t.name := by decide +kernel
  obtain ⟨hfree, hunreferenced, hsuccess, hleft⟩ : b.resolve? t.name = none
      ∧ (∀ e ∈ b.entries, ∀ k ∈ e.metadata.foreignKeys, k.referenced ≠ t.name)
      ∧ (b.applyAll (.createTable t :: hung)).failure = none
      ∧ c.triggers.map (·.name) = ["g"] ∧ c.policies.map (·.name) = ["p"]
      ∧ c.grants.length = 2 := by
    decide +kernel
  have hdone := Outcome.eq_done_of_failure hsuccess
  refine ⟨hfree, hunreferenced, hvoid, hhung, hdone, hleft.1, hleft.2.1, hleft.2.2, ?_⟩
  exact dropTable_undoes "shop" hvoid hfree hunreferenced hhung hdone (by decide) (by decide)

end Builder

end SchemaCatalog
