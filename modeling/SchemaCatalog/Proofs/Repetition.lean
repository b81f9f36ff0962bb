import SchemaCatalog.Proofs.Freezing
import SchemaCatalog.Proofs.IndexPlaces
import SchemaCatalog.Proofs.Uniqueness

/-!
# Applying a statement again

A statement may ask for something to be there, or not to be there, and be content if it already is
so: `CREATE ... IF NOT EXISTS`, `CREATE OR REPLACE`, `DROP` and `ALTER ... IF EXISTS`. Such a
statement is guarded. If it succeeds it can be applied again, and then changes nothing:
`Builder.states_guarded_again`.

What the guard looks up must be what the effect was about, and every kind of statement looks things
up in its own way.

* A table that was created is denoted by the name it was given, and where tables are distinct none is
  left that a dropped name denotes, however these names spell the default schema.
* Row security actions set flags to what they are already.
* An index may be found by a name in several tables; when it was dropped, it is found in none.
* A function or trigger that replaced another one is the one that is found, and it is replaced by
  itself. Overloads that a signature denotes are dropped at once.
* Dropping a policy removes the first of its name on a table, and renaming a schema concerns the
  first of its name. That no further one comes up is due to names being taken once
  (`Builder.DistinctNames`).

Where a statement has several targets, dealing with one of them leaves nothing to do for it and
brings nothing about for the others (`Outcome.each_again`).
-/

namespace SchemaCatalog

/-! ## 1. Several targets -/

namespace Outcome

variable {α : Type} {step : Builder → α → Outcome} {b b' : Builder}

/-- Where nothing is left to do for any target, nothing happens. -/
theorem each_eq_self {as : List α} (h : ∀ a ∈ as, step b a = { builder := b }) :
    each step b as = { builder := b } := by
  induction as with
  | nil => rfl
  | cons a as ih =>
    obtain ⟨ha, has⟩ := List.forall_mem_cons.mp h
    exact each_cons_eq_done.mpr ⟨b, ha, ih has⟩

/-- What is done for several targets need not be done again, if dealing with a target leaves nothing
to do for it (`D`), and nothing new for any other one. -/
theorem each_again {I : Builder → Prop} {D : α → Builder → Prop}
    (does : ∀ b a b', I b → step b a = { builder := b' } →
      I b' ∧ D a b' ∧ ∀ a', D a' b → D a' b')
    (rests : ∀ b a, I b → D a b → step b a = { builder := b }) {as : List α} (hb : I b)
    (h : each step b as = { builder := b' }) : each step b' as = { builder := b' } := by
  have hall : I b' ∧ (∀ a ∈ as, D a b') ∧ ∀ a, D a b → D a b' := by
    induction as generalizing b with
    | nil =>
      rw [each] at h
      cases h
      exact ⟨hb, by simp, fun _ => id⟩
    | cons a as ih =>
      obtain ⟨c, hstep, hrest⟩ := each_cons_eq_done.mp h
      obtain ⟨hc, hdone, hkeeps⟩ := does b a c hb hstep
      obtain ⟨hb', hall, hkeeps'⟩ := ih hc hrest
      exact ⟨hb', List.forall_mem_cons.mpr ⟨hkeeps' a hdone, hall⟩,
        fun a' ha' => hkeeps' a' (hkeeps a' ha')⟩
  exact each_eq_self fun a ha => rests b' a hall.1 (hall.2.1 a ha)

/-- A statement that takes effect as a whole can be applied again if what it does can be. -/
theorem whole_again {apply : Builder → Except CatalogError Builder}
    (h : whole b (apply b) = { builder := b' }) (again : apply b = .ok b' → apply b' = .ok b') :
    whole b' (apply b') = { builder := b' } :=
  whole_eq_done.mpr (again (whole_eq_done.mp h))

end Outcome

variable {b b' : Builder}

/-! ## 2. Tables -/

namespace Builder

/-- Under a key the first table of that key is found. -/
theorem table?_eq_find? (b : Builder) (key : TableKey) :
    b.view.table? key = b.tables.find? (·.key == key) := by
  rw [tables, List.find?_map]
  rfl

/-- Only the tables decide what a name is resolved to. -/
theorem resolve?_of_tables (h : b'.tables = b.tables) (n : ObjectName) :
    b'.resolve? n = b.resolve? n := by
  have htable : b'.view.table? = b.view.table? := by
    funext key
    rw [table?_eq_find?, table?_eq_find?, h]
  rw [resolve?, resolve?, CatalogView.resolve?, CatalogView.resolve?, htable]

/-- A name is not resolved to nothing where a table is denoted by it. -/
theorem exists_resolve?_of_denoted {n : ObjectName} {e : TableEntry} (he : e ∈ b.entries)
    (h : e.key.denoted = n.denoted) : ∃ t, b.resolve? n = some t := by
  cases hfound : b.resolve? n with
  | none => exact absurd h (resolve?_eq_none hfound e he)
  | some t => exact ⟨t, rfl⟩

end Builder

theorem CreateTable.apply_again {s : CreateTable} (hs : s.ifNotExists = true)
    (h : s.apply b = .ok b') : s.apply b' = .ok b' := by
  obtain ⟨t, ht⟩ : ∃ t, b'.resolve? s.name = some t := by
    rw [apply] at h
    split at h
    · rename_i t ht
      rw [if_pos hs] at h
      cases h
      exact ⟨t, ht⟩
    · obtain ⟨m, -, hb'⟩ := bind_eq_ok.mp h
      rw [← pure_eq_ok.mp hb']
      exact Builder.exists_resolve?_of_denoted (List.mem_append_right _ (List.mem_singleton_self _)) rfl
  rw [apply, ht]
  exact if_pos hs

/-- Every name that is resolved gives one of the tables to drop. -/
theorem mem_of_tablesToDrop {ifExists : Bool} {names : List ObjectName} {found ts : List Table}
    (h : tablesToDrop b ifExists found names = .ok ts) :
    found.map (·.key) ⊆ ts.map (·.key)
      ∧ ∀ n ∈ names, ∀ t, b.resolve? n = some t → t.key ∈ ts.map (·.key) := by
  induction names generalizing found with
  | nil =>
    rw [tablesToDrop] at h
    cases h
    exact ⟨List.Subset.refl _, by simp⟩
  | cons n names ih =>
    rw [tablesToDrop] at h
    split at h
    · rename_i hnone
      split at h
      · obtain ⟨hfound, hall⟩ := ih h
        refine ⟨hfound, List.forall_mem_cons.mpr ⟨fun t ht => ?_, hall⟩⟩
        rw [hnone] at ht
        cases ht
      · cases h
    · rename_i t ht
      obtain ⟨hfound, hall⟩ := ih h
      have hmem : found.map (·.key) ⊆ ts.map (·.key) ∧ t.key ∈ ts.map (·.key) := by
        split at hfound
        · rename_i hthere
          obtain ⟨u, hu, hkey⟩ := List.any_eq_true.mp hthere
          exact ⟨hfound, hfound (List.mem_map.mpr ⟨u, hu, beq_iff_eq.mp hkey⟩)⟩
        · rw [List.map_append, List.append_subset] at hfound
          exact ⟨hfound.1, hfound.2 (List.mem_singleton_self _)⟩
      refine ⟨hmem.1, List.forall_mem_cons.mpr ⟨fun u hu => ?_, hall⟩⟩
      rw [ht] at hu
      cases hu
      exact hmem.2

theorem tablesToDrop_eq_nil {names : List ObjectName} (h : ∀ n ∈ names, b.resolve? n = none) :
    tablesToDrop b true [] names = .ok [] := by
  induction names with
  | nil => rfl
  | cons n names ih =>
    obtain ⟨hn, hnames⟩ := List.forall_mem_cons.mp h
    rw [tablesToDrop, hn]
    exact ih hnames

/-- Where tables are distinct, no name that was dropped denotes one any more. -/
theorem DropTable.resolve?_eq_none {s : DropTable} (hb : b.DistinctTables) (h : s.apply b = .ok b') :
    ∀ n ∈ s.names, b'.resolve? n = none := by
  obtain ⟨dropped, hdropped, -, hremoved⟩ := apply_eq_ok h
  intro n hn
  cases hfound : b'.resolve? n with
  | none => rfl
  | some t =>
    obtain ⟨e, he, -, hdenoted⟩ := Builder.resolve?_eq_some hfound
    rw [Builder.removeTables_entries hb.nodup_keys hremoved] at he
    obtain ⟨hmem, hstays⟩ := List.mem_filter.mp he
    obtain ⟨u, hu⟩ := Builder.exists_resolve?_of_denoted hmem hdenoted
    obtain ⟨e', he', rfl, hdenoted'⟩ := Builder.resolve?_eq_some hu
    have hsame : e' = e := hb.entry_eq he' hmem (hdenoted'.trans hdenoted.symm)
    have hgoes := (mem_of_tablesToDrop hdropped).2 n hn _ hu
    rw [hsame] at hgoes
    rw [Bool.not_eq_true', ← Bool.not_eq_true, List.contains_iff_mem] at hstays
    exact absurd hgoes hstays

theorem DropTable.apply_again {s : DropTable} (hb : b.DistinctTables) (hs : s.ifExists = true)
    (h : s.apply b = .ok b') : s.apply b' = .ok b' := by
  have hnothing := tablesToDrop_eq_nil (resolve?_eq_none hb h)
  rw [apply, hs, hnothing]
  cases s.cascade <;> rfl

/-- Row security actions amount to setting each of two flags, or not. -/
theorem RowSecurityAction.exists_foldl_act (actions : List RowSecurityAction) :
    ∃ enabled forced : Option Bool, ∀ t, actions.foldl act t
      = { t with rlsEnabled := enabled.getD t.rlsEnabled, rlsForced := forced.getD t.rlsForced } := by
  induction actions with
  | nil => exact ⟨none, none, fun _ => rfl⟩
  | cons a actions ih =>
    obtain ⟨enabled, forced, hset⟩ := ih
    cases a with
    | enable => exact ⟨some (enabled.getD true), forced, fun t => hset _⟩
    | disable => exact ⟨some (enabled.getD false), forced, fun t => hset _⟩
    | force => exact ⟨enabled, some (forced.getD true), fun t => hset _⟩
    | noForce => exact ⟨enabled, some (forced.getD false), fun t => hset _⟩

theorem RowSecurityAction.foldl_act_again (actions : List RowSecurityAction) (t : Table) :
    actions.foldl act (actions.foldl act t) = actions.foldl act t := by
  obtain ⟨enabled, forced, hset⟩ := exists_foldl_act actions
  rw [hset, hset]
  cases enabled <;> cases forced <;> rfl

namespace Builder

/-- A change of an entry that keeps its key, and has nothing to add to itself, is made once. -/
theorem updateEntry_again {key : TableKey} {f : TableEntry → TableEntry}
    (hf : ∀ e, e.key = key → (f e).key = key ∧ f (f e) = f e) (h : b.updateEntry key f = .ok b') :
    b'.updateEntry key f = .ok b' := by
  have hf' (e : TableEntry) (he : (e.key == key) = true) :
      ((f e).key == key) = true ∧ f (f e) = f e := by
    obtain ⟨hkey, hagain⟩ := hf e (beq_iff_eq.mp he)
    exact ⟨beq_iff_eq.mpr hkey, hagain⟩
  rw [updateEntry] at h
  split at h
  · rename_i e he
    cases h
    have hfound : (replaceFirst (·.key == key) f b.entries).find? (·.key == key) = some (f e) := by
      rw [find?_replaceFirst_self (fun e he => (hf' e he).1)]
      exact congrArg (Option.map f) he
    rw [updateEntry, entry?, hfound]
    simp only [replaceFirst_again hf']
  · cases h

/-- The table that was put in the place of another one is found under the key of both. -/
theorem table?_replaceTable {t t' : Table} (hkey : t'.key = t.key)
    (h : b.replaceTable t' = .ok b') (key : TableKey) :
    b'.view.table? key = if key = t.key then (b.view.table? key).map fun _ => t'
      else b.view.table? key := by
  rw [updateEntry_eq_ok h, hkey]
  by_cases hsame : key = t.key
  · subst hsame
    have hfound := find?_replaceFirst_self (p := fun e : TableEntry => e.key == t.key)
      (f := fun e => { e with table := t' }) (fun e _ => beq_iff_eq.mpr hkey) b.entries
    rw [if_pos rfl]
    change Option.map _ (List.find? _ _) = Option.map _ (Option.map _ (List.find? _ _))
    rw [hfound, Option.map_map, Option.map_map]
    rfl
  · have hother := find?_replaceFirst_of_ne (p := fun e : TableEntry => e.key == t.key)
      (f := fun e => { e with table := t' }) (q := fun e : TableEntry => e.key == key)
      (fun e he => beq_eq_false_iff_ne.mpr fun heq => hsame (heq.symm.trans (beq_iff_eq.mp he)))
      (fun e he => beq_eq_false_iff_ne.mpr fun heq => hsame (heq.symm.trans hkey)) b.entries
    rw [if_neg hsame]
    exact congrArg (Option.map TableEntry.table) hother

/-- A name is resolved to the table that was put in the place of the one that it denotes. -/
theorem resolve?_replaceTable {n : ObjectName} {t t' : Table} (ht : b.resolve? n = some t)
    (hkey : t'.key = t.key) (h : b.replaceTable t' = .ok b') : b'.resolve? n = some t' := by
  have htable := table?_replaceTable hkey h
  have hfiled {key : TableKey} {u : Table} (hu : b.view.table? key = some u) : key = u.key := by
    obtain ⟨e, -, rfl, rfl⟩ := table?_eq_some hu
    rfl
  rw [resolve?, CatalogView.resolve?] at ht ⊢
  split at ht
  · rename_i u hu
    cases ht
    rw [htable, if_pos (hfiled hu), hu]
    rfl
  · rename_i hnone
    obtain ⟨m, hm, hu⟩ := Option.bind_eq_some_iff.mp ht
    rw [htable, hnone, Option.map_none, ite_self, hm, Option.bind_some, htable, if_pos (hfiled hu),
      hu]
    rfl

end Builder

theorem AlterTable.apply_again {s : AlterTable} (hs : s.ifExists = true) (h : s.apply b = .ok b') :
    s.apply b' = .ok b' := by
  cases ht : b.resolve? s.name with
  | none =>
    have hsame := h
    rw [apply, ht] at hsame
    dsimp only at hsame
    rw [if_pos hs] at hsame
    cases hsame
    exact h
  | some t =>
    rw [apply, ht] at h
    have hkey := AlterTable.key_act t s.actions
    rw [apply, Builder.resolve?_replaceTable ht hkey h]
    dsimp only
    rw [RowSecurityAction.foldl_act_again]
    exact Builder.updateEntry_again (fun e he => ⟨rfl, rfl⟩) h

/-! ## 3. Indexes -/

theorem DropIndex.apply_again {s : DropIndex} (hb : b.Consistent) (hs : s.ifExists = true)
    (h : s.apply b = { builder := b' }) : s.apply b' = { builder := b' } := by
  refine Outcome.each_again (D := fun n b => b.placesOf n = [])
    (fun b n b' hb h => Builder.dropIndices_done hb h) (fun b n hb hn => ?_) hb h
  rw [Builder.dropIndices, Builder.indexPlaces_eq hb.distinct.nodup_keys, hn]
  exact if_pos hs

theorem CreateIndex.apply_again {s : CreateIndex} (hb : b.DistinctTables)
    (hs : s.ifNotExists = true) {name : String} (hname : s.name = some name)
    (h : s.apply b = .ok b') : s.apply b' = .ok b' := by
  rcases apply_eq_ok h with rfl | ⟨t, ht, hb'⟩
  · exact h
  · have htables : b'.tables = b.tables := by
      rw [hb']
      refine map_replaceFirst (fun e _ => ?_) b.entries
      rfl
    have htaken := takenName?_addTo hb hname ht (congrArg (·.entries) hb')
    have hrequired : b'.requireTable s.table s.title = .ok t :=
      Builder.requireTable_eq_ok.mpr ((Builder.resolve?_of_tables htables s.table).trans ht)
    rw [apply, hrequired]
    change (s.takenName? b' t >>= _) = _
    rw [htaken]
    exact if_pos hs

/-! ## 4. Functions, triggers and policies -/

/-- The function is one of those that a signature denotes. -/
def FunctionSignature.denotes (s : FunctionSignature) (f : Function) : Bool :=
  f.lowerName == Text.lower s.name.name
    && match s.argumentTypes with
      | none => true
      | some types => f.normalizedArgumentTypes == types.map DataType.normalize

theorem Builder.functionsOf_eq (b : Builder) (s : FunctionSignature) :
    b.functionsOf s = b.functions.filter s.denotes := by
  simp only [functionsOf, functionsNamed]
  split
  · rename_i hnone
    refine List.filter_congr fun f _ => ?_
    rw [FunctionSignature.denotes, hnone, Bool.and_true]
  · rename_i types hsome
    rw [List.filter_filter]
    refine List.filter_congr fun f _ => ?_
    rw [FunctionSignature.denotes, hsome, Bool.and_comm]

theorem DropFunction.apply_again {s : DropFunction} (hs : s.ifExists = true)
    (h : s.apply b = { builder := b' }) : s.apply b' = { builder := b' } := by
  refine Outcome.each_again (I := fun _ => True) (D := fun t b => b.functionsOf t = [])
    (fun b t b' _ h => ?_) (fun b t _ ht => ?_) trivial h
  · rw [Outcome.whole_eq_done] at h
    simp only [Builder.dropFunctions, hs, if_true] at h
    split at h
    · rename_i hempty
      cases h
      exact ⟨trivial, List.isEmpty_iff.mp hempty, fun _ => id⟩
    · split at h <;> cases h
      refine ⟨trivial, ?_, fun t' ht' => ?_⟩
      · rw [Builder.functionsOf_eq, Builder.removeFunctions, List.filter_filter,
          List.filter_eq_nil_iff]
        intro f hf hboth
        obtain ⟨hdenotes, hstays⟩ := Bool.and_eq_true_iff.mp hboth
        have hgoes : f ∈ b.functionsOf t := by
          rw [Builder.functionsOf_eq]
          exact List.mem_filter.mpr ⟨hf, hdenotes⟩
        simp [hgoes] at hstays
      · rw [Builder.functionsOf_eq, List.filter_eq_nil_iff] at ht' ⊢
        exact fun f hf => ht' f (List.mem_of_mem_filter hf)
  · rw [Outcome.whole_eq_done]
    simp only [Builder.dropFunctions, ht]
    exact if_pos hs

theorem Builder.functionsNamed_addFunction (b : Builder) {f : Function} {name : String}
    (h : f.lowerName = Text.lower name) :
    (b.addFunction f).functionsNamed name = b.functionsNamed name ++ [f] := by
  rw [functionsNamed, addFunction, List.filter_append, List.filter_singleton, beq_iff_eq.mpr h]
  rfl

theorem CreateFunction.apply_again {s : CreateFunction} (hs : s.orReplace = true)
    (h : s.apply b = .ok b') : s.apply b' = .ok b' := by
  have hthere : (b'.functionsNamed s.function.name).find? (fun g =>
      g.normalizedArgumentTypes == s.function.normalizedArgumentTypes) = some s.function := by
    simp only [apply] at h
    split at h
    · rename_i hnone
      cases h
      rw [b.functionsNamed_addFunction rfl, List.find?_append, hnone, Option.none_or]
      exact List.find?_cons_of_pos BEq.rfl
    · rename_i g hg
      rw [hs, Bool.true_or, if_pos rfl, Builder.replaceFunction] at h
      split at h <;> cases h
      rw [Builder.functionsNamed, find?_filter_and] at hg ⊢
      exact find?_replaceFirst_eq hg (by simp [Function.lowerName])
  have hmem : s.function ∈ b'.functions :=
    List.mem_of_mem_filter (List.mem_of_find?_eq_some hthere)
  have hsame : replaceFirst (· == s.function) (fun _ => s.function) b'.functions = b'.functions :=
    replaceFirst_eq_self (fun f hf => (beq_iff_eq.mp hf).symm) _
  simp only [apply, hthere, hs, Bool.true_or, if_true, Builder.replaceFunction]
  rw [if_pos (List.contains_iff_mem.mpr hmem), hsame]

/-- Replacing a trigger by itself changes nothing. -/
theorem Builder.replaceTrigger_self {t : Trigger}
    (h : b.triggers.find? (isTrigger t.name t.table) = some t) : b.replaceTrigger t = .ok b := by
  rw [replaceTrigger, if_pos (List.any_eq_true.mpr ⟨t, List.mem_of_find?_eq_some h, ?_⟩),
    replaceFirst_find? h]
  exact List.find?_some h

/-- A trigger that was added where there was none of its name on its table, or else has replaced one,
is the one that is found, and nothing else is different. -/
theorem Builder.find?_putTrigger {t : Trigger}
    (h : (if !b.triggers.any (isTrigger t.name t.table) then pure (b.addTrigger t)
      else b.replaceTrigger t) = .ok b') :
    (∃ triggers, b' = { b with triggers })
      ∧ b'.triggers.find? (isTrigger t.name t.table) = some t := by
  have hself : isTrigger t.name t.table t = true := by simp [isTrigger]
  split at h
  · rename_i hnone
    rw [Bool.not_eq_true', List.any_eq_false] at hnone
    rw [← pure_eq_ok.mp h]
    refine ⟨⟨_, rfl⟩, ?_⟩
    rw [addTrigger, List.find?_append, List.find?_eq_none.mpr hnone, Option.none_or]
    exact List.find?_cons_of_pos hself
  · rw [replaceTrigger] at h
    split at h <;> cases h
    rename_i hany
    refine ⟨⟨_, rfl⟩, ?_⟩
    obtain ⟨u, hu⟩ := Option.isSome_iff_exists.mp (List.find?_isSome.mpr (List.any_eq_true.mp hany))
    exact (find?_replaceFirst_self (fun _ _ => hself) b.triggers).trans (by rw [hu]; rfl)

theorem CreateTrigger.apply_again {s : CreateTrigger} (hs : s.orReplace = true)
    (h : s.apply b = .ok b') : s.apply b' = .ok b' := by
  simp only [apply, bind_eq_ok, Builder.requireTable_eq_ok] at h ⊢
  obtain ⟨t, ht, h⟩ := h
  split at h
  · exact absurd h throw_ne_ok
  · rename_i f hf
    simp only [bind_eq_ok, Builder.requireEntry_eq_ok, hs, if_true] at h
    obtain ⟨e, he, _, hcolumns, h⟩ := h
    obtain ⟨⟨triggers, hb'⟩, hfound⟩ := Builder.find?_putTrigger (t := s.trigger t.key f) h
    have htables : b'.tables = b.tables := hb' ▸ rfl
    have hf' : b'.function? s.function.name = some f := hb' ▸ hf
    have he' : b'.entry? t.key = some e := hb' ▸ he
    have hany : b'.triggers.any (Builder.isTrigger s.name t.key) = true :=
      List.any_eq_true.mpr ⟨_, List.mem_of_find?_eq_some hfound, List.find?_some hfound⟩
    refine ⟨t, (Builder.resolve?_of_tables htables s.table).trans ht, ?_⟩
    rw [hf']
    simp only [bind_eq_ok, Builder.requireEntry_eq_ok]
    refine ⟨e, he', (), hcolumns, ?_⟩
    rw [hany, hs]
    exact Builder.replaceTrigger_self hfound

theorem DropTrigger.apply_again {s : DropTrigger} (hs : s.ifExists = true)
    (h : s.apply b = .ok b') : s.apply b' = .ok b' := by
  have hkey (triggers : List Trigger) : s.key? { b with triggers } = s.key? b := rfl
  have hnone : b'.triggers.filter (s.selects (s.key? b)) = [] ∧ s.key? b' = s.key? b := by
    simp only [apply] at h
    split at h
    · rename_i hempty
      cases h
      exact ⟨List.isEmpty_iff.mp hempty, rfl⟩
    · rw [removed_eq] at h
      cases h
      refine ⟨?_, hkey _⟩
      rw [List.filter_filter, List.filter_eq_nil_iff]
      intro t _ hboth
      simp at hboth
  simp only [apply, hnone.1, hnone.2, List.isEmpty_nil, if_true, hs]

theorem countP_le_one_of_pairwise {α : Type} {p : α → Bool} {l : List α}
    (h : l.Pairwise fun a c => p a = true → p c = false) : l.countP p ≤ 1 := by
  induction l with
  | nil => exact Nat.zero_le 1
  | cons a as ih =>
    obtain ⟨ha, has⟩ := List.pairwise_cons.mp h
    by_cases hp : p a = true
    · have hnone : as.countP p = 0 := List.countP_eq_zero.mpr fun c hc => by simp [ha c hc hp]
      rw [List.countP_cons_of_pos hp, hnone]
    · rw [List.countP_cons_of_neg hp]
      exact ih has

/-- Where tables are distinct, a table has at most one policy of a name. -/
theorem Builder.countP_isPolicy_le_one (hnames : b.DistinctNames) (hb : b.DistinctTables)
    (name : String) (key : TableKey) : b.policies.countP (isPolicy name key) ≤ 1 := by
  refine countP_le_one_of_pairwise ((hnames.policies_pairwise hb).imp fun {p q} hpq hp => ?_)
  rw [isPolicy, Bool.and_eq_true, beq_iff_eq, beq_iff_eq] at hp
  rw [isPolicy, Bool.and_eq_false_imp, beq_iff_eq, beq_eq_false_iff_ne]
  exact fun hname htable => hpq (hp.1.trans hname.symm) (hp.2.trans htable.symm)

/-- Where tables are distinct, no policy of the name is left on the table. -/
theorem Builder.any_isPolicy_of_removed (hnames : b.DistinctNames) (hb : b.DistinctTables)
    {name : String} {key : TableKey} (h : b.removePolicy name key = .ok b') :
    b'.policies.any (isPolicy name key) = false := by
  rw [removePolicy] at h
  split at h <;> cases h
  rw [eraseP_eq_filter (countP_isPolicy_le_one hnames hb name key), List.any_eq_false]
  intro p hp hsame
  have hother := (List.mem_filter.mp hp).2
  rw [hsame] at hother
  cases hother

theorem DropPolicy.apply_again {s : DropPolicy} (hnames : b.DistinctNames) (hb : b.DistinctTables)
    (hs : s.ifExists = true) (h : s.apply b = .ok b') : s.apply b' = .ok b' := by
  have hnone : s.key? b' = none := by
    rw [apply] at h
    split at h
    · rename_i key hkey
      have hgone := Builder.any_isPolicy_of_removed hnames hb h
      have htables : b'.tables = b.tables := by
        rw [Builder.removePolicy] at h
        split at h <;> cases h
        rfl
      obtain ⟨hresolved, -⟩ := Option.filter_eq_some_iff.mp hkey
      rw [key?, Builder.resolve?_of_tables htables, hresolved]
      exact Option.filter_some_neg (by rw [hgone])
    · rename_i hnone
      rw [if_pos hs] at h
      cases h
      exact hnone
  rw [apply, hnone]
  exact if_pos hs

/-! ## 5. Roles and schemas -/

theorem DropRole.apply_again {s : DropRole} (hs : s.ifExists = true)
    (h : s.apply b = { builder := b' }) : s.apply b' = { builder := b' } := by
  refine Outcome.each_again (I := fun _ => True) (D := fun name b => b.role? name = none)
    (fun b name b' _ h => ?_) (fun b name _ hname => ?_) trivial h
  · rw [Outcome.whole_eq_done, Builder.dropRole] at h
    split at h
    · rename_i hnone
      rw [if_pos hs] at h
      cases h
      exact ⟨trivial, hnone, fun _ => id⟩
    · dsimp only at h
      split at h <;> cases h
      have hroles (other : String) : (b.removeRole name).role? other = none
          ↔ ∀ r ∈ b.roles, r.name ≠ name → r.name ≠ other := by
        simp [Builder.role?, Builder.removeRole, List.find?_eq_none]
      refine ⟨trivial, (hroles name).mpr fun r _ hne => hne, fun other hother => ?_⟩
      rw [Builder.role?, List.find?_eq_none] at hother
      exact (hroles other).mpr fun r hr _ heq => hother r hr (beq_iff_eq.mpr heq)
  · rw [Outcome.whole_eq_done, Builder.dropRole, hname]
    exact if_pos hs

theorem CreateSchema.apply_again {s : CreateSchema} (hs : s.ifNotExists = true)
    (h : s.apply b = .ok b') : s.apply b' = .ok b' := by
  have hthere : (b'.schema? s.name).isSome = true := by
    rw [apply] at h
    split at h
    · rename_i hsome
      cases h
      exact hsome
    · cases h
      rw [Builder.schema?, Builder.addSchema, List.find?_isSome]
      exact ⟨_, List.mem_append_right _ (List.mem_singleton_self _), BEq.rfl⟩
  rw [apply, if_pos hthere, if_pos hs]

/-- Removing tables leaves the schemas. -/
theorem Builder.schemas_removeTables {ts : List Table}
    (h : ts.foldlM (fun b t => b.removeTable t.key) b = .ok b') : b'.schemas = b.schemas :=
  removeTables_invariant (P := fun c => c.schemas = b.schemas)
    (fun c key c' hc hremoved => by rw [removeTable_eq_ok hremoved]; exact hc) rfl h

/-- A schema that is dropped is gone, and no other one has come. -/
theorem Builder.dropSchema_schemas {ifExists cascade : Bool} {name : String}
    (h : b.dropSchema ifExists cascade name = .ok b') :
    b'.schemas = b.schemas.filter (·.name != name) := by
  rw [dropSchema] at h
  split at h
  · rename_i hnone
    split at h <;> cases h
    refine (List.filter_eq_self.mpr fun x hx => ?_).symm
    exact bne_iff_ne.mpr fun hname => schema?_eq_none.mp hnone (hname ▸ List.mem_map_of_mem hx)
  · simp only [guard_eq_ok, bind_eq_ok, pure_eq_ok] at h
    obtain ⟨-, c, hremoved, rfl⟩ := h
    rw [← schemas_removeTables hremoved]
    rfl

theorem DropSchema.apply_again {s : DropSchema} (hs : s.ifExists = true)
    (h : s.apply b = { builder := b' }) : s.apply b' = { builder := b' } := by
  refine Outcome.each_again (I := fun _ => True)
    (D := fun name b => name ∉ b.schemas.map (·.name))
    (fun b name b' _ h => ?_) (fun b name _ hname => ?_) trivial h
  · rw [Builder.dropSchema_schemas (Outcome.whole_eq_done.mp h)]
    refine ⟨trivial, by simp, fun other hother hmem => hother ?_⟩
    exact (List.filter_sublist.map _).subset hmem
  · rw [Outcome.whole_eq_done, Builder.dropSchema, Builder.schema?_eq_none.mpr hname]
    exact if_pos hs

theorem Builder.name_of_schema? {name : String} {schema : Schema}
    (h : b.schema? name = some schema) : schema.name = name := by
  simpa using List.find?_some h

/-- A schema that replaced the one of its name is found, and it replaces itself. -/
theorem Builder.replaceSchema_again {s : Schema} (h : b.replaceSchema s.name s = .ok b') :
    b'.schema? s.name = some s ∧ b'.replaceSchema s.name s = .ok b' := by
  have hb' := replaceSchema_eq_ok h
  rw [replaceSchema] at h
  split at h
  · rename_i hany
    obtain ⟨old, hold⟩ := Option.isSome_iff_exists.mp
      (List.find?_isSome.mpr (List.any_eq_true.mp hany))
    have hfound : b'.schemas.find? (·.name == s.name) = some s := by
      have hlooked := find?_replaceFirst_self (p := fun x : Schema => x.name == s.name)
        (f := fun _ => s) (fun _ _ => BEq.rfl) b.schemas
      rw [hold] at hlooked
      rw [hb']
      exact hlooked
    have hthere : b'.schemas.any (·.name == s.name) = true :=
      List.any_eq_true.mpr ⟨s, List.mem_of_find?_eq_some hfound, BEq.rfl⟩
    refine ⟨hfound, ?_⟩
    rw [replaceSchema, if_pos hthere, replaceFirst_find? hfound]
  · cases h

/-- Where schemas have different names, none is left with the name of a schema that is renamed. -/
theorem Builder.not_mem_names_of_renamed (hnames : b.DistinctNames) {old : String}
    {schema renamed : Schema} (hold : b.schema? old = some schema) (hne : old ≠ renamed.name) :
    old ∉ (replaceFirst (·.name == old) (fun _ => renamed) b.schemas).map (·.name) := by
  obtain ⟨hsame, before, after, hschemas, hbefore⟩ := List.find?_eq_some_iff_append.mp hold
  have hnodup := hnames.schemas
  have hname : schema.name = old := name_of_schema? hold
  rw [hschemas, List.map_append, List.map_cons, List.nodup_middle, List.nodup_cons, hname] at hnodup
  have hnone : ∀ x ∈ before, (x.name == old) = false := by simpa using hbefore
  have hreplaced : replaceFirst (·.name == old) (fun _ => renamed) (before ++ schema :: after)
      = before ++ renamed :: after := replaceFirst_append hnone hsame
  rw [hschemas, hreplaced, List.map_append, List.map_cons, List.perm_middle.mem_iff, List.mem_cons,
    not_or]
  exact ⟨hne, hnodup.1⟩

theorem AlterSchema.apply_again {s : AlterSchema} (hnames : b.DistinctNames) (hclosed : b.Closed)
    (hs : s.ifExists = true) (h : s.apply b = .ok b') : s.apply b' = .ok b' := by
  rw [apply] at h
  split at h
  · rename_i hnone
    rw [if_pos hs] at h
    cases h
    rw [apply, hnone]
    exact if_pos hs
  · rename_i schema hschema
    split at h
    · rename_i owner howner
      have hname : schema.name = s.name := Builder.name_of_schema? hschema
      obtain ⟨hfound, hagain⟩ := Builder.replaceSchema_again (s := { schema with
        authorization := some owner }) h
      rw [apply, ← hname, hfound, howner]
      exact hagain
    · rename_i new hnew
      obtain ⟨hfree, hb'⟩ := Builder.renameSchema_eq_ok hclosed hschema h
      have hne : s.name ≠ new := by
        rintro rfl
        rw [hschema] at hfree
        cases hfree
      have hgone : b'.schema? s.name = none := by
        rw [hb', Builder.schema?_eq_none]
        exact Builder.not_mem_names_of_renamed hnames hschema hne
      rw [apply, hgone]
      exact if_pos hs

/-! ## 6. All statements -/

/-- A statement asks for something to be there or not to be there, and is content if it already is
so. A statement that is known only by its leading keywords asks for nothing. -/
def Statement.isGuarded : Statement → Bool
  | createTable s => s.ifNotExists
  | createIndex s => s.ifNotExists && s.name.isSome
  | createSchema s => s.ifNotExists
  | createFunction s => s.orReplace
  | createTrigger s => s.orReplace
  | dropTable s => s.ifExists
  | dropIndex s => s.ifExists
  | dropFunction s => s.ifExists
  | dropTrigger s => s.ifExists
  | dropPolicy s => s.ifExists
  | dropRole s => s.ifExists
  | dropSchema s => s.ifExists
  | alterTable s => s.ifExists
  | alterSchema s => s.ifExists
  | other _ _ => true
  | createPolicy _ | createRole _ | grantPrivileges _ | revokePrivileges _ | grantRole _
  | revokeRole _ | setTimeZone _ | commentOn _ => false

/-- Where names are taken once, a guarded statement that was applied has nothing left to do. -/
theorem Statement.apply_again {s : Statement} (hb : b.Consistent) (hnames : b.DistinctNames)
    (hs : s.isGuarded = true) (h : s.apply b = { builder := b' }) :
    s.apply b' = { builder := b' } := by
  cases s with
  | createTable s => exact Outcome.whole_again h (s.apply_again hs)
  | dropTable s => exact Outcome.whole_again h (s.apply_again hb.distinct hs)
  | alterTable s => exact Outcome.whole_again h (s.apply_again hs)
  | createIndex s =>
    obtain ⟨hguard, hname⟩ := Bool.and_eq_true_iff.mp hs
    obtain ⟨name, hname⟩ := Option.isSome_iff_exists.mp hname
    exact Outcome.whole_again h (s.apply_again hb.distinct hguard hname)
  | dropIndex s => exact s.apply_again hb hs h
  | createFunction s => exact Outcome.whole_again h (s.apply_again hs)
  | dropFunction s => exact s.apply_again hs h
  | createTrigger s => exact Outcome.whole_again h (s.apply_again hs)
  | dropTrigger s => exact Outcome.whole_again h (s.apply_again hs)
  | dropPolicy s => exact Outcome.whole_again h (s.apply_again hnames hb.distinct hs)
  | dropRole s => exact s.apply_again hs h
  | createSchema s => exact Outcome.whole_again h (s.apply_again hs)
  | dropSchema s => exact s.apply_again hs h
  | alterSchema s => exact Outcome.whole_again h (s.apply_again hnames hb.closed hs)
  | other kind sql =>
    rw [apply] at h ⊢
    split at h <;> cases h
    rename_i hignored
    exact if_pos hignored
  | createPolicy | createRole | grantPrivileges | revokePrivileges | grantRole | revokeRole
  | setTimeZone | commentOn => cases hs

namespace Builder

/-- After a guarded statement has succeeded on a state of a run with distinct tables, it succeeds
again and changes nothing. -/
theorem states_guarded_again (name : String) (statements : List Statement) {s : Statement}
    (hs : s.isGuarded = true) (hdistinct : ((initial name).run statements).DistinctTables)
    {b' : Builder} (h : s.apply ((initial name).run statements) = { builder := b' }) :
    s.apply b' = { builder := b' } := by
  have hclosed := (initial_consistent name).closed
  have hnames := run_distinctNames hclosed (initial_distinctNames name) statements
  exact Statement.apply_again ⟨hdistinct, run_closed hclosed statements⟩ hnames hs h

/-- Two indexes of one name in different schemas are dropped at once, and one of them is then named
again with its schema. -/
theorem states_guarded_again_of_two_indexes :
    let table (n : ObjectName) : Statement := .createTable
      { name := n
        columns := [{ name := "x", dataType := "int" }]
        constraints := [.unique ["x"] (some "i") true] }
    let statements := [table ⟨"t", none⟩, table ⟨"t", some "app"⟩]
    let b := (initial "shop").run statements
    let s : Statement :=
      .dropIndex { names := [⟨"i", none⟩, ⟨"i", some "app"⟩], ifExists := true }
    let b' := (s.apply b).builder
    b.DistinctTables ∧ (s.apply b).failure = none ∧ (b.placesOf ⟨"i", none⟩).length = 2
      ∧ b'.placesOf ⟨"i", none⟩ = [] ∧ s.apply b' = { builder := b' } := by
  intro table statements b s b'
  have hdistinct : b.DistinctTables := by decide +kernel
  have hdone : (s.apply b).failure = none := by decide +kernel
  exact ⟨hdistinct, hdone, by decide +kernel, by decide +kernel,
    states_guarded_again "shop" statements rfl hdistinct (Outcome.eq_done_of_failure hdone)⟩

end Builder

end SchemaCatalog
