import SchemaCatalog.Proofs.Freezing
import SchemaCatalog.Proofs.LowerCase
import SchemaCatalog.Proofs.Success

/-!
# Functions that are called stay

Check constraints, policies and triggers record the functions that they call by name, and a name
stands for all the overloads of a function. `Builder.CallsKnown` says that every name that is
recorded is known, and that those of expressions are in lower case; without the second part the
guard of a drop, which compares them with a name in lower case, would overlook some.

Only dropping functions can take a name away. It takes the last overload of a name only if nothing
calls it (`dropFunctions_callsKnown`). Whatever else a statement does, it keeps the names of the
functions, and calls what it has looked up: `Statement.apply_callsKnown`. So the calls of every
state of a run are known, and the catalog made of the state finds them.
-/

namespace SchemaCatalog

/-! ## 1. Calls -/

/-- The functions that the checks of a table call, as recorded. -/
def TableEntry.calledNames (e : TableEntry) : List String :=
  e.metadata.checks.flatMap (·.functionNames)

/-- The functions that a policy calls, as recorded. -/
def Policy.calledNames (p : Policy) : List String := p.usingFunctionNames ++ p.checkFunctionNames

namespace Builder

/-- The functions that checks, policies and triggers call, as recorded. -/
def calledNames (b : Builder) : List String :=
  b.entries.flatMap (·.calledNames) ++ b.policies.flatMap (·.calledNames)
    ++ b.triggers.filterMap (·.functionName)

/-- There is a function of the name, in any letter case. -/
def Knows (b : Builder) (name : String) : Prop :=
  ∃ f ∈ b.functions, f.lowerName = Text.lower name

/-- The names are in lower case, and there are functions of them. -/
def KnowsLower (b : Builder) (names : List String) : Prop :=
  ∀ n ∈ names, Text.lower n = n ∧ b.Knows n

/-- What is called is known. -/
structure CallsKnown (b : Builder) : Prop where
  checks : ∀ e ∈ b.entries, b.KnowsLower e.calledNames
  policies : ∀ p ∈ b.policies, b.KnowsLower p.calledNames
  triggers : ∀ t ∈ b.triggers, ∀ n ∈ t.functionName, b.Knows n

variable {b b' : Builder}

theorem knows_iff {name : String} : b.Knows name ↔ b.functionsNamed name ≠ [] := by
  simp [Knows, functionsNamed, List.filter_eq_nil_iff]

theorem function?_isSome {name : String} (h : b.Knows name) : (b.function? name).isSome := by
  rw [Option.isSome_iff_ne_none]
  exact fun hnone => knows_iff.mp h (leastBy_eq_none.mp hnone)

/-- What a name is looked up to has the name, in some letter case. -/
theorem knows_of_function? {name : String} {f : Function} (h : b.function? name = some f) :
    b.Knows f.name := by
  have hmem : f ∈ b.functionsNamed name := (leastBy_firstLeast textsBefore_strictTotal h).mem
  exact ⟨f, List.mem_of_mem_filter hmem, rfl⟩

/-- A call of an expression is recorded by the first of its names that is known. -/
theorem knowsLower_knownFunctions (b : Builder) (e : Expression) :
    b.KnowsLower (b.knownFunctions e) := by
  intro n hn
  rw [knownFunctions, mem_distinct, List.mem_filterMap] at hn
  obtain ⟨names, hnames, hfind⟩ := hn
  rw [Expr.functionReferences, mem_distinct] at hnames
  have hknown := List.find?_some hfind
  simp only [Bool.not_eq_true', List.isEmpty_eq_false_iff] at hknown
  exact ⟨Expr.lower_of_mem_callNames (List.mem_of_find?_eq_some hfind) e.tree hnames,
    knows_iff.mpr hknown⟩

theorem knowsLower_functionsIn (b : Builder) (e : Option Expression) :
    b.KnowsLower (b.functionsIn e) := by
  cases e with
  | none => simp [functionsIn, KnowsLower]
  | some e => exact b.knowsLower_knownFunctions e

/-! ## 2. Dropping functions -/

theorem functionDependents_eq_nil {name : String} :
    b.functionDependents name = []
      ↔ (∀ e ∈ b.entries, ∀ k ∈ e.metadata.checks, k.involvesFunction (Text.lower name) = false)
        ∧ (∀ p ∈ b.policies, p.referencesFunction (Text.lower name) = false)
        ∧ ∀ t ∈ b.triggers, t.functionName.map Text.lower ≠ some (Text.lower name) := by
  simp [functionDependents, List.filter_eq_nil_iff]

/-- Whoever calls a function is among its dependents. -/
theorem functionDependents_ne_nil (hb : b.CallsKnown) {n name : String} (hn : n ∈ b.calledNames)
    (hname : Text.lower n = Text.lower name) : b.functionDependents name ≠ [] := by
  rw [calledNames, List.mem_append, List.mem_append] at hn
  rw [ne_eq, functionDependents_eq_nil]
  rintro ⟨hchecks, hpolicies, htriggers⟩
  rcases hn with (hcheck | hpolicy) | htrigger
  · obtain ⟨e, he, hcalled⟩ := List.mem_flatMap.mp hcheck
    obtain ⟨k, hk, hcalls⟩ := List.mem_flatMap.mp hcalled
    have hinvolves : k.involvesFunction (Text.lower name) = true := by
      rw [CheckConstraint.involvesFunction, ← hname, (hb.checks e he n hcalled).1,
        (hb.checks e he n hcalled).1]
      exact List.contains_iff_mem.mpr hcalls
    rw [hchecks e he k hk] at hinvolves
    cases hinvolves
  · obtain ⟨p, hp, hcalled⟩ := List.mem_flatMap.mp hpolicy
    have hreferences : p.referencesFunction (Text.lower name) = true := by
      simp only [Policy.referencesFunction, ← hname, (hb.policies p hp n hcalled).1,
        Bool.or_eq_true, List.contains_iff_mem]
      exact List.mem_append.mp hcalled
    rw [hpolicies p hp] at hreferences
    cases hreferences
  · obtain ⟨t, ht, hcalls⟩ := List.mem_filterMap.mp htrigger
    exact htriggers t ht (by rw [hcalls, Option.map_some, hname])

/-- Nothing calls a function that is not there. -/
theorem CallsKnown.functionDependents_eq_nil (hb : b.CallsKnown) {name : String}
    (hname : ¬ b.Knows name) : b.functionDependents name = [] := by
  have hlower : ¬ b.Knows (Text.lower name) := by
    simpa only [Knows, Text.lower_lower] using hname
  rw [Builder.functionDependents_eq_nil]
  refine ⟨fun e he k hk => ?_, fun p hp => ?_, fun t ht hcalls => ?_⟩
  · rw [CheckConstraint.involvesFunction, Text.lower_lower, ← Bool.not_eq_true,
      List.contains_iff_mem]
    exact fun hmem => hlower (hb.checks e he _ (List.mem_flatMap.mpr ⟨k, hk, hmem⟩)).2
  · rw [Policy.referencesFunction, Text.lower_lower, ← Bool.not_eq_true, Bool.or_eq_true,
      List.contains_iff_mem, List.contains_iff_mem, ← List.mem_append]
    exact fun hmem => hlower (hb.policies p hp _ hmem).2
  · obtain ⟨n, hn, hsame⟩ := Option.map_eq_some_iff.mp hcalls
    refine hname ?_
    rw [Knows, ← hsame]
    exact hb.triggers t ht n hn

/-- A signature selects some of the functions of its name. -/
theorem exists_functionsOf (b : Builder) (s : FunctionSignature) :
    ∃ p, b.functionsOf s = (b.functionsNamed s.name.name).filter p := by
  simp only [functionsOf]
  split
  · exact ⟨fun _ => true, (List.filter_eq_self.mpr fun _ _ => rfl).symm⟩
  · exact ⟨_, rfl⟩

/-- A name that is known stays so if it is not that of the functions that go, or if one of them is
left. -/
theorem knows_removeFunctions {s : FunctionSignature} {n : String} (hn : b.Knows n)
    (hleft : Text.lower n = Text.lower s.name.name →
      (b.functionsOf s).length ≠ (b.functionsNamed s.name.name).length) :
    (b.removeFunctions (b.functionsOf s)).Knows n := by
  obtain ⟨p, hp⟩ := b.exists_functionsOf s
  by_cases hname : Text.lower n = Text.lower s.name.name
  · have hlength := hleft hname
    rw [hp, ne_eq, List.length_filter_eq_length_iff] at hlength
    push Not at hlength
    obtain ⟨f, hf, hkept⟩ := hlength
    obtain ⟨hmem, hlower⟩ := List.mem_filter.mp hf
    refine ⟨f, List.mem_filter.mpr ⟨hmem, ?_⟩, hname ▸ beq_iff_eq.mp hlower⟩
    simp [hp, hkept]
  · obtain ⟨f, hf, hlower⟩ := hn
    refine ⟨f, List.mem_filter.mpr ⟨hf, ?_⟩, hlower⟩
    have hother : f ∉ b.functionsNamed s.name.name := fun hmem =>
      hname (hlower ▸ beq_iff_eq.mp (List.mem_filter.mp hmem).2)
    have hstays : f ∉ b.functionsOf s := fun hmem =>
      hother (List.mem_of_mem_filter (hp ▸ hmem))
    simpa using hstays

theorem CallsKnown.knows (hb : b.CallsKnown) {n : String} (hn : n ∈ b.calledNames) :
    b.Knows n := by
  rw [calledNames, List.mem_append, List.mem_append] at hn
  rcases hn with (hcheck | hpolicy) | htrigger
  · obtain ⟨e, he, hcalled⟩ := List.mem_flatMap.mp hcheck
    exact (hb.checks e he n hcalled).2
  · obtain ⟨p, hp, hcalled⟩ := List.mem_flatMap.mp hpolicy
    exact (hb.policies p hp n hcalled).2
  · obtain ⟨t, ht, hcalls⟩ := List.mem_filterMap.mp htrigger
    exact hb.triggers t ht n hcalls

/-- Whatever names stay known, what is called stays known with them. -/
theorem CallsKnown.of_knows (hb : b.CallsKnown) (hentries : b'.entries = b.entries)
    (hpolicies : b'.policies = b.policies) (htriggers : b'.triggers = b.triggers)
    (hknows : ∀ n ∈ b.calledNames, b'.Knows n) : b'.CallsKnown := by
  refine { checks := ?_, policies := ?_, triggers := ?_ }
  · intro e he n hn
    rw [hentries] at he
    refine ⟨(hb.checks e he n hn).1, hknows n ?_⟩
    exact List.mem_append_left _ (List.mem_append_left _ (List.mem_flatMap.mpr ⟨e, he, hn⟩))
  · intro p hp n hn
    rw [hpolicies] at hp
    refine ⟨(hb.policies p hp n hn).1, hknows n ?_⟩
    exact List.mem_append_left _ (List.mem_append_right _ (List.mem_flatMap.mpr ⟨p, hp, hn⟩))
  · intro t ht n hn
    rw [htriggers] at ht
    exact hknows n (List.mem_append_right _ (List.mem_filterMap.mpr ⟨t, ht, hn⟩))

/-- Dropping functions leaves one of each name that is called. -/
theorem dropFunctions_callsKnown {ifExists : Bool} {s : FunctionSignature} (hb : b.CallsKnown)
    (h : b.dropFunctions ifExists s = .ok b') : b'.CallsKnown := by
  rcases dropFunctions_eq_ok h with rfl | ⟨rfl, hguard⟩
  · exact hb
  · refine hb.of_knows rfl rfl rfl fun n hn => knows_removeFunctions (hb.knows hn) ?_
    exact fun hname hall => functionDependents_ne_nil hb hn hname (hguard hall)

/-- A function that is created takes no name away. -/
theorem createFunction_callsKnown {s : CreateFunction} (hb : b.CallsKnown)
    (h : s.apply b = .ok b') : b'.CallsKnown := by
  rcases createFunction_eq_ok h with ⟨-, rfl⟩ | ⟨g, hg, -, rfl⟩
  · refine hb.of_knows rfl rfl rfl fun n hn => ?_
    obtain ⟨f, hf, hlower⟩ := hb.knows hn
    exact ⟨f, List.mem_append_left _ hf, hlower⟩
  · refine hb.of_knows rfl rfl rfl fun n hn => ?_
    have hnames : (replaceFirst (· == g) (fun _ => s.function) b.functions).map Function.lowerName
        = b.functions.map Function.lowerName := by
      refine map_replaceFirst (fun f hf => ?_) _
      rw [beq_iff_eq.mp hf]
      exact (beq_iff_eq.mp (List.mem_filter.mp hg).2).symm
    obtain ⟨f, hf, hlower⟩ := hb.knows hn
    obtain ⟨f', hf', hsame⟩ := List.mem_map.mp (hnames ▸ List.mem_map_of_mem hf)
    exact ⟨f', hf', hsame.trans hlower⟩

/-! ## 3. Other statements -/

theorem CallsKnown.of_sameRoutines (hb : b.CallsKnown) (h : b.SameRoutines b') : b'.CallsKnown := by
  refine hb.of_knows h.entries h.policies h.triggers fun n hn => ?_
  obtain ⟨f, hf, hlower⟩ := hb.knows hn
  exact ⟨f, h.functions ▸ hf, hlower⟩

/-- Where the entries are others, the checks of each must call what is known. -/
theorem CallsKnown.of_entries (hb : b.CallsKnown) {entries : List TableEntry}
    (h : ∀ e ∈ entries, (∃ e₀ ∈ b.entries, e.calledNames = e₀.calledNames)
      ∨ b.KnowsLower e.calledNames) : { b with entries }.CallsKnown := by
  refine { checks := fun e he => ?_, policies := hb.policies, triggers := hb.triggers }
  rcases h e he with ⟨e₀, he₀, hsame⟩ | hknown
  · exact hsame ▸ hb.checks e₀ he₀
  · exact hknown

/-- Entries may be revised if their checks stay. -/
theorem CallsKnown.of_replaceFirst (hb : b.CallsKnown) {p : TableEntry → Bool}
    {f : TableEntry → TableEntry} (h : ∀ e, (f e).metadata.checks = e.metadata.checks) :
    { b with entries := replaceFirst p f b.entries }.CallsKnown := by
  refine hb.of_entries fun e he => Or.inl ?_
  rcases mem_replaceFirst he with hold | ⟨e₀, he₀, -, rfl⟩
  · exact ⟨e, hold, rfl⟩
  · exact ⟨e₀, he₀, by rw [TableEntry.calledNames, TableEntry.calledNames, h]⟩

theorem removeTable_callsKnown {key : TableKey} (hb : b.CallsKnown)
    (h : b.removeTable key = .ok b') : b'.CallsKnown := by
  rw [removeTable_eq_ok h]
  exact
    { checks := fun e he => hb.checks e (List.mem_of_mem_eraseP he)
      policies := fun p hp => hb.policies p (List.mem_of_mem_filter hp)
      triggers := fun t ht => hb.triggers t (List.mem_of_mem_filter ht) }

/-- Removing tables one by one takes only calls away. -/
theorem removeTables_callsKnown {ts : List Table} (hb : b.CallsKnown)
    (h : ts.foldlM (fun b t => b.removeTable t.key) b = .ok b') : b'.CallsKnown :=
  removeTables_invariant (P := CallsKnown) (fun _ _ _ => removeTable_callsKnown) hb h

theorem calledNames_rekey (e : TableEntry) (key : TableKey) :
    (e.rekey key).calledNames = e.calledNames := by
  simp [TableEntry.calledNames, TableEntry.rekey, TableMetadata.rekey, List.flatMap_map]

/-- A table that moves calls what it called before. -/
theorem renameTable_callsKnown {old new : TableKey} (hb : b.CallsKnown)
    (h : b.renameTable old new = .ok b') : b'.CallsKnown := by
  rw [renameTable] at h
  split at h <;> cases h
  refine { checks := ?_, policies := ?_, triggers := ?_ }
  · intro e he
    obtain ⟨moved, hmoved, rfl⟩ := List.mem_map.mp he
    rcases mem_replaceFirst hmoved with hold | ⟨e₀, he₀, -, rfl⟩
    · exact hb.checks moved hold
    · exact calledNames_rekey e₀ new ▸ hb.checks e₀ he₀
  · intro p hp
    obtain ⟨p₀, hp₀, rfl⟩ := List.mem_map.mp hp
    exact hb.policies p₀ hp₀
  · intro t ht
    obtain ⟨t₀, ht₀, rfl⟩ := List.mem_map.mp ht
    exact hb.triggers t₀ ht₀

theorem renameSchema_callsKnown {schema : Schema} {new : String} (hb : b.CallsKnown)
    (h : b.renameSchema schema new = .ok b') : b'.CallsKnown := by
  refine renameSchema_invariant (P := CallsKnown) ?_ ?_ ?_ hb h
  · exact fun _ _ _ _ => renameTable_callsKnown
  · exact fun c hc => hc.of_knows rfl rfl rfl fun _ => hc.knows
  · exact fun c s c' hc h => hc.of_sameRoutines (sameRoutines_of_replaceSchema h)

theorem dropSchema_callsKnown {ifExists cascade : Bool} {name : String} (hb : b.CallsKnown)
    (h : b.dropSchema ifExists cascade name = .ok b') : b'.CallsKnown := by
  rcases dropSchema_eq_ok h with rfl | ⟨c, hremoved, -, rfl⟩
  · exact hb
  · have hc := removeTables_callsKnown hb hremoved
    exact hc.of_knows rfl rfl rfl fun _ => hc.knows

end Builder

/-! ## 4. Statements that call -/

variable {b b' : Builder}

/-- A constraint that is declared calls what is known. -/
theorem declareConstraint_knowsLower {table : ObjectName} {m m' : TableMetadata}
    {d : ConstraintDefinition} (hm : ∀ k ∈ m.checks, b.KnowsLower k.functionNames)
    (h : declareConstraint b table m d = .ok m') :
    ∀ k ∈ m'.checks, b.KnowsLower k.functionNames := by
  cases d with
  | primaryKey columns name =>
    simp only [declareConstraint] at h
    split at h
    · obtain ⟨_, -, h⟩ := bind_eq_ok.mp h
      rw [pure_eq_ok] at h
      exact h ▸ hm
    · exact absurd h (by simp [throw, throwThe, MonadExceptOf.throw, bind, Except.bind])
  | unique columns name nullsDistinct =>
    simp only [declareConstraint] at h
    obtain ⟨_, -, h⟩ := bind_eq_ok.mp h
    rw [pure_eq_ok] at h
    exact h ▸ hm
  | check expression name =>
    simp only [declareConstraint] at h
    obtain ⟨columns, -, h⟩ := bind_eq_ok.mp h
    rw [pure_eq_ok] at h
    subst h
    intro k hk
    rcases List.mem_append.mp hk with hold | hnew
    · exact hm k hold
    · rw [List.mem_singleton.mp hnew]
      exact b.knowsLower_knownFunctions expression
  | foreignKey d =>
    simp only [declareConstraint, pure_eq_ok] at h
    exact h ▸ hm

namespace Builder

theorem createTable_callsKnown {s : CreateTable} (hb : b.CallsKnown) (h : s.apply b = .ok b') :
    b'.CallsKnown := by
  rcases CreateTable.apply_eq_ok h with rfl | ⟨m, -, hm, rfl⟩
  · exact hb
  · simp only [CreateTable.metadata] at hm
    obtain ⟨columns, -, hm⟩ := bind_eq_ok.mp hm
    obtain ⟨made, hmade, hm⟩ := bind_eq_ok.mp hm
    obtain ⟨keys, -, hm⟩ := bind_eq_ok.mp hm
    rw [pure_eq_ok] at hm
    have hchecks : ∀ k ∈ made.checks, b.KnowsLower k.functionNames :=
      foldlM_invariant (P := fun m => ∀ k ∈ TableMetadata.checks m, b.KnowsLower k.functionNames)
        (fun _ _ _ _ => declareConstraint_knowsLower) (by simp) hmade
    refine hb.of_entries fun e he => ?_
    rcases List.mem_append.mp he with hold | hnew
    · exact Or.inl ⟨e, hold, rfl⟩
    · rw [List.mem_singleton.mp hnew, ← hm]
      refine Or.inr fun n hn => ?_
      obtain ⟨k, hk, hcalls⟩ := List.mem_flatMap.mp hn
      exact hchecks k hk n hcalls

theorem createTrigger_callsKnown {s : CreateTrigger} (hb : b.CallsKnown) (h : s.apply b = .ok b') :
    b'.CallsKnown := by
  obtain ⟨t, f, e, -, hf, -, -, hb'⟩ := CreateTrigger.apply_eq_ok h
  have hnew : ∀ n ∈ (s.trigger t.key f).functionName, b.Knows n := by
    intro n hn
    cases hn
    exact knows_of_function? hf
  rcases hb' with rfl | rfl
  · refine { checks := hb.checks, policies := hb.policies, triggers := fun u hu => ?_ }
    rcases List.mem_append.mp hu with hold | hlast
    · exact hb.triggers u hold
    · exact List.mem_singleton.mp hlast ▸ hnew
  · refine { checks := hb.checks, policies := hb.policies, triggers := fun u hu => ?_ }
    rcases mem_replaceFirst hu with hold | ⟨_, -, -, rfl⟩
    · exact hb.triggers u hold
    · exact hnew

theorem createPolicy_callsKnown {s : CreatePolicy} (hb : b.CallsKnown) (h : s.apply b = .ok b') :
    b'.CallsKnown := by
  obtain ⟨t, p, -, -, husing, hcheck, rfl⟩ := CreatePolicy.apply_eq_ok h
  refine { checks := hb.checks, policies := fun q hq => ?_, triggers := hb.triggers }
  rcases List.mem_append.mp hq with hold | hlast
  · exact hb.policies q hold
  · rw [List.mem_singleton.mp hlast, Policy.calledNames, husing, hcheck]
    intro n hn
    exact (List.mem_append.mp hn).elim (b.knowsLower_functionsIn s.usingRows n)
      (b.knowsLower_functionsIn s.withCheck n)

theorem dropIndices_callsKnown {ifExists : Bool} {n : ObjectName} (hb : b.CallsKnown) :
    (b.dropIndices ifExists n).builder.CallsKnown := by
  refine dropIndices_invariant (fun b p b' hb h => ?_) ifExists hb
  rw [dropIndex_eq_ok h]
  refine hb.of_replaceFirst fun e => ?_
  rw [TableMetadata.eraseIndex]
  split <;> rfl

end Builder

/-! ## 5. All statements -/

open Builder in
/-- A statement leaves what is called known, whether it fails or not. -/
theorem Statement.apply_callsKnown (s : Statement) (hb : b.CallsKnown) :
    (s.apply b).builder.CallsKnown := by
  cases s with
  | createTable s => exact Outcome.whole_invariant hb fun _ => createTable_callsKnown hb
  | dropTable s =>
    refine Outcome.whole_invariant hb fun _ h => ?_
    obtain ⟨dropped, -, -, hremoved⟩ := DropTable.apply_eq_ok h
    exact removeTables_callsKnown hb hremoved
  | alterTable s =>
    refine Outcome.whole_invariant hb fun _ h => ?_
    rcases AlterTable.apply_eq_ok h with rfl | ⟨t, rfl⟩
    · exact hb
    · exact hb.of_replaceFirst fun _ => rfl
  | createIndex s =>
    refine Outcome.whole_invariant hb fun _ h => ?_
    rcases CreateIndex.apply_eq_ok h with rfl | ⟨t, -, rfl⟩
    · exact hb
    · refine hb.of_replaceFirst fun e => ?_
      rw [CreateIndex.addTo]
      split <;> rfl
  | dropIndex s => exact Outcome.each_invariant (fun _ _ => dropIndices_callsKnown) _ hb
  | createFunction s => exact Outcome.whole_invariant hb fun _ => createFunction_callsKnown hb
  | dropFunction s =>
    exact Outcome.each_invariant
      (fun _ _ hb => Outcome.whole_invariant hb fun _ => dropFunctions_callsKnown hb) _ hb
  | createTrigger s => exact Outcome.whole_invariant hb fun _ => createTrigger_callsKnown hb
  | dropTrigger s =>
    refine Outcome.whole_invariant hb fun _ h => ?_
    rcases DropTrigger.apply_eq_ok h with rfl | ⟨p, rfl⟩
    · exact hb
    · exact { hb with triggers := fun t ht => hb.triggers t (List.mem_of_mem_filter ht) }
  | createPolicy s => exact Outcome.whole_invariant hb fun _ => createPolicy_callsKnown hb
  | dropPolicy s =>
    refine Outcome.whole_invariant hb fun _ h => ?_
    rcases DropPolicy.apply_eq_ok h with rfl | ⟨p, rfl⟩
    · exact hb
    · exact { hb with policies := fun p hp => hb.policies p (List.mem_of_mem_eraseP hp) }
  | createRole s =>
    exact Outcome.whole_invariant hb fun _ h =>
      hb.of_sameRoutines (onlyRoles_of_createRole h).sameRoutines
  | dropRole s =>
    exact Outcome.each_invariant
      (fun _ _ hb => Outcome.whole_invariant hb fun _ h =>
        hb.of_sameRoutines (onlyRoles_of_dropRole h).sameRoutines) _ hb
  | grantPrivileges s =>
    refine Outcome.whole_invariant hb fun _ h => ?_
    obtain ⟨_, _, -, -, rfl⟩ := GrantPrivileges.apply_eq_ok h
    exact hb.of_knows rfl rfl rfl fun _ => hb.knows
  | revokePrivileges s =>
    refine Outcome.whole_invariant hb fun _ h => ?_
    obtain ⟨_, rfl⟩ := RevokePrivileges.apply_eq_ok h
    exact hb.of_knows rfl rfl rfl fun _ => hb.knows
  | grantRole s =>
    rw [Statement.apply, GrantRole.apply]
    split
    · exact hb
    · exact Outcome.each_invariant
        (fun _ _ hb => Outcome.whole_invariant hb fun _ h =>
          hb.of_sameRoutines (onlyRoles_of_grantTo h).sameRoutines) _ hb
  | revokeRole s => exact hb.of_sameRoutines (onlyRoles_revokeRole s b).sameRoutines
  | createSchema s =>
    exact Outcome.whole_invariant hb fun _ h => hb.of_sameRoutines (sameRoutines_of_createSchema h)
  | dropSchema s =>
    exact Outcome.each_invariant
      (fun _ _ hb => Outcome.whole_invariant hb fun _ => dropSchema_callsKnown hb) _ hb
  | alterSchema s =>
    refine Outcome.whole_invariant hb fun _ h => ?_
    rcases AlterSchema.apply_eq_ok h with hsame | ⟨schema, new, -, -, hrename⟩
    · exact hb.of_sameRoutines hsame
    · exact renameSchema_callsKnown hb hrename
  | setTimeZone value => exact hb.of_knows rfl rfl rfl fun _ => hb.knows
  | commentOn _ => exact hb
  | other kind sql =>
    rw [Statement.apply]
    split <;> exact hb

namespace Builder

/-- Nothing is called where there are no tables. -/
theorem initial_callsKnown (name : String) : (initial name).CallsKnown where
  checks := by simp [initial]
  policies := by simp [initial]
  triggers := by simp [initial]

theorem run_callsKnown (hb : b.CallsKnown) (statements : List Statement) :
    (b.run statements).CallsKnown :=
  run_keeps (fun s _ _ => s.apply_callsKnown) hb

/-- Whatever statements are applied to an empty builder, there are functions of each name that a
check, a policy or a trigger calls, and the catalog made of it finds one. -/
theorem states_calls_resolve (name : String) (statements : List Statement) :
    ∀ n ∈ ((initial name).run statements).calledNames,
      ((initial name).run statements).functionsNamed n ≠ []
        ∧ (((initial name).run statements).freeze.function? n).isSome := by
  intro n hn
  have hknows := (run_callsKnown (initial_callsKnown name) statements).knows hn
  rw [function?_freeze]
  exact ⟨knows_iff.mp hknows, function?_isSome hknows⟩

/-- A function that a check calls in other letters outlives a failing drop, and its table moves to
another schema. -/
theorem states_calls_resolve_of_kept_function :
    let call : Expr := .call ["EVEN"] [.column [] "x"]
    let statements : List Statement :=
      [.createFunction { name := ⟨"Even", none⟩, arguments := [{ dataType := "int" }] },
        .createSchema { name := "a" },
        .createTable
          { name := ⟨"t", some "a"⟩
            columns := [{ name := "x", dataType := "int" }]
            constraints := [.check ⟨"EVEN(x)", call⟩ none] },
        .dropFunction { targets := [{ name := ⟨"even", none⟩ }] },
        .alterSchema { name := "a", change := .rename "b" }]
    let b := (initial "shop").run statements
    "even" ∈ b.calledNames
      ∧ b.functionsNamed "even" ≠ []
      ∧ (b.freeze.function? "even").isSome := by
  intro call statements b
  have hcalled : "even" ∈ b.calledNames := by decide +kernel
  exact ⟨hcalled, states_calls_resolve "shop" statements "even" hcalled⟩

end Builder

end SchemaCatalog
