import Mathlib.Data.List.Nodup
import SchemaCatalog.Proofs.Calls
import SchemaCatalog.Proofs.Repetition

/-!
# Overloads

Functions of one name are told apart by the canonical types of their input. Creating a function,
replacing one and dropping one each look among the functions of the name, in any letter case, for
those types, so in every state of a run no two functions agree in both, which is
`Builder.DistinctOverloads`. A drop that gives input types therefore takes one function at most. One
that was added is dropped again under any spelling of its name and types, and the state is what it
was before: `Builder.states_overloads_identified`.

That such a drop does not fail is not plain, since the last function of a name is kept as long as
something calls it. But what is called in a state of a run is known in it (`CallsKnown`), so nothing
calls a function before it is there.
-/

namespace SchemaCatalog

/-! ## 1. What identifies a function -/

/-- The name in lower case and the canonical input types. -/
def Function.identity (f : Function) : String × List String :=
  (f.lowerName, f.normalizedArgumentTypes)

theorem Function.identity_eq_iff {f g : Function} : f.identity = g.identity
    ↔ f.lowerName = g.lowerName ∧ f.normalizedArgumentTypes = g.normalizedArgumentTypes :=
  Prod.mk_inj

/-- A signature with input types denotes the functions that are identified by them. -/
theorem FunctionSignature.denotes_iff {s : FunctionSignature} {types : List String}
    (htypes : s.argumentTypes = some types) {f : Function} :
    s.denotes f = true ↔ f.identity = (Text.lower s.name.name, types.map DataType.normalize) := by
  simp [denotes, htypes, Function.identity]

namespace Builder

/-- Functions differ in their name, whatever its letter case, or in their canonical input types. -/
def DistinctOverloads (b : Builder) : Prop := (b.functions.map Function.identity).Nodup

variable {b b' : Builder}

/-- No function of the name has the input types exactly if none is identified like it. -/
theorem not_mem_identities_iff {f : Function} :
    f.identity ∉ b.functions.map Function.identity
      ↔ ∀ g ∈ b.functionsNamed f.name, g.normalizedArgumentTypes ≠ f.normalizedArgumentTypes := by
  simp [functionsNamed, Function.identity_eq_iff, Function.lowerName]

/-- A signature with input types denotes one function at most. -/
theorem DistinctOverloads.functionsOf (hb : b.DistinctOverloads) {s : FunctionSignature}
    {types : List String} (htypes : s.argumentTypes = some types) :
    b.functionsOf s = [] ∨ ∃ f ∈ b.functions, s.denotes f = true ∧ b.functionsOf s = [f] := by
  rw [functionsOf_eq]
  have hlength : (b.functions.filter s.denotes).length ≤ 1 := by
    have hcount := List.nodup_iff_count_le_one.mp hb
      (Text.lower s.name.name, types.map DataType.normalize)
    rw [List.count, List.countP_map] at hcount
    rw [← List.countP_eq_length_filter]
    refine (List.countP_congr fun f _ => ?_).trans_le hcount
    rw [FunctionSignature.denotes_iff htypes, Function.comp_apply, beq_iff_eq]
  rcases Nat.le_one_iff_eq_zero_or_eq_one.mp hlength with hzero | hone
  · exact Or.inl (List.length_eq_zero_iff.mp hzero)
  · obtain ⟨f, hf⟩ := List.length_eq_one_iff.mp hone
    obtain ⟨hmem, hdenotes⟩ := List.mem_filter.mp (hf ▸ List.mem_singleton_self f)
    exact Or.inr ⟨f, hmem, hdenotes, hf⟩

/-! ## 2. Creating and dropping functions -/

theorem createFunction_distinctOverloads {s : CreateFunction} (hb : b.DistinctOverloads)
    (h : s.apply b = .ok b') : b'.DistinctOverloads := by
  rcases createFunction_eq_ok h with ⟨hnew, rfl⟩ | ⟨g, hg, htypes, rfl⟩
  · rw [DistinctOverloads, addFunction, List.map_append, List.map_singleton]
    exact List.nodup_append_comm.mp (List.nodup_cons.mpr ⟨not_mem_identities_iff.mpr hnew, hb⟩)
  · -- The function in the place of another one is identified like it.
    have hname : g.lowerName = s.function.lowerName := beq_iff_eq.mp (List.mem_filter.mp hg).2
    have hsame : (replaceFirst (· == g) (fun _ => s.function) b.functions).map Function.identity
        = b.functions.map Function.identity := by
      refine map_replaceFirst (fun f hf => ?_) b.functions
      rw [beq_iff_eq.mp hf]
      exact (Function.identity_eq_iff.mpr ⟨hname, htypes⟩).symm
    rw [DistinctOverloads, hsame]
    exact hb

theorem dropFunctions_distinctOverloads {ifExists : Bool} {s : FunctionSignature}
    (hb : b.DistinctOverloads) (h : b.dropFunctions ifExists s = .ok b') :
    b'.DistinctOverloads := by
  rcases dropFunctions_eq_ok h with rfl | ⟨rfl, -⟩
  · exact hb
  · exact hb.sublist (List.filter_sublist.map _)

/-- A drop with input types takes one function or none. -/
theorem DistinctOverloads.dropFunctions_eq_ok (hb : b.DistinctOverloads) {ifExists : Bool}
    {s : FunctionSignature} {types : List String} (htypes : s.argumentTypes = some types)
    (h : b.dropFunctions ifExists s = .ok b') :
    b' = b ∨ ∃ f ∈ b.functions, s.denotes f = true
      ∧ b' = { b with functions := b.functions.erase f } := by
  rcases Builder.dropFunctions_eq_ok h with rfl | ⟨rfl, -⟩
  · exact Or.inl rfl
  · rcases hb.functionsOf htypes with hnone | ⟨f, hf, hdenotes, hone⟩
    · simp [hnone, removeFunctions]
    · have hnodup : b.functions.Nodup := List.Nodup.of_map _ hb
      refine Or.inr ⟨f, hf, hdenotes, ?_⟩
      rw [hone, removeFunctions, hnodup.erase_eq_filter]
      simp only [List.contains_cons, List.contains_nil, Bool.or_false]
      rfl

theorem removeFunctions_addFunction {f : Function} (hf : f ∉ b.functions) :
    (b.addFunction f).removeFunctions [f] = b := by
  have hstay : ∀ g ∈ b.functions, (!([f].contains g)) = true := by
    intro g hg
    rw [Bool.not_eq_true', List.contains_cons, List.contains_nil, Bool.or_false,
      beq_eq_false_iff_ne]
    rintro rfl
    exact hf hg
  rw [removeFunctions, addFunction, List.filter_append, List.filter_eq_self.mpr hstay]
  simp

/-- A function that is added is dropped again by a signature that denotes it alone. -/
theorem dropFunctions_addFunction (hb : b.CallsKnown) {f : Function} {s : FunctionSignature}
    (hdenotes : s.denotes f = true) (hothers : ∀ g ∈ b.functions, ¬ s.denotes g = true)
    (ifExists : Bool) : (b.addFunction f).dropFunctions ifExists s = .ok b := by
  have hmatched : (b.addFunction f).functionsOf s = [f] := by
    rw [functionsOf_eq, addFunction, List.filter_append, List.filter_eq_nil_iff.mpr hothers,
      List.filter_singleton, hdenotes]
    rfl
  -- It is the last one of its name only if the name was unknown, and then nothing calls it.
  have hguard : ([f].length == ((b.addFunction f).functionsNamed s.name.name).length
      && !((b.addFunction f).functionDependents s.name.name).isEmpty) = false := by
    by_cases hknown : b.Knows s.name.name
    · have hname : f.lowerName = Text.lower s.name.name :=
        beq_iff_eq.mp (Bool.and_eq_true_iff.mp hdenotes).1
      have hlength := List.length_pos_iff.mpr (knows_iff.mp hknown)
      have hmore : ([f].length == (b.functionsNamed s.name.name ++ [f]).length) = false := by
        rw [beq_eq_false_iff_ne, List.length_append, List.length_singleton]
        omega
      rw [functionsNamed_addFunction b hname, hmore, Bool.false_and]
    · have hfree : (b.addFunction f).functionDependents s.name.name = [] :=
        hb.functionDependents_eq_nil hknown
      rw [hfree, List.isEmpty_nil, Bool.not_true, Bool.and_false]
  have hleft : (b.addFunction f).removeFunctions [f] = b :=
    removeFunctions_addFunction fun hmem => hothers f hmem hdenotes
  rw [dropFunctions]
  simp only [hmatched, hguard, hleft]
  rfl

/-- What has more functions than before was given one that is not identified like any of them. -/
theorem createFunction_adds {s : CreateFunction} (h : s.apply b = .ok b')
    (hmore : b.functions.length < b'.functions.length) :
    b' = b.addFunction s.function ∧ s.function.identity ∉ b.functions.map Function.identity := by
  rcases createFunction_eq_ok h with ⟨hnew, rfl⟩ | ⟨g, -, -, rfl⟩
  · exact ⟨rfl, not_mem_identities_iff.mpr hnew⟩
  · have hlength := congrArg List.length (map_replaceFirst (p := (· == g))
      (f := fun _ => s.function) (g := fun _ => ()) (fun _ _ => rfl) b.functions)
    rw [List.length_map, List.length_map] at hlength
    exact absurd hlength hmore.ne'

/-! ## 3. Other statements -/

theorem functions_removeTables {ts : List Table}
    (h : ts.foldlM (fun b t => b.removeTable t.key) b = .ok b') : b'.functions = b.functions := by
  refine removeTables_invariant (P := fun c => c.functions = b.functions) ?_ rfl h
  intro c key c' hc hremoved
  rw [removeTable_eq_ok hremoved]
  exact hc

theorem functions_dropIndices (b : Builder) (ifExists : Bool) (n : ObjectName) :
    (b.dropIndices ifExists n).builder.functions = b.functions := by
  refine dropIndices_invariant (P := fun c => c.functions = b.functions) ?_ ifExists rfl
  intro c p c' hc h
  rw [dropIndex_eq_ok h]
  exact hc

theorem functions_renameSchema {schema : Schema} {new : String}
    (h : b.renameSchema schema new = .ok b') : b'.functions = b.functions := by
  refine renameSchema_invariant (P := fun c => c.functions = b.functions) ?_ ?_ ?_ rfl h
  · intro c _ _ c' hc hrenamed
    rw [renameTable] at hrenamed
    split at hrenamed <;> cases hrenamed
    exact hc
  · exact fun c hc => hc
  · exact fun c s c' hc hreplaced => (sameRoutines_of_replaceSchema hreplaced).functions.trans hc

theorem functions_dropSchema {ifExists cascade : Bool} {name : String}
    (h : b.dropSchema ifExists cascade name = .ok b') : b'.functions = b.functions := by
  rcases dropSchema_eq_ok h with rfl | ⟨c, hremoved, -, rfl⟩
  · rfl
  · have hc : c.functions = b.functions := functions_removeTables hremoved
    exact hc

end Builder

open Builder in
/-- No statement changes the functions but those that create or drop some. -/
theorem Statement.functions_apply (s : Statement) (b : Builder)
    (hcreate : ∀ c, s ≠ .createFunction c) (hdrop : ∀ d, s ≠ .dropFunction d) :
    (s.apply b).builder.functions = b.functions := by
  have hwhole {r : Except CatalogError Builder}
      (h : ∀ b', r = .ok b' → b'.functions = b.functions) :
      (Outcome.whole b r).builder.functions = b.functions :=
    Outcome.whole_invariant (P := fun c => c.functions = b.functions) rfl h
  have heach {α : Type} {step : Builder → α → Outcome}
      (h : ∀ c a, (step c a).builder.functions = c.functions) (as : List α) :
      (Outcome.each step b as).builder.functions = b.functions :=
    Outcome.each_invariant (P := fun c => c.functions = b.functions)
      (fun c a hc => (h c a).trans hc) as rfl
  cases s with
  | createFunction c => exact absurd rfl (hcreate c)
  | dropFunction d => exact absurd rfl (hdrop d)
  | createTable s =>
    refine hwhole fun b' h => ?_
    rcases CreateTable.apply_eq_ok h with rfl | ⟨m, -, -, rfl⟩ <;> rfl
  | dropTable s =>
    refine hwhole fun b' h => ?_
    obtain ⟨dropped, -, -, hremoved⟩ := DropTable.apply_eq_ok h
    exact functions_removeTables hremoved
  | alterTable s =>
    refine hwhole fun b' h => ?_
    rcases AlterTable.apply_eq_ok h with rfl | ⟨t, rfl⟩ <;> rfl
  | createIndex s =>
    refine hwhole fun b' h => ?_
    rcases CreateIndex.apply_eq_ok h with rfl | ⟨t, -, rfl⟩ <;> rfl
  | dropIndex s => exact heach (fun c n => c.functions_dropIndices s.ifExists n) s.names
  | createTrigger s =>
    refine hwhole fun b' h => ?_
    obtain ⟨t, f, e, -, -, -, -, rfl | rfl⟩ := CreateTrigger.apply_eq_ok h <;> rfl
  | dropTrigger s =>
    refine hwhole fun b' h => ?_
    rcases DropTrigger.apply_eq_ok h with rfl | ⟨p, rfl⟩ <;> rfl
  | createPolicy s =>
    refine hwhole fun b' h => ?_
    obtain ⟨t, p, -, -, -, -, rfl⟩ := CreatePolicy.apply_eq_ok h
    rfl
  | dropPolicy s =>
    refine hwhole fun b' h => ?_
    rcases DropPolicy.apply_eq_ok h with rfl | ⟨p, rfl⟩ <;> rfl
  | createRole s => exact hwhole fun b' h => (onlyRoles_of_createRole h).sameRoutines.functions
  | dropRole s =>
    refine heach (fun c name => ?_) s.names
    exact Outcome.whole_invariant (P := fun c' => c'.functions = c.functions) rfl fun c' h =>
      (onlyRoles_of_dropRole h).sameRoutines.functions
  | grantPrivileges s =>
    refine hwhole fun b' h => ?_
    obtain ⟨_, _, -, -, rfl⟩ := GrantPrivileges.apply_eq_ok h
    rfl
  | revokePrivileges s =>
    refine hwhole fun b' h => ?_
    obtain ⟨_, rfl⟩ := RevokePrivileges.apply_eq_ok h
    rfl
  | grantRole s =>
    rw [Statement.apply, GrantRole.apply]
    split
    · rfl
    · refine heach (fun c grantee => ?_) s.grantees
      exact Outcome.whole_invariant (P := fun c' => c'.functions = c.functions) rfl fun c' h =>
        (onlyRoles_of_grantTo h).sameRoutines.functions
  | revokeRole s => exact (onlyRoles_revokeRole s b).sameRoutines.functions
  | createSchema s => exact hwhole fun b' h => (sameRoutines_of_createSchema h).functions
  | dropSchema s =>
    refine heach (fun c name => ?_) s.names
    exact Outcome.whole_invariant (P := fun c' => c'.functions = c.functions) rfl fun c' =>
      functions_dropSchema
  | alterSchema s =>
    refine hwhole fun b' h => ?_
    rcases AlterSchema.apply_eq_ok h with hsame | ⟨schema, new, -, -, hrename⟩
    · exact hsame.functions
    · exact functions_renameSchema hrename
  | setTimeZone value => rfl
  | commentOn _ => rfl
  | other kind sql =>
    rw [Statement.apply]
    split <;> rfl

open Builder in
/-- A statement leaves functions distinct, whether it fails or not. -/
theorem Statement.apply_distinctOverloads (s : Statement) {b : Builder} (hb : b.DistinctOverloads) :
    (s.apply b).builder.DistinctOverloads := by
  by_cases hcreate : ∃ c, s = .createFunction c
  · obtain ⟨c, rfl⟩ := hcreate
    exact Outcome.whole_invariant hb fun _ => createFunction_distinctOverloads hb
  by_cases hdrop : ∃ d, s = .dropFunction d
  · obtain ⟨d, rfl⟩ := hdrop
    exact Outcome.each_invariant
      (fun _ _ hb => Outcome.whole_invariant hb fun _ => dropFunctions_distinctOverloads hb) _ hb
  · rw [DistinctOverloads, s.functions_apply b (not_exists.mp hcreate) (not_exists.mp hdrop)]
    exact hb

/-! ## 4. Runs -/

namespace Builder

/-- The built-in functions are distinct. -/
theorem initial_distinctOverloads (name : String) : (initial name).DistinctOverloads := by
  have hbuiltin : (builtinFunctions.map Function.identity).Nodup := by decide +kernel
  exact hbuiltin

theorem run_distinctOverloads {b : Builder} (hb : b.DistinctOverloads)
    (statements : List Statement) : (b.run statements).DistinctOverloads :=
  run_keeps (fun s _ _ => s.apply_distinctOverloads) hb

/-- Functions are identified by their name in lower case and their canonical input types. A drop
that gives input types takes one function at most, the one that is identified by them, and takes
back the creation of that function under any spelling of its name and types. -/
structure IdentifiesOverloads (b : Builder) : Prop where
  distinct : b.DistinctOverloads
  drop_one : ∀ (s : FunctionSignature) types, s.argumentTypes = some types →
    ∀ ifExists b', b.dropFunctions ifExists s = .ok b' →
      b' = b ∨ ∃ f ∈ b.functions, f.lowerName = Text.lower s.name.name
        ∧ f.normalizedArgumentTypes = types.map DataType.normalize
        ∧ b' = { b with functions := b.functions.erase f }
  drop_created : ∀ (c : CreateFunction) b', c.apply b = .ok b' →
    b.functions.length < b'.functions.length →
      ∀ (d : DropFunction) s types, d.targets = [s] → s.argumentTypes = some types →
        Text.lower s.name.name = Text.lower c.name.name →
        types.map DataType.normalize = c.function.normalizedArgumentTypes →
          d.apply b' = { builder := b }

/-- Whatever statements are applied to an empty builder, and whether they fail or not, functions are
identified by their name and input types. -/
theorem states_overloads_identified (name : String) (statements : List Statement) :
    ((initial name).run statements).IdentifiesOverloads := by
  have hdistinct : ((initial name).run statements).DistinctOverloads :=
    run_distinctOverloads (initial_distinctOverloads name) statements
  have hcalls : ((initial name).run statements).CallsKnown :=
    run_callsKnown (initial_callsKnown name) statements
  generalize (initial name).run statements = b at hdistinct hcalls
  refine { distinct := hdistinct, drop_one := ?_, drop_created := ?_ }
  · intro s types htypes ifExists b' h
    refine (hdistinct.dropFunctions_eq_ok htypes h).imp id ?_
    rintro ⟨f, hf, hdenotes, rfl⟩
    obtain ⟨hname, hinput⟩ := Prod.mk_inj.mp ((FunctionSignature.denotes_iff htypes).mp hdenotes)
    exact ⟨f, hf, hname, hinput, rfl⟩
  · intro c b' h hmore d s types htargets htypes hname hinput
    obtain ⟨rfl, hnew⟩ := createFunction_adds h hmore
    have hdenotes {f : Function} : s.denotes f = true ↔ f.identity = c.function.identity := by
      rw [FunctionSignature.denotes_iff htypes, hname, hinput]
      rfl
    have hothers : ∀ g ∈ b.functions, ¬ s.denotes g = true := fun g hg hsame =>
      hnew (hdenotes.mp hsame ▸ List.mem_map_of_mem hg)
    rw [DropFunction.apply, htargets, Outcome.each_singleton, Outcome.whole_eq_done]
    exact dropFunctions_addFunction hcalls (hdenotes.mpr rfl) hothers d.ifExists

/-- There is a function with an output argument, which a second statement has failed to create again,
and one in the place of a built-in function. They stay when an overload is added and dropped again,
with its name in other letters and its type under another name. -/
theorem states_overloads_identified_of_other_spelling :
    let statements : List Statement :=
      [.createFunction
          { name := ⟨"Area", none⟩
            arguments := [{ dataType := "int" }, { dataType := "text", mode := some "OUT" }] },
        .createFunction { name := ⟨"AREA", none⟩, arguments := [{ dataType := "INTEGER" }] },
        .createFunction { name := ⟨"Length", none⟩, arguments := [{ dataType := "TEXT" }] }]
    let c : CreateFunction := { name := ⟨"area", none⟩, arguments := [{ dataType := "bigint" }] }
    let d : DropFunction :=
      { targets := [{ name := ⟨"aReA", none⟩, argumentTypes := some ["pg_catalog.int8"] }] }
    let b := (initial "shop").run statements
    b.functionsNamed "area" = [
        { name := "Area"
          arguments := [{ dataType := "int" }, { dataType := "text", mode := some "OUT" }] }]
      ∧ c.apply b = .ok (b.addFunction c.function)
      ∧ d.apply (b.addFunction c.function) = { builder := b } := by
  intro statements c d b
  have hnamed : b.functionsNamed "area" = [
      { name := "Area"
        arguments := [{ dataType := "int" }, { dataType := "text", mode := some "OUT" }] }] := by
    decide +kernel
  have hnone : (b.functionsNamed c.function.name).find? (fun g =>
      g.normalizedArgumentTypes == c.function.normalizedArgumentTypes) = none := by
    change (b.functionsNamed "area").find? _ = none
    rw [hnamed]
    decide +kernel
  have hcreated : c.apply b = .ok (b.addFunction c.function) := by
    simp only [CreateFunction.apply, hnone]
  have hmore : b.functions.length < (b.addFunction c.function).functions.length := by
    rw [addFunction, List.length_append]
    exact Nat.lt_succ_self _
  exact ⟨hnamed, hcreated, (states_overloads_identified "shop" statements).drop_created c _ hcreated
    hmore d _ _ rfl rfl (by decide +kernel) (by decide +kernel)⟩

end Builder

end SchemaCatalog
