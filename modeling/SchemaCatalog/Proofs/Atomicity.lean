import SchemaCatalog.Proofs.Failures

/-!
# What a failed statement leaves

A statement with several targets deals with one after the other, so it may fail when some of them
are done with already. `Statement.parts` are the statements, each with one target, that it is
carried out as, and `apply_eq_applyAll_parts` says that it is indeed carried out so. A failure is
that of one part: the parts before it have been applied, and those after it have not been looked at.

A part that fails leaves the builder as it was, with one exception. An index name without a schema
may stand for several indexes, and where one of them belongs to a primary key those found before it
are gone. `Builder.StoppedAt` has a constructor for either case.

Most statements check all they need before they change the first thing, or are their own only part;
dropping tables belongs to them although it has several targets. Revoking roles does not: that no
membership ended is known only at the end. What saves it is that revoking nothing changes nothing
(`RevokeRole.foldlM_revokeFrom_eq`).
-/

namespace SchemaCatalog

/-! ## 1. The parts of a statement -/

/-- The statements, one for each target, that a statement is carried out as. -/
def Statement.parts : Statement → List Statement
  | dropIndex s => s.names.map fun n => dropIndex { s with names := [n] }
  | dropFunction s => s.targets.map fun t => dropFunction { s with targets := [t] }
  | dropRole s => s.names.map fun n => dropRole { s with names := [n] }
  | dropSchema s => s.names.map fun n => dropSchema { s with names := [n] }
  | grantRole s =>
    if s.grantees.isEmpty then [grantRole s]
    else s.grantees.map fun g => grantRole { s with grantees := [g] }
  | s => [s]

namespace Outcome

/-- Doing something for several targets is applying the statements that do it for each. -/
theorem each_eq_applyAll {α : Type} (part : α → Statement) {step : Builder → α → Outcome}
    (h : ∀ b a, (part a).apply b = step b a) (b : Builder) (as : List α) :
    each step b as = b.applyAll (as.map part) := by
  rw [Builder.applyAll]
  induction as generalizing b with
  | nil => rfl
  | cons a as ih =>
    rw [List.map_cons, each, each, h]
    split
    · exact ih _
    · rfl

end Outcome

namespace GrantRole

variable {s : GrantRole} {b b' : Builder}

/-- Which roles there are does not change when one is made a member of others. -/
theorem requireRole_grantTo {grantee : String} (h : s.grantTo b grantee = .ok b')
    (name referencedBy : String) :
    b'.requireRole name referencedBy = b.requireRole name referencedBy := by
  have hnames : b'.roles.map (·.name) = b.roles.map (·.name) := by
    simp only [grantTo, bind_eq_ok] at h
    obtain ⟨_, -, h⟩ := h
    split at h
    · rename_i r hr
      rw [Builder.replaceRole] at h
      split at h <;> cases h
      refine map_replaceFirst (g := Role.name) (fun r' hr' => ?_) _
      exact (beq_iff_eq.mp hr').symm
    · rw [pure_eq_ok] at h
      rw [h]
  have hsome : (b'.role? name).isSome = (b.role? name).isSome := by
    have hcontains (b : Builder) :
        (b.role? name).isSome = (b.roles.map (·.name)).any (· == name) := by
      rw [Builder.role?, List.isSome_find?, List.any_map]
      rfl
    rw [hcontains, hcontains, hnames]
  rw [Builder.requireRole, Builder.requireRole, hsome]

/-- Granting roles to several grantees is granting them to each: the roles are still there when the
next grantee has its turn. -/
theorem each_eq_applyAll (s : GrantRole) (gs : List String) {b : Builder}
    (h : s.roles.forM (fun role => b.requireRole role ("GRANT " ++ ", ".intercalate s.roles))
      = .ok ()) :
    Outcome.each (fun b g => .whole b (s.grantTo b g)) b gs
      = b.applyAll (gs.map fun g => .grantRole { s with grantees := [g] }) := by
  rw [Builder.applyAll]
  induction gs generalizing b with
  | nil => rfl
  | cons g gs ih =>
    have hpart : Statement.apply b (.grantRole { s with grantees := [g] })
        = .whole b (s.grantTo b g) := by
      rw [Statement.apply, apply, h]
      exact Outcome.each_singleton _ b g
    rw [List.map_cons, Outcome.each, Outcome.each, hpart]
    cases hg : s.grantTo b g with
    | error e => rfl
    | ok b' =>
      refine ih ?_
      simp only [requireRole_grantTo hg]
      exact h

theorem apply_eq_applyAll (s : GrantRole) (b : Builder) :
    s.apply b = b.applyAll (Statement.grantRole s).parts := by
  cases hgrantees : s.grantees with
  | nil =>
    rw [Statement.parts, if_pos (by simp [hgrantees])]
    exact (Outcome.each_singleton Statement.apply b (.grantRole s)).symm
  | cons g gs =>
    rw [Statement.parts, if_neg (by simp [hgrantees]), apply]
    split
    · -- Every part fails as the statement does, so the first one does.
      rename_i e hunknown
      rw [hgrantees, List.map_cons, Builder.applyAll, Outcome.each, Statement.apply, apply,
        hunknown]
    · rename_i hknown
      exact s.each_eq_applyAll s.grantees hknown

end GrantRole

namespace Statement

/-- A statement is carried out as its parts, one after the other. -/
theorem apply_eq_applyAll_parts (s : Statement) (b : Builder) : s.apply b = b.applyAll s.parts := by
  cases s with
  | dropIndex s =>
    refine Outcome.each_eq_applyAll (fun n => dropIndex { s with names := [n] }) (fun b n => ?_) b _
    rw [apply, DropIndex.apply, Outcome.each_singleton]
  | dropFunction s =>
    refine Outcome.each_eq_applyAll (fun t => dropFunction { s with targets := [t] })
      (fun b t => ?_) b _
    rw [apply, DropFunction.apply, Outcome.each_singleton]
  | dropRole s =>
    refine Outcome.each_eq_applyAll (fun n => dropRole { s with names := [n] }) (fun b n => ?_) b _
    rw [apply, DropRole.apply, Outcome.each_singleton]
  | dropSchema s =>
    refine Outcome.each_eq_applyAll (fun n => dropSchema { s with names := [n] })
      (fun b n => ?_) b _
    rw [apply, DropSchema.apply, Outcome.each_singleton]
  | grantRole s => exact s.apply_eq_applyAll b
  | _ => exact (Outcome.each_singleton apply b _).symm

end Statement

/-! ## 2. Failures of a part -/

/-- What a part that fails leaves of a builder. -/
inductive Builder.StoppedAt (c : Builder) : Statement → Builder → Prop
  | unchanged (part : Statement) : StoppedAt c part c
  /-- Of the indexes of a name those found before that of a primary key are dropped. -/
  | primaryKey {s : DropIndex} {n : ObjectName} {dropped left : List IndexPlace} {p : IndexPlace}
      {c' : Builder} (names : s.names = [n]) (places : c.indexPlaces n = .ok (dropped ++ p :: left))
      (kept : p.primaryKey = true)
      (done : dropped.foldlM (fun b p => b.dropIndex n p) c = .ok c') :
      StoppedAt c (.dropIndex s) c'

namespace Outcome

theorem whole_of_failure {b : Builder} {r : Except CatalogError Builder} {e : CatalogError}
    (h : (whole b r).failure = some e) : (whole b r).builder = b := by
  cases r with
  | ok b' => cases h
  | error _ => rfl

/-- Where nothing fails, what is done for several targets is a fold. -/
theorem foldlM_of_each {α : Type} {f : Builder → α → Except CatalogError Builder} {b c : Builder}
    {as : List α} (h : each (fun b a => whole b (f b a)) b as = { builder := c }) :
    as.foldlM f b = .ok c := by
  induction as generalizing b with
  | nil =>
    rw [each] at h
    cases h
    rfl
  | cons a as ih =>
    rw [each] at h
    rw [List.foldlM_cons]
    cases ha : f b a with
    | ok b' =>
      rw [ha] at h
      exact ih h
    | error e =>
      rw [ha] at h
      cases h

end Outcome

/-- An index is not dropped only if it is that of a primary key. -/
theorem Builder.dropIndices_stoppedAt {c : Builder} (hc : c.Closed) {ifExists : Bool}
    {n : ObjectName} {e : CatalogError} (h : (c.dropIndices ifExists n).failure = some e) :
    c.StoppedAt (.dropIndex { names := [n], ifExists }) (c.dropIndices ifExists n).builder := by
  obtain ⟨places, hplaces⟩ := c.exists_indexPlaces_eq_ok n
  rw [dropIndices, hplaces] at h ⊢
  cases places with
  | nil =>
    dsimp only
    split <;> exact .unchanged _
  | cons first others =>
    obtain ⟨dropped, p, left, c', heq, hdone, hfails, hbuilder⟩ := Outcome.each_of_failure h
    have hc' : c' = (Outcome.each (fun b p => .whole b (b.dropIndex n p)) c dropped).builder := by
      rw [hdone]
    have hkeys : c'.entries.map (·.key) = c.entries.map (·.key) := by
      rw [hc']
      exact Outcome.each_invariant
        (P := fun b => b.entries.map (·.key) = c.entries.map (·.key))
        (fun b p hb => Outcome.whole_invariant hb fun b' hb' => (map_key_dropIndex hb').trans hb)
        dropped rfl
    have hkept : p.primaryKey = true := by
      by_contra hp
      have hmem : p ∈ first :: others := by simp [heq]
      have htable : p.table ∈ c'.entries.map (·.key) :=
        hkeys ▸ indexPlaces_table hc hplaces hmem
      obtain ⟨b', hb'⟩ := exists_dropIndex_eq_ok (n := n) htable (Bool.not_eq_true _ ▸ hp)
      rw [hb'] at hfails
      cases hfails
    rw [hbuilder, Outcome.whole_of_failure hfails]
    exact .primaryKey rfl (heq ▸ hplaces) hkept (Outcome.foldlM_of_each hdone)

namespace RevokeRole

theorem leave_eq_self {r : Role} {roles : List String}
    (h : (r.leave roles).memberships.length = r.memberships.length) : r.leave roles = r := by
  have hsame : r.memberships.filter (fun n => !roles.contains n) = r.memberships :=
    List.filter_sublist.eq_of_length h
  rw [Role.leave, hsame]

/-- A revocation that ends no membership of a grantee changes nothing. -/
theorem revokeFrom_eq_ok {s : RevokeRole} {grantee : String} {b : Builder} {n : Nat}
    {state : Builder × Nat} (h : s.revokeFrom (b, n) grantee = .ok state) :
    n ≤ state.2 ∧ (state.2 = n → state.1 = b) := by
  simp only [revokeFrom] at h
  split at h
  · rename_i r hr
    obtain ⟨c, hc, hpure⟩ := bind_eq_ok.mp h
    rw [pure_eq_ok] at hpure
    subst hpure
    refine ⟨Nat.le_add_right .., fun hcount => ?_⟩
    have hlength : (r.leave s.roles).memberships.length ≤ r.memberships.length :=
      List.length_filter_le ..
    have hsame : r.leave s.roles = r := leave_eq_self (by omega)
    have hname : r.name = grantee := by simpa using List.find?_some hr
    rw [hsame, Builder.replaceRole, hname] at hc
    split at hc <;> cases hc
    rw [replaceFirst_find? hr]
  · rw [pure_eq_ok] at h
    subst h
    exact ⟨Nat.le_refl _, fun _ => rfl⟩

/-- The count of memberships that ended does not go down, and while it stays the builder does. -/
theorem foldlM_revokeFrom_eq {s : RevokeRole} {grantees : List String} {b : Builder} {n : Nat}
    {state : Builder × Nat} (h : grantees.foldlM s.revokeFrom (b, n) = .ok state) :
    n ≤ state.2 ∧ (state.2 = n → state.1 = b) := by
  induction grantees generalizing b n with
  | nil =>
    rw [List.foldlM_nil, pure_eq_ok] at h
    subst h
    exact ⟨Nat.le_refl _, fun _ => rfl⟩
  | cons g grantees ih =>
    rw [List.foldlM_cons] at h
    obtain ⟨⟨c, m⟩, hstep, hrest⟩ := bind_eq_ok.mp h
    obtain ⟨hle, hsame⟩ := revokeFrom_eq_ok hstep
    obtain ⟨hle', hsame'⟩ := ih hrest
    dsimp only at hle hsame
    refine ⟨Nat.le_trans hle hle', fun hcount => ?_⟩
    rw [hsame' (by omega), hsame (by omega)]

theorem apply_of_failure {s : RevokeRole} {b : Builder} {e : CatalogError}
    (h : (s.apply b).failure = some e) : (s.apply b).builder = b := by
  rw [apply] at h ⊢
  split at h
  · rfl
  · rename_i c removed hfold
    split at h
    · rename_i hzero
      rw [if_pos hzero]
      exact (foldlM_revokeFrom_eq hfold).2 (beq_iff_eq.mp hzero)
    · cases h

end RevokeRole

/-- Granting roles to one grantee, or to none, fails before it changes anything. -/
theorem GrantRole.apply_of_failure {s : GrantRole} (hone : s.grantees.length ≤ 1) {b : Builder}
    {e : CatalogError} (h : (s.apply b).failure = some e) : (s.apply b).builder = b := by
  rw [apply] at h ⊢
  split at h
  · rfl
  · rcases hgrantees : s.grantees with _ | ⟨g, _ | ⟨g', rest⟩⟩
    · rfl
    · rw [hgrantees, Outcome.each_singleton] at h
      rw [Outcome.each_singleton]
      exact Outcome.whole_of_failure h
    · simp [hgrantees] at hone

namespace Statement

theorem exists_grantRole_of_mem_parts {s : GrantRole} {part : Statement}
    (hpart : part ∈ (grantRole s).parts) : ∃ s', s'.grantees.length ≤ 1 ∧ part = grantRole s' := by
  rw [parts] at hpart
  split at hpart
  · rename_i hempty
    exact ⟨s, by simp [List.isEmpty_iff.mp hempty], List.mem_singleton.mp hpart⟩
  · obtain ⟨g, -, rfl⟩ := List.mem_map.mp hpart
    exact ⟨{ s with grantees := [g] }, Nat.le_refl 1, rfl⟩

/-- A part that fails leaves the builder as it was, except for indexes before a primary key's. -/
theorem stoppedAt_of_mem_parts {s part : Statement} (hpart : part ∈ s.parts) {c : Builder}
    (hc : c.Closed) {e : CatalogError} (h : (part.apply c).failure = some e) :
    c.StoppedAt part (part.apply c).builder := by
  have hwhole {r : Except CatalogError Builder} {part : Statement}
      (heq : part.apply c = .whole c r) (h : (part.apply c).failure = some e) :
      c.StoppedAt part (part.apply c).builder := by
    rw [heq] at h ⊢
    rw [Outcome.whole_of_failure h]
    exact .unchanged part
  cases s with
  | dropIndex s =>
    obtain ⟨n, -, rfl⟩ := List.mem_map.mp hpart
    rw [Statement.apply, DropIndex.apply, Outcome.each_singleton] at h ⊢
    exact Builder.dropIndices_stoppedAt hc h
  | dropFunction s =>
    obtain ⟨t, -, rfl⟩ := List.mem_map.mp hpart
    exact hwhole (Outcome.each_singleton ..) h
  | dropRole s =>
    obtain ⟨n, -, rfl⟩ := List.mem_map.mp hpart
    exact hwhole (Outcome.each_singleton ..) h
  | dropSchema s =>
    obtain ⟨n, -, rfl⟩ := List.mem_map.mp hpart
    exact hwhole (Outcome.each_singleton ..) h
  | grantRole s =>
    obtain ⟨s', hone, rfl⟩ := exists_grantRole_of_mem_parts hpart
    rw [Statement.apply] at h ⊢
    rw [GrantRole.apply_of_failure hone h]
    exact .unchanged _
  | revokeRole s =>
    obtain rfl := List.mem_singleton.mp hpart
    rw [Statement.apply] at h ⊢
    rw [RevokeRole.apply_of_failure h]
    exact .unchanged _
  | setTimeZone value =>
    obtain rfl := List.mem_singleton.mp hpart
    cases h
  | commentOn _ =>
    obtain rfl := List.mem_singleton.mp hpart
    cases h
  | other kind sql =>
    obtain rfl := List.mem_singleton.mp hpart
    rw [Statement.apply] at h ⊢
    split <;> exact .unchanged _
  | _ =>
    obtain rfl := List.mem_singleton.mp hpart
    exact hwhole rfl h

/-! ## 3. Failures of a statement -/

/-- What a statement that fails makes of a builder: some of its parts are applied, and the next one
fails. -/
def PartlyDone (s : Statement) (b b' : Builder) (e : CatalogError) : Prop :=
  ∃ done part rest c, s.parts = done ++ part :: rest ∧ b.applyAll done = { builder := c }
    ∧ (part.apply c).failure = some e ∧ c.StoppedAt part b'

/-- A statement that fails is done up to the part that fails. -/
theorem apply_partlyDone {s : Statement} {b : Builder} (hb : b.Closed) {e : CatalogError}
    (h : (s.apply b).failure = some e) : s.PartlyDone b (s.apply b).builder e := by
  rw [apply_eq_applyAll_parts] at h ⊢
  obtain ⟨done, part, rest, c, hparts, hdone, hfails, hbuilder⟩ := Outcome.each_of_failure h
  have hc : (Outcome.each apply b done).builder.Closed :=
    Outcome.each_invariant (fun b s hb => apply_closed hb) done hb
  rw [hdone] at hc
  have hpart : part ∈ s.parts := by simp [hparts]
  refine ⟨done, part, rest, c, hparts, hdone, hfails, ?_⟩
  rw [Builder.applyAll, hbuilder]
  exact stoppedAt_of_mem_parts hpart hc hfails

/-- A statement that is its own only part, and drops no index, takes effect as a whole or not at
all. -/
theorem apply_of_failure {s : Statement} (hparts : s.parts = [s]) (hindex : ∀ d, s ≠ dropIndex d)
    {b : Builder} (hb : b.Closed) {e : CatalogError} (h : (s.apply b).failure = some e) :
    (s.apply b).builder = b := by
  generalize hb' : (s.apply b).builder = b'
  have hstopped := stoppedAt_of_mem_parts (hparts ▸ List.mem_singleton_self s) hb h
  rw [hb'] at hstopped
  cases hstopped with
  | unchanged => rfl
  | primaryKey => exact absurd rfl (hindex _)

end Statement

namespace Builder

/-- In whatever state of a run a statement fails, those of its targets that come before the failing
one have been dealt with, those after it have not, and of the failing one nothing is done, except
that indexes of a name may have been dropped before that of a primary key was found. -/
theorem states_failure_partlyDone (name : String) (statements : List Statement) (s : Statement)
    {e : CatalogError} (h : (s.apply ((initial name).run statements)).failure = some e) :
    s.PartlyDone ((initial name).run statements)
      (s.apply ((initial name).run statements)).builder e :=
  Statement.apply_partlyDone (run_closed (initial_consistent name).closed statements) h

/-- Of two roles to drop the second one is missing. -/
theorem states_failure_partlyDone_of_missing_role :
    let statements := Script.statements "CREATE ROLE a"
    let s : Statement := .dropRole { names := ["a", "b"] }
    (s.apply ((initial "shop").run statements)).failure = some (.notFound "role" "b")
      ∧ s.PartlyDone ((initial "shop").run statements)
        (s.apply ((initial "shop").run statements)).builder (.notFound "role" "b") := by
  intro statements s
  have hfails : (s.apply ((initial "shop").run statements)).failure
      = some (.notFound "role" "b") := by decide +kernel
  exact ⟨hfails, states_failure_partlyDone "shop" statements s hfails⟩

/-- A statement that fails may have taken effect in part: a role is dropped although another one
that was to be dropped with it is missing. -/
theorem failure_drops_role :
    ¬ ∀ (name : String) (statements : List Statement), (∀ s ∈ statements, s.Parsed) →
      ∀ s : Statement, s.Parsed → (s.apply ((initial name).run statements)).failure ≠ none →
        (s.apply ((initial name).run statements)).builder = (initial name).run statements := by
  intro h
  obtain ⟨s, hs, hfails, hroles⟩ : ∃ s ∈ Script.statements "DROP ROLE a, b",
      (s.apply ((initial "shop").run (Script.statements "CREATE ROLE a"))).failure ≠ none
        ∧ (s.apply ((initial "shop").run (Script.statements "CREATE ROLE a"))).builder.roles
          ≠ ((initial "shop").run (Script.statements "CREATE ROLE a")).roles := by decide +kernel
  have hsame := h "shop" _ (fun _ => Statement.Parsed.of_text) s (.of_text hs) hfails
  exact hroles (congrArg (fun b => b.roles) hsame)

end Builder

end SchemaCatalog
