import SchemaCatalog.Proofs.Success

/-!
# Roles that are named stay

A grant names its grantees and a role the roles that it is a member of; the names are checked when
they are given, unless they stand for no role of the catalog. `Builder.RolesKnown` says that they
are all known. Only dropping a role takes a name away. It does so where no grant names the role
(`dropRole_eq_ok`), and it ends the memberships in it: a member is no obstacle to the drop.

A statement that is not about roles leaves them as they are and grants nothing to further grantees,
which is `Builder.SameGrantees`. So the roles that are named are known in every state of a run,
`Builder.states_roles_known`, also when a statement with several targets has stopped halfway.
-/

namespace SchemaCatalog

namespace Builder

/-- The name stands for no role of the catalog, or is that of a role. -/
def KnowsRole (b : Builder) (name : String) : Prop :=
  isPseudoRole name = true ∨ ∃ r ∈ b.roles, r.name = name

/-- The grantees of the grants are known, and so are the roles that there are members of. -/
structure RolesKnown (b : Builder) : Prop where
  grantees : ∀ g ∈ b.grants, ∀ n ∈ g.grantees, b.KnowsRole n
  memberships : ∀ r ∈ b.roles, ∀ n ∈ r.memberships, b.KnowsRole n

variable {b b' : Builder}

theorem role?_isSome_iff {name : String} :
    (b.role? name).isSome = true ↔ ∃ r ∈ b.roles, r.name = name := by
  simp [role?]

/-- A role that must exist does so when it is known. -/
theorem requireRole_eq_ok {name referencedBy : String} :
    b.requireRole name referencedBy = .ok () ↔ b.KnowsRole name := by
  rw [requireRole, KnowsRole, ← role?_isSome_iff, ← Bool.or_eq_true]
  split <;> simp_all

/-- A name that is known stays so where no name of a role goes. -/
theorem KnowsRole.of_names {n : String} (h : b.KnowsRole n)
    (hsub : b.roles.map (·.name) ⊆ b'.roles.map (·.name)) : b'.KnowsRole n := by
  rcases h with hpseudo | ⟨r, hr, rfl⟩
  · exact Or.inl hpseudo
  · exact Or.inr (List.mem_map.mp (hsub (List.mem_map_of_mem hr)))

/-! ## 1. Statements that are not about roles -/

/-- The roles of two builders are the same, and the second one has no grant to other grantees. -/
structure SameGrantees (b b' : Builder) : Prop where
  roles : b'.roles = b.roles
  grants : ∀ g ∈ b'.grants, ∃ g₀ ∈ b.grants, g.grantees = g₀.grantees

theorem SameGrantees.of_eq (hroles : b'.roles = b.roles) (hgrants : b'.grants = b.grants) :
    b.SameGrantees b' :=
  ⟨hroles, fun g hg => ⟨g, hgrants ▸ hg, rfl⟩⟩

theorem SameGrantees.refl (b : Builder) : b.SameGrantees b := .of_eq rfl rfl

theorem SameGrantees.trans {c : Builder} (h : b.SameGrantees b') (h' : b'.SameGrantees c) :
    b.SameGrantees c := by
  refine ⟨h'.roles.trans h.roles, fun g hg => ?_⟩
  obtain ⟨g₁, hg₁, heq⟩ := h'.grants g hg
  obtain ⟨g₀, hg₀, heq'⟩ := h.grants g₁ hg₁
  exact ⟨g₀, hg₀, heq.trans heq'⟩

theorem RolesKnown.of_sameGrantees (hb : b.RolesKnown) (h : b.SameGrantees b') :
    b'.RolesKnown := by
  have hknows {n : String} (hn : b.KnowsRole n) : b'.KnowsRole n :=
    hn.of_names (by rw [h.roles]; exact List.Subset.refl _)
  refine { grantees := fun g hg n hn => ?_, memberships := fun r hr n hn => ?_ }
  · obtain ⟨g₀, hg₀, heq⟩ := h.grants g hg
    exact hknows (hb.grantees g₀ hg₀ n (heq ▸ hn))
  · exact hknows (hb.memberships r (h.roles ▸ hr) n hn)

/-- Grants may be replaced by others to the same grantees. -/
theorem sameGrantees_replaceGrants {p : Grant → Bool} {f : Grant → Option Grant}
    (hf : ∀ g, ∀ g' ∈ f g, g'.grantees = g.grantees) : b.SameGrantees (b.replaceGrants p f) := by
  refine ⟨rfl, fun g hg => ?_⟩
  obtain ⟨g₀, hg₀, heq⟩ := List.mem_filterMap.mp hg
  refine ⟨g₀, hg₀, ?_⟩
  split at heq
  · exact hf g₀ g heq
  · cases heq
    rfl

theorem sameGrantees_of_removeTable {key : TableKey} (h : b.removeTable key = .ok b') :
    b.SameGrantees b' := by
  rw [removeTable_eq_ok h]
  refine ⟨rfl, fun g hg => ?_⟩
  obtain ⟨g₀, hg₀, rfl⟩ := List.mem_map.mp (List.mem_of_mem_filter hg)
  refine ⟨g₀, hg₀, ?_⟩
  rw [Grant.withoutTable]
  split <;> rfl

theorem sameGrantees_of_removeTables {ts : List Table}
    (h : ts.foldlM (fun b t => b.removeTable t.key) b = .ok b') : b.SameGrantees b' :=
  removeTables_invariant (fun _ _ _ hc hremoved => hc.trans (sameGrantees_of_removeTable hremoved))
    (.refl b) h

theorem sameGrantees_of_renameTable {old new : TableKey} (h : b.renameTable old new = .ok b') :
    b.SameGrantees b' := by
  rw [renameTable] at h
  split at h <;> cases h
  refine ⟨rfl, fun g hg => ?_⟩
  obtain ⟨g₀, hg₀, rfl⟩ := List.mem_map.mp hg
  refine ⟨g₀, hg₀, ?_⟩
  rw [Grant.renameTable]
  split <;> rfl

theorem sameGrantees_of_replaceSchema {name : String} {s : Schema}
    (h : b.replaceSchema name s = .ok b') : b.SameGrantees b' := by
  rw [replaceSchema_eq_ok h]
  exact .of_eq rfl rfl

theorem sameGrantees_of_renameSchema {schema : Schema} {new : String}
    (h : b.renameSchema schema new = .ok b') : b.SameGrantees b' := by
  refine renameSchema_invariant (P := b.SameGrantees) ?_ ?_ ?_ (.refl b) h
  · exact fun c _ _ c' hc h => hc.trans (sameGrantees_of_renameTable h)
  · exact fun c hc => hc.trans (sameGrantees_replaceGrants fun g g' hg' => by cases hg'; rfl)
  · exact fun c s c' hc h => hc.trans (sameGrantees_of_replaceSchema h)

theorem sameGrantees_of_alterSchema {s : AlterSchema} (h : s.apply b = .ok b') :
    b.SameGrantees b' := by
  rw [AlterSchema.apply] at h
  split at h
  · split at h <;> cases h
    exact .refl b
  · split at h
    · exact sameGrantees_of_replaceSchema h
    · exact sameGrantees_of_renameSchema h

theorem sameGrantees_of_dropSchema {ifExists cascade : Bool} {name : String}
    (h : b.dropSchema ifExists cascade name = .ok b') : b.SameGrantees b' := by
  rcases dropSchema_eq_ok h with rfl | ⟨c, hremoved, -, rfl⟩
  · exact .refl b'
  · have hgrants : c.SameGrantees (c.replaceGrants (·.objects.nameSchema name) fun _ => none) :=
      sameGrantees_replaceGrants fun g g' hg' => by cases hg'
    exact (sameGrantees_of_removeTables hremoved).trans (hgrants.trans (.of_eq rfl rfl))

theorem sameGrantees_of_createSchema {s : CreateSchema} (h : s.apply b = .ok b') :
    b.SameGrantees b' := by
  rw [CreateSchema.apply] at h
  split at h
  · split at h <;> cases h
    exact .refl b
  · cases h
    exact .of_eq rfl rfl

theorem sameGrantees_of_revokePrivileges {s : RevokePrivileges} (h : s.apply b = .ok b') :
    b.SameGrantees b' := by
  obtain ⟨p, rfl⟩ := RevokePrivileges.apply_eq_ok h
  refine sameGrantees_replaceGrants fun g g' hg' => ?_
  split at hg' <;> cases hg'
  rfl

theorem sameGrantees_dropIndices (b : Builder) (ifExists : Bool) (n : ObjectName) :
    b.SameGrantees (b.dropIndices ifExists n).builder := by
  refine dropIndices_invariant (P := b.SameGrantees) (fun c p c' hc h => hc.trans ?_) _ (.refl b)
  rw [dropIndex_eq_ok h]
  exact .of_eq rfl rfl

/-! ## 2. Roles -/

/-- A role is created where there is none of its name, a member of roles that are known. -/
theorem createRole_eq_ok {s : CreateRole} (h : s.apply b = .ok b') :
    (∀ n ∈ s.memberOf, b.KnowsRole n)
      ∧ b' = b.addRole { name := s.name, options := s.options, memberships := s.memberOf } := by
  simp only [CreateRole.apply, guard_eq_ok, bind_eq_ok, pure_eq_ok] at h
  obtain ⟨-, _, hparents, rfl⟩ := h
  exact ⟨fun n hn => requireRole_eq_ok.mp (forM_eq_ok.mp hparents n hn), rfl⟩

theorem createRole_rolesKnown {s : CreateRole} (hb : b.RolesKnown) (h : s.apply b = .ok b') :
    b'.RolesKnown := by
  obtain ⟨hparents, rfl⟩ := createRole_eq_ok h
  have hknows {n : String} (hn : b.KnowsRole n) : (b.addRole
      { name := s.name, options := s.options, memberships := s.memberOf }).KnowsRole n :=
    hn.of_names (by rw [addRole, List.map_append]; exact List.subset_append_left _ _)
  refine { grantees := fun g hg n hn => hknows (hb.grantees g hg n hn), memberships := ?_ }
  intro r hr n hn
  rcases List.mem_append.mp hr with hold | hlast
  · exact hknows (hb.memberships r hold n hn)
  · rw [List.mem_singleton.mp hlast] at hn
    exact hknows (hparents n hn)

/-- A role is dropped where no grant names it. -/
theorem dropRole_eq_ok {ifExists : Bool} {name : String} (h : b.dropRole ifExists name = .ok b') :
    b' = b ∨ (∀ g ∈ b.grants, name ∉ g.grantees) ∧ b' = b.removeRole name := by
  simp only [dropRole] at h
  split at h
  · split at h <;> cases h
    exact Or.inl rfl
  · split at h <;> cases h
    rename_i hfree
    refine Or.inr ⟨fun g hg hn => ?_, rfl⟩
    rw [List.isEmpty_iff, roleDependents, List.filter_eq_nil_iff] at hfree
    exact hfree g hg (List.contains_iff_mem.mpr hn)

/-- Every other name stays known when a role is removed. -/
theorem KnowsRole.removeRole {n name : String} (h : b.KnowsRole n) (hne : n ≠ name) :
    (b.removeRole name).KnowsRole n := by
  rcases h with hpseudo | ⟨r, hr, rfl⟩
  · exact Or.inl hpseudo
  · have hstays : r ∈ b.roles.filter (·.name != name) :=
      List.mem_filter.mpr ⟨hr, bne_iff_ne.mpr hne⟩
    exact Or.inr ⟨_, List.mem_map_of_mem hstays, rfl⟩

/-- A role that is dropped is named by no grant, and nobody is a member of it any more. -/
theorem dropRole_rolesKnown {ifExists : Bool} {name : String} (hb : b.RolesKnown)
    (h : b.dropRole ifExists name = .ok b') : b'.RolesKnown := by
  rcases dropRole_eq_ok h with rfl | ⟨hfree, rfl⟩
  · exact hb
  · refine { grantees := fun g hg n hn => ?_, memberships := fun r hr n hn => ?_ }
    · exact (hb.grantees g hg n hn).removeRole fun heq => hfree g hg (heq ▸ hn)
    · obtain ⟨r₀, hr₀, rfl⟩ := List.mem_map.mp hr
      obtain ⟨hmember, hne⟩ := List.mem_filter.mp hn
      have hknown := hb.memberships r₀ (List.mem_of_mem_filter hr₀) n hmember
      exact hknown.removeRole (bne_iff_ne.mp hne)

/-! ## 3. Memberships -/

theorem replaceRole_eq_ok {r : Role} (h : b.replaceRole r = .ok b') :
    b' = { b with roles := replaceFirst (·.name == r.name) (fun _ => r) b.roles } := by
  rw [replaceRole] at h
  split at h <;> cases h
  rfl

/-- Replacing a role by one of its name keeps the names of all roles. -/
theorem KnowsRole.replaceRole {n : String} (hn : b.KnowsRole n) {r : Role}
    (h : b.replaceRole r = .ok b') : b'.KnowsRole n := by
  have hnames : b'.roles.map (·.name) = b.roles.map (·.name) := by
    rw [replaceRole_eq_ok h]
    exact map_replaceFirst (g := Role.name) (fun r' hr' => (beq_iff_eq.mp hr').symm) _
  exact hn.of_names (by rw [hnames]; exact List.Subset.refl _)

/-- A role may be replaced by one that is a member of roles which are known. -/
theorem replaceRole_rolesKnown {r : Role} (hb : b.RolesKnown)
    (hr : ∀ n ∈ r.memberships, b.KnowsRole n) (h : b.replaceRole r = .ok b') : b'.RolesKnown := by
  refine { grantees := fun g hg n hn => ?_, memberships := fun r' hr' n hn => ?_ }
  · rw [replaceRole_eq_ok h] at hg
    exact (hb.grantees g hg n hn).replaceRole h
  · rw [replaceRole_eq_ok h] at hr'
    rcases mem_replaceFirst hr' with hold | ⟨_, -, -, rfl⟩
    · exact (hb.memberships r' hold n hn).replaceRole h
    · exact (hr n hn).replaceRole h

theorem mem_of_role? {name : String} {r : Role} (h : b.role? name = some r) : r ∈ b.roles :=
  List.mem_of_find?_eq_some h

/-- Making one grantee a member keeps the granted roles known for the next one. -/
theorem grantTo_rolesKnown {s : GrantRole} {grantee : String}
    (hb : b.RolesKnown ∧ ∀ n ∈ s.roles, b.KnowsRole n) (h : s.grantTo b grantee = .ok b') :
    b'.RolesKnown ∧ ∀ n ∈ s.roles, b'.KnowsRole n := by
  obtain ⟨hknown, hroles⟩ := hb
  simp only [GrantRole.grantTo, bind_eq_ok] at h
  obtain ⟨_, -, h⟩ := h
  split at h
  · rename_i r hr
    have hstay : ∀ n ∈ s.roles, b'.KnowsRole n := fun n hn => (hroles n hn).replaceRole h
    refine ⟨replaceRole_rolesKnown hknown (fun n hn => ?_) h, hstay⟩
    rcases List.mem_append.mp hn with hold | hnew
    · exact hknown.memberships r (mem_of_role? hr) n hold
    · exact hroles n (List.mem_of_mem_filter hnew)
  · rw [pure_eq_ok] at h
    exact h ▸ ⟨hknown, hroles⟩

theorem grantRole_rolesKnown (s : GrantRole) (hb : b.RolesKnown) :
    (s.apply b).builder.RolesKnown := by
  rw [GrantRole.apply]
  split
  · exact hb
  · rename_i hrequired
    have hroles : ∀ n ∈ s.roles, b.KnowsRole n := fun n hn =>
      requireRole_eq_ok.mp (forM_eq_ok.mp hrequired n hn)
    exact (Outcome.each_invariant
      (fun _ _ hc => Outcome.whole_invariant hc fun _ => grantTo_rolesKnown hc) _ ⟨hb, hroles⟩).1

/-- Ending memberships takes names away from roles only. -/
theorem revokeFrom_rolesKnown {s : RevokeRole} {grantee : String} {state state' : Builder × Nat}
    (hb : state.1.RolesKnown) (h : s.revokeFrom state grantee = .ok state') :
    state'.1.RolesKnown := by
  rw [RevokeRole.revokeFrom] at h
  split at h
  · rename_i r hr
    simp only [bind_eq_ok, pure_eq_ok] at h
    obtain ⟨c, hreplaced, rfl⟩ := h
    refine replaceRole_rolesKnown hb (fun n hn => ?_) hreplaced
    exact hb.memberships r (mem_of_role? hr) n (List.mem_of_mem_filter hn)
  · rw [pure_eq_ok] at h
    exact h ▸ hb

theorem revokeRole_rolesKnown (s : RevokeRole) (hb : b.RolesKnown) :
    (s.apply b).builder.RolesKnown := by
  rw [RevokeRole.apply]
  split
  · exact hb
  · rename_i c removed hfold
    have hc : c.RolesKnown :=
      foldlM_invariant (P := fun state : Builder × Nat => state.1.RolesKnown)
        (fun _ _ _ _ => revokeFrom_rolesKnown) hb hfold
    split <;> exact hc

/-! ## 4. Grants -/

/-- Privileges are granted to grantees that are known. -/
theorem grantPrivileges_grantees {s : GrantPrivileges} (h : s.apply b = .ok b') :
    ∀ n ∈ s.grantees, b.KnowsRole n := by
  simp only [GrantPrivileges.apply] at h
  obtain ⟨_, hgrantees, -⟩ := bind_eq_ok.mp h
  exact fun n hn => requireRole_eq_ok.mp (forM_eq_ok.mp hgrantees n hn)

theorem grantPrivileges_rolesKnown {s : GrantPrivileges} (hb : b.RolesKnown)
    (h : s.apply b = .ok b') : b'.RolesKnown := by
  have hknown := grantPrivileges_grantees h
  obtain ⟨objects, _, -, -, rfl⟩ := GrantPrivileges.apply_eq_ok h
  refine { grantees := fun g hg n hn => ?_, memberships := hb.memberships }
  rcases List.mem_append.mp hg with hold | hlast
  · exact hb.grantees g hold n hn
  · rw [List.mem_singleton.mp hlast] at hn
    exact hknown n hn

end Builder

/-! ## 5. All statements -/

open Builder in
/-- A statement leaves the roles that are named known, whether it fails or not. -/
theorem Statement.apply_rolesKnown {b : Builder} (s : Statement) (hb : b.RolesKnown) :
    (s.apply b).builder.RolesKnown := by
  -- All but the five kinds of statements about roles and grantees leave the same grantees.
  have hsame {r : Except CatalogError Builder} (h : ∀ b', r = .ok b' → b.SameGrantees b') :
      (Outcome.whole b r).builder.RolesKnown :=
    Outcome.whole_invariant hb fun b' hb' => hb.of_sameGrantees (h b' hb')
  cases s with
  | createRole s => exact Outcome.whole_invariant hb fun _ => createRole_rolesKnown hb
  | dropRole s =>
    exact Outcome.each_invariant
      (fun _ _ hb => Outcome.whole_invariant hb fun _ => dropRole_rolesKnown hb) _ hb
  | grantRole s => exact grantRole_rolesKnown s hb
  | revokeRole s => exact revokeRole_rolesKnown s hb
  | grantPrivileges s => exact Outcome.whole_invariant hb fun _ => grantPrivileges_rolesKnown hb
  | revokePrivileges s => exact hsame fun _ => sameGrantees_of_revokePrivileges
  | createTable s =>
    refine hsame fun _ h => ?_
    rcases CreateTable.apply_eq_ok h with rfl | ⟨m, -, -, rfl⟩ <;> exact .of_eq rfl rfl
  | dropTable s =>
    refine hsame fun _ h => ?_
    obtain ⟨dropped, -, -, hremoved⟩ := DropTable.apply_eq_ok h
    exact sameGrantees_of_removeTables hremoved
  | alterTable s =>
    refine hsame fun _ h => ?_
    rcases AlterTable.apply_eq_ok h with rfl | ⟨t, rfl⟩ <;> exact .of_eq rfl rfl
  | createIndex s =>
    refine hsame fun _ h => ?_
    rcases CreateIndex.apply_eq_ok h with rfl | ⟨t, -, rfl⟩ <;> exact .of_eq rfl rfl
  | dropIndex s =>
    exact Outcome.each_invariant
      (fun c n hc => hc.of_sameGrantees (c.sameGrantees_dropIndices s.ifExists n)) _ hb
  | createFunction s =>
    refine hsame fun _ h => ?_
    rcases createFunction_eq_ok h with ⟨-, rfl⟩ | ⟨g, -, -, rfl⟩ <;> exact .of_eq rfl rfl
  | dropFunction s =>
    refine Outcome.each_invariant (fun c target hc => Outcome.whole_invariant hc fun c' h => ?_) _ hb
    refine hc.of_sameGrantees ?_
    rcases dropFunctions_eq_ok h with rfl | ⟨rfl, -⟩ <;> exact .of_eq rfl rfl
  | createTrigger s =>
    refine hsame fun _ h => ?_
    obtain ⟨t, f, e, -, -, -, -, rfl | rfl⟩ := CreateTrigger.apply_eq_ok h <;> exact .of_eq rfl rfl
  | dropTrigger s =>
    refine hsame fun _ h => ?_
    rcases DropTrigger.apply_eq_ok h with rfl | ⟨p, rfl⟩ <;> exact .of_eq rfl rfl
  | createPolicy s =>
    refine hsame fun _ h => ?_
    obtain ⟨t, p, -, -, -, -, rfl⟩ := CreatePolicy.apply_eq_ok h
    exact .of_eq rfl rfl
  | dropPolicy s =>
    refine hsame fun _ h => ?_
    rcases DropPolicy.apply_eq_ok h with rfl | ⟨p, rfl⟩ <;> exact .of_eq rfl rfl
  | createSchema s => exact hsame fun _ => sameGrantees_of_createSchema
  | dropSchema s =>
    exact Outcome.each_invariant
      (fun _ _ hb => Outcome.whole_invariant hb fun _ h =>
        hb.of_sameGrantees (sameGrantees_of_dropSchema h)) _ hb
  | alterSchema s => exact hsame fun _ => sameGrantees_of_alterSchema
  | setTimeZone value => exact hb.of_sameGrantees (.of_eq rfl rfl)
  | commentOn _ => exact hb
  | other kind sql =>
    rw [Statement.apply]
    split <;> exact hb

namespace Builder

/-- There is no role and no grant at the start. -/
theorem initial_rolesKnown (name : String) : (initial name).RolesKnown where
  grantees := by simp [initial]
  memberships := by simp [initial]

theorem run_rolesKnown {b : Builder} (hb : b.RolesKnown) (statements : List Statement) :
    (b.run statements).RolesKnown :=
  run_keeps (fun s _ _ => s.apply_rolesKnown) hb

/-- Whatever statements are applied to an empty builder, and whether they fail or not, each grantee
of a grant and each role that another one is a member of stands for no role of the catalog or is one
of it. -/
theorem states_roles_known (name : String) (statements : List Statement) :
    ((initial name).run statements).RolesKnown :=
  run_rolesKnown (initial_rolesKnown name) statements

end Builder

end SchemaCatalog
