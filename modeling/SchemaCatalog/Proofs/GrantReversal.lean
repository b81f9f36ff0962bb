import SchemaCatalog.Proofs.Revocation

/-!
# Taking back a grant

A grant is kept with the objects that it resolves to, and a revocation resolves its own objects before
it looks for grants over them. The two are written apart, but where tables are distinct they come to
the same objects, for every kind of object and for either spelling of a table
(`RevokePrivileges.resolvedObjects_of_reverses`). So the revocation of what was granted is about the
new grant, which is the last one, and where it was about no other grant it leaves the builder from
before: `Builder.ReversesGrants`.

There is one way out. A revocation is about a grant only if they have a privilege in common, and a
grant may be read that names none, since the items of a list that are empty are passed over. Such a
grant is taken back by nothing, `Builder.grant_of_nothing_stays`.
-/

namespace SchemaCatalog

/-- The statement names a privilege, or all of them. -/
def GrantPrivileges.NamesPrivilege (s : GrantPrivileges) : Prop :=
  s.allPrivileges = true ∨ s.privileges ≠ []

instance (s : GrantPrivileges) : Decidable s.NamesPrivilege := inferInstanceAs (Decidable (_ ∨ _))

/-- The revocation is that of the grant: of the same privileges on the same objects, of which tables
may be spelled otherwise, from the same grantees, and not of the grant option only. -/
structure RevokePrivileges.Reverses (r : RevokePrivileges) (s : GrantPrivileges) : Prop where
  privileges : r.privileges = s.privileges
  allPrivileges : r.allPrivileges = s.allPrivileges
  grantees : r.grantees = s.grantees
  grantOptionFor : r.grantOptionFor = false
  kind : r.objects.kind = s.objects.kind
  names : if s.objects.kind = .tables
    then List.Forall₂ ObjectName.Respells s.objects.names r.objects.names
    else r.objects.names = s.objects.names

/-- The grant of privileges that a statement is. -/
def Statement.grant? : Statement → Option GrantPrivileges
  | grantPrivileges s => some s
  | _ => none

theorem Statement.grant?_eq_some {s : Statement} {g : GrantPrivileges} :
    s.grant? = some g ↔ s = .grantPrivileges g := by
  cases s <;> simp [grant?]

variable {b b' : Builder}

/-! ## 1. Objects -/

/-- Objects that are no tables stay as they are. -/
theorem resolveObjects_of_kind_ne {objects found : GrantObjects} {referencedBy : String}
    (hkind : objects.kind ≠ .tables) (h : resolveObjects b objects referencedBy = .ok found) :
    found = objects := by
  rw [resolveObjects] at h
  split at h
  · rename_i htables
    exact absurd htables hkind
  all_goals
    first
      | exact (pure_eq_ok.mp h).symm
      | obtain ⟨_, -, hpure⟩ := bind_eq_ok.mp h
        exact (pure_eq_ok.mp hpure).symm

/-- The keys that names are resolved to are those by which other spellings of them are compared. -/
theorem eq_map_keyOf_of_respells (hb : b.DistinctTables) {ns ns' keys : List ObjectName}
    (hkeys : List.Forall₂ (fun n key => ∃ t, b.resolve? n = some t ∧ key = Table.key t) ns keys)
    (h : List.Forall₂ ObjectName.Respells ns ns') : keys = ns'.map b.keyOf := by
  induction hkeys generalizing ns' with
  | nil => cases h; rfl
  | cons hkey _ ih =>
    cases h with
    | @cons _ n' _ _ hn hns =>
      obtain ⟨t, ht, rfl⟩ := hkey
      have htable : b.keyOf n' = t.key := by
        rw [Builder.keyOf, Builder.resolve?_respells hb hn, ht]
      rw [List.map_cons, htable, ih hns]

/-- Replacing some grants leaves the others in their order, if what they are replaced by is of the
same sort. -/
theorem Builder.filter_replaceGrants {p : Grant → Bool} {f : Grant → Option Grant}
    (h : ∀ g, p g = true → ∀ g' ∈ f g, p g' = true) :
    (b.replaceGrants p f).grants.filter (!p ·) = b.grants.filter (!p ·) := by
  rw [replaceGrants]
  induction b.grants with
  | nil => rfl
  | cons g gs ih =>
    rw [List.filterMap_cons]
    cases hg : p g with
    | false => simp [hg, ih]
    | true =>
      cases hf : f g with
      | none => simp [hg, ih]
      | some g' => simp [hg, ih, h g hg g' hf]

namespace RevokePrivileges

variable {r : RevokePrivileges} {s : GrantPrivileges}

/-- A revocation resolves its objects to those of the grant that it reverses. -/
theorem resolvedObjects_of_reverses (hb : b.DistinctTables) (hr : r.Reverses s)
    {found : GrantObjects} {referencedBy : String}
    (h : resolveObjects b s.objects referencedBy = .ok found) : r.resolvedObjects b = found := by
  have hnames := hr.names
  by_cases hkind : s.objects.kind = .tables
  · rw [if_pos hkind] at hnames
    obtain ⟨hfound, hkeys⟩ := resolveObjects_eq_ok h
    refine ((eq_resolvedObjects_iff (hr.kind.trans hkind) found).mpr ⟨hfound.trans hkind, ?_⟩).symm
    exact eq_map_keyOf_of_respells hb (hkeys hkind) hnames
  · rw [if_neg hkind] at hnames
    have hobjects : r.objects = s.objects := GrantObjects.mk.injEq .. ▸ ⟨hr.kind, hnames⟩
    have hother : ¬ (r.objects.kind == .tables) = true := by
      rw [hr.kind, beq_iff_eq]
      exact hkind
    rw [resolvedObjects, if_neg hother, hobjects, resolveObjects_of_kind_ne hkind h]

/-! ## 2. Grants -/

/-- A revocation is about the grant that it reverses, exactly if that names a privilege. -/
theorem isAbout_of_reverses (hr : r.Reverses s) (hgrantees : s.grantees ≠ [])
    (objects : GrantObjects) :
    r.isAbout objects { s.grant with objects } = true ↔ s.NamesPrivilege := by
  obtain ⟨grantee, hgrantee⟩ := List.exists_mem_of_ne_nil _ hgrantees
  have hcommon : ∃ grantee ∈ r.grantees, grantee ∈ s.grantees :=
    ⟨grantee, hr.grantees ▸ hgrantee, hgrantee⟩
  rw [isAbout_iff, hr.allPrivileges, hr.privileges, GrantPrivileges.NamesPrivilege]
  constructor
  · rintro ⟨-, -, hall | hall | ⟨p, hp, -⟩⟩
    · exact Or.inl hall
    · exact Or.inl hall
    · exact Or.inr (List.ne_nil_of_mem hp)
  · intro hnames
    refine ⟨rfl, hcommon, hnames.imp_right fun hsome => Or.inr ?_⟩
    obtain ⟨p, hp⟩ := List.exists_mem_of_ne_nil _ hsome
    exact ⟨p, hp, List.mem_map_of_mem hp⟩

/-- A revocation fails if it is about no grant, and in no other way. -/
theorem apply_eq_error_iff {e : CatalogError} :
    r.apply b = .error e ↔ e = .revokeMismatch (r.describe (r.resolvedObjects b))
      ∧ ∀ g ∈ b.grants, r.isAbout (r.resolvedObjects b) g = false := by
  have hany : b.grants.any (r.isAbout (r.resolvedObjects b)) = false
      ↔ ∀ g ∈ b.grants, r.isAbout (r.resolvedObjects b) g = false := by
    simp [List.any_eq_false]
  rw [← hany]
  simp only [RevokePrivileges.apply]
  split
  · rename_i hsome
    simp [hsome]
  · rename_i hnone
    rw [Except.error.injEq, eq_comm]
    exact (and_iff_left (Bool.not_eq_true _ ▸ hnone)).symm

/-- Adding a grant leaves the tables, and with them what objects are resolved to. -/
theorem resolvedObjects_addGrant (r : RevokePrivileges) (b : Builder) (g : Grant) :
    r.resolvedObjects (b.addGrant g) = r.resolvedObjects b := rfl

/-- A revocation that is about the last grant alone leaves the builder without it. -/
theorem apply_addGrant (hoption : r.grantOptionFor = false) {g : Grant}
    (hnone : ∀ g ∈ b.grants, r.isAbout (r.resolvedObjects b) g = false)
    (habout : r.isAbout (r.resolvedObjects b) g = true) : r.apply (b.addGrant g) = .ok b := by
  have hany : (b.grants ++ [g]).any (r.isAbout (r.resolvedObjects b)) = true :=
    List.any_eq_true.mpr ⟨g, List.mem_append_right _ (List.mem_singleton_self g), habout⟩
  have hkept : (b.grants ++ [g]).filterMap (fun g =>
      if r.isAbout (r.resolvedObjects b) g then none else some g) = b.grants := by
    have hold : b.grants.filterMap (fun g =>
        if r.isAbout (r.resolvedObjects b) g then none else some g) = b.grants.filterMap some :=
      List.filterMap_congr fun g hg => if_neg (by simp [hnone g hg])
    rw [List.filterMap_append, hold, List.filterMap_some]
    simp [habout]
  rw [RevokePrivileges.apply]
  refine (if_pos hany).trans ?_
  simp only [Builder.replaceGrants, hoption, Bool.false_eq_true, if_false]
  exact congrArg (fun grants => Except.ok { b with grants }) hkept

/-- The revocation that reverses a grant, and is about none of the grants before, leaves them. -/
theorem apply_of_reverses (hb : b.DistinctTables) (hr : r.Reverses s) (hgrantees : s.grantees ≠ [])
    (hgranted : s.apply b = .ok b')
    (hnone : ∀ g ∈ b.grants, r.isAbout (r.resolvedObjects b) g = false) :
    (s.NamesPrivilege → r.apply b' = .ok b)
      ∧ (¬ s.NamesPrivilege →
          r.apply b' = .error (.revokeMismatch (r.describe (r.resolvedObjects b)))) := by
  obtain ⟨found, referencedBy, hfound, -, rfl⟩ := GrantPrivileges.apply_eq_ok hgranted
  have hlast := isAbout_of_reverses hr hgrantees found
  rw [← resolvedObjects_of_reverses hb hr hfound] at hlast ⊢
  refine ⟨fun hnames => apply_addGrant hr.grantOptionFor hnone (hlast.mpr hnames),
    fun hnameless => ?_⟩
  rw [apply_eq_error_iff, resolvedObjects_addGrant]
  refine ⟨rfl, List.forall_mem_append.mpr ⟨hnone, ?_⟩⟩
  simpa using hlast.not.mpr hnameless

/-- A revocation changes nothing but grants that it is about: the others are left in their order. -/
theorem grants_of_apply (h : r.apply b = .ok b') :
    b' = { b with grants := b'.grants }
      ∧ b'.grants.filter (!r.isAbout (r.resolvedObjects b) ·)
        = b.grants.filter (!r.isAbout (r.resolvedObjects b) ·) := by
  simp only [RevokePrivileges.apply] at h
  split at h <;> cases h
  refine ⟨rfl, Builder.filter_replaceGrants fun g hg g' hg' => ?_⟩
  -- A grant that only loses its grant option is still one that the revocation is about.
  split at hg' <;> cases hg'
  exact hg

end RevokePrivileges

/-! ## 3. Any builder -/

namespace Builder

/-- Revocations take grants back. Where tables are distinct, the revocation that reverses a grant leaves
the builder from before the grant if it had nothing to revoke there, unless the grant names no
privilege, and then it has nothing to revoke still. A revocation that fails leaves the builder, and
any other one the grants that it is not about. -/
structure ReversesGrants (b : Builder) : Prop where
  reversed : b.DistinctTables → ∀ (s : GrantPrivileges) (r : RevokePrivileges) b' text,
    (Statement.grantPrivileges s).Parsed → s.apply b = .ok b' → r.Reverses s →
      r.apply b = .error (.revokeMismatch text) →
        (s.NamesPrivilege → r.apply b' = .ok b)
          ∧ (¬ s.NamesPrivilege → r.apply b' = .error (.revokeMismatch text))
  failed : ∀ (r : RevokePrivileges) e,
    ((Statement.revokePrivileges r).apply b).failure = some e →
      ((Statement.revokePrivileges r).apply b).builder = b
  others : ∀ (r : RevokePrivileges) b', r.apply b = .ok b' →
    b' = { b with grants := b'.grants }
      ∧ b'.grants.filter (!r.isAbout (r.resolvedObjects b) ·)
        = b.grants.filter (!r.isAbout (r.resolvedObjects b) ·)

/-- In any state, of a run or not, revocations take grants back. -/
theorem reversesGrants (b : Builder) : b.ReversesGrants where
  reversed hb s r b' text hparsed hgranted hr hmismatch := by
    obtain ⟨htext, hnone⟩ := RevokePrivileges.apply_eq_error_iff.mp hmismatch
    rw [htext]
    exact RevokePrivileges.apply_of_reverses hb hr hparsed.grantsSome.2 hgranted hnone
  failed r e h := by
    rw [Statement.apply] at h ⊢
    cases happly : r.apply b with
    | ok b' => rw [happly] at h; cases h
    | error e => rfl
  others r b' h := RevokePrivileges.grants_of_apply h

/-- What is granted on a table with its schema is taken back without, and the grant that was there
before stays. -/
theorem reversesGrants_of_other_spelling :
    let granting (kind : String) (table : ObjectName) : GrantPrivileges :=
      { privileges := [{ kind }], objects := ⟨.tables, [table]⟩, grantees := ["PUBLIC"] }
    let b := (initial "shop").run
      [.createTable { name := ⟨"t", none⟩, columns := [{ name := "x", dataType := "int" }] },
        .grantPrivileges (granting "UPDATE" ⟨"t", none⟩)]
    let r : RevokePrivileges :=
      { privileges := [{ kind := "SELECT" }]
        objects := ⟨.tables, [⟨"t", none⟩]⟩
        grantees := ["PUBLIC"] }
    b.grants.length = 1 ∧ r.Reverses (granting "SELECT" ⟨"t", some "public"⟩)
      ∧ ∃ b', (granting "SELECT" ⟨"t", some "public"⟩).apply b = .ok b' ∧ r.apply b' = .ok b := by
  intro granting b r
  obtain ⟨hdistinct, hone, hnone, hgranted, st, hst, hs⟩ : b.DistinctTables ∧ b.grants.length = 1
      ∧ (∀ g ∈ b.grants, r.isAbout (r.resolvedObjects b) g = false)
      ∧ ((granting "SELECT" ⟨"t", some "public"⟩).apply b).toOption.isSome = true
      ∧ ∃ st ∈ Script.statements "GRANT SELECT ON public.t TO PUBLIC",
        st.grant? = some (granting "SELECT" ⟨"t", some "public"⟩) := by
    decide +kernel
  have hparsed : (Statement.grantPrivileges (granting "SELECT" ⟨"t", some "public"⟩)).Parsed :=
    Statement.grant?_eq_some.mp hs ▸ .of_text hst
  have hreverses : r.Reverses (granting "SELECT" ⟨"t", some "public"⟩) :=
    ⟨rfl, rfl, rfl, rfl, rfl, .cons (.inr rfl) .nil⟩
  refine ⟨hone, hreverses, ?_⟩
  cases happly : (granting "SELECT" ⟨"t", some "public"⟩).apply b with
  | error e => rw [happly] at hgranted; cases hgranted
  | ok b' =>
    refine ⟨b', rfl, ?_⟩
    exact ((reversesGrants b).reversed hdistinct _ r b' _ hparsed happly hreverses
      (RevokePrivileges.apply_eq_error_iff.mpr ⟨rfl, hnone⟩)).1 (by decide)

/-- A grant that is read without a privilege is accepted, and not taken back by the revocation of the
same. -/
theorem grant_of_nothing_stays :
    ¬ ∀ (name : String) (statements : List Statement), (∀ s ∈ statements, s.Parsed) →
      ((initial name).run statements).DistinctTables →
        ∀ (s : GrantPrivileges) (r : RevokePrivileges) b' text,
          (Statement.grantPrivileges s).Parsed → (Statement.revokePrivileges r).Parsed →
            s.apply ((initial name).run statements) = .ok b' → r.Reverses s →
              r.apply ((initial name).run statements) = .error (.revokeMismatch text) →
                r.apply b' = .ok ((initial name).run statements) := by
  intro h
  let b := (initial "shop").run (Script.statements "CREATE TABLE t (x int)")
  let s : GrantPrivileges :=
    { privileges := [], objects := ⟨.tables, [⟨"t", none⟩]⟩, grantees := ["PUBLIC"] }
  let r : RevokePrivileges :=
    { privileges := [], objects := ⟨.tables, [⟨"t", none⟩]⟩, grantees := ["PUBLIC"] }
  obtain ⟨hdistinct, hnone, hgranted, ⟨st, hst, hs⟩, st', hst', hr⟩ : b.DistinctTables
      ∧ (∀ g ∈ b.grants, r.isAbout (r.resolvedObjects b) g = false)
      ∧ (s.apply b).toOption.isSome = true
      ∧ (∃ st ∈ Script.statements "GRANT , ON t TO PUBLIC", st.grant? = some s)
      ∧ ∃ st ∈ Script.statements "REVOKE , ON t FROM PUBLIC", st.revocation? = some r := by
    decide +kernel
  have hparsed : (Statement.grantPrivileges s).Parsed :=
    Statement.grant?_eq_some.mp hs ▸ .of_text hst
  have hparsed' : (Statement.revokePrivileges r).Parsed :=
    Statement.revocation?_eq_some.mp hr ▸ .of_text hst'
  have hreverses : r.Reverses s := ⟨rfl, rfl, rfl, rfl, rfl, .cons (.inl rfl) .nil⟩
  have hmismatch := RevokePrivileges.apply_eq_error_iff.mpr ⟨rfl, hnone⟩
  cases happly : s.apply b with
  | error e => rw [happly] at hgranted; cases hgranted
  | ok b' =>
    have hstays := (RevokePrivileges.apply_of_reverses hdistinct hreverses (by decide) happly
      hnone).2 (by decide)
    have hreversed := h "shop" _ (fun _ => Statement.Parsed.of_text) hdistinct s r b' _ hparsed
      hparsed' happly hreverses hmismatch
    rw [hstays] at hreversed
    cases hreversed

end Builder

end SchemaCatalog
