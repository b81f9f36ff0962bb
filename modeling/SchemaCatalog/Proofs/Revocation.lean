import SchemaCatalog.Proofs.Spelling

/-!
# What a revocation takes away

Grants are kept as they were declared, each over lists of privileges, tables and grantees. A
revocation on tables does not split them: it takes away a grant as a whole, and it takes away
exactly those over its own list of tables that share a grantee and a privilege with it
(`RevokePrivileges.mem_grants_iff`). So no grant over that list gives a revoked privilege any more,
`Builder.revoked_not_given`, while a grant over a longer list goes on giving it on the very table
that the revocation names.
-/

namespace SchemaCatalog

/-! ## 1. Privileges given and taken -/

/-- The grant gives a grantee a kind of privilege on a table; a grant of all privileges gives every
kind. -/
def Grant.Gives (g : Grant) (grantee kind : String) (table : TableKey) : Prop :=
  g.objects.kind = .tables ∧ table ∈ g.objects.names ∧ grantee ∈ g.grantees
    ∧ (g.allPrivileges = true ∨ kind ∈ g.privileges.map (·.kind))

instance (g : Grant) (grantee kind : String) (table : TableKey) :
    Decidable (g.Gives grantee kind table) :=
  inferInstanceAs (Decidable (_ ∧ _ ∧ _ ∧ _))

/-- The revocation takes a kind of privilege from a grantee; one of all privileges takes every
kind. -/
def RevokePrivileges.Takes (s : RevokePrivileges) (grantee kind : String) : Prop :=
  grantee ∈ s.grantees ∧ (s.allPrivileges = true ∨ kind ∈ s.privileges.map (·.kind))

instance (s : RevokePrivileges) (grantee kind : String) : Decidable (s.Takes grantee kind) :=
  inferInstanceAs (Decidable (_ ∧ _))

namespace RevokePrivileges

variable {s : RevokePrivileges} {b b' : Builder}

/-- A revocation is about a grant over its objects that has a grantee and a privilege in common with
it. -/
theorem isAbout_iff {objects : GrantObjects} {g : Grant} :
    s.isAbout objects g = true ↔ g.objects = objects ∧ (∃ grantee ∈ s.grantees, grantee ∈ g.grantees)
      ∧ (g.allPrivileges = true ∨ s.allPrivileges = true
        ∨ ∃ p ∈ s.privileges, p.kind ∈ g.privileges.map (·.kind)) := by
  simp [isAbout, and_assoc, or_assoc]

/-- A grant that gives what a revocation over its objects takes is one that the revocation is
about. -/
theorem isAbout_of_gives {g : Grant} {grantee kind : String} {table : TableKey}
    (htakes : s.Takes grantee kind) (hgives : g.Gives grantee kind table) :
    s.isAbout g.objects g = true := by
  obtain ⟨hgrantee, hkind⟩ := htakes
  obtain ⟨-, -, hgrantee', hkind'⟩ := hgives
  refine isAbout_iff.mpr ⟨rfl, ⟨grantee, hgrantee, hgrantee'⟩, ?_⟩
  rcases hkind' with hall | hgiven
  · exact Or.inl hall
  · rcases hkind with hall | htaken
    · exact Or.inr (Or.inl hall)
    · obtain ⟨p, hp, rfl⟩ := List.mem_map.mp htaken
      exact Or.inr (Or.inr ⟨p, hp, hgiven⟩)

/-! ## 2. The grants that are left -/

/-- A revocation that is not about the grant option only leaves the grants that it is not about, and
no others. -/
theorem mem_grants_iff (hoption : s.grantOptionFor = false) (h : s.apply b = .ok b') {g : Grant} :
    g ∈ b'.grants ↔ g ∈ b.grants ∧ s.isAbout (s.resolvedObjects b) g = false := by
  simp only [RevokePrivileges.apply] at h
  split at h <;> cases h
  simp only [Builder.replaceGrants, List.mem_filterMap, hoption, Bool.false_eq_true, if_false]
  constructor
  · rintro ⟨g₀, hg₀, heq⟩
    split at heq <;> cases heq
    rename_i hother
    exact ⟨hg₀, Bool.not_eq_true _ ▸ hother⟩
  · rintro ⟨hg, hother⟩
    exact ⟨g, hg, by rw [if_neg (by simp [hother])]⟩

end RevokePrivileges

/-! ## 3. The statement -/

/-- The revocation of privileges that a statement is. -/
def Statement.revocation? : Statement → Option RevokePrivileges
  | revokePrivileges s => some s
  | _ => none

theorem Statement.revocation?_eq_some {s : Statement} {r : RevokePrivileges} :
    s.revocation? = some r ↔ s = .revokePrivileges r := by
  cases s <;> simp [revocation?]

namespace Builder

/-- Whatever the builder, when privileges on tables were revoked no grant is left that is over the
list of tables which the revocation names, each name standing for its table, and that gives one of
the grantees one of the privileges. -/
theorem revoked_not_given {b b' : Builder} {s : RevokePrivileges}
    (hkind : s.objects.kind = .tables) (hoption : s.grantOptionFor = false)
    (h : (Statement.revokePrivileges s).apply b = { builder := b' }) :
    ∀ g ∈ b'.grants, g.objects.names = s.objects.names.map b.keyOf →
      ∀ grantee kind, s.Takes grantee kind → ∀ table, ¬ g.Gives grantee kind table := by
  intro g hg htables grantee kind htakes table hgives
  have hleft := (RevokePrivileges.mem_grants_iff hoption (Outcome.whole_eq_done.mp h)).mp hg
  have hobjects : g.objects = s.resolvedObjects b :=
    (RevokePrivileges.eq_resolvedObjects_iff hkind g.objects).mpr ⟨hgives.1, htables⟩
  rw [← hobjects, RevokePrivileges.isAbout_of_gives htakes hgives] at hleft
  cases hleft.2

/-- Of two grants to a role the one on the table that the revocation names goes. -/
theorem revoked_not_given_of_two_grants :
    let b := (initial "shop").run
      [.createTable { name := ⟨"a", none⟩, columns := [{ name := "x", dataType := "int" }] },
        .createRole { name := "r" },
        .grantPrivileges
          { privileges := [{ kind := "SELECT" }, { kind := "INSERT" }]
            objects := { kind := .tables, names := [⟨"a", none⟩] }
            grantees := ["r"] },
        .grantPrivileges
          { privileges := [{ kind := "UPDATE" }]
            objects := { kind := .tables, names := [⟨"a", some "public"⟩] }
            grantees := ["r"] }]
    let s : RevokePrivileges :=
      { privileges := [{ kind := "SELECT" }]
        objects := { kind := .tables, names := [⟨"a", some "public"⟩] }
        grantees := ["r"] }
    let b' := ((Statement.revokePrivileges s).apply b).builder
    s.objects.kind = .tables ∧ s.grantOptionFor = false
      ∧ (Statement.revokePrivileges s).apply b = { builder := b' }
      ∧ b'.grants.map (·.describe) = ["UPDATE ON TABLES a TO r"]
      ∧ s.Takes "r" "SELECT"
      ∧ ∀ g ∈ b'.grants, g.objects.names = [⟨"a", none⟩] → ∀ table, ¬ g.Gives "r" "SELECT" table := by
  intro b s b'
  have hdone : ((Statement.revokePrivileges s).apply b).failure = none := by decide +kernel
  have happly : (Statement.revokePrivileges s).apply b = { builder := b' } :=
    Outcome.eq_done_of_failure hdone
  have hnames : s.objects.names.map b.keyOf = [⟨"a", none⟩] := by decide +kernel
  refine ⟨rfl, rfl, happly, by decide +kernel, by decide, fun g hg htables => ?_⟩
  exact revoked_not_given rfl rfl happly g hg (htables.trans hnames.symm) "r" "SELECT" (by decide)

/-- A privilege that was granted on two tables at once is not taken away by revoking it on one of
them. -/
theorem revoked_still_given :
    ¬ ∀ (name : String) (statements : List Statement), (∀ s ∈ statements, s.Parsed) →
      ∀ s : RevokePrivileges, (Statement.revokePrivileges s).Parsed → s.objects.kind = .tables →
        s.grantOptionFor = false →
        ∀ b' : Builder, (Statement.revokePrivileges s).apply ((initial name).run statements)
            = { builder := b' } →
          ∀ g ∈ b'.grants, ∀ n ∈ s.objects.names, ∀ grantee kind, s.Takes grantee kind →
            ¬ g.Gives grantee kind (((initial name).run statements).keyOf n) := by
  intro h
  let statements := Script.statements
    "CREATE TABLE a (x int); CREATE TABLE b (x int); CREATE ROLE r; GRANT SELECT ON a, b TO r;
     GRANT SELECT ON a TO r"
  let s : RevokePrivileges :=
    { privileges := [{ kind := "SELECT" }]
      objects := { kind := .tables, names := [⟨"a", none⟩] }
      grantees := ["r"] }
  let o := (Statement.revokePrivileges s).apply ((initial "shop").run statements)
  obtain ⟨⟨st, hst, hs⟩, hdone, g, hg, hgives⟩ :
      (∃ st ∈ Script.statements "REVOKE SELECT ON a FROM r", st.revocation? = some s)
        ∧ o.failure = none ∧ ∃ g ∈ o.builder.grants,
          g.Gives "r" "SELECT" (((initial "shop").run statements).keyOf ⟨"a", none⟩) := by
    decide +kernel
  have hparsed : (Statement.revokePrivileges s).Parsed :=
    Statement.revocation?_eq_some.mp hs ▸ .of_text hst
  exact h "shop" statements (fun _ => Statement.Parsed.of_text) s hparsed rfl rfl o.builder
    (Outcome.eq_done_of_failure hdone) g hg ⟨"a", none⟩ (by decide) "r" "SELECT" (by decide) hgives

end Builder

end SchemaCatalog
