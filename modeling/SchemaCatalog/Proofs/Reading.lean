import SchemaCatalog.Proofs.Effect
import SchemaCatalog.Statement.Grammar

/-!
# What readers answer

A reader yields a property when every value it answers has it. What a reader answers is decided by
its last step, so the property is carried from there to the front (`Yields.bind`), through both
branches of a choice. A list read with commas between its items is never empty, and therefore a
statement that is read grants privileges to someone, and on some table if it is on tables:
`Statement.read_grantsSome`.
-/

namespace SchemaCatalog

open Sql Reader

namespace Sql.Reader

variable {α β : Type} {P : α → Prop}

/-- Every value that the reader answers has the property. -/
def Yields (r : Reader α) (P : α → Prop) : Prop := ∀ c a c', r c = .ok (a, c') → P a

theorem Yields.pure {a : α} (h : P a) : Yields (Pure.pure a : Reader α) P := by
  intro c a' c' heq
  cases heq
  exact h

/-- What a reader yields holds of what it reads from a whole text. -/
theorem Yields.run {r : Reader α} (h : r.Yields P) {sql : List Char} {tokens : List Token}
    {a : α} (ha : r.run sql tokens = .ok a) : P a := by
  rw [Reader.run] at ha
  cases hread : r (Cursor.start sql tokens) with
  | error e => rw [hread] at ha; cases ha
  | ok result =>
    rw [hread] at ha
    cases ha
    exact h _ _ _ hread

/-- What the rest of a reader yields, the whole yields. -/
theorem Yields.bind {Q : β → Prop} {r : Reader α} {f : α → Reader β} (hr : r.Yields P)
    (hf : ∀ a, P a → (f a).Yields Q) : Yields (r >>= f) Q := by
  intro c b c' heq
  simp only [Bind.bind] at heq
  split at heq
  · cases heq
  · rename_i a c₁ hstep
    exact hf a (hr c a c₁ hstep) c₁ b c' heq

theorem Yields.trivial (r : Reader α) : r.Yields fun _ => True := fun _ _ _ _ => True.intro

/-- What the rest of a reader yields whatever it goes on with, the whole yields. -/
theorem Yields.after {Q : β → Prop} {r : Reader α} {f : α → Reader β}
    (hf : ∀ a, (f a).Yields Q) : Yields (r >>= f) Q :=
  (Yields.trivial r).bind fun a _ => hf a

theorem Yields.expected (what : String) : Yields (Reader.expected what : Reader α) P := by
  intro c a c' heq
  cases heq

/-- What both branches of a choice yield, the choice yields. -/
theorem Yields.ite {c : Prop} [Decidable c] {r r' : Reader α} (hr : r.Yields P)
    (hr' : r'.Yields P) : (if c then r else r').Yields P := by
  split
  · exact hr
  · exact hr'

/-- Reading a run of tokens on its own yields what the reader yields. -/
theorem Yields.within {r : Reader α} (hr : r.Yields P) (tokens : List Token) :
    (within tokens r).Yields P := by
  intro c a c' heq
  rw [Reader.within] at heq
  split at heq
  · cases heq
  · rename_i a' c₁ hstep
    cases heq
    exact hr _ _ _ hstep

/-- A repeated reader yields what holds of its first state and of each state that follows one. -/
theorem Yields.iterateAtMost {body : α → Reader (Option α)}
    (step : ∀ a, P a → (body a).Yields fun next => ∀ a' ∈ next, P a') (n : Nat) {a : α} (ha : P a) :
    (iterateAtMost body n a).Yields P := by
  induction n generalizing a with
  | zero => exact .pure ha
  | succ n ih =>
    refine (step a ha).bind fun next hnext => ?_
    cases next with
    | some a' => exact ih (hnext a' rfl)
    | none => exact .pure ha

theorem Yields.iterate {body : α → Reader (Option α)}
    (step : ∀ a, P a → (body a).Yields fun next => ∀ a' ∈ next, P a') {a : α} (ha : P a) :
    (iterate body a).Yields P :=
  fun c => Yields.iterateAtMost step (c.rest.length + 1) ha c

/-- A list read with commas between its items has at least one. -/
theorem commaSeparated_ne_nil (item : Reader α) : (commaSeparated item).Yields (· ≠ []) := by
  refine .after fun first => .bind (.iterate (P := (· ≠ [])) ?_ (List.cons_ne_nil first [])) ?_
  · intro items _
    refine .after fun comma => ?_
    split
    · refine .after fun next => .pure ?_
      rintro _ ⟨⟩
      exact List.cons_ne_nil next items
    · exact .pure fun _ hnone => nomatch hnone
  · intro items hitems
    exact .pure fun hnil => hitems (List.reverse_eq_nil_iff.mp hnil)

end Sql.Reader

/-! ## 1. Grants -/

/-- Objects that are read are tables only if some are named. -/
theorem GrantObjects.read_names :
    GrantObjects.read.Yields fun o => o.kind = GrantObjectKind.tables → o.names ≠ [] := by
  have hother {o : GrantObjects} (h : o.kind ≠ GrantObjectKind.tables) :
      Yields (pure o) fun o => o.kind = GrantObjectKind.tables → o.names ≠ [] :=
    .pure fun htables => absurd htables h
  refine .after fun all => .ite ?_ ?_
  · refine .after fun t => .after fun _ => .after fun names => hother ?_
    dsimp only
    split <;> nofun
  refine .after fun schema => .ite (.after fun names => hother nofun) ?_
  refine .after fun function => .ite (.after fun signatures => hother nofun) ?_
  refine .after fun sequence => .ite (.after fun names => hother nofun) ?_
  refine .after fun word => .ite (hother nofun) (.after fun _ => ?_)
  exact (commaSeparated_ne_nil ObjectName.read).bind fun names hnames => .pure fun _ => hnames

/-- If the statement grants privileges, it does so to someone, and on some table if it is on tables. -/
def Statement.GrantsSome : Statement → Prop
  | grantPrivileges s => s.grant.isVoid = false ∧ s.grantees ≠ []
  | _ => True

/-- A grant that is read names its grantees, and its tables if it is on tables. -/
theorem readGrant_grantsSome : readGrant.Yields Statement.GrantsSome := by
  refine .after fun head => .after fun on => .ite ?_ ?_
  · refine .after fun (allPrivileges, privileges) => .after fun objectTokens => ?_
    refine (GrantObjects.read_names.within objectTokens).bind fun objects hobjects => ?_
    refine .after fun _ => (commaSeparated_ne_nil readRoleName).bind fun grantees hgrantees => ?_
    have hgrant {g : GrantPrivileges} (hg : g.objects = objects) (hto : g.grantees = grantees) :
        Yields (pure (Statement.grantPrivileges g)) Statement.GrantsSome := by
      refine .pure ⟨?_, hto ▸ hgrantees⟩
      rw [Grant.isVoid, GrantPrivileges.grant, hg]
      by_cases htables : objects.kind = GrantObjectKind.tables
      · rw [List.isEmpty_eq_false_iff.mpr (hobjects htables), Bool.and_false]
      · rw [beq_eq_false_iff_ne.mpr htables, Bool.false_and]
    refine .after fun grantOption => .after fun granted => ?_
    exact .ite (.after fun grantedBy => hgrant rfl rfl) (.after fun grantedBy => hgrant rfl rfl)
  · refine .after fun _ => .after fun roles => .after fun grantees => .after fun withOption => ?_
    refine .ite (.after fun admin => .ite ?_ ?_) (.after fun _ => .pure trivial)
    · exact .after fun _ => .after fun _ => .after fun _ => .after fun _ => .pure trivial
    · exact .after fun _ => .after fun _ => .after fun _ => .pure trivial

/-! ## 2. Statements -/

-- The readers of the other statements end in a statement that is no grant, along every branch.

theorem readCreate_grantsSome : readCreate.Yields Statement.GrantsSome := by
  unfold readCreate CreateTable.read CreateIndex.read CreateFunction.read CreateTrigger.read
    CreatePolicy.read CreateRole.read CreateSchema.read Statement.readOther Statement.readOtherOf
  repeat' first
    | exact .pure trivial
    | exact .expected _
    | refine .after fun _ => ?_
    | refine .ite ?_ ?_
    | split

theorem readDrop_grantsSome : readDrop.Yields Statement.GrantsSome := by
  unfold readDrop DropTable.read DropIndex.read DropFunction.read DropTrigger.read DropPolicy.read
    DropRole.read DropSchema.read Statement.readOther
  repeat' first
    | exact .pure trivial
    | refine .after fun _ => ?_
    | refine .ite ?_ ?_

theorem readAlter_grantsSome : readAlter.Yields Statement.GrantsSome := by
  unfold readAlter AlterTable.read AlterSchema.read Statement.readOther
  repeat' first
    | exact .pure trivial
    | refine .after fun _ => ?_
    | refine .ite ?_ ?_

theorem readRevoke_grantsSome : readRevoke.Yields Statement.GrantsSome := by
  unfold readRevoke
  repeat' first
    | exact .pure trivial
    | refine .after fun _ => ?_
    | refine .ite ?_ ?_

theorem readSet_grantsSome : readSet.Yields Statement.GrantsSome := by
  unfold readSet Statement.readOtherOf
  repeat' first
    | exact .pure trivial
    | refine .after fun _ => ?_
    | refine .ite ?_ ?_

/-- A statement that is read grants privileges to someone, and on some table if it is on tables. -/
theorem Statement.read_grantsSome : Statement.read.Yields Statement.GrantsSome := by
  refine .after fun create => .ite readCreate_grantsSome ?_
  refine .after fun drop => .ite readDrop_grantsSome ?_
  refine .after fun alter => .ite readAlter_grantsSome ?_
  refine .after fun grant => .ite readGrant_grantsSome ?_
  refine .after fun revoke => .ite readRevoke_grantsSome ?_
  refine .after fun set => .ite readSet_grantsSome ?_
  refine .after fun comment => .ite ?_ (.after fun c => .pure trivial)
  refine .after fun target => .after fun _ => .after fun null => .ite ?_ ?_
  · exact .after fun text => .pure trivial
  · exact .after fun text => .pure trivial

/-- What the reader of statements yields holds of all that runs of tokens are read as. -/
theorem Statement.forall_of_ofRuns {P : Statement → Prop} (hread : Statement.read.Yields P)
    {sql : List Char} {runs : List (List Token)} {statements : List Statement}
    (h : Statement.ofRuns sql runs = .ok statements) : ∀ s ∈ statements, P s := by
  induction runs generalizing statements with
  | nil =>
    rw [Statement.ofRuns] at h
    cases h
    exact fun s hs => absurd hs List.not_mem_nil
  | cons run runs ih =>
    rw [Statement.ofRuns] at h
    split at h
    · cases h
    · rename_i s hs
      cases hrest : Statement.ofRuns sql runs with
      | error e => rw [hrest] at h; cases h
      | ok rest =>
        rw [hrest] at h
        cases h
        exact List.forall_mem_cons.mpr ⟨hread.run hs, ih hrest⟩

/-- What the reader of statements yields holds of every statement of a text. -/
theorem Script.forall_of_parse {P : Statement → Prop} (hread : Statement.read.Yields P)
    {sql : String} {statements : List Statement} (h : Script.parse sql = .ok statements) :
    ∀ s ∈ statements, P s := by
  rw [Script.parse] at h
  split at h
  · cases h
  · exact Statement.forall_of_ofRuns hread h

/-- A statement that some SQL text has. -/
def Statement.Parsed (s : Statement) : Prop :=
  ∃ sql statements, Script.parse sql = .ok statements ∧ s ∈ statements

/-- The statements of a text, none if it cannot be read. -/
def Script.statements (sql : String) : List Statement := (Script.parse sql).toOption.getD []

theorem Statement.Parsed.of_text {sql : String} {s : Statement} (h : s ∈ Script.statements sql) :
    s.Parsed := by
  rw [Script.statements] at h
  cases hparse : Script.parse sql with
  | error e => rw [hparse] at h; exact absurd h List.not_mem_nil
  | ok statements => rw [hparse] at h; exact ⟨sql, statements, hparse, h⟩

theorem Statement.Parsed.grantsSome {s : Statement} (h : s.Parsed) : s.GrantsSome := by
  obtain ⟨sql, statements, hparse, hs⟩ := h
  exact Script.forall_of_parse Statement.read_grantsSome hparse s hs

theorem Statement.Parsed.grantsNothing {s : Statement} (h : s.Parsed) :
    s.grantsNothing = false := by
  have hsome := h.grantsSome
  cases s with
  | grantPrivileges s => exact hsome.1
  | _ => rfl

end SchemaCatalog
