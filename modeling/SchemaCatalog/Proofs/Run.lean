import Mathlib.Data.List.Forall2
import SchemaCatalog.Catalog.Apply

/-!
# Runs of statements

A run applies statements one after the other to a builder. A statement that fails leaves what it
had already changed, and the run goes on, so the state after a run is a fold of `Statement.apply`
over the builders of the outcomes. A property that every statement keeps holds in every state of a
run (`run_keeps`), and one that every admitted statement keeps holds in every state of a run whose
statements are all admitted (`run_invariant`).

Below a statement there are two shapes of success. A checked computation succeeds exactly when all
its steps do (`bind_eq_ok`, `forM_eq_ok`, `mapM_eq_ok`), and an outcome keeps a property when each
of its parts does (`Outcome.whole_invariant`, `Outcome.each_invariant`), whether or not it ends in
a failure.
-/

namespace SchemaCatalog

/-! ## 1. Checked computations -/

section Checked

variable {ε α β : Type}

/-- A sequence succeeds exactly when its first step does and the rest does with its result. -/
theorem bind_eq_ok {x : Except ε α} {f : α → Except ε β} {b : β} :
    (x >>= f) = .ok b ↔ ∃ a, x = .ok a ∧ f a = .ok b := by
  cases x <;> simp [bind, Except.bind]

theorem pure_eq_ok {a b : α} : (pure a : Except ε α) = .ok b ↔ a = b := by
  simp [pure, Except.pure]

theorem throw_ne_ok {e : ε} {a : α} : (throw e : Except ε α) ≠ .ok a := by
  simp [throw, throwThe, MonadExceptOf.throw]

theorem ok_bind (a : α) (f : α → Except ε β) : (.ok a >>= f) = f a := rfl

/-- A computation behind a guard succeeds exactly when the guard lets it pass and it succeeds. -/
theorem guard_eq_ok {c : Prop} [Decidable c] {e : ε} {f : α → Except ε β} {x : Except ε β} {b : β} :
    (if c then throw e >>= f else x) = .ok b ↔ ¬ c ∧ x = .ok b := by
  by_cases hc : c <;> simp [hc, throw, throwThe, MonadExceptOf.throw, bind, Except.bind]

/-- A list of checks succeeds exactly when each of them does. -/
theorem forM_eq_ok {f : α → Except ε Unit} {as : List α} :
    as.forM f = .ok () ↔ ∀ a ∈ as, f a = .ok () := by
  induction as with
  | nil => simp [List.forM, pure, Except.pure]
  | cons a as ih =>
    have hstep : (a :: as).forM f = (f a >>= fun _ => as.forM f) := rfl
    rw [hstep, bind_eq_ok]
    constructor
    · rintro ⟨_, ha, has⟩
      exact List.forall_mem_cons.mpr ⟨ha, ih.mp has⟩
    · intro h
      obtain ⟨ha, has⟩ := List.forall_mem_cons.mp h
      exact ⟨(), ha, ih.mpr has⟩

/-- Computing over a list succeeds exactly when each element has a result, and gives them in
order. -/
theorem mapM_eq_ok {f : α → Except ε β} {as : List α} {bs : List β} :
    as.mapM f = .ok bs ↔ List.Forall₂ (fun a b => f a = .ok b) as bs := by
  induction as generalizing bs with
  | nil =>
    rw [List.mapM_nil, pure_eq_ok]
    constructor
    · rintro rfl; exact .nil
    · intro h; cases h; rfl
  | cons a as ih =>
    rw [List.mapM_cons, bind_eq_ok]
    constructor
    · rintro ⟨b, hb, hrest⟩
      obtain ⟨bs', hbs', heq⟩ := bind_eq_ok.mp hrest
      rw [pure_eq_ok] at heq
      subst heq
      exact .cons hb (ih.mp hbs')
    · intro h
      cases h with
      | cons hb hbs => exact ⟨_, hb, bind_eq_ok.mpr ⟨_, ih.mpr hbs, rfl⟩⟩

/-- Computing over a list succeeds where each of its elements has a result. -/
theorem exists_mapM_eq_ok {f : α → Except ε β} {as : List α} (h : ∀ a ∈ as, ∃ b, f a = .ok b) :
    ∃ bs, as.mapM f = .ok bs := by
  induction as with
  | nil => exact ⟨[], mapM_eq_ok.mpr .nil⟩
  | cons a as ih =>
    obtain ⟨⟨b, hb⟩, has⟩ := List.forall_mem_cons.mp h
    obtain ⟨bs, hbs⟩ := ih has
    exact ⟨b :: bs, mapM_eq_ok.mpr (.cons hb (mapM_eq_ok.mp hbs))⟩

/-- Each result of a computation over a list is that of one of its elements. -/
theorem exists_of_forall₂_right {R : α → β → Prop} {as : List α} {bs : List β}
    (h : List.Forall₂ R as bs) {b : β} (hb : b ∈ bs) : ∃ a ∈ as, R a b := by
  induction h with
  | nil => cases hb
  | cons hab _ ih =>
    rcases List.mem_cons.mp hb with rfl | hmem
    · exact ⟨_, List.mem_cons_self .., hab⟩
    · obtain ⟨a, ha, hR⟩ := ih hmem
      exact ⟨a, List.mem_cons_of_mem _ ha, hR⟩

/-- Each element of a list that is computed over has its result. -/
theorem exists_of_forall₂_left {R : α → β → Prop} {as : List α} {bs : List β}
    (h : List.Forall₂ R as bs) {a : α} (ha : a ∈ as) : ∃ b ∈ bs, R a b :=
  exists_of_forall₂_right (List.Forall₂.flip (R := flip R) h) ha

/-- A sequence fails when its first step does, or the rest does with its result. -/
theorem bind_eq_error {x : Except ε α} {f : α → Except ε β} {e : ε} :
    (x >>= f) = .error e ↔ x = .error e ∨ ∃ a, x = .ok a ∧ f a = .error e := by
  cases x <;> simp [bind, Except.bind]

/-- Computing over a list fails as one of its elements does. -/
theorem mapM_eq_error {f : α → Except ε β} {as : List α} {e : ε} (h : as.mapM f = .error e) :
    ∃ a ∈ as, f a = .error e := by
  induction as with
  | nil => rw [List.mapM_nil] at h; cases h
  | cons a as ih =>
    rw [List.mapM_cons] at h
    rcases bind_eq_error.mp h with hfirst | ⟨b, -, hrest⟩
    · exact ⟨a, List.mem_cons_self .., hfirst⟩
    · rcases bind_eq_error.mp hrest with hrest | ⟨bs, -, hpure⟩
      · obtain ⟨a', ha', heq⟩ := ih hrest
        exact ⟨a', List.mem_cons_of_mem _ ha', heq⟩
      · cases hpure

/-- A list of checks fails as one of them does. -/
theorem forM_eq_error {f : α → Except ε Unit} {as : List α} {e : ε} (h : as.forM f = .error e) :
    ∃ a ∈ as, f a = .error e := by
  induction as with
  | nil => cases h
  | cons a as ih =>
    have hstep : (a :: as).forM f = (f a >>= fun _ => as.forM f) := rfl
    rw [hstep] at h
    rcases bind_eq_error.mp h with hfirst | ⟨_, -, hrest⟩
    · exact ⟨a, List.mem_cons_self, hfirst⟩
    · obtain ⟨a', ha', heq⟩ := ih hrest
      exact ⟨a', List.mem_cons_of_mem a ha', heq⟩

/-- A sequence is the same if what follows its first step is, whatever that gives. -/
theorem bind_congr_ok {x : Except ε α} {f g : α → Except ε β} (h : ∀ a, x = .ok a → f a = g a) :
    (x >>= f) = (x >>= g) := by
  cases x with
  | ok a => exact h a rfl
  | error _ => rfl

theorem mapM_congr {f g : α → Except ε β} {as : List α} (h : ∀ a ∈ as, f a = g a) :
    as.mapM f = as.mapM g := by
  induction as with
  | nil => rfl
  | cons a as ih =>
    obtain ⟨ha, has⟩ := List.forall_mem_cons.mp h
    rw [List.mapM_cons, List.mapM_cons, ha, ih has]

/-- What each step of a successful fold keeps, the whole fold keeps. -/
theorem foldlM_invariant {f : β → α → Except ε β} {P : β → Prop} {as : List α}
    (step : ∀ b, ∀ a ∈ as, ∀ b', P b → f b a = .ok b' → P b') {b b' : β} (hb : P b)
    (h : as.foldlM f b = .ok b') : P b' := by
  induction as generalizing b with
  | nil =>
    rw [List.foldlM_nil, pure_eq_ok] at h
    exact h ▸ hb
  | cons a as ih =>
    rw [List.foldlM_cons] at h
    obtain ⟨c, hc, hrest⟩ := bind_eq_ok.mp h
    exact ih (fun b x hx => step b x (List.mem_cons_of_mem _ hx))
      (step b a (List.mem_cons_self ..) c hb hc) hrest

end Checked

/-! ## 2. Outcomes -/

namespace Outcome

/-- A statement that takes effect as a whole keeps what its success keeps. -/
theorem whole_invariant {P : Builder → Prop} {b : Builder} {r : Except CatalogError Builder}
    (hb : P b) (step : ∀ b', r = .ok b' → P b') : P (whole b r).builder := by
  cases r with
  | ok b' => exact step b' rfl
  | error _ => exact hb

/-- A statement that takes effect as a whole is done when it succeeds. -/
theorem whole_eq_done {b b' : Builder} {r : Except CatalogError Builder} :
    whole b r = { builder := b' } ↔ r = .ok b' := by
  cases r <;> simp [whole]

theorem eq_done_of_failure {o : Outcome} (h : o.failure = none) :
    o = { builder := o.builder } := by
  rw [← h]

theorem each_singleton {α : Type} (step : Builder → α → Outcome) (b : Builder) (a : α) :
    each step b [a] = step b a := by
  rw [each]
  split
  · rename_i b' heq
    exact heq.symm
  · rfl

/-- Several targets are done when the first is, and then the others. -/
theorem each_cons_eq_done {α : Type} {step : Builder → α → Outcome} {b b' : Builder} {a : α}
    {as : List α} :
    each step b (a :: as) = { builder := b' }
      ↔ ∃ c, step b a = { builder := c } ∧ each step c as = { builder := b' } := by
  rw [each]
  cases hstep : step b a with
  | mk c failure =>
    cases failure with
    | none => simp
    | some e => simp

/-- Doing something for several targets keeps what doing it for one target keeps, also when a target
fails and the others are not reached. -/
theorem each_invariant {α : Type} {P : Builder → Prop} {step : Builder → α → Outcome}
    (keeps : ∀ b a, P b → P (step b a).builder) (as : List α) {b : Builder} (hb : P b) :
    P (each step b as).builder := by
  induction as generalizing b with
  | nil => exact hb
  | cons a as ih =>
    have hstep := keeps b a hb
    rw [each]
    split
    · rename_i b' heq
      rw [heq] at hstep
      exact ih hstep
    · exact hstep

/-- Of several targets the failing one is the first that fails: what is done for it is done where
those before it have been dealt with. -/
theorem each_of_failure {α : Type} {step : Builder → α → Outcome} {b : Builder} {as : List α}
    {e : CatalogError} (h : (each step b as).failure = some e) :
    ∃ done a rest c, as = done ++ a :: rest ∧ each step b done = { builder := c }
      ∧ (step c a).failure = some e ∧ (each step b as).builder = (step c a).builder := by
  induction as generalizing b with
  | nil => cases h
  | cons a as ih =>
    cases hstep : step b a with
    | mk b' failure =>
      cases failure with
      | none =>
        have hnext (as : List α) : each step b (a :: as) = each step b' as := by rw [each, hstep]
        rw [hnext] at h ⊢
        obtain ⟨done, a', rest, c, rfl, hdone, hfails, hbuilder⟩ := ih h
        exact ⟨a :: done, a', rest, c, rfl, (hnext done).trans hdone, hfails, hbuilder⟩
      | some e' =>
        have hstop : each step b (a :: as) = step b a := by rw [each, hstep]
        rw [hstop] at h ⊢
        exact ⟨[], a, as, b, rfl, rfl, h, rfl⟩

end Outcome

/-! ## 3. Runs -/

namespace Builder

/-- The builder after statements that are applied one after the other, whether they fail or not. -/
def run (b : Builder) (statements : List Statement) : Builder :=
  statements.foldl (fun b s => (s.apply b).builder) b

/-- What the statements keep holds after their run. -/
theorem run_keeps {P : Builder → Prop} {statements : List Statement}
    (step : ∀ s ∈ statements, ∀ b, P b → P (s.apply b).builder) {b : Builder} (hb : P b) :
    P (b.run statements) := by
  induction statements generalizing b with
  | nil => exact hb
  | cons s rest ih =>
    obtain ⟨hs, hrest⟩ := List.forall_mem_cons.mp step
    exact ih hrest (hs b hb)

/-- Every statement of a run is admitted in the state that it is applied to. -/
def Admits (admitted : Builder → Statement → Prop) : Builder → List Statement → Prop
  | _, [] => True
  | b, s :: rest => admitted b s ∧ Admits admitted (s.apply b).builder rest

instance Admits.instDecidable (admitted : Builder → Statement → Prop)
    [∀ b s, Decidable (admitted b s)] :
    (b : Builder) → (statements : List Statement) → Decidable (b.Admits admitted statements)
  | _, [] => .isTrue trivial
  | b, s :: rest =>
    have := Admits.instDecidable admitted (s.apply b).builder rest
    inferInstanceAs (Decidable (admitted b s ∧ Admits admitted _ rest))

/-- The start of a run of admitted statements is one. -/
theorem Admits.of_isPrefix {admitted : Builder → Statement → Prop}
    {done statements : List Statement} {b : Builder} (h : b.Admits admitted statements)
    (hd : done <+: statements) :
    b.Admits admitted done := by
  obtain ⟨rest, rfl⟩ := hd
  induction done generalizing b with
  | nil => trivial
  | cons s done ih => exact ⟨h.1, ih h.2⟩

/-- What every admitted statement keeps holds after every run of admitted statements. -/
theorem run_invariant {P : Builder → Prop} {admitted : Builder → Statement → Prop}
    {statements : List Statement}
    (step : ∀ s ∈ statements, ∀ b, P b → admitted b s → P (s.apply b).builder) {b : Builder}
    (hb : P b) (h : b.Admits admitted statements) : P (b.run statements) := by
  induction statements generalizing b with
  | nil => exact hb
  | cons s rest ih =>
    obtain ⟨hs, hrest⟩ := h
    exact ih (fun s' hs' => step s' (List.mem_cons_of_mem _ hs'))
      (step s (List.mem_cons_self ..) b hb hs) hrest

/-- Every state of a run has a property exactly when every statement of the run is admitted, if the
admitted statements are those that keep it. -/
theorem run_iff {P : Builder → Prop} {admitted : Builder → Statement → Prop}
    (step : ∀ s b, P b → (P (s.apply b).builder ↔ admitted b s)) {b : Builder} (hb : P b)
    (statements : List Statement) :
    (∀ done, done <+: statements → P (b.run done)) ↔ b.Admits admitted statements := by
  induction statements generalizing b with
  | nil =>
    refine iff_of_true (fun done hdone => ?_) trivial
    rw [List.prefix_nil.mp hdone]
    exact hb
  | cons s rest ih =>
    constructor
    · intro hstates
      have hone : P (s.apply b).builder := hstates [s] ⟨rest, rfl⟩
      refine ⟨(step s b hb).mp hone, (ih hone).mp fun done hdone => ?_⟩
      exact hstates (s :: done) (List.cons_prefix_cons.mpr ⟨rfl, hdone⟩)
    · rintro ⟨hs, hrest⟩ done hdone
      cases done with
      | nil => exact hb
      | cons s' done =>
        obtain ⟨rfl, hprefix⟩ := List.cons_prefix_cons.mp hdone
        exact (ih ((step s' b hb).mpr hs)).mpr hrest done hprefix

end Builder

end SchemaCatalog
