import SchemaCatalog.Proofs.Run
import SchemaCatalog.Sql.Cursor

/-!
# What readers accept

A `TokenLanguage` says which runs of tokens there are, and what each is read as. A reader `Passes` a
language if it takes its runs off what comes next and nothing else, however the text goes on; it
`Accepts` one if it answers just when all that is left is a run of it. Whole readers are put
together from their parts: `Passes.bind` for one run after the other, `Tests.passes` and
`Tests.accepts` for a choice that is made by the next token.

A reader that takes an optional token does not pass "the token or nothing": where the token comes
next it never passes nothing. Such a reader is put together with what comes after it, and the choice
is right if that does not start with the token (`Avoids`).
-/

namespace SchemaCatalog.Sql

/-- A set of runs of tokens, each with what it is read as. -/
abbrev TokenLanguage (α : Type) := List Token → α → Prop

/-- A reader that may fail with errors of its own kind. -/
abbrev CursorReader (ε α : Type) := StateT Cursor (Except ε) α

namespace TokenLanguage

variable {α β : Type}

/-- No run at all. -/
def empty : TokenLanguage α := fun _ _ => False

/-- A token with the property, then a run of the language. -/
def after (p : Token → Bool) (P : TokenLanguage α) : TokenLanguage α := fun ts a =>
  ∃ t rest, ts = t :: rest ∧ p t = true ∧ P rest a

/-- A run of the first language, then one of the language that goes with what the first is read
as. -/
def bind (P : TokenLanguage α) (Q : α → TokenLanguage β) : TokenLanguage β := fun ts b =>
  ∃ first rest a, ts = first ++ rest ∧ P first a ∧ Q a rest b

/-- No run of the language starts with a token that has the property. -/
def Avoids (P : TokenLanguage α) (p : Token → Bool) : Prop :=
  ∀ t rest a, P (t :: rest) a → p t = false

/-- Every run of the language has a token. -/
def Nonempty (P : TokenLanguage α) : Prop := ∀ a, ¬ P [] a

end TokenLanguage

namespace CursorReader

open TokenLanguage

variable {ε α β : Type} {sql : List Char}

/-- Run in the text, the reader passes a run of the language and nothing else, whatever follows. -/
def Passes (sql : List Char) (r : CursorReader ε α) (P : TokenLanguage α) : Prop :=
  ∀ c a c', c.sql = sql →
    (r c = .ok (a, c') ↔ ∃ ts, P ts a ∧ c = { c' with rest := ts ++ c'.rest })

/-- Run in the text, the reader answers for the runs of the language that nothing follows, and for
no other ones. -/
def Accepts (sql : List Char) (r : CursorReader ε α) (P : TokenLanguage α) : Prop :=
  ∀ c a, c.sql = sql → ((∃ c', r c = .ok (a, c')) ↔ P c.rest a)

/-- The reader passes the next token if that has the property, and says whether it did. -/
def Tests (r : CursorReader ε Bool) (p : Token → Bool) : Prop :=
  ∀ c, r c =
    match c.rest with
    | t :: ts => if p t then .ok (true, { c with rest := ts }) else .ok (false, c)
    | [] => .ok (false, c)

variable {r : CursorReader ε α} {f : α → CursorReader ε β} {P P' : TokenLanguage α}
  {Q : α → TokenLanguage β}

theorem bind_eq_ok {c c' : Cursor} {b : β} :
    (r >>= f) c = .ok (b, c') ↔ ∃ a c₁, r c = .ok (a, c₁) ∧ f a c₁ = .ok (b, c') := by
  change (r c >>= fun result => f result.1 result.2) = _ ↔ _
  rw [SchemaCatalog.bind_eq_ok]
  constructor
  · rintro ⟨⟨a, c₁⟩, hr, hf⟩
    exact ⟨a, c₁, hr, hf⟩
  · rintro ⟨a, c₁, hr, hf⟩
    exact ⟨(a, c₁), hr, hf⟩

theorem Passes.congr (h : Passes sql r P) (hP : ∀ ts a, P ts a ↔ P' ts a) : Passes sql r P' := by
  intro c a c' hsql
  simp only [h c a c' hsql, hP]

theorem Accepts.congr (h : Accepts sql r P) (hP : ∀ ts a, P ts a ↔ P' ts a) :
    Accepts sql r P' := by
  intro c a hsql
  rw [h c a hsql, hP]

theorem Passes.pure (a : α) :
    Passes sql (Pure.pure a : CursorReader ε α) fun ts b => ts = [] ∧ a = b := by
  intro c b c' _
  constructor
  · rintro ⟨⟩
    exact ⟨[], ⟨rfl, rfl⟩, rfl⟩
  · rintro ⟨_, ⟨rfl, rfl⟩, rfl⟩
    rfl

theorem Passes.fails (e : ε) : Passes sql (throw e : CursorReader ε α) empty := by
  intro c a c' _
  constructor
  · nofun
  · rintro ⟨_, h, _⟩
    exact h.elim

theorem Passes.fails_bind (e : ε) (f : α → CursorReader ε β) :
    Passes sql (throw e >>= f) empty := by
  intro c b c' _
  constructor
  · nofun
  · rintro ⟨_, h, _⟩
    exact h.elim

/-- A reader of a run that has a token may look at it first. -/
theorem Passes.peek {e : ε} {f : Token → CursorReader ε α} (hf : ∀ t, Passes sql (f t) P)
    (hP : P.Nonempty) : Passes sql (do
      match (← get).peek? with
      | none => throw e
      | some t => f t) P := by
  intro c a c' hsql
  obtain ⟨sql', statement, tokens⟩ := c
  cases tokens with
  | nil =>
    constructor
    · nofun
    · rintro ⟨ts, hrun, hc⟩
      have hnone : [] = ts ++ c'.rest := congrArg Cursor.rest hc
      rw [List.nil_eq, List.append_eq_nil_iff] at hnone
      rw [hnone.1] at hrun
      exact absurd hrun (hP a)
  | cons t ts => exact hf t ⟨sql', statement, t :: ts⟩ a c' hsql

/-- A reader of one token. -/
theorem Passes.ofToken (take? : Token → Option α)
    (h : ∀ c : Cursor, ∃ e, r c =
      match c.rest with
      | t :: ts => (take? t).elim (.error e) fun a => .ok (a, { c with rest := ts })
      | [] => .error e) :
    Passes sql r fun ts a => ∃ t, ts = [t] ∧ take? t = some a := by
  intro c a c' _
  obtain ⟨e, hread⟩ := h c
  rw [hread]
  constructor
  · obtain ⟨sql', statement, tokens⟩ := c
    cases tokens with
    | nil => nofun
    | cons t ts =>
      intro hok
      cases htake : take? t with
      | none => simp [htake] at hok
      | some b =>
        simp only [htake, Option.elim_some, Except.ok.injEq, Prod.mk.injEq] at hok
        obtain ⟨rfl, rfl⟩ := hok
        exact ⟨[t], ⟨t, rfl, htake⟩, rfl⟩
  · rintro ⟨_, ⟨t, rfl, htake⟩, rfl⟩
    simp only [List.cons_append, List.nil_append, htake]
    rfl

/-- One run is passed after the other. -/
theorem Passes.bind (hr : Passes sql r P) (hf : ∀ a, Passes sql (f a) (Q a)) :
    Passes sql (r >>= f) (P.bind Q) := by
  intro c b c' hsql
  rw [bind_eq_ok]
  constructor
  · rintro ⟨a, c₁, hfirst, hrest⟩
    obtain ⟨first, hP, rfl⟩ := (hr c a c₁ hsql).mp hfirst
    obtain ⟨rest, hQ, rfl⟩ := (hf a c₁ b c' hsql).mp hrest
    exact ⟨first ++ rest, ⟨first, rest, a, rfl, hP, hQ⟩, by rw [List.append_assoc]⟩
  · rintro ⟨_, ⟨first, rest, a, rfl, hP, hQ⟩, rfl⟩
    let c₁ : Cursor := { c' with rest := rest ++ c'.rest }
    have hfirst := (hr _ a c₁ hsql).mpr ⟨first, hP, by rw [List.append_assoc]⟩
    have hrest := (hf a c₁ b c' hsql).mpr ⟨rest, hQ, rfl⟩
    exact ⟨a, c₁, hfirst, hrest⟩

/-- What nothing follows is split into a run that is passed and one that nothing follows. -/
theorem Passes.bind_accepts (hr : Passes sql r P) (hf : ∀ a, Accepts sql (f a) (Q a)) :
    Accepts sql (r >>= f) (P.bind Q) := by
  intro c b hsql
  constructor
  · rintro ⟨c', h⟩
    obtain ⟨a, c₁, hfirst, hrest⟩ := bind_eq_ok.mp h
    obtain ⟨first, hP, rfl⟩ := (hr c a c₁ hsql).mp hfirst
    exact ⟨first, c₁.rest, a, rfl, hP, (hf a c₁ b hsql).mp ⟨c', hrest⟩⟩
  · rintro ⟨first, rest, a, hsplit, hP, hQ⟩
    have hfirst := (hr c a { c with rest } hsql).mpr ⟨first, hP, by rw [← hsplit]⟩
    obtain ⟨c', hrest⟩ := (hf a { c with rest } b hsql).mpr hQ
    exact ⟨c', bind_eq_ok.mpr ⟨a, _, hfirst, hrest⟩⟩

section Tests

variable {test : CursorReader ε Bool} {p : Token → Bool} {g : Bool → CursorReader ε β}
  {S T : TokenLanguage β}

theorem Tests.bind_cons (h : Tests test p) (g : Bool → CursorReader ε β) {c : Cursor} {t : Token}
    {ts : List Token} (hrest : c.rest = t :: ts) :
    (test >>= g) c = if p t then g true { c with rest := ts } else g false c := by
  change (test c >>= fun result => g result.1 result.2) = _
  rw [h c, hrest]
  simp only
  split <;> rfl

theorem Tests.bind_nil (h : Tests test p) (g : Bool → CursorReader ε β) {c : Cursor}
    (hrest : c.rest = []) : (test >>= g) c = g false c := by
  change (test c >>= fun result => g result.1 result.2) = _
  rw [h c, hrest]
  rfl

/-- The next token tells what is to be passed. -/
theorem Tests.passes (h : Tests test p) (htrue : Passes sql (g true) S)
    (hfalse : Passes sql (g false) T) (havoids : T.Avoids p) (hnonempty : T.Nonempty) :
    Passes sql (test >>= g) fun ts b => S.after p ts b ∨ T ts b := by
  intro c b c' hsql
  constructor
  · intro hread
    obtain ⟨sql', statement, tokens⟩ := c
    cases tokens with
    | nil =>
      rw [h.bind_nil g rfl] at hread
      obtain ⟨ts, hT, hc⟩ := (hfalse _ b c' hsql).mp hread
      exact ⟨ts, Or.inr hT, hc⟩
    | cons t tokens =>
      rw [h.bind_cons g rfl] at hread
      split at hread
      · rename_i hp
        obtain ⟨ts, hS, hc⟩ := (htrue ⟨sql', statement, tokens⟩ b c' hsql).mp hread
        rw [Cursor.mk.injEq] at hc
        obtain ⟨rfl, rfl, rfl⟩ := hc
        exact ⟨t :: ts, Or.inl ⟨t, ts, rfl, hp, hS⟩, rfl⟩
      · obtain ⟨ts, hT, hc⟩ := (hfalse _ b c' hsql).mp hread
        exact ⟨ts, Or.inr hT, hc⟩
  · rintro ⟨_, ⟨t, ts, rfl, hp, hS⟩ | hT, rfl⟩
    · rw [h.bind_cons g rfl, if_pos hp]
      exact (htrue { c' with rest := ts ++ c'.rest } b c' hsql).mpr ⟨ts, hS, rfl⟩
    · rename_i ts
      cases ts with
      | nil => exact absurd hT (hnonempty b)
      | cons t ts =>
        rw [h.bind_cons g rfl, havoids t ts b hT, if_neg Bool.false_ne_true]
        exact (hfalse _ b c' hsql).mpr ⟨t :: ts, hT, rfl⟩

/-- The next token tells what nothing may follow. -/
theorem Tests.accepts (h : Tests test p) (htrue : Accepts sql (g true) S)
    (hfalse : Accepts sql (g false) T) (havoids : T.Avoids p) :
    Accepts sql (test >>= g) fun ts b => S.after p ts b ∨ T ts b := by
  intro c b hsql
  cases hrest : c.rest with
  | nil =>
    simp only [h.bind_nil g hrest, hfalse c b hsql, hrest]
    constructor
    · exact Or.inr
    · rintro (⟨t, rest, hnil, -, -⟩ | hT)
      · cases hnil
      · exact hT
  | cons t ts =>
    rw [← hrest]
    simp only [h.bind_cons g hrest]
    cases hp : p t with
    | true =>
      simp only [if_true, htrue { c with rest := ts } b hsql]
      constructor
      · intro hS
        exact Or.inl ⟨t, ts, hrest, hp, hS⟩
      · rintro (⟨t', rest, hcons, -, hS⟩ | hT)
        · rw [hrest] at hcons
          cases hcons
          exact hS
        · rw [hrest] at hT
          rw [havoids t ts b hT] at hp
          cases hp
    | false =>
      simp only [Bool.false_eq_true, if_false, hfalse c b hsql]
      constructor
      · exact Or.inr
      · rintro (⟨t', rest, hcons, hp', -⟩ | hT)
        · rw [hrest] at hcons
          cases hcons
          rw [hp] at hp'
          cases hp'
        · exact hT

/-- The next token must have the property. -/
theorem Tests.demands (h : Tests test p) (htrue : Passes sql (g true) S)
    (hfalse : Passes sql (g false) empty) : Passes sql (test >>= g) (S.after p) := by
  refine (h.passes htrue hfalse ?_ ?_).congr fun ts b => ?_
  · intro t rest b hempty
    exact hempty.elim
  · intro b hempty
    exact hempty
  · simp [empty]

end Tests

end CursorReader

end SchemaCatalog.Sql
