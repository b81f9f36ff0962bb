import SchemaCatalog.Proofs.MaintenanceGrammar

/-!
# Parentheses

What the loops over tokens with a count of parentheses find, said of the run that is found.
`closeGroup` goes to the end of a run that closes what it opens and no more, and to the parenthesis
after it (`closeGroup_eq_some`). `spanTop` goes over a run in which no token outside parentheses is
one to stop at, to one that is or to the end (`spanTop_eq_iff`).

Both are by induction on the tokens, and what is carried along is the depth that the count has come
to.
-/

namespace SchemaCatalog.Sql

theorem nesting_cons (t : Token) (ts : List Token) : nesting (t :: ts) = t.nesting + nesting ts := by
  simp [nesting]

/-! ## 1. Groups -/

/-- A token that closes a parenthesis opens none. -/
theorem Token.isOpen_of_isClose {t : Token} (h : t.isClose = true) : t.isOpen = false := by
  simp only [Token.isClose, Token.isSymbol, Bool.and_eq_true, beq_iff_eq] at h
  simp [Token.isOpen, Token.isSymbol, h.2]

theorem Token.nesting_of_isClose {t : Token} (h : t.isClose = true) : t.nesting = -1 := by
  simp [Token.nesting, Token.isOpen_of_isClose h, h]

/-- The group that is closed is all of the balanced run before the parenthesis that closes it. -/
theorem closeGroup_eq_some {depth : Nat} {read ts inside rest : List Token} :
    closeGroup depth read ts = some (inside, rest)
      ↔ ∃ more close, ts = more ++ close :: rest ∧ inside = read.reverse ++ more
        ∧ Closes depth more ∧ close.isClose = true := by
  induction ts generalizing depth read with
  | nil => simp [closeGroup]
  | cons t ts ih =>
    -- A token that is passed is the first of the rest of the group.
    have hpassed {deeper : Nat} (hdeeper : (depth + t.nesting : Int) = deeper)
        (hstays : ¬ (depth = 0 ∧ t.isClose = true)) :
        (∃ more close, ts = more ++ close :: rest ∧ inside = (t :: read).reverse ++ more
            ∧ Closes deeper more ∧ close.isClose = true)
          ↔ ∃ more close, t :: ts = more ++ close :: rest ∧ inside = read.reverse ++ more
            ∧ Closes depth more ∧ close.isClose = true := by
      constructor
      · rintro ⟨more, close, rfl, rfl, hcloses, hclose⟩
        refine ⟨t :: more, close, rfl, by simp, closes_cons.mpr ⟨by omega, ?_⟩, hclose⟩
        rwa [hdeeper]
      · rintro ⟨more, close, hsplit, rfl, hcloses, hclose⟩
        cases more with
        | nil =>
          cases hsplit
          exact absurd ⟨by simpa using closes_nil.mp hcloses, hclose⟩ hstays
        | cons u more =>
          cases hsplit
          exact ⟨more, close, rfl, by simp, hdeeper ▸ (closes_cons.mp hcloses).2, hclose⟩
    rw [closeGroup]
    cases hclose : t.isClose with
    | true =>
      have hnesting := Token.nesting_of_isClose hclose
      by_cases hdepth : depth = 0
      · subst hdepth
        simp only [if_true, beq_self_eq_true, Option.some.injEq, Prod.mk.injEq]
        constructor
        · rintro ⟨rfl, rfl⟩
          exact ⟨[], t, rfl, by simp, closes_nil.mpr rfl, hclose⟩
        · rintro ⟨more, close, hsplit, rfl, hcloses, -⟩
          cases more with
          | nil =>
            cases hsplit
            simp
          | cons u more =>
            cases hsplit
            have hbelow := (closes_cons.mp hcloses).2.nonneg
            rw [hnesting] at hbelow
            omega
      · rw [if_pos rfl, if_neg (by simpa using hdepth), ih]
        exact hpassed (by rw [hnesting]; omega) (by simp [hdepth])
    | false =>
      rw [if_neg Bool.false_ne_true]
      cases hopen : t.isOpen with
      | true =>
        rw [if_pos rfl, ih]
        exact hpassed (by simp [Token.nesting, hopen]) (by simp [hclose])
      | false =>
        rw [if_neg Bool.false_ne_true, ih]
        exact hpassed (by simp [Token.nesting, hopen, hclose]) (by simp [hclose])

/-! ## 2. Runs up to a token -/

/-- Starting within so many parentheses, no token of the run that is outside of all is one to stop
at. -/
def Passable (stops : Token → Bool) (depth : Int) (ts : List Token) : Prop :=
  ∀ before t, before ++ [t] <+: ts → depth + nesting before = 0 → stops t = false

/-- The run is empty, or starts outside of parentheses with a token to stop at. -/
def Halts (stops : Token → Bool) (depth : Int) (ts : List Token) : Prop :=
  ∀ t ∈ ts.head?, depth = 0 ∧ stops t = true

theorem passable_cons {stops : Token → Bool} {depth : Int} {t : Token} {ts : List Token} :
    Passable stops depth (t :: ts)
      ↔ (depth = 0 → stops t = false) ∧ Passable stops (depth + t.nesting) ts := by
  constructor
  · intro h
    refine ⟨fun hdepth => h [] t (by simp) (by simpa [nesting] using hdepth), ?_⟩
    intro before u hbefore hdepth
    refine h (t :: before) u (List.cons_prefix_cons.mpr ⟨rfl, hbefore⟩) ?_
    rw [nesting_cons]
    omega
  · rintro ⟨hfirst, h⟩ before u hbefore hdepth
    cases before with
    | nil =>
      obtain ⟨rfl, -⟩ := List.cons_prefix_cons.mp hbefore
      exact hfirst (by simpa [nesting] using hdepth)
    | cons v before =>
      obtain ⟨rfl, hshorter⟩ := List.cons_prefix_cons.mp hbefore
      refine h before u hshorter ?_
      rw [nesting_cons] at hdepth
      omega

/-- The tokens up to one to stop at are those of the passable run before it. -/
theorem spanTop_eq_iff {stops : Token → Bool} {depth : Int} {read ts front rest : List Token} :
    spanTop stops depth read ts = (front, rest)
      ↔ ∃ more, front = read.reverse ++ more ∧ ts = more ++ rest
        ∧ Passable stops depth more ∧ Halts stops (depth + nesting more) rest := by
  induction ts generalizing depth read with
  | nil =>
    rw [spanTop]
    constructor
    · intro h
      obtain ⟨rfl, rfl⟩ := Prod.mk.inj h
      exact ⟨[], by simp, rfl, by simp [Passable], by simp [Halts]⟩
    · rintro ⟨more, rfl, hsplit, -, -⟩
      obtain ⟨rfl, rfl⟩ := List.append_eq_nil_iff.mp hsplit.symm
      simp
  | cons t ts ih =>
    rw [spanTop]
    by_cases hstop : depth = 0 ∧ stops t = true
    · rw [if_pos (by simpa using hstop)]
      constructor
      · intro h
        obtain ⟨rfl, rfl⟩ := Prod.mk.inj h
        exact ⟨[], by simp, rfl, by simp [Passable], by simpa [Halts, nesting] using hstop⟩
      · rintro ⟨more, rfl, hsplit, hpassable, -⟩
        cases more with
        | nil =>
          cases hsplit
          simp
        | cons u more =>
          cases hsplit
          rw [(passable_cons.mp hpassable).1 hstop.1] at hstop
          exact absurd hstop.2 Bool.false_ne_true
    · rw [if_neg (by simpa using hstop), ih]
      constructor
      · rintro ⟨more, rfl, rfl, hpassable, hhalts⟩
        refine ⟨t :: more, by simp, rfl, passable_cons.mpr ⟨by simpa using hstop, hpassable⟩, ?_⟩
        rwa [nesting_cons, ← Int.add_assoc]
      · rintro ⟨more, rfl, hsplit, hpassable, hhalts⟩
        cases more with
        | nil =>
          obtain rfl : rest = t :: ts := by simpa using hsplit.symm
          exact absurd (by simpa [Halts, nesting] using hhalts) hstop
        | cons u more =>
          cases hsplit
          rw [nesting_cons, ← Int.add_assoc] at hhalts
          exact ⟨more, by simp, rfl, (passable_cons.mp hpassable).2, hhalts⟩

end SchemaCatalog.Sql
