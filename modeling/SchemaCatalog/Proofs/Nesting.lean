import SchemaCatalog.Proofs.Parentheses

/-!
# Runs of tokens outside parentheses

A statement is cut in three places: at the end of a group in parentheses, at commas, and before a
word or mark to stop at. Each cut is a loop with its own count of parentheses, and the counts treat
a closing parenthesis too many in different ways: a group ends there, the others go below zero and
take nothing for outside any more. `cuts_are_exact` says of each what it finds.

For groups and stops this is read off `closeGroup_eq_some` and `spanTop_eq_iff`. For commas it rests
on `commaPartsFrom_append`: over a run without a comma outside parentheses the loop collects its
tokens and adds its nesting, whatever it has collected and wherever its count stands.
-/

namespace SchemaCatalog.Sql

open Reader

/-! ## 1. Groups -/

/-- Whether a run closes what was opened is computed from the left. -/
instance Closes.decide : (depth : Int) → (ts : List Token) → Decidable (Closes depth ts)
  | depth, [] => decidable_of_iff (depth = 0) closes_nil.symm
  | depth, t :: ts =>
    have := Closes.decide (depth + t.nesting) ts
    decidable_of_iff (0 ≤ depth ∧ Closes (depth + t.nesting) ts) closes_cons.symm

/-- No part of the run is the inside of a group that is closed after it. -/
def NeverCloses (ts : List Token) : Prop :=
  ∀ inside close rest, ts = inside ++ close :: rest → Closes 0 inside → close.isClose = false

theorem closeGroup_eq_none {ts : List Token} (h : NeverCloses ts) : closeGroup 0 [] ts = none := by
  cases hgroup : closeGroup 0 [] ts with
  | none => rfl
  | some found =>
    obtain ⟨more, close, hsplit, -, hcloses, hclose⟩ := closeGroup_eq_some.mp hgroup
    rw [h more close found.2 hsplit hcloses] at hclose
    cases hclose

theorem expectSymbol_of_reads {opening : Token} {symbol : String} (h : opening.reads symbol = true)
    (sql : List Char) (statement ts : List Token) :
    expectSymbol symbol ⟨sql, statement, opening :: ts⟩ = .ok ((), ⟨sql, statement, ts⟩) := by
  simp [expectSymbol, Bind.bind, acceptSymbol, h, Pure.pure]

theorem parenthesized_of_closes {opening close : Token} {inside : List Token}
    (hopening : opening.reads "(" = true) (hinside : Closes 0 inside)
    (hclose : close.isClose = true) (sql : List Char) (statement rest : List Token) :
    parenthesized ⟨sql, statement, opening :: (inside ++ close :: rest)⟩
      = .ok (inside, ⟨sql, statement, rest⟩) := by
  have hgroup : closeGroup 0 [] (inside ++ close :: rest) = some (inside, rest) :=
    closeGroup_eq_some.mpr ⟨inside, close, rfl, rfl, hinside, hclose⟩
  simp only [parenthesized, Bind.bind, expectSymbol_of_reads hopening, hgroup]

theorem parenthesized_of_neverCloses {opening : Token} {ts : List Token}
    (hopening : opening.reads "(" = true) (hts : NeverCloses ts) (sql : List Char)
    (statement : List Token) :
    parenthesized ⟨sql, statement, opening :: ts⟩
      = .error (.misplaced (.unexpected "end of statement") none (sourceText sql statement)) := by
  simp only [parenthesized, Bind.bind, expectSymbol_of_reads hopening, closeGroup_eq_none hts]
  rfl

/-! ## 2. Commas -/

theorem Token.nesting_of_isComma {t : Token} (h : t.isComma = true) : t.nesting = 0 := by
  simp only [Token.isComma, Token.isSymbol, Bool.and_eq_true, beq_iff_eq] at h
  simp [Token.nesting, Token.isOpen, Token.isClose, Token.isSymbol, h.2]

/-- The tokens without the commas outside parentheses, where `depth` is that before the first
token. -/
def withoutCommasFrom (depth : Int) (tokens : List Token) : List Token :=
  ((tokens.zip (tokens.scanl (fun d t => d + t.nesting) depth)).filter fun met =>
    !(met.1.isComma && met.2 == 0)).map (·.1)

theorem withoutCommasFrom_cons (depth : Int) (t : Token) (ts : List Token) :
    withoutCommasFrom depth (t :: ts)
      = if t.isComma && depth == 0 then withoutCommasFrom (depth + t.nesting) ts
        else t :: withoutCommasFrom (depth + t.nesting) ts := by
  rw [withoutCommasFrom, List.scanl_cons, List.zip_cons_cons, List.filter_cons]
  cases t.isComma && depth == 0 <;> rfl

theorem nil_not_mem_commaPartsFrom (depth : Int) (current tokens : List Token) :
    [] ∉ commaPartsFrom depth current tokens := by
  induction tokens generalizing depth current with
  | nil =>
    rw [commaPartsFrom]
    cases current <;> simp
  | cons t ts ih =>
    rw [commaPartsFrom]
    split
    · split
      · exact ih 0 []
      · rename_i hcurrent
        rw [List.mem_cons, not_or]
        exact ⟨fun hnil => hcurrent (by simpa using hnil.symm), ih 0 []⟩
    · exact ih _ _

/-- The tokens collected for a part come first, and then all but the commas outside parentheses. -/
theorem flatten_commaPartsFrom (depth : Int) (current tokens : List Token) :
    (commaPartsFrom depth current tokens).flatten
      = current.reverse ++ withoutCommasFrom depth tokens := by
  induction tokens generalizing depth current with
  | nil =>
    rw [commaPartsFrom]
    cases current <;> simp [withoutCommasFrom]
  | cons t ts ih =>
    rw [commaPartsFrom, withoutCommasFrom_cons]
    split
    · rename_i hcut
      obtain ⟨hcomma, hdepth⟩ := Bool.and_eq_true_iff.mp hcut
      rw [Token.nesting_of_isComma hcomma, beq_iff_eq.mp hdepth, Int.add_zero]
      split
      · rename_i hnone
        rw [ih, List.isEmpty_iff.mp hnone]
      · rw [List.flatten_cons, ih, List.reverse_nil, List.nil_append]
    · rw [ih, List.reverse_cons, List.append_assoc]
      rfl

/-- A run without a comma outside parentheses is collected as a whole. -/
theorem commaPartsFrom_append {depth : Int} {run : List Token}
    (h : Passable Token.isComma depth run) (current after : List Token) :
    commaPartsFrom depth current (run ++ after)
      = commaPartsFrom (depth + nesting run) (run.reverse ++ current) after := by
  induction run generalizing depth current with
  | nil => simp [nesting]
  | cons t ts ih =>
    obtain ⟨hfirst, hrest⟩ := passable_cons.mp h
    have hpassed : ¬ (t.isComma && depth == 0) = true := by
      rw [Bool.and_eq_true_iff, beq_iff_eq]
      rintro ⟨hcomma, hdepth⟩
      rw [hfirst hdepth] at hcomma
      cases hcomma
    rw [List.cons_append, commaPartsFrom, if_neg hpassed, ih hrest, nesting_cons, Int.add_assoc,
      List.reverse_cons, List.append_assoc]
    rfl

/-- A run that is one part: it has tokens, its parentheses are balanced, and no comma is outside of
them. -/
structure IsPart (run : List Token) : Prop where
  nonempty : run ≠ []
  balanced : Closes 0 run
  noComma : Passable Token.isComma 0 run

/-- Whether a token to stop at is outside parentheses is computed from the left. -/
instance Passable.decide (stops : Token → Bool) :
    (depth : Int) → (ts : List Token) → Decidable (Passable stops depth ts)
  | _, [] => isTrue (by simp [Passable])
  | depth, t :: ts =>
    have := Passable.decide stops (depth + t.nesting) ts
    decidable_of_iff ((depth = 0 → stops t = false) ∧ Passable stops (depth + t.nesting) ts)
      passable_cons.symm

instance (run : List Token) : Decidable (IsPart run) :=
  decidable_of_iff (run ≠ [] ∧ Closes 0 run ∧ Passable Token.isComma 0 run)
    ⟨fun h => ⟨h.1, h.2.1, h.2.2⟩, fun h => ⟨h.nonempty, h.balanced, h.noComma⟩⟩

/-- The tokens are the runs with a comma between each two of them. -/
inductive CommaSeparated : List (List Token) → List Token → Prop
  | none : CommaSeparated [] []
  | one {run : List Token} : CommaSeparated [run] run
  | more {run next : List Token} {runs : List (List Token)} {comma : Token} {ts : List Token} :
      comma.isComma = true → CommaSeparated (next :: runs) ts →
        CommaSeparated (run :: next :: runs) (run ++ comma :: ts)

/-- Balanced runs end the count where they began it. -/
theorem IsPart.commaPartsFrom {run : List Token} (h : IsPart run) (after : List Token) :
    commaPartsFrom 0 [] (run ++ after) = Sql.commaPartsFrom 0 run.reverse after := by
  rw [commaPartsFrom_append h.noComma, h.balanced.all, List.append_nil]

theorem splitCommas_of_commaSeparated {runs : List (List Token)} {ts : List Token}
    (h : CommaSeparated runs ts) (hruns : ∀ run ∈ runs, IsPart run) : splitCommas ts = runs := by
  have hlast {run : List Token} (hrun : run ≠ []) : run.reverse.isEmpty = false := by
    simpa using hrun
  induction h with
  | none => rfl
  | @one run =>
    have hrun : IsPart run := hruns run List.mem_cons_self
    rw [splitCommas, ← List.append_nil run, hrun.commaPartsFrom, commaPartsFrom,
      hlast hrun.nonempty]
    simp
  | @more run next runs comma ts hcomma _ ih =>
    obtain ⟨hrun, hothers⟩ := List.forall_mem_cons.mp hruns
    have hcut : (comma.isComma && (0 : Int) == 0) = true := by
      rw [hcomma]
      rfl
    rw [splitCommas, hrun.commaPartsFrom, commaPartsFrom, if_pos hcut, hlast hrun.nonempty,
      if_neg Bool.false_ne_true, List.reverse_reverse]
    exact congrArg (run :: ·) (ih hothers)

/-! ## 3. Stops -/

/-- The token is one of the words, bare and in any letter case, or reads as one of the marks. -/
def stopsAt (words symbols : List String) (t : Token) : Bool :=
  (t.isWord && words.contains (Text.upper t.text)) || symbols.any t.reads

theorem untilWord_eq (words : List String) : untilWord words = untilWordOrSymbol words [] := by
  simp [untilWord, untilWordOrSymbol]

/-- No token to stop at outside parentheses is passed, and such a token or nothing follows. -/
theorem exists_untilWordOrSymbol_eq_ok (words symbols : List String) (c : Cursor) :
    ∃ front rest, untilWordOrSymbol words symbols c = .ok (front, { c with rest })
      ∧ c.rest = front ++ rest ∧ Passable (stopsAt words symbols) 0 front
      ∧ Halts (stopsAt words symbols) (nesting front) rest := by
  obtain ⟨more, hfront, hsplit, hpassable, hhalts⟩ :=
    spanTop_eq_iff.mp (rfl : spanTop (stopsAt words symbols) 0 [] c.rest = (_, _))
  refine ⟨more, _, ?_, hsplit, hpassable, by rwa [Int.zero_add] at hhalts⟩
  rw [← show _ = more from hfront]
  rfl

/-! ## 4. All cuts -/

/-- A group in parentheses is the balanced run up to the parenthesis that closes it, and a group
that is never closed is a syntax error. Balanced runs without a comma outside parentheses are the
parts between commas, and for any tokens the parts are not empty and are all but the commas outside
parentheses. The tokens up to a word or mark are those before the first such token outside
parentheses, or all. -/
theorem cuts_are_exact :
    (∀ (sql : List Char) (statement inside rest : List Token) (opening close : Token),
      opening.reads "(" = true → Closes 0 inside → close.isClose = true →
        parenthesized ⟨sql, statement, opening :: (inside ++ close :: rest)⟩
          = .ok (inside, ⟨sql, statement, rest⟩)) ∧
    (∀ (sql : List Char) (statement ts : List Token) (opening : Token),
      opening.reads "(" = true → NeverCloses ts →
        parenthesized ⟨sql, statement, opening :: ts⟩ = .error
          (.misplaced (.unexpected "end of statement") none (sourceText sql statement))) ∧
    (∀ (runs : List (List Token)) (ts : List Token), CommaSeparated runs ts →
      (∀ run ∈ runs, IsPart run) → splitCommas ts = runs) ∧
    (∀ ts, [] ∉ splitCommas ts ∧ (splitCommas ts).flatten = withoutCommasFrom 0 ts) ∧
    (∀ (words symbols : List String) (c : Cursor),
      untilWord words c = untilWordOrSymbol words [] c ∧
      ∃ front rest, untilWordOrSymbol words symbols c = .ok (front, { c with rest })
        ∧ c.rest = front ++ rest ∧ Passable (stopsAt words symbols) 0 front
        ∧ Halts (stopsAt words symbols) (nesting front) rest) := by
  refine ⟨?_, ?_, ?_, ?_, ?_⟩
  · intro sql statement inside rest opening close hopening hinside hclose
    exact parenthesized_of_closes hopening hinside hclose sql statement rest
  · intro sql statement ts opening hopening hts
    exact parenthesized_of_neverCloses hopening hts sql statement
  · intro runs ts hts hruns
    exact splitCommas_of_commaSeparated hts hruns
  · intro ts
    exact ⟨nil_not_mem_commaPartsFrom 0 [] ts, flatten_commaPartsFrom 0 [] ts⟩
  · intro words symbols c
    exact ⟨congrFun (untilWord_eq words) c, exists_untilWordOrSymbol_eq_ok words symbols c⟩

/-- A group whose second part is a group with a comma of its own, and one that is never closed. -/
theorem cuts_are_exact_of_nested_group :
    let sql := "(a, (b, a)) TO b".toList
    let opening (place : Nat) : Token := ⟨.symbol, "(", place, place⟩
    let close (place : Nat) : Token := ⟨.symbol, ")", place, place⟩
    let comma (place : Nat) : Token := ⟨.symbol, ",", place, place⟩
    let word (text : String) (place : Nat) : Token := ⟨.word, text, place, place + text.length - 1⟩
    let second := [opening 4, word "b" 5, comma 6, word "a" 8, close 9]
    let inside := word "a" 1 :: comma 2 :: second
    let after := [word "TO" 12, word "b" 15]
    let statement := opening 0 :: (inside ++ close 10 :: after)
    parenthesized ⟨sql, statement, statement⟩ = .ok (inside, ⟨sql, statement, after⟩)
      ∧ splitCommas inside = [[word "a" 1], second]
      ∧ parenthesized ⟨sql, [opening 0, word "a" 1], [opening 0, word "a" 1]⟩
        = .error (.misplaced (.unexpected "end of statement") none "(a") := by
  intro sql opening close comma word second inside after statement
  obtain ⟨hgroup, hunclosed, hparts, -, -⟩ := cuts_are_exact
  have hnever : NeverCloses [word "a" 1] := by
    intro front last rest hsplit _
    cases front with
    | nil =>
      obtain ⟨rfl, -⟩ := List.cons.inj hsplit
      rfl
    | cons t front => simp at hsplit
  refine ⟨?_, ?_, ?_⟩
  · exact hgroup sql statement inside after (opening 0) (close 10)
      (by decide) (by decide) (by decide)
  · exact hparts [[word "a" 1], second] inside (.more (by decide) .one) (by decide)
  · exact hunclosed sql [opening 0, word "a" 1] [word "a" 1] (opening 0) (by decide) hnever

end SchemaCatalog.Sql
